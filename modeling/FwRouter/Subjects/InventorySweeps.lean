import FwRouter.Subjects.InventorySync

/-!
# What a synchronisation deactivates

A statement either writes a subject, or leaves its policy and its source as they are and at most
deactivates it.  No sweep takes what has been written in its call; so a subject ends as its last record
says, or, without a record, active unless a sweep hits it.  Every record of an inactive subject comes from
a source that has been read, but not every sweep does.
-/

namespace FwRouter.SubjectInventory

open Py

/-! ## One statement -/

section Statements

variable {now : ℤ} {w : World} {id : Text} {row : SubjectRow} {s : Statement} {r : Record}

/-- The columns of the policy are the same. -/
structure SamePolicy (row row' : SubjectRow) : Prop where
  desiredMode : row'.desiredMode = row.desiredMode
  appliedMode : row'.appliedMode = row.appliedMode
  applyState : row'.applyState = row.applyState

lemma SamePolicy.refl : SamePolicy row row := ⟨rfl, rfl, rfl⟩

lemma SamePolicy.trans {row' row'' : SubjectRow} (h : SamePolicy row row') (h' : SamePolicy row' row'') :
    SamePolicy row row'' :=
  ⟨h'.desiredMode.trans h.desiredMode, h'.appliedMode.trans h.appliedMode, h'.applyState.trans h.applyState⟩

/-- And so are the columns that say where the subject belongs. -/
structure Kept (row row' : SubjectRow) : Prop where
  policy : SamePolicy row row'
  subjectType : row'.subjectType = row.subjectType
  metadata : row'.metadata = row.metadata

lemma Kept.refl : Kept row row := ⟨SamePolicy.refl, rfl, rfl⟩

lemma Kept.trans {row' row'' : SubjectRow} (h : Kept row row') (h' : Kept row' row'') : Kept row row'' :=
  ⟨h.policy.trans h'.policy, h'.subjectType.trans h.subjectType, h'.metadata.trans h.metadata⟩

/-- The record that a statement writes for a subject. -/
def Statement.record (id : Text) : Statement → Option Record
  | .upsert r => if r.subjectId = id then some r else none
  | _ => none

/-- The statement is a sweep that matches a subject. -/
def Statement.Hits (id : Text) (row : SubjectRow) : Statement → Prop
  | .markMissing kind seen connectionId => sweeps kind seen connectionId id row = true
  | _ => False

lemma sweeps_congr {row' : SubjectRow} {kind : Kind} {seen : List Text} {connectionId : Text} (h : Kept row row')
    (hdeleted : row'.isDeleted = row.isDeleted) :
    sweeps kind seen connectionId id row' = sweeps kind seen connectionId id row := by
  rw [sweeps, sweeps, h.subjectType, h.metadata, hdeleted]

lemma Statement.hits_congr {row' : SubjectRow} (h : Kept row row') (hdeleted : row'.isDeleted = row.isDeleted) :
    s.Hits id row' ↔ s.Hits id row := by
  cases s with
  | markMissing kind seen connectionId => rw [Statement.Hits, Statement.Hits, sweeps_congr h hdeleted]
  | upsert r => exact Iff.rfl
  | tombstoneLegacyDocker legacyIds => exact Iff.rfl
  | tombstoneLegacyHost => exact Iff.rfl
  | tombstoneMissing kind graceSeconds => exact Iff.rfl

lemma updateWhere_subjects {p : Text → SubjectRow → Bool} {f : SubjectRow → SubjectRow}
    (h : w.subjects id = some row) :
    (updateWhere p f w).subjects id = some (if p id row then f row else row) := by
  show (w.subjects id).map _ = _
  rw [h]
  rfl

/-- What a statement does to the row of a subject that it does not write. -/
structure Swept (s : Statement) (id : Text) (row row' : SubjectRow) : Prop where
  kept : Kept row row'
  active : row'.isActive = true ↔ row.isActive = true ∧ ¬s.Hits id row
  deleted : row'.isActive = true → row'.isDeleted = row.isDeleted

/-- A tombstone is set on inactive subjects only. -/
lemma swept_tombstone {p : Text → SubjectRow → Bool} {f : SubjectRow → SubjectRow}
    (hrow : w.subjects id = some row) (hhits : ¬s.Hits id row) (hp : p id row = true → row.isActive = false)
    (hf : Kept row (f row)) (hactive : (f row).isActive = true → row.isActive = true) :
    ∃ row', (updateWhere p f w).subjects id = some row' ∧ Swept s id row row' := by
  refine ⟨_, updateWhere_subjects hrow, ?_⟩
  by_cases h : p id row = true
  · have hinactive : row.isActive ≠ true := by
      rw [hp h]
      exact Bool.false_ne_true
    have hstays : (f row).isActive ≠ true := fun h' => hinactive (hactive h')
    rw [if_pos h]
    exact ⟨hf, ⟨fun h' => absurd h' hstays, fun h' => absurd h'.1 hinactive⟩, fun h' => absurd h' hstays⟩
  · rw [if_neg h]
    exact ⟨Kept.refl, ⟨fun h' => ⟨h', hhits⟩, And.left⟩, fun _ => rfl⟩

/-- A statement that does not write a subject sweeps it, or leaves it active. -/
lemma run_swept (hrow : w.subjects id = some row) (hrecord : s.record id = none) :
    ∃ row', (s.run now w).subjects id = some row' ∧ Swept s id row row' := by
  cases s with
  | upsert r =>
      have hne : id ≠ r.subjectId := by
        rintro rfl
        simp [Statement.record] at hrecord
      refine ⟨row, ?_, Kept.refl, by simp [Statement.Hits], fun _ => rfl⟩
      show Function.update w.subjects r.subjectId _ id = some row
      rw [Function.update_of_ne hne]
      exact hrow
  | markMissing kind seen connectionId =>
      refine ⟨_, updateWhere_subjects hrow, ?_⟩
      by_cases h : sweeps kind seen connectionId id row = true
      · rw [if_pos h]
        exact ⟨⟨⟨rfl, rfl, rfl⟩, rfl, rfl⟩, ⟨nofun, fun h' => absurd h h'.2⟩, nofun⟩
      · rw [if_neg h]
        exact ⟨Kept.refl, ⟨fun h' => ⟨h', h⟩, And.left⟩, fun _ => rfl⟩
  | tombstoneLegacyDocker legacyIds =>
      show ∃ row', (updateWhere _ _ w).subjects id = some row' ∧ _
      refine swept_tombstone hrow (fun h => h) ?_ ⟨⟨rfl, rfl, rfl⟩, rfl, rfl⟩ fun h => absurd h Bool.false_ne_true
      intro h
      have hinactive := (Bool.and_eq_true_iff.mp (Bool.and_eq_true_iff.mp h).1).2
      rwa [Bool.not_eq_true'] at hinactive
  | tombstoneLegacyHost =>
      show ∃ row', (updateWhere _ _ w).subjects id = some row' ∧ _
      refine swept_tombstone hrow (fun h => h) ?_ ⟨⟨rfl, rfl, rfl⟩, rfl, rfl⟩ fun h => absurd h Bool.false_ne_true
      intro h
      have hinactive := (Bool.and_eq_true_iff.mp h).2
      rwa [Bool.not_eq_true'] at hinactive
  | tombstoneMissing kind graceSeconds =>
      show ∃ row', (updateWhere _ _ w).subjects id = some row' ∧ _
      refine swept_tombstone hrow (fun h => h) ?_ ⟨⟨rfl, rfl, rfl⟩, rfl, rfl⟩ fun h => h
      intro h
      have hguards := (Bool.and_eq_true_iff.mp (Bool.and_eq_true_iff.mp (Bool.and_eq_true_iff.mp h).1).1).1
      have hinactive := (Bool.and_eq_true_iff.mp hguards).2
      rwa [Bool.not_eq_true'] at hinactive

/-- What a record leaves. -/
structure Written (r : Record) (row : SubjectRow) : Prop where
  subjectType : row.subjectType = r.kind.name
  metadata : row.metadata = some r.metadataJson
  active : row.isActive = r.isActive

/-- A record leaves the policy of an existing subject. -/
lemma run_upsert (hrow : w.subjects r.subjectId = some row) :
    ∃ row', ((Statement.upsert r).run now w).subjects r.subjectId = some row' ∧ Written r row' ∧
      SamePolicy row row' := by
  refine ⟨r.update now row, ?_, ⟨rfl, rfl, rfl⟩, rfl, rfl, rfl⟩
  show Function.update w.subjects r.subjectId _ r.subjectId = _
  rw [Function.update_self, hrow]
  rfl

end Statements

/-! ## A list of statements -/

section Lists

variable {now : ℤ} {w : World} {id : Text} {row : SubjectRow} {stmts : List Statement}

/-- The last record that is written for a subject. -/
def lastRecord (id : Text) : List Statement → Option Record
  | [] => none
  | s :: stmts => (lastRecord id stmts).or (s.record id)

lemma lastRecord_cons_eq_none {s : Statement} :
    lastRecord id (s :: stmts) = none ↔ lastRecord id stmts = none ∧ s.record id = none := by
  rw [lastRecord, Option.or_eq_none_iff]

lemma exists_of_lastRecord {r : Record} (h : lastRecord id stmts = some r) :
    r.subjectId = id ∧ ∃ before after, stmts = before ++ .upsert r :: after ∧ lastRecord id after = none := by
  induction stmts with
  | nil => cases h
  | cons s stmts ih =>
      rw [lastRecord] at h
      cases hrest : lastRecord id stmts with
      | some r' =>
          rw [hrest] at h
          obtain rfl := Option.some.inj h
          obtain ⟨hid, before, after, rfl, hlast⟩ := ih hrest
          exact ⟨hid, s :: before, after, rfl, hlast⟩
      | none =>
          rw [hrest, Option.none_or] at h
          cases s with
          | upsert r' =>
              rw [Statement.record] at h
              split_ifs at h with hid
              obtain rfl := Option.some.inj h
              exact ⟨hid, [], stmts, rfl, hrest⟩
          | markMissing kind seen connectionId => cases h
          | tombstoneLegacyDocker legacyIds => cases h
          | tombstoneLegacyHost => cases h
          | tombstoneMissing kind graceSeconds => cases h

/-- An inactive subject that is not written stays inactive. -/
lemma foldl_inactive (hrow : w.subjects id = some row) (hactive : row.isActive = false)
    (hlast : lastRecord id stmts = none) : ∃ row', (stmts.foldl (Statement.run now) w).subjects id = some row' ∧
      Kept row row' ∧ row'.isActive = false := by
  induction stmts generalizing w row with
  | nil => exact ⟨row, hrow, Kept.refl, hactive⟩
  | cons s stmts ih =>
      obtain ⟨hrest, hs⟩ := lastRecord_cons_eq_none.mp hlast
      obtain ⟨row₁, hrow₁, hswept⟩ := @run_swept now w id row s hrow hs
      have hactive₁ : row₁.isActive = false := by
        rw [← Bool.not_eq_true, hswept.active, hactive]
        exact fun h => Bool.false_ne_true h.1
      obtain ⟨row', hrow', hkept, hinactive⟩ := ih hrow₁ hactive₁ hrest
      exact ⟨row', hrow', hswept.kept.trans hkept, hinactive⟩

/-- An active subject that is not written stays active unless a sweep hits it. -/
lemma foldl_active (hrow : w.subjects id = some row) (hactive : row.isActive = true)
    (hlast : lastRecord id stmts = none) : ∃ row', (stmts.foldl (Statement.run now) w).subjects id = some row' ∧
      Kept row row' ∧ (row'.isActive = true ↔ ∀ s ∈ stmts, ¬s.Hits id row) := by
  induction stmts generalizing w row with
  | nil => exact ⟨row, hrow, Kept.refl, by simp [hactive]⟩
  | cons s stmts ih =>
      obtain ⟨hrest, hs⟩ := lastRecord_cons_eq_none.mp hlast
      obtain ⟨row₁, hrow₁, hswept⟩ := @run_swept now w id row s hrow hs
      rw [List.foldl_cons]
      by_cases hhits : s.Hits id row
      · have hactive₁ : row₁.isActive = false := by
          rw [← Bool.not_eq_true, hswept.active]
          exact fun h => h.2 hhits
        obtain ⟨row', hrow', hkept, hinactive⟩ := @foldl_inactive now _ id row₁ stmts hrow₁ hactive₁ hrest
        refine ⟨row', hrow', hswept.kept.trans hkept, ?_⟩
        rw [hinactive]
        exact ⟨fun h => absurd h Bool.false_ne_true, fun h => absurd hhits (h s List.mem_cons_self)⟩
      · have hactive₁ : row₁.isActive = true := hswept.active.mpr ⟨hactive, hhits⟩
        obtain ⟨row', hrow', hkept, hiff⟩ := ih hrow₁ hactive₁ hrest
        refine ⟨row', hrow', hswept.kept.trans hkept, ?_⟩
        have hsame : ∀ t : Statement, t.Hits id row₁ ↔ t.Hits id row := fun t =>
          Statement.hits_congr hswept.kept (hswept.deleted hactive₁)
        simp only [hiff, hsame, List.forall_mem_cons, hhits, not_false_eq_true, true_and]

lemma foldl_policy (hrow : w.subjects id = some row) :
    ∃ row', (stmts.foldl (Statement.run now) w).subjects id = some row' ∧ SamePolicy row row' := by
  induction stmts generalizing w row with
  | nil => exact ⟨row, hrow, SamePolicy.refl⟩
  | cons s stmts ih =>
      have hfirst : ∃ row', (s.run now w).subjects id = some row' ∧ SamePolicy row row' := by
        cases hrecord : s.record id with
        | none =>
            obtain ⟨row', hrow', hswept⟩ := @run_swept now w id row s hrow hrecord
            exact ⟨row', hrow', hswept.kept.policy⟩
        | some r =>
            cases s with
            | upsert r' =>
                rw [Statement.record] at hrecord
                split_ifs at hrecord with hid
                subst hid
                obtain ⟨row', hrow', -, hpolicy⟩ := @run_upsert now w row r' hrow
                exact ⟨row', hrow', hpolicy⟩
            | markMissing kind seen connectionId => cases hrecord
            | tombstoneLegacyDocker legacyIds => cases hrecord
            | tombstoneLegacyHost => cases hrecord
            | tombstoneMissing kind graceSeconds => cases hrecord
      obtain ⟨row₁, hrow₁, hpolicy₁⟩ := hfirst
      obtain ⟨row', hrow', hpolicy⟩ := ih hrow₁
      exact ⟨row', hrow', hpolicy₁.trans hpolicy⟩

lemma foldl_overrides : (stmts.foldl (Statement.run now) w).userOverrides = w.userOverrides ∧
    (stmts.foldl (Statement.run now) w).serverOverrides = w.serverOverrides := by
  induction stmts generalizing w with
  | nil => exact ⟨rfl, rfl⟩
  | cons s stmts ih =>
      obtain ⟨huser, hserver⟩ := @ih (s.run now w)
      rw [List.foldl_cons, huser, hserver]
      cases s with
      | upsert r => exact ⟨rfl, rfl⟩
      | markMissing kind seen connectionId => exact ⟨rfl, rfl⟩
      | tombstoneLegacyDocker legacyIds => exact ⟨rfl, rfl⟩
      | tombstoneLegacyHost => exact ⟨rfl, rfl⟩
      | tombstoneMissing kind graceSeconds => exact ⟨rfl, rfl⟩

/-- A sweep spares what has been written before it. -/
def Spares (a b : Statement) : Prop :=
  ∀ r row, a = .upsert r → Written r row → ¬b.Hits r.subjectId row

/-- A subject that is written is as its last record says. -/
lemma foldl_written {r : Record} (hspares : stmts.Pairwise Spares) (hrow : w.subjects id = some row)
    (hlast : lastRecord id stmts = some r) :
    ∃ row', (stmts.foldl (Statement.run now) w).subjects id = some row' ∧ Written r row' := by
  obtain ⟨hid, before, after, rfl, hafter⟩ := exists_of_lastRecord hlast
  subst hid
  obtain ⟨row₁, hrow₁, -⟩ := @foldl_policy now w r.subjectId row before hrow
  obtain ⟨row₂, hrow₂, hwritten, -⟩ := @run_upsert now _ row₁ r hrow₁
  have hspared : ∀ s ∈ after, ¬s.Hits r.subjectId row₂ := by
    intro s hs
    exact List.rel_of_pairwise_cons (List.pairwise_append.mp hspares).2.1 hs r row₂ rfl hwritten
  rw [List.foldl_append, List.foldl_cons]
  cases hactive : r.isActive with
  | true =>
      obtain ⟨row', hrow', hkept, hiff⟩ :=
        @foldl_active now _ r.subjectId row₂ after hrow₂ (hwritten.active.trans hactive) hafter
      exact ⟨row', hrow', hkept.subjectType.trans hwritten.subjectType, hkept.metadata.trans hwritten.metadata,
        (hiff.mpr hspared).trans hactive.symm⟩
  | false =>
      obtain ⟨row', hrow', hkept, hinactive⟩ :=
        @foldl_inactive now _ r.subjectId row₂ after hrow₂ (hwritten.active.trans hactive) hafter
      exact ⟨row', hrow', hkept.subjectType.trans hwritten.subjectType, hkept.metadata.trans hwritten.metadata,
        hinactive.trans hactive.symm⟩

end Lists

/-! ## The plan of a call -/

section Plan

variable {U : Unicode} {reprText : Text → Text} {call : Call} {kind kind' : Kind} {r : Record}

lemma kind_of_name (h : kind.name ∈ kind'.subjectTypes) : kind = kind' := by
  revert h
  cases kind <;> cases kind' <;> decide

lemma kind_of_mem_structuredLan {now : Text} {items : List Value}
    (h : r ∈ structuredLanRecords U reprText now items) : r.kind = .lan ∧ r.isActive = true := by
  obtain ⟨item, -, hr⟩ := List.mem_filterMap.mp h
  dsimp only at hr
  split_ifs at hr
  obtain rfl := Option.some.inj hr
  exact ⟨rfl, rfl⟩

lemma kind_of_mem_discoverLan {now : Text} {leases : LeaseFile} (h : r ∈ discoverLanRecords U now leases) :
    r.kind = .lan ∧ r.isActive = true := by
  cases leases with
  | missing => cases h
  | unreadable => cases h
  | content text =>
      obtain ⟨line, -, hr⟩ := List.mem_filterMap.mp h
      rw [leaseRecord] at hr
      split at hr
      · dsimp only at hr
        split_ifs at hr
        all_goals
          obtain rfl := Option.some.inj hr
          exact ⟨rfl, rfl⟩
      · cases hr

lemma kind_of_mem_structuredHost {now : Text} {items : List Value}
    (h : r ∈ structuredHostRecords U reprText now items) : r.kind = .host ∧ items ≠ [] := by
  obtain ⟨item, hitem, hr⟩ := List.mem_filterMap.mp h
  dsimp only at hr
  split_ifs at hr
  all_goals
    obtain rfl := Option.some.inj hr
    refine ⟨rfl, ?_⟩
    rintro rfl
    cases hitem

/-- A record of a peer names its connection. -/
lemma kind_of_mem_externalIngress {now provider connectionId : Text} {items : List Value}
    (h : r ∈ externalIngressRecords U reprText now provider items connectionId) :
    r.kind = .externalNetworkClient ∧ ∃ item : Dict, .dict item ∈ items ∧
      strip (((item.get "connection_id").or (.str connectionId)).textOr reprText) ≠ [] ∧
      r.metadata.get "connection_id" =
        .str (strip (((item.get "connection_id").or (.str connectionId)).textOr reprText)) := by
  obtain ⟨item, hitem, hr⟩ := List.mem_filterMap.mp h
  obtain ⟨value, hvalue, hdict⟩ := List.mem_filterMap.mp hitem
  cases value with
  | dict fields =>
      obtain rfl := Option.some.inj hdict
      dsimp only at hr
      split_ifs at hr with hconnection hstable
      all_goals
        obtain rfl := Option.some.inj hr
        exact ⟨rfl, _, hvalue, hconnection, rfl⟩
  | none => cases hdict
  | bool b => cases hdict
  | int n => cases hdict
  | float repr => cases hdict
  | str text => cases hdict
  | list values => cases hdict

lemma kind_of_mem_records (h : r ∈ call.records U reprText kind) : r.kind = kind := by
  cases kind with
  | lan =>
      rcases List.mem_append.mp h with h | h
      · exact (kind_of_mem_structuredLan h).1
      · exact (kind_of_mem_discoverLan h).1
  | host =>
      rcases List.mem_append.mp h with h | h
      · exact (kind_of_mem_structuredHost h).1
      · exact (kind_of_mem_structuredHost h).1
  | docker =>
      rw [Call.records] at h
      cases hlines : call.dockerLines with
      | none =>
          rw [hlines] at h
          cases h
      | some lines =>
          rw [hlines] at h
          obtain ⟨item, -, rfl⟩ := List.mem_map.mp h
          rfl
  | explicitExternalClient =>
      obtain ⟨client, -, rfl⟩ := List.mem_map.mp h
      rfl
  | externalNetworkClient =>
      rcases List.mem_append.mp h with h | h
      · exact (kind_of_mem_externalIngress h).1
      · obtain ⟨connection, -, h⟩ := List.mem_flatMap.mp h
        exact (kind_of_mem_externalIngress h).1

/-- A sweep of a type spares the records of every other. -/
lemma spares_of_ne {seen : List Text} {connectionId : Text} (h : r.kind ≠ kind) :
    Spares (.upsert r) (.markMissing kind seen connectionId) := by
  rintro r' row hr hwritten hhits
  obtain rfl := Statement.upsert.inj hr
  rw [Statement.Hits, sweeps, hwritten.subjectType] at hhits
  simp only [Bool.and_eq_true, decide_eq_true_eq] at hhits
  exact h (kind_of_name hhits.1.1.1.1)

/-- The connection of a row that a record has written. -/
lemma connection_of_written {row : SubjectRow} (h : Written r row) :
    (row.metadata.getD []).get "connection_id" = r.metadata.get "connection_id" := by
  rw [h.metadata, Option.getD_some, Record.metadataJson]
  split_ifs
  · rfl
  · exact Dict.get_set_of_ne (by decide)

/-- A sweep of a whole type spares the records of the type. -/
lemma spares_whole {rs : List Record} (h : r ∈ rs) :
    Spares (.upsert r) (.markMissing kind (rs.map Record.subjectId) []) := by
  rintro r' row hr - hhits
  obtain rfl := Statement.upsert.inj hr
  rw [Statement.Hits, sweeps] at hhits
  simp only [Bool.and_eq_true, decide_eq_true_eq] at hhits
  exact hhits.1.2 (List.mem_map_of_mem h)

/-- A sweep of a connection spares the records of the connection. -/
lemma spares_connection {connectionId : Text} (hconnection : connectionId ≠ [])
    (hstripped : strip connectionId = connectionId) (h : r ∈ call.records U reprText .externalNetworkClient) :
    Spares (.upsert r) (call.sweepConnection U reprText connectionId) := by
  rintro r' row hr hwritten hhits
  obtain rfl := Statement.upsert.inj hr
  rw [Call.sweepConnection, Statement.Hits, sweeps, connection_of_written hwritten] at hhits
  simp only [Bool.and_eq_true, Bool.or_eq_true, decide_eq_true_eq, hconnection, false_or] at hhits
  obtain ⟨⟨-, hseen⟩, hmatch⟩ := hhits
  refine hseen (List.mem_map_of_mem (List.mem_filter.mpr ⟨h, decide_eq_true ?_⟩))
  rw [Call.recordConnection]
  cases hvalue : r.metadata.get "connection_id" with
  | str text =>
      rw [hvalue] at hmatch
      obtain rfl := of_decide_eq_true hmatch
      rw [Value.textOr_str, hstripped]
  | none => simp [hvalue, Value.isText] at hmatch
  | bool b => simp [hvalue, Value.isText] at hmatch
  | int n => simp [hvalue, Value.isText] at hmatch
  | float repr => simp [hvalue, Value.isText] at hmatch
  | list values => simp [hvalue, Value.isText] at hmatch
  | dict fields => simp [hvalue, Value.isText] at hmatch

lemma refreshed_id {connection : Text × Payload} (h : connection ∈ call.refreshed U reprText) :
    connection.1 ≠ [] ∧ strip connection.1 = connection.1 := by
  obtain ⟨c, -, hc⟩ := List.mem_filterMap.mp h
  rw [Call.refreshConnection] at hc
  split_ifs at hc
  obtain ⟨payload, -, rfl⟩ := Option.map_eq_some_iff.mp hc
  exact ⟨c.connectionId_ne, strip_strip c.connectionId⟩

lemma mem_sweepsOf {s : Statement} (h : s ∈ call.sweepsOf U reprText kind) :
    (kind = .externalNetworkClient ∧ ∃ connection ∈ call.refreshed U reprText,
      s = call.sweepConnection U reprText connection.1) ∨
    ((kind = .externalNetworkClient → call.refreshed U reprText = []) ∧
      s = .markMissing kind ((call.records U reprText kind).map Record.subjectId) []) := by
  rw [Call.sweepsOf] at h
  split_ifs at h with hscoped
  · obtain ⟨connectionId, hid, rfl⟩ := List.mem_map.mp h
    obtain ⟨connection, hconnection, rfl⟩ := List.mem_map.mp (List.mem_eraseDups.mp hid)
    exact Or.inl ⟨hscoped.1, connection, hconnection, rfl⟩
  · refine Or.inr ⟨fun hkind => ?_, List.mem_singleton.mp h⟩
    by_contra hrefreshed
    exact hscoped ⟨hkind, hrefreshed⟩

/-- A tombstone writes no record and sweeps nothing. -/
lemma mem_tombstonesOf {s : Statement} (h : s ∈ call.tombstonesOf U reprText kind) :
    (∀ r, s ≠ .upsert r) ∧ ∀ id row, ¬s.Hits id row := by
  rw [Call.tombstonesOf, List.mem_append, List.mem_append] at h
  rcases h with (h | h) | h
  all_goals
    split_ifs at h
    · rw [List.mem_singleton.mp h]
      exact ⟨fun _ => nofun, fun _ _ h => h⟩
    · cases h

/-- The statements of a type: its records, its sweeps, its tombstones. -/
lemma mem_pass {s : Statement} : s ∈ call.pass U reprText kind ↔
    (∃ r ∈ call.records U reprText kind, s = .upsert r) ∨
    (call.refreshes U reprText kind = true ∧
      (s ∈ call.sweepsOf U reprText kind ∨ s ∈ call.tombstonesOf U reprText kind)) := by
  rw [Call.pass, List.mem_append, List.mem_map]
  refine or_congr ⟨fun ⟨r, hr, h⟩ => ⟨r, hr, h.symm⟩, fun ⟨r, hr, h⟩ => ⟨r, hr, h.symm⟩⟩ ?_
  split_ifs with hrefreshes
  · simp [hrefreshes]
  · simp [hrefreshes]

/-- The records of a pass are those of its type. -/
lemma mem_records_of_upsert (h : .upsert r ∈ call.pass U reprText kind) : r ∈ call.records U reprText kind := by
  rcases mem_pass.mp h with ⟨r', hr', heq⟩ | ⟨-, hs | hs⟩
  · obtain rfl := Statement.upsert.inj heq
    exact hr'
  · rcases mem_sweepsOf hs with ⟨-, connection, -, heq⟩ | ⟨-, heq⟩
    · cases heq
    · cases heq
  · exact absurd rfl ((mem_tombstonesOf hs).1 r)

/-- The sweep that a statement of a pass is, if it hits a subject. -/
lemma mem_sweeps_of_hits {s : Statement} {id : Text} {row : SubjectRow} (h : s ∈ call.pass U reprText kind)
    (hhits : s.Hits id row) : call.refreshes U reprText kind = true ∧ s ∈ call.sweepsOf U reprText kind := by
  rcases mem_pass.mp h with ⟨r', -, rfl⟩ | ⟨hrefreshes, hs | hs⟩
  · exact absurd hhits fun h => h
  · exact ⟨hrefreshes, hs⟩
  · exact absurd hhits ((mem_tombstonesOf hs).2 id row)

/-- A sweep of a type spares its own records, and those of every other. -/
lemma spares_of_mem {s : Statement} (hr : r ∈ call.records U reprText kind) (hs : s ∈ call.pass U reprText kind') :
    Spares (.upsert r) s := by
  intro r' row heq hwritten hhits
  obtain ⟨-, hsweep⟩ := mem_sweeps_of_hits hs hhits
  by_cases hkind : kind = kind'
  · subst hkind
    rcases mem_sweepsOf hsweep with ⟨rfl, connection, hconnection, rfl⟩ | ⟨-, rfl⟩
    · obtain ⟨hne, hstripped⟩ := refreshed_id hconnection
      exact spares_connection hne hstripped hr r' row heq hwritten hhits
    · exact spares_whole hr r' row heq hwritten hhits
  · have hne : r.kind ≠ kind' := by
      rw [kind_of_mem_records hr]
      exact hkind
    rcases mem_sweepsOf hsweep with ⟨rfl, connection, -, rfl⟩ | ⟨-, rfl⟩
    · exact spares_of_ne hne r' row heq hwritten hhits
    · exact spares_of_ne hne r' row heq hwritten hhits

lemma spares_pass {a b : Statement} (ha : a ∈ call.pass U reprText kind) (hb : b ∈ call.pass U reprText kind') :
    Spares a b := by
  rintro r row rfl hwritten
  exact spares_of_mem (mem_records_of_upsert ha) hb r row rfl hwritten

/-- A sweep of the plan spares what has been written before it. -/
lemma plan_spares : (call.plan U reprText).Pairwise Spares := by
  refine List.pairwise_of_forall_mem_list fun a ha b hb => ?_
  obtain ⟨kind, -, ha⟩ := List.mem_flatMap.mp ha
  obtain ⟨kind', -, hb⟩ := List.mem_flatMap.mp hb
  exact spares_pass ha hb

lemma statements_sublist : (call.statements U reprText).Sublist (call.plan U reprText) := by
  rw [Call.statements]
  cases call.failsAt with
  | none => exact List.Sublist.refl _
  | some n => exact List.take_sublist n _

lemma statements_spares : (call.statements U reprText).Pairwise Spares :=
  plan_spares.sublist statements_sublist

/-- A statement that is executed belongs to a type. -/
lemma exists_pass {s : Statement} (h : s ∈ call.statements U reprText) : ∃ kind, s ∈ call.pass U reprText kind := by
  obtain ⟨kind, -, hs⟩ := List.mem_flatMap.mp (statements_sublist.subset h)
  exact ⟨kind, hs⟩

end Plan

/-! ## What a source lists -/

/-- The sources of subjects. -/
inductive Source
  | leaseFile
  | host
  | docker
  | xray
  | external (connectionId : Text)
  deriving DecidableEq

/-- The type of a row. -/
def kindOf (subjectType : Text) : Option Kind :=
  [Kind.lan, .host, .docker, .explicitExternalClient, .externalNetworkClient].find? fun kind =>
    decide (subjectType ∈ kind.subjectTypes)

/-- The source of the subjects of a type, for those of a connection. -/
def Kind.source (connection : Value) : Kind → Option Source
  | .lan => some .leaseFile
  | .host => some .host
  | .docker => some .docker
  | .explicitExternalClient => some .xray
  | .externalNetworkClient => connection.asText.map Source.external

/-- The source that a subject belongs to. -/
def SubjectRow.source (row : SubjectRow) : Option Source :=
  (kindOf row.subjectType).bind (Kind.source ((row.metadata.getD []).get "connection_id"))

def Source.kind : Source → Kind
  | .leaseFile => .lan
  | .host => .host
  | .docker => .docker
  | .xray => .explicitExternalClient
  | .external _ => .externalNetworkClient

lemma Kind.kind_of_source {kind : Kind} {connection : Value} {source : Source}
    (h : kind.source connection = some source) : source.kind = kind := by
  cases kind with
  | externalNetworkClient =>
      obtain ⟨connectionId, -, rfl⟩ := Option.map_eq_some_iff.mp h
      rfl
  | lan =>
      obtain rfl := Option.some.inj h
      rfl
  | host =>
      obtain rfl := Option.some.inj h
      rfl
  | docker =>
      obtain rfl := Option.some.inj h
      rfl
  | explicitExternalClient =>
      obtain rfl := Option.some.inj h
      rfl

/-- The source of a record. -/
def Record.source (r : Record) : Option Source := r.kind.source (r.metadata.get "connection_id")

/-- The output is a document of services. -/
def Payload.listsServices : Payload → Bool
  | .blank => true
  | .malformed => false
  | .json (.list _) => true
  | .json (.dict _) => true
  | .json _ => false

/-- The output is a document with peers. -/
def Payload.listsPeers : Payload → Bool
  | .blank => true
  | .malformed => false
  | .json value => value.asDict.isSome

section Sources

variable (U : Unicode) (reprText : Text → Text) (call : Call)

/-- A line is malformed unless it is an object. -/
def malformedLine (line : Option Value) : Bool := (line.bind Value.asDict).isNone

/-- The source has been read in the call. -/
def Call.Read : Source → Prop
  | .leaseFile => ∃ text, call.leases = .content text
  | .docker => ∃ lines, call.dockerLines = some lines ∧ ∀ line ∈ lines.2, malformedLine line = false
  | .host => call.hostServices ≠ [] ∨ ∃ payload, call.hostPayload = some payload ∧ payload.listsServices = true
  | .xray => call.xray.isSome = true
  | .external connectionId =>
      (∃ node ∈ call.nodes reprText, Call.nodeConnection reprText node = connectionId) ∨
      ∃ payload, (connectionId, payload) ∈ call.refreshed U reprText ∧ payload.listsPeers = true

/-- The source lists the subject as active. -/
def Call.ListsActive (source : Source) (id : Text) : Prop :=
  ∃ kind, ∃ r ∈ call.records U reprText kind, r.source = some source ∧ r.subjectId = id ∧ r.isActive = true

/-- The call deactivates only what its own source, which has been read, does not list as active. -/
structure Careful (before after : World) : Prop where
  policy : ∀ id row, before.subjects id = some row →
    ∃ row', after.subjects id = some row' ∧ SamePolicy row row'
  userOverrides : after.userOverrides = before.userOverrides
  serverOverrides : after.serverOverrides = before.serverOverrides
  deactivated : ∀ id row row', before.subjects id = some row → row.isActive = true →
    after.subjects id = some row' → row'.isActive = false →
      ∃ source, row'.source = some source ∧ call.Read U reprText source ∧ ¬call.ListsActive U reprText source id

/-- A subject that is swept although its source has not been read. -/
def Call.Unread (row : SubjectRow) : Prop :=
  match kindOf row.subjectType with
  | some .lan => ∀ text, call.leases ≠ .content text
  | some .host => call.hostServices = [] ∧ ∀ payload, call.hostPayload = some payload → payload.listsServices = false
  | some .docker => ∀ lines, call.dockerLines = some lines → ∃ line ∈ lines.2, malformedLine line = true
  | some .externalNetworkClient =>
      ∀ connectionId, ((row.metadata.getD []).get "connection_id").asText = some connectionId →
        (∀ node ∈ call.nodes reprText, Call.nodeConnection reprText node ≠ connectionId) ∧
        ∀ payload, (connectionId, payload) ∈ call.refreshed U reprText → payload.listsPeers = false
  | _ => False

/-- The condition on an active subject: where the call lists it, its source does not list it both as active
and as inactive; where the call does not list it, no sweep takes it whose source has not been read. -/
def Call.Spared (id : Text) (row : SubjectRow) : Prop :=
  match lastRecord id (call.statements U reprText) with
  | some r => r.isActive = false → ∀ source, r.source = some source → ¬call.ListsActive U reprText source id
  | none => ∀ s ∈ call.statements U reprText, s.Hits id row → ¬call.Unread U reprText row

end Sources

/-! ## When a call is careful -/

section Careful

variable {U : Unicode} {reprText : Text → Text} {call : Call} {kind : Kind} {r : Record} {row : SubjectRow}
  {id : Text} {s : Statement} {source : Source}

lemma kindOf_eq {subjectType : Text} (h : subjectType ∈ kind.subjectTypes) : kindOf subjectType = some kind := by
  cases kind with
  | lan =>
      obtain rfl := List.mem_singleton.mp h
      decide
  | host =>
      obtain rfl := List.mem_singleton.mp h
      decide
  | docker =>
      obtain rfl := List.mem_singleton.mp h
      decide
  | explicitExternalClient =>
      simp only [Kind.subjectTypes, List.mem_cons, List.not_mem_nil, or_false] at h
      rcases h with rfl | rfl <;> decide
  | externalNetworkClient =>
      simp only [Kind.subjectTypes, List.mem_cons, List.not_mem_nil, or_false] at h
      rcases h with rfl | rfl | rfl <;> decide

/-- A row that a record has written belongs to the record's source. -/
lemma source_of_written (h : Written r row) : row.source = r.source := by
  have hkind : kindOf row.subjectType = some r.kind := by
    refine kindOf_eq ?_
    rw [h.subjectType]
    cases r.kind <;> decide
  rw [SubjectRow.source, hkind, connection_of_written h]
  rfl

lemma subjectType_of_sweeps {seen : List Text} {connectionId : Text}
    (h : sweeps kind seen connectionId id row = true) : row.subjectType ∈ kind.subjectTypes := by
  simp only [sweeps, Bool.and_eq_true, decide_eq_true_eq] at h
  exact h.1.1.1.1

/-- Where a sweep hits: a sweep of its type, which is refreshed. -/
lemma exists_sweep (hs : s ∈ call.statements U reprText) (hhits : s.Hits id row) :
    ∃ kind, kindOf row.subjectType = some kind ∧ call.refreshes U reprText kind = true ∧
      s ∈ call.sweepsOf U reprText kind := by
  obtain ⟨kind, hpass⟩ := exists_pass hs
  obtain ⟨hrefreshes, hsweep⟩ := mem_sweeps_of_hits hpass hhits
  refine ⟨kind, kindOf_eq ?_, hrefreshes, hsweep⟩
  rcases mem_sweepsOf hsweep with ⟨rfl, connection, -, rfl⟩ | ⟨-, rfl⟩
  · exact subjectType_of_sweeps hhits
  · exact subjectType_of_sweeps hhits

/-- A sweep hits a subject whose source has been read, or it is unread. -/
lemma unread_iff (hs : s ∈ call.statements U reprText) (hhits : s.Hits id row) :
    call.Unread U reprText row ↔ ¬∃ source, row.source = some source ∧ call.Read U reprText source := by
  obtain ⟨kind, hkind, hrefreshes, -⟩ := exists_sweep hs hhits
  rw [SubjectRow.source, Call.Unread, hkind]
  cases kind with
  | lan => simp [Kind.source, Call.Read]
  | host => simp [Kind.source, Call.Read]
  | docker => simp [Kind.source, Call.Read]
  | explicitExternalClient =>
      have hread : call.xray.isSome = true := hrefreshes
      simp [Kind.source, Call.Read, hread]
  | externalNetworkClient =>
      cases hconnection : ((row.metadata.getD []).get "connection_id").asText with
      | none => simp [Kind.source, hconnection]
      | some connectionId => simp [Kind.source, hconnection, Call.Read]

lemma asText_eq_some {value : Value} {text : Text} (h : value.asText = some text) : value = .str text := by
  cases value with
  | str t =>
      obtain rfl := Option.some.inj h
      rfl
  | none => cases h
  | bool b => cases h
  | int n => cases h
  | float repr => cases h
  | list values => cases h
  | dict fields => cases h

/-- The source of a subject that a sweep hits does not list it. -/
lemma not_lists_of_hits (hs : s ∈ call.statements U reprText) (hhits : s.Hits id row)
    (hsource : row.source = some source) : ¬call.ListsActive U reprText source id := by
  rintro ⟨kind', r, hr, hrsource, rfl, -⟩
  obtain ⟨kind, hkind, -, hsweep⟩ := exists_sweep hs hhits
  rw [SubjectRow.source, hkind, Option.bind_some] at hsource
  rw [Record.source, kind_of_mem_records hr] at hrsource
  obtain rfl : kind = kind' := (Kind.kind_of_source hsource).symm.trans (Kind.kind_of_source hrsource)
  rcases mem_sweepsOf hsweep with ⟨rfl, connection, hconnection, rfl⟩ | ⟨-, rfl⟩
  · rw [Call.sweepConnection, Statement.Hits, sweeps] at hhits
    simp only [Bool.and_eq_true, Bool.or_eq_true, decide_eq_true_eq, (refreshed_id hconnection).1, false_or] at hhits
    obtain ⟨⟨-, hseen⟩, hmatch⟩ := hhits
    refine hseen (List.mem_map_of_mem (List.mem_filter.mpr ⟨hr, decide_eq_true ?_⟩))
    obtain ⟨connectionId, hrow, rfl⟩ := Option.map_eq_some_iff.mp hsource
    obtain ⟨connectionId', hrecord, hsame⟩ := Option.map_eq_some_iff.mp hrsource
    obtain rfl := Source.external.inj hsame
    rw [asText_eq_some hrow] at hmatch
    obtain rfl := of_decide_eq_true hmatch
    rw [Call.recordConnection, asText_eq_some hrecord, Value.textOr_str, (refreshed_id hconnection).2]
  · rw [Statement.Hits, sweeps] at hhits
    simp only [Bool.and_eq_true, decide_eq_true_eq] at hhits
    exact hhits.1.2 (List.mem_map_of_mem hr)

/-- The connection of a node that has been handed in. -/
lemma exists_node {item : Dict} (hitem : .dict item ∈ (call.nodes reprText).map Value.dict) :
    ∃ node ∈ call.nodes reprText, Call.nodeConnection reprText node =
      strip (((item.get "connection_id").or (.str [])).textOr reprText) := by
  obtain ⟨node, hnode, heq⟩ := List.mem_map.mp hitem
  obtain rfl := Value.dict.inj heq
  refine ⟨node, hnode, ?_⟩
  rw [Call.nodeConnection, Value.or]
  split_ifs with h
  · rfl
  · rw [Value.textOr, if_neg h]
    rfl

/-- The peers of a probe carry its connection. -/
lemma connection_of_client {provider connectionId : Text} {payload : Dict} {includeAllPeers : Bool} {item : Dict}
    (h : .dict item ∈ externalIngressClients reprText provider payload connectionId includeAllPeers) :
    connectionId ≠ [] ∧ item.get "connection_id" = .str connectionId ∧ payload ≠ [] := by
  rw [externalIngressClients] at h
  split_ifs at h with hempty
  · cases h
  · obtain ⟨peer, hpeer, hitem⟩ := List.mem_filterMap.mp h
    dsimp only at hitem
    split_ifs at hitem
    all_goals
      obtain rfl := Value.dict.inj (Option.some.inj hitem)
      refine ⟨hempty, rfl, ?_⟩
      rintro rfl
      cases hpeer

lemma listsServices_of_items {payload : Payload} (h : payload.items ≠ []) : payload.listsServices = true := by
  cases payload with
  | blank => rfl
  | malformed => exact absurd rfl h
  | json value =>
      cases value with
      | list values => rfl
      | dict fields => rfl
      | none => exact absurd rfl h
      | bool b => exact absurd rfl h
      | int n => exact absurd rfl h
      | float repr => exact absurd rfl h
      | str text => exact absurd rfl h

lemma listsPeers_of_dict {payload : Payload} (h : payload.dict ≠ []) : payload.listsPeers = true := by
  cases payload with
  | blank => rfl
  | malformed => exact absurd rfl h
  | json value =>
      cases value with
      | dict fields => rfl
      | none => exact absurd rfl h
      | bool b => exact absurd rfl h
      | int n => exact absurd rfl h
      | float repr => exact absurd rfl h
      | str text => exact absurd rfl h
      | list values => exact absurd rfl h

/-- A record of an inactive subject is of a source that has been read. -/
lemma read_of_inactive (hr : r ∈ call.records U reprText kind) (hactive : r.isActive = false) :
    ∃ source, r.source = some source ∧ call.Read U reprText source := by
  rw [Record.source, kind_of_mem_records hr]
  cases kind with
  | lan =>
      rcases List.mem_append.mp hr with hr | hr
      · rw [(kind_of_mem_structuredLan hr).2] at hactive
        cases hactive
      · rw [(kind_of_mem_discoverLan hr).2] at hactive
        cases hactive
  | host =>
      refine ⟨.host, rfl, ?_⟩
      rcases List.mem_append.mp hr with hr | hr
      · exact Or.inl (kind_of_mem_structuredHost hr).2
      · have hitems := (kind_of_mem_structuredHost hr).2
        cases hpayload : call.hostPayload with
        | none =>
            rw [hpayload] at hitems
            exact absurd rfl hitems
        | some payload =>
            rw [hpayload] at hitems
            exact Or.inr ⟨payload, hpayload, listsServices_of_items hitems⟩
  | docker =>
      rw [Call.records] at hr
      cases hlines : call.dockerLines with
      | none =>
          rw [hlines] at hr
          cases hr
      | some lines =>
          rw [hlines] at hr
          obtain ⟨item, -, rfl⟩ := List.mem_map.mp hr
          cases hactive
  | explicitExternalClient =>
      refine ⟨.xray, rfl, ?_⟩
      rw [Call.Read]
      cases hxray : call.xray with
      | some clients => rfl
      | none =>
          rw [Call.records, hxray] at hr
          cases hr
  | externalNetworkClient =>
      rcases List.mem_append.mp hr with hr | hr
      · obtain ⟨-, item, hitem, -, hmetadata⟩ := kind_of_mem_externalIngress hr
        obtain ⟨node, hnode, hconnection⟩ := exists_node hitem
        refine ⟨.external _, ?_, Or.inl ⟨node, hnode, hconnection⟩⟩
        rw [hmetadata]
        rfl
      · obtain ⟨connection, hconnection, hr⟩ := List.mem_flatMap.mp hr
        obtain ⟨-, item, hitem, -, hmetadata⟩ := kind_of_mem_externalIngress hr
        obtain ⟨hne, hid, hpayload⟩ := connection_of_client hitem
        have hsame : strip (((item.get "connection_id").or (.str connection.1)).textOr reprText) = connection.1 := by
          rw [hid, Value.or, ite_self, Value.textOr_str, (refreshed_id hconnection).2]
        rw [hsame] at hmetadata
        refine ⟨.external connection.1, ?_, Or.inr ⟨connection.2, hconnection, listsPeers_of_dict hpayload⟩⟩
        rw [hmetadata]
        rfl

/-- The last record of a subject is one of the call. -/
lemma mem_records_of_last (h : lastRecord id (call.statements U reprText) = some r) :
    r.subjectId = id ∧ ∃ kind, r ∈ call.records U reprText kind := by
  obtain ⟨hid, before, after, hsplit, -⟩ := exists_of_lastRecord h
  obtain ⟨kind, hpass⟩ := @exists_pass U reprText call (.upsert r) (by rw [hsplit]; simp)
  exact ⟨hid, kind, mem_records_of_upsert hpass⟩

variable {w : World}

/-- **When a synchronisation is careful.** -/
theorem syncSubjectInventory_careful_iff :
    Careful U reprText call w (call.syncSubjectInventory U reprText w) ↔
      ∀ id row, w.subjects id = some row → row.isActive = true → call.Spared U reprText id row := by
  constructor
  · intro hcareful id row hrow hactive
    rw [Call.Spared]
    cases hlast : lastRecord id (call.statements U reprText) with
    | some r =>
        intro hinactive source hsource
        obtain ⟨row', hrow', hwritten⟩ := @foldl_written call.now w id row _ r statements_spares hrow hlast
        obtain ⟨source', hsource', -, hlists⟩ :=
          hcareful.deactivated id row row' hrow hactive hrow' (hwritten.active.trans hinactive)
        rw [source_of_written hwritten, hsource] at hsource'
        obtain rfl := Option.some.inj hsource'
        exact hlists
    | none =>
        intro s hs hhits
        obtain ⟨row', hrow', hkept, hiff⟩ := @foldl_active call.now w id row _ hrow hactive hlast
        have hinactive : row'.isActive = false := by
          rw [← Bool.not_eq_true, hiff]
          exact fun h => h s hs hhits
        obtain ⟨source, hsource, hread, -⟩ := hcareful.deactivated id row row' hrow hactive hrow' hinactive
        rw [SubjectRow.source, hkept.subjectType, hkept.metadata, ← SubjectRow.source] at hsource
        rw [unread_iff hs hhits, not_not]
        exact ⟨source, hsource, hread⟩
  · intro hspared
    refine ⟨fun id row hrow => foldl_policy hrow, foldl_overrides.1, foldl_overrides.2, ?_⟩
    intro id row row' hrow hactive hrow' hinactive
    have hspared := hspared id row hrow hactive
    rw [Call.Spared] at hspared
    cases hlast : lastRecord id (call.statements U reprText) with
    | some r =>
        rw [hlast] at hspared
        obtain ⟨row'', hrow'', hwritten⟩ := @foldl_written call.now w id row _ r statements_spares hrow hlast
        obtain rfl := Option.some.inj (hrow''.symm.trans hrow')
        obtain ⟨-, kind, hr⟩ := mem_records_of_last hlast
        have hactive' : r.isActive = false := hwritten.active.symm.trans hinactive
        obtain ⟨source, hsource, hread⟩ := read_of_inactive hr hactive'
        exact ⟨source, (source_of_written hwritten).trans hsource, hread, hspared hactive' source hsource⟩
    | none =>
        rw [hlast] at hspared
        obtain ⟨row'', hrow'', hkept, hiff⟩ := @foldl_active call.now w id row _ hrow hactive hlast
        obtain rfl := Option.some.inj (hrow''.symm.trans hrow')
        have hsome : ∃ s ∈ call.statements U reprText, s.Hits id row := by
          by_contra hnone
          rw [hiff.mpr fun s hs hhits => hnone ⟨s, hs, hhits⟩] at hinactive
          cases hinactive
        obtain ⟨s, hs, hhits⟩ := hsome
        obtain ⟨source, hsource, hread⟩ := not_not.mp (mt (unread_iff hs hhits).mpr (hspared s hs hhits))
        refine ⟨source, ?_, hread, not_lists_of_hits hs hhits hsource⟩
        rw [SubjectRow.source, hkept.subjectType, hkept.metadata]
        exact hsource

end Careful

/-! ## A router without a lease file -/

/-- A LAN client that is active. -/
def lanRow : SubjectRow where
  subjectType := Kind.lan.name
  subjectRole := Kind.lan.subjectRole
  implementationKind := Kind.lan.name
  stableKey := "lan:a".toList
  displayName := none
  subjectAlias := none
  desiredMode := "vpn".toList
  appliedMode := none
  applyState := "clean".toList
  runtimeState := "active".toList
  isActive := true
  isDeleted := false
  inactiveSince := none
  deletedAt := none
  metadata := none

def lanWorld : World where
  subjects id := if id = "lan:a".toList then some lanRow else none
  details _ _ := none
  userOverrides _ := none
  serverOverrides _ := none

/-- A call that asks for nothing, where there is no lease file. -/
def bareCall : Call where
  discoverDocker := false
  discoverHost := false
  discoverTailscale := false
  discoverExternalIngressProviders := []
  discoverXray := false
  includeAllExternalIngressPeers := false
  includeAllTailscalePeers := false
  lanClients := []
  tailscaleNodes := []
  hostServices := []
  leases := .missing
  dockerInventory := .raised
  dockerPs := .raised
  hostScript := .raised
  connections := []
  probe _ _ := .raised
  xrayClients := none
  tombstoneMissingSystemSubjects := false
  graceSeconds := 0
  now := 0
  collectedAt := []
  failsAt := none

/-- The client is swept. -/
theorem lanWorld_not_careful :
    ¬Careful .ascii id bareCall lanWorld (bareCall.syncSubjectInventory .ascii id lanWorld) := by
  intro hcareful
  have hswept : (bareCall.syncSubjectInventory .ascii id lanWorld).subjects "lan:a".toList = some { lanRow with
      isActive := false
      runtimeState := "inactive".toList
      inactiveSince := some 0 } := rfl
  obtain ⟨source, hsource, hread, -⟩ := hcareful.deactivated _ lanRow _ rfl rfl hswept rfl
  have hlease : some Source.leaseFile = some source := hsource
  obtain rfl := Option.some.inj hlease
  obtain ⟨text, hcontent⟩ := hread
  cases hcontent

end FwRouter.SubjectInventory
