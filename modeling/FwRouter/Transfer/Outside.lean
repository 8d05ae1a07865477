import FwRouter.Transfer.Success

/-!
# Tables that an import does not name

An import empties `subjects` and `servers` and inserts the rows of the snapshot.  Seven tables outside
`CONTROL_PLANE_TABLES` refer to a subject or to a server: their rows are deleted or detached with it, and
they do not come back with it.  No other table outside is touched.

So the rows of a subject or a server that the import brings back are left alone exactly where there
are none.
-/

namespace FwRouter.Transfer

open Py Relational

/-! ## Owners -/

/-- What a row outside the control plane belongs to. -/
inductive Party
  | subject
  | server
  deriving DecidableEq

def Party.table : Party → Table
  | .subject => .subjects
  | .server => .servers

def Party.key : Party → String
  | .subject => "subject_id"
  | .server => "server_id"

/-- The section of a snapshot. -/
def Party.part : Party → String
  | .subject => "subjects"
  | .server => "servers"

/-- The column that names the subject or the server of a row. -/
def owner : Table → Option (Party × String)
  | .trafficMonthly | .trafficCounterSnapshots => some (.subject, "subject_id")
  | .subscriptionServerMemberships => some (.server, "server_id")
  | .logicalServerTopology | .logicalServerMembers | .logicalServerMemberHealth
  | .logicalServerGroupProbeOutcome => some (.server, "logical_server_id")
  | _ => none

/-- There is the subject or the server. -/
def Party.Exists (party : Party) (db : Database) (id : Cell) : Prop := ∃ r ∈ db party.table, r party.key = id

/-- A row outside the control plane is left as it was, if the subject or the server that it belongs to
exists before and after. -/
def OutsideUnchanged (db db' : Database) : Prop :=
  ∀ t ∉ controlPlaneTables, ∀ r ∈ db t,
    (∀ party column, owner t = some (party, column) → r column ≠ .null →
      party.Exists db (r column) ∧ party.Exists db' (r column)) → r ∈ db' t

/-- The id of a row of a snapshot, as it is stored. -/
def idCell (env : Env) (party : Party) (row : Dict) : Option Cell := do
  let value ← row.lookup party.key.toList
  let cell ← (bindValue value).toOption
  return env.sqlite.store .text cell

/-- The ids of the subjects or the servers of a snapshot. -/
def snapshotIds (env : Env) (call : Call) (party : Party) : List Cell :=
  ((stateFromSnapshot call.snapshot).get party.part).listOr.filterMap fun entry =>
    entry.asDict.bind (idCell env party)

/-- A receipt of the operation of the call is there. -/
def HasReceipt (env : Env) (call : Call) (db : Database) : Prop :=
  ∃ fingerprint, env.fingerprint call.snapshot call.normalizeRuntimeState = some fingerprint ∧
    (settingRow db (receiptKey call fingerprint)).isSome

/-- No row outside the control plane belongs to a subject or a server of the snapshot. -/
def NoneOwned (env : Env) (call : Call) (db : Database) : Prop :=
  ∀ t party column, owner t = some (party, column) → ∀ r ∈ db t, r column ≠ .null →
    r column ∉ snapshotIds env call party

/-! ## What the deletes leave -/

variable {env : Env} {db db' : Database} {call : Call}

/-- The tables of a party: its own and those that belong to it. -/
def Party.Holds (party : Party) (u : Table) : Prop := u = party.table ∨ ∃ column, owner u = some (party, column)

/-- A reference that is whole in one database is whole in another with the same rows. -/
lemma exists_refers {db₂ : Database} (hvalid : env.schema.Valid db) {ref : Reference Table String}
    (href : ref ∈ foreignKeys) (hchild : db₂ ref.child = db ref.child) (hparent : db₂ ref.parent = db ref.parent)
    {r : Row} (hr : r ∈ db₂ ref.child) (hcolumns : ∀ c ∈ ref.columns, r c.1 ≠ .null) :
    ∃ q ∈ db₂ ref.parent, env.schema.refers ref r q = true := by
  rw [hchild] at hr
  rw [hparent]
  exact Schema.exists_of_satisfied (hvalid.references _ _ hr) href hcolumns

lemma notNull_of_valid (hvalid : env.schema.Valid db) {t : Table} {r : Row} (hr : r ∈ db t) {c : String}
    (hcheck : Check.notNull c ∈ checks t) : r c ≠ .null := by
  have hall := List.all_eq_true.mp (hvalid.admitted t r hr) _ hcheck
  simpa [Check.holds] using hall

lemma follows_foreignKey {db₂ : Database} (hvalid : env.schema.Valid db) {party : Party} {n : ℕ}
    {child parent : Table} {column parentColumn : String}
    (href : foreignKey child column parent parentColumn .cascade ∈ foreignKeys)
    (hchild : db₂ child = db child) (hparent : db₂ parent = db parent)
    (h : Schema.Follows env.schema db₂ party.table party.key n parent parentColumn) :
    Schema.Follows env.schema db₂ party.table party.key (n + 1) child column := by
  show Schema.Follows env.schema db₂ party.table party.key (n + 1)
    (foreignKey child column parent parentColumn .cascade).child column
  refine Schema.Follows.child h href rfl List.mem_cons_self fun r hr hne =>
    exists_refers hvalid href hchild hparent hr ?_
  rintro c hc
  obtain rfl := List.mem_singleton.mp hc
  exact hne

/-- A row follows the subject or the server that it belongs to: directly, or by way of the topology of a
logical server and its members. -/
lemma follows_owner {db₂ : Database} (hvalid : env.schema.Valid db) {party : Party}
    (hagree : ∀ u, party.Holds u → db₂ u = db u) {t : Table} {column : String}
    (howner : owner t = some (party, column)) (ht : t ≠ .trafficCounterSnapshots) :
    Schema.Follows env.schema db₂ party.table party.key 4 t column := by
  have hself : Schema.Follows env.schema db₂ party.table party.key 1 party.table party.key :=
    Schema.follows_self _ _
  have hparty : db₂ party.table = db party.table := hagree _ (Or.inl rfl)
  have hown : ∀ {u c}, owner u = some (party, c) → db₂ u = db u := fun h => hagree _ (Or.inr ⟨_, h⟩)
  have htopology : party = .server →
      Schema.Follows env.schema db₂ party.table party.key 2 .logicalServerTopology "logical_server_id" := by
    rintro rfl
    exact follows_foreignKey hvalid (by decide) (hown rfl) hparty hself
  have hmembers : party = .server →
      Schema.Follows env.schema db₂ party.table party.key 3 .logicalServerMembers "logical_server_id" := by
    rintro rfl
    exact follows_foreignKey hvalid (by decide) (hown rfl) (hown rfl) (htopology rfl)
  cases t <;> simp only [owner, Option.some.injEq, Prod.mk.injEq, reduceCtorEq] at howner <;>
    obtain ⟨rfl, rfl⟩ := howner
  case trafficMonthly =>
    exact (follows_foreignKey hvalid (by decide) (hown rfl) hparty hself).mono (by omega)
  case trafficCounterSnapshots => exact absurd rfl ht
  case subscriptionServerMemberships =>
    exact (follows_foreignKey hvalid (by decide) (hown rfl) hparty hself).mono (by omega)
  case logicalServerTopology => exact (htopology rfl).mono (by omega)
  case logicalServerMembers => exact (hmembers rfl).mono (by omega)
  case logicalServerGroupProbeOutcome =>
    exact (follows_foreignKey hvalid (by decide) (hown rfl) (hown rfl) (htopology rfl)).mono
      (by omega)
  case logicalServerMemberHealth =>
    have href : (⟨.logicalServerMemberHealth, .logicalServerMembers,
      [("logical_server_id", "logical_server_id"), ("member_id", "member_id")], .cascade⟩ :
        Reference Table String) ∈ foreignKeys := by decide
    refine Schema.Follows.child (hmembers rfl) href rfl List.mem_cons_self fun r hr hne =>
      exists_refers hvalid href (hown rfl) (hown rfl) hr ?_
    have hbefore : r ∈ db .logicalServerMemberHealth := by
      rw [← hagree _ (Or.inr ⟨_, rfl⟩)]
      exact hr
    have hmember : r "member_id" ≠ .null := notNull_of_valid hvalid hbefore (by simp [checks])
    intro c hc
    rcases List.mem_cons.mp hc with rfl | hc
    · exact hne
    · obtain rfl := List.mem_singleton.mp hc
      exact hmember

/-- The reference of the traffic counters, the one that is set to null. -/
def counterKey : Reference Table String :=
  foreignKey .trafficCounterSnapshots "subject_id" .subjects "subject_id" .setNull

lemma counterKey_mem : counterKey ∈ foreignKeys := by decide

lemma counter_refers {db₂ : Database} (hvalid : env.schema.Valid db)
    (hchild : db₂ .trafficCounterSnapshots = db .trafficCounterSnapshots)
    (hparent : db₂ .subjects = db .subjects) {r : Row} (hr : r ∈ db₂ .trafficCounterSnapshots)
    (hne : r "subject_id" ≠ .null) : ∃ q ∈ db₂ .subjects, env.schema.refers counterKey r q = true := by
  refine exists_refers hvalid counterKey_mem hchild hparent hr ?_
  intro c hc
  obtain rfl := List.mem_singleton.mp hc
  exact hne

/-- A row that names a subject or a server belongs to one. -/
lemma exists_owner (hvalid : env.schema.Valid db) {t : Table} {party : Party} {column : String}
    (howner : owner t = some (party, column)) {r : Row} (hr : r ∈ db t) (hne : r column ≠ .null) :
    party.Exists db (r column) := by
  by_cases ht : t = .trafficCounterSnapshots
  · subst ht
    obtain ⟨rfl, rfl⟩ := Prod.mk.inj (Option.some.inj howner)
    obtain ⟨q, hq, hrefers⟩ := counter_refers hvalid rfl rfl hr hne
    have hsame := List.all_eq_true.mp hrefers _ List.mem_cons_self
    exact ⟨q, hq, (of_decide_eq_true hsame).2.symm⟩
  · exact (follows_owner hvalid (fun _ _ => rfl) howner ht r hr hne).1

/-- What is left of the rows of a party, once its table is empty, names none of it. -/
lemma null_of_mem_delete_party {db₂ : Database} (hvalid : env.schema.Valid db) {party : Party}
    (hagree : ∀ u, party.Holds u → db₂ u = db u) {t : Table} {column : String}
    (howner : owner t = some (party, column)) {r : Row}
    (hr : r ∈ env.schema.delete party.table (fun _ => true) db₂ t) : r column = .null := by
  by_cases ht : t = .trafficCounterSnapshots
  · subst ht
    obtain ⟨rfl, rfl⟩ := Prod.mk.inj (Option.some.inj howner)
    have hdelete : r ∈ env.schema.delete counterKey.parent (fun _ => true) db₂ counterKey.child := hr
    exact Schema.null_of_mem_delete_of_setNull counterKey_mem rfl List.mem_cons_self (Nat.succ_pos 3)
      (fun s hs hne => counter_refers hvalid (hagree _ (Or.inr ⟨_, rfl⟩)) (hagree _ (Or.inl rfl)) hs hne)
      hdelete
  · exact Schema.null_of_mem_delete_of_follows (follows_owner hvalid hagree howner ht) hr

lemma null_of_mem_foldl_delete {ts : List Table} {t : Table} {column : String}
    (h : ∀ r ∈ db t, r column = .null) :
    ∀ r ∈ ts.foldl (fun db t => env.schema.delete t (fun _ => true) db) db t, r column = .null := by
  induction ts generalizing db with
  | nil => exact h
  | cons t' ts ih => exact ih fun r hr => Schema.null_of_mem_delete h hr

/-- The tables that are emptied before the table of the party. -/
def Party.before : Party → List Table
  | .subject => clearedTables.take 9
  | .server => clearedTables.take 10

/-- The tables that are emptied after it. -/
def Party.after : Party → List Table
  | .subject => clearedTables.drop 10
  | .server => clearedTables.drop 11

lemma clearedTables_split (party : Party) : clearedTables = party.before ++ party.table :: party.after := by
  cases party <;> rfl

/-- Nothing that is emptied before reaches the tables of the party. -/
lemma not_fed_before {party : Party} {u : Table} (hu : party.Holds u) :
    ∀ t ∈ party.before, feeds foreignKeys t 5 u = false := by
  have hcase : ∀ t ∈ party.before, feeds foreignKeys t 5 party.table = false := by
    cases party <;> decide
  rcases hu with rfl | ⟨column, howner⟩
  · exact hcase
  · cases party <;> cases u <;> simp [owner] at howner <;> decide

/-- No row that the deletes leave names a subject or a server. -/
lemma null_of_mem_cleared (hvalid : env.schema.Valid db) {db₁ : Database}
    (hsame : ∀ u, u ≠ .settings → db₁ u = db u) {t : Table} {party : Party} {column : String}
    (howner : owner t = some (party, column)) {r : Row} (hr : r ∈ cleared env db₁ t) :
    r column = .null := by
  rw [cleared, clearedTables_split party, List.foldl_append, List.foldl_cons] at hr
  refine null_of_mem_foldl_delete ?_ r hr
  intro s hs
  refine null_of_mem_delete_party hvalid (fun u hu => ?_) howner hs
  have hne : u ≠ .settings := by
    rintro rfl
    rcases hu with hu | ⟨c, hu⟩
    · cases party <;> cases hu
    · cases hu
  rw [foldl_delete_of_not_fed (not_fed_before hu), hsame u hne]

/-- A row that names none is left as it was. -/
lemma mem_cleared_of_null {t : Table} {party : Party} {column : String}
    (howner : owner t = some (party, column)) {r : Row} (hr : r ∈ db t) (hnull : r column = .null) :
    r ∈ cleared env db t := by
  have hrefs : ∀ ref ∈ foreignKeys, ref.child = t → ∃ c ∈ ref.columns, c.1 = column := by
    cases t <;> simp only [owner, Option.some.injEq, Prod.mk.injEq, reduceCtorEq] at howner <;>
      obtain ⟨rfl, rfl⟩ := howner <;> decide
  have hcleared : ∀ u ∈ clearedTables, t ≠ u := by
    rintro u hu rfl
    revert hu howner
    cases t <;> simp [owner, clearedTables]
  have hall : ∀ (ts : List Table) (db : Database), (∀ u ∈ ts, t ≠ u) → r ∈ db t →
      r ∈ ts.foldl (fun db t => env.schema.delete t (fun _ => true) db) db t := by
    intro ts
    induction ts with
    | nil => exact fun _ _ hr => hr
    | cons u ts ih =>
        intro db hts hr
        refine ih _ (fun v hv => hts v (List.mem_cons_of_mem _ hv)) ?_
        refine Schema.mem_delete_of_unbound (hts u List.mem_cons_self) hr fun ref href hchild => ?_
        obtain ⟨c, hc, rfl⟩ := hrefs ref href hchild
        exact ⟨c, hc, hnull⟩
  exact hall _ _ hcleared hr

/-- A table outside that belongs to nobody is not reached. -/
lemma not_fed_of_unowned {t : Table} (hout : t ∉ controlPlaneTables) (hnone : owner t = none) :
    ∀ u ∈ clearedTables, feeds foreignKeys u 5 t = false := by
  cases t <;> first | decide | (exfalso; revert hout; decide) | cases hnone

/-! ## Who exists afterwards -/

lemma dictRows_of_isList {value : Value} (h : isList value = true) {rows : List Dict}
    (hrows : dictRows value = .ok rows) : rows = value.listOr.filterMap Value.asDict := by
  cases value with
  | list values =>
      cases values with
      | nil => exact (Except.ok.inj hrows).symm
      | cons v values => exact (Except.ok.inj hrows).symm
  | _ => cases h

/-- The sections of the subjects and of the servers of a valid snapshot are lists. -/
lemma isList_of_valid (h : validationErrors env.unicode env.reprText call.snapshot = []) (party : Party) :
    isList ((stateFromSnapshot call.snapshot).get party.part) = true := by
  simp only [validationErrors, List.append_eq_nil_iff] at h
  obtain ⟨⟨⟨⟨⟨⟨-, hsubjects⟩, -⟩, -⟩, hservers⟩, -⟩, -⟩ := h
  cases party with
  | subject =>
      by_contra hlist
      rw [Party.part] at hlist
      rw [if_neg hlist] at hsubjects
      cases hsubjects
  | server =>
      by_contra hlist
      rw [Party.part] at hlist
      rw [if_neg hlist] at hservers
      cases hservers

lemma idCell_of_buildRow {party : Party} {row : Dict} {r : Row}
    (h : buildRow env.sqlite env.codec call.now (insertColumns party.table) row = .ok r) :
    idCell env party row = some (r party.key) := by
  have hnodup : ((insertColumns party.table).map Column.name).Nodup := by cases party <;> decide
  have hmem : (⟨party.key, .text, .required⟩ : Column) ∈ insertColumns party.table := by
    cases party <;> simp [insertColumns, texts, Party.table, Party.key]
  have hcell := buildRow_apply h hnodup hmem
  obtain ⟨v, hv, hcell⟩ := Run.exists_of_bind_eq_ok hcell
  obtain ⟨bound, hbound, hcell⟩ := Run.exists_of_bind_eq_ok hcell
  have hlookup : row.lookup party.key.toList = some v := by
    simp only [Column.value, required] at hv
    split at hv
    · rename_i w hw
      rw [hw, ← Except.ok.inj hv]
    · cases hv
  rw [idCell, hlookup]
  show ((bindValue v).toOption.bind _) = _
  rw [hbound, ← (Prod.mk.inj (Except.ok.inj hcell)).2]
  rfl

/-- The rows of the plan and the entries of the snapshot have the same ids. -/
lemma map_idCell_of_rows {party : Party} {entries rows : List Dict}
    (h : rows.map (·.lookup party.key.toList) = entries.map (·.lookup party.key.toList)) :
    rows.map (idCell env party) = entries.map (idCell env party) := by
  have hcell : idCell env party = (fun value : Option Value => value.bind fun v =>
      (bindValue v).toOption.map (env.sqlite.store .text)) ∘ (·.lookup party.key.toList) := by
    funext row
    simp [idCell, Function.comp, Option.map_eq_bind]
  rw [hcell, ← List.map_map, h, List.map_map]

/-- The subjects and the servers of an import are those of the snapshot. -/
lemma exists_iff_mem_snapshotIds {fingerprint operationId : Text} {plan : Plan} {result : ImportResult}
    (haccepted : Accepted env call db fingerprint plan)
    (hrun : importPlan env call operationId fingerprint plan db = .ok (result, db')) (party : Party)
    (id : Cell) : party.Exists db' id ↔ id ∈ snapshotIds env call party := by
  have hplanned := preparePlan_ok haccepted.prepared
  have hlist := isList_of_valid haccepted.valid party
  -- the rows of the plan, and the ids that they share with the snapshot
  obtain ⟨rows, hbuilt, hids⟩ : ∃ rows : List Dict,
      rows.mapM (buildRow env.sqlite env.codec call.now (insertColumns party.table)) = .ok (db' party.table) ∧
      rows.map (idCell env party) =
        (((stateFromSnapshot call.snapshot).get party.part).listOr.filterMap Value.asDict).map
          (idCell env party) := by
    cases party with
    | subject =>
        obtain ⟨entries, hentries, hmerged⟩ := hplanned.subjects
        refine ⟨plan.subjects, importPlan_rows hrun (i := 3) (fun _ => rfl) (by decide) (by decide), ?_⟩
        have hkept : keptBySubjectRow Party.subject.key := by simp [keptBySubjectRow, Party.key]
        refine map_idCell_of_rows ?_
        rw [lookup_mergeLegacyProviderDetailRows hkept hmerged, List.map_map,
          ← dictRows_of_isList hlist hentries]
        exact List.map_congr_left fun row _ => lookup_normalizedSubjectRow hkept _ row
    | server =>
        refine ⟨plan.servers, importPlan_rows hrun (i := 8) (fun _ => rfl) (by decide) (by decide), ?_⟩
        rw [← dictRows_of_isList hlist hplanned.servers]
  have hsome : rows.map (idCell env party) = (db' party.table).map fun r => some (r party.key) := by
    have hall := Run.mapM_eq_ok.mp hbuilt
    clear hids hbuilt
    generalize db' party.table = built at hall ⊢
    induction hall with
    | nil => rfl
    | cons hrow _ ih => rw [List.map_cons, List.map_cons, idCell_of_buildRow hrow, ih]
  calc party.Exists db' id ↔ some id ∈ (db' party.table).map fun r => some (r party.key) := by
        simp [Party.Exists, List.mem_map]
    _ ↔ id ∈ snapshotIds env call party := by
        rw [← hsome, hids, snapshotIds, List.mem_map, List.mem_filterMap]
        constructor
        · rintro ⟨row, hrow, hid⟩
          obtain ⟨entry, hentry, hdict⟩ := List.mem_filterMap.mp hrow
          exact ⟨entry, hentry, by rw [hdict]; exact hid⟩
        · rintro ⟨entry, hentry, hid⟩
          obtain ⟨row, hdict, hid⟩ := Option.bind_eq_some_iff.mp hid
          exact ⟨row, List.mem_filterMap.mpr ⟨entry, hentry, hdict⟩, hid⟩

/-! ## The frame of an import -/

/-- An import that executes leaves the rows outside alone where there are none to lose. -/
lemma outsideUnchanged_iff_noneOwned (hvalid : env.schema.Valid db) {fingerprint operationId : Text}
    {plan : Plan} {result : ImportResult} (haccepted : Accepted env call db fingerprint plan)
    (hrun : importPlan env call operationId fingerprint plan db = .ok (result, db')) :
    OutsideUnchanged db db' ↔ NoneOwned env call db := by
  obtain ⟨db₁, hsame, hunwritten⟩ := importPlan_unwritten hrun
  have hnotWritten : ∀ t ∉ controlPlaneTables, t ∉ writtenTables := by
    intro t
    cases t <;> decide
  have hexists := exists_iff_mem_snapshotIds haccepted hrun
  have hownedOutside : ∀ {t party column}, owner t = some (party, column) → t ∉ controlPlaneTables := by
    intro t party column
    cases t <;> simp [owner, controlPlaneTables]
  constructor
  · intro hunchanged t party column howner r hr hne hid
    have hout := hownedOutside howner
    have hkept : r ∈ db' t := by
      refine hunchanged t hout r hr fun party' column' howner' _ => ?_
      obtain ⟨rfl, rfl⟩ := Prod.mk.inj (Option.some.inj (howner.symm.trans howner'))
      exact ⟨exists_owner hvalid howner hr hne, (hexists party _).mpr hid⟩
    rw [hunwritten t (hnotWritten t hout)] at hkept
    exact hne (null_of_mem_cleared hvalid hsame howner hkept)
  · intro hnone t hout r hr hstays
    have ht : t ≠ .settings := by
      rintro rfl
      simp [controlPlaneTables] at hout
    rw [hunwritten t (hnotWritten t hout)]
    rw [← hsame t ht] at hr
    cases howner : owner t with
    | none =>
        rw [cleared_of_not_fed (not_fed_of_unowned hout howner)]
        exact hr
    | some owned =>
        refine mem_cleared_of_null howner hr ?_
        by_contra hne
        have hafter := (hstays owned.1 owned.2 howner hne).2
        rw [hsame t ht] at hr
        exact hnone t owned.1 owned.2 howner r hr hne ((hexists owned.1 _).mp hafter)

/-- **What an import leaves alone.**  A successful import leaves the rows outside the control plane of the
subjects and the servers that it brings back exactly where it is a replay, or where there are no such
rows: the deletes take them along, and nothing inserts them again. -/
theorem outside_unchanged_iff (hvalid : env.schema.Valid db)
    (hok : (importControlPlaneSnapshot env call db).1.ok = true) :
    OutsideUnchanged db (importControlPlaneSnapshot env call db).2 ↔
      HasReceipt env call db ∨ NoneOwned env call db := by
  have houtcome := @import_outcome env call db
  generalize importControlPlaneSnapshot env call db = done at houtcome hok
  cases houtcome with
  | rejected hreply =>
      rw [hreply] at hok
      cases hok
  | replayed hrecorded =>
      obtain ⟨row, s, hrow, -⟩ := hrecorded.receipt
      refine iff_of_true (fun t _ r hr _ => hr) (Or.inl ⟨_, hrecorded.digest, ?_⟩)
      rw [hrow]
      rfl
  | imported haccepted hrun =>
      rw [outsideUnchanged_iff_noneOwned hvalid haccepted hrun]
      constructor
      · exact Or.inr
      · rintro (⟨fingerprint, hdigest, hreceipt⟩ | hnone)
        · obtain rfl := Option.some.inj (haccepted.digest.symm.trans hdigest)
          rw [haccepted.fresh] at hreceipt
          cases hreceipt
        · exact hnone

/-! ## A database and a snapshot -/

instance encodableChar : Encodable Char := Encodable.ofLeftInverse Char.toNat Char.ofNat Char.ofNat_toNat

instance encodableString : Encodable String :=
  Encodable.ofLeftInverse String.toList String.ofList fun _ => String.ofList_toList

instance encodableImportResult : Encodable ImportResult := Encodable.ofLeftInverse
  (fun r : ImportResult => (r.operationId, r.normalizeRuntimeState, r.subjectsCount, r.serversCount,
    r.modulesCount, r.settingsCount, r.rulesFiles, r.selectionReconcileRequired, r.selectionRevision))
  (fun f => ⟨f.1, f.2.1, f.2.2.1, f.2.2.2.1, f.2.2.2.2.1, f.2.2.2.2.2.1, f.2.2.2.2.2.2.1, f.2.2.2.2.2.2.2.1,
    f.2.2.2.2.2.2.2.2⟩)
  fun _ => rfl

/-- A receipt as the decimal text of its number. -/
def numberReceipt (fingerprint : Text) (result : ImportResult) : Text :=
  dec (Encodable.encode (fingerprint, result))

def readNumberReceipt (stored : Text) : Option (Text × ImportResult) := Encodable.decode (decValue stored)

lemma readNumberReceipt_numberReceipt (fingerprint : Text) (result : ImportResult) :
    readNumberReceipt (numberReceipt fingerprint result) = some (fingerprint, result) := by
  rw [readNumberReceipt, numberReceipt, decValue_dec, Encodable.encodek]

/-- The stored texts of JSON objects and of numbers. -/
def plainCodec : Codec where
  loads t := if t ≠ [] ∧ t.all Char.isDigit then some (.int (decValue t)) else some (.dict [])
  dumps _ := ['\x7b', '\x7d']
  dumpsCompact _ := ['\x7b', '\x7d']

lemma loads_plainCodec (n : ℤ) (hn : 0 ≤ n) : plainCodec.loads (Value.intText n) = some (.int n) := by
  have htext : Value.intText n = dec n.natAbs := if_neg (not_lt.mpr hn)
  have hdigits : (dec n.natAbs).all Char.isDigit = true :=
    List.all_eq_true.mpr fun c hc => isDigit_of_mem_dec hc
  rw [plainCodec, htext]
  dsimp only
  rw [if_pos ⟨dec_ne_nil _, hdigits⟩, decValue_dec, Int.natAbs_of_nonneg hn]

def plainEnv : Env where
  unicode := .ascii
  reprText := id
  sqlite := {
    realText := fun repr => '0' :: repr
    integerOfText := .text
    integerOfReal := .real
    realBetween := fun _ _ _ => false
    realText_head := zero_numberHead }
  codec := plainCodec
  fingerprint _ _ := some (List.replicate 64 'a')
  encodeReceipt := numberReceipt
  decodeReceipt := readNumberReceipt
  poolSignature _ := []
  autoEligible _ _ := true
  generationMarker _ := ['\x7b', '\x7d']
  rulesPath column _ := column.toList

def storedAt (key : Text) (value : String) : Row := rowOfCells
  [("key", .text key), ("value_json", textCell value), ("updated_at", textCell "t")]

def homeSubjectRow : Row := rowOfCells
  [("subject_id", textCell "lan:a"), ("subject_type", textCell "lan"), ("subject_role", textCell "lan_client"),
    ("implementation_kind", textCell "lan"), ("stable_key", textCell "lan:a"), ("desired_mode", textCell "vpn"),
    ("apply_state", textCell "clean"), ("runtime_state", textCell "active"), ("is_active", .int 1),
    ("is_deleted", .int 0), ("first_seen_at", textCell "t"), ("created_at", textCell "t"),
    ("updated_at", textCell "t")]

def homeServerRow (server : String) : Row := rowOfCells
  [("server_id", textCell server), ("server_name", textCell "A"), ("inventory_state", textCell "active"),
    ("first_seen_at", textCell "t"), ("last_seen_at", textCell "t"), ("updated_at", textCell "t")]

def homeRouting (server : String) : Row := rowOfCells
  [("id", .int 1), ("desired_mode", textCell "direct"), ("applied_mode", textCell "direct"),
    ("selective_default", textCell "direct"), ("server_mode", textCell "auto"), ("active_auto_server_id", textCell server),
    ("apply_state", textCell "clean"), ("updated_at", textCell "t")]

def homeTraffic : Row := rowOfCells [("subject_id", textCell "lan:a"), ("period_month", textCell "2026-05")]

/-- A subject with its traffic, and the selected server. -/
def homeDb (server : String) : Database
  | .settings => [storedAt coreIntentRevisionKey "7"]
  | .subjects => [homeSubjectRow]
  | .servers => [homeServerRow server]
  | .routingGlobalState => [homeRouting server]
  | .trafficMonthly => [homeTraffic]
  | _ => []

def homeSubject : Dict := object
  [("subject_id", .str "lan:a".toList), ("subject_type", .str "lan".toList), ("stable_key", .str "lan:a".toList),
    ("desired_mode", .str "vpn".toList), ("apply_state", .str "clean".toList),
    ("runtime_state", .str "active".toList), ("is_active", .bool true), ("first_seen_at", .str "t".toList),
    ("created_at", .str "t".toList)]

def homeServer (id : String) : Dict := object
  [("server_id", .str id.toList), ("server_name", .str "A".toList), ("inventory_state", .str "active".toList),
    ("first_seen_at", .str "t".toList), ("last_seen_at", .str "t".toList)]

/-- The subject and two servers. -/
def homeSnapshot : Dict := object
  [("snapshot_version", .str controlPlaneSnapshotVersion),
    ("state", .dict (object [("subjects", .list [.dict homeSubject]),
      ("servers", .list [.dict (homeServer " a"), .dict (homeServer "a")]),
      ("rules", .dict (object [("content", .dict [])]))]))]

def homeCall : Call where
  snapshot := homeSnapshot
  normalizeRuntimeState := true
  operationId := none
  admitted := true
  databaseOk := true
  rulesFiles := some (["manual_draft_path", "manual_active_path", "static_direct_path", "big_direct_path",
    "big_vpn_path", "effective_json_path", "effective_text_path", "metadata_path"].map fun c => (c, c.toList))
  incarnation := List.replicate 32 'a'
  now := "t".toList
  failAt := none

/-- The plan of a call that is not refused. -/
def planOf (env : Env) (call : Call) (db : Database) : Option Plan :=
  (preparePlan env call db).toOption.bind Except.toOption

lemma planOf_eq_some {plan : Plan} (h : planOf env call db = some plan) :
    preparePlan env call db = .ok (.ok plan) := by
  rw [planOf] at h
  cases hprepared : preparePlan env call db with
  | error e =>
      rw [hprepared] at h
      cases h
  | ok prepared =>
      rw [hprepared] at h
      cases prepared with
      | error code => cases h
      | ok plan' => rw [Option.some.inj h]

/-- The cells that the stored routing is written back with. -/
def homeCells (server : String) : List (String × Cell) :=
  ((routingColumns.mapM (Column.cell plainEnv.sqlite plainEnv.codec homeCall.now
    (rowDict routingFields (homeRouting server)))).toOption).getD []

/-- What has to be computed of the plan. -/
def homePlanned (server : String) (plan : Plan) : Bool :=
  loadable? plainEnv homeCall.now plan && plan.settings.isEmpty && plan.routing.isNone &&
    (builtRows plainEnv homeCall.now plan .servers).any (fun r => decide (r "server_id" = textCell "a")) &&
    plainEnv.schema.satisfied (filled firstTables (builtRows plainEnv homeCall.now plan) fun _ => [])
      .routingGlobalState (routedRow (textCell "a") (homeCells server) (homeRouting server))

section Home

variable {server : String} (hserver : server = "a" ∨ server = " a")

include hserver

lemma home_planned : (planOf plainEnv homeCall (homeDb server)).any (homePlanned server) = true := by
  rcases hserver with rfl | rfl <;> decide +kernel

lemma home_core : (advanceCoreIntentRevision plainEnv homeCall.now (homeDb server)).isOk = true := by
  rcases hserver with rfl | rfl <;> decide +kernel

lemma home_strippedId : strippedId plainEnv.reprText (homeRouting server "active_auto_server_id") = some ['a'] := by
  rcases hserver with rfl | rfl <;> decide +kernel

lemma home_cells : routingColumns.mapM (Column.cell plainEnv.sqlite plainEnv.codec homeCall.now
    (rowDict routingFields (homeRouting server))) = .ok (homeCells server) := by
  rcases hserver with rfl | rfl <;> rfl

lemma home_routed : plainEnv.schema.admits .routingGlobalState
    (routedRow (textCell "a") (homeCells server) (homeRouting server)) = true := by
  rcases hserver with rfl | rfl <;> decide +kernel

lemma home_runs {plan : Plan} (hplan : planOf plainEnv homeCall (homeDb server) = some plan) :
    ∃ rows db₁ db₂, Runs plainEnv homeCall plan (homeDb server) rows 0 db₁ db₂ := by
  have hplanned := home_planned hserver
  rw [hplan, Option.any_some, homePlanned] at hplanned
  simp only [Bool.and_eq_true, List.isEmpty_iff, Option.isNone_iff_eq_none] at hplanned
  obtain ⟨⟨⟨⟨hload, hsettings⟩, hrouting⟩, hservers⟩, hreferences⟩ := hplanned
  obtain ⟨db₁, hcore⟩ : ∃ db₁, advanceCoreIntentRevision plainEnv homeCall.now (homeDb server) = .ok db₁ := by
    have hok := home_core hserver
    cases hdb : advanceCoreIntentRevision plainEnv homeCall.now (homeDb server) with
    | ok db₁ => exact ⟨db₁, rfl⟩
    | error e =>
        rw [hdb] at hok
        cases hok
  refine ⟨builtRows plainEnv homeCall.now plan, db₁, emptied plainEnv db₁, rfl, ?_, ?_, hcore, ?_, ?_,
    fun t ht => loadable_of_check hload ht, ?_, fun db' => ⟨db', ?_⟩⟩
  · rcases hserver with rfl | rfl <;> rfl
  · exact loads_plainCodec 1 (by decide)
  · rw [hsettings]
    exact fun _ h => absurd h List.not_mem_nil
  · rw [hsettings, insertRows_nil]
  · intro db' hstage hkept
    obtain ⟨f, hf, hemptied⟩ := emptied_routing plainEnv db₁
    have hcoreRouting : db₁ .routingGlobalState = [homeRouting server] :=
      writesOnly_advanceCoreIntentRevision _ hcore _ (by decide)
    have hrows : db' .routingGlobalState = [f (homeRouting server)] := by
      rw [hkept, hemptied, hcoreRouting, List.map_singleton]
    have hrow : routingRow (homeDb server) = some (homeRouting server) := rfl
    have hpreserved : (db' .servers).any (fun r => decide (r "server_id" = .text ['a'])) = true := by
      rw [hstage _ (by decide) (by decide), filled, if_pos (by decide)]
      exact hservers
    have hsame : ∀ r ∈ db' .routingGlobalState,
        routedRow (.text ['a']) (homeCells server) r =
          routedRow (.text ['a']) (homeCells server) (homeRouting server) := by
      intro r hr
      rw [hrows, List.mem_singleton] at hr
      rw [hr]
      exact routedRow_of_detached (home_cells hserver) (hf _)
    have hroutes : ∃ db'', updateRouting plainEnv homeCall.now (rowDict routingFields (homeRouting server))
        (some ['a']) db' = .ok db'' := by
      refine updateRouting_succeeds ?_ ?_ (home_cells hserver) (fun r hr _ => ?_) fun r hr _ => ?_
      · rw [routingRow, hrows, List.find?_cons_of_pos]
        · rfl
        · rw [(hf _).other "id" (by decide)]
          rfl
      · rintro id ⟨⟩
        exact hpreserved
      · rw [Option.elim_some, hsame r hr]
        exact home_routed hserver
      · rw [Option.elim_some, hsame r hr]
        refine Schema.satisfied_mono (fun u => ?_) hreferences
        by_cases hu : u = .settings ∨ u = .routingGlobalState
        · rcases hu with rfl | rfl <;> exact List.nil_subset _
        · rw [not_or] at hu
          rw [hstage u hu.1 hu.2, filled, filled]
          by_cases hfirst : u ∈ firstTables
          · rw [if_pos hfirst, if_pos (List.mem_reverse.mpr hfirst)]
            exact List.Subset.refl _
          · rw [if_neg hfirst]
            exact List.nil_subset _
    obtain ⟨db'', hupdate⟩ := hroutes
    refine ⟨db'', ?_⟩
    rw [hrouting, hrow, importRouting_local, home_strippedId hserver]
    exact hupdate
  · exact if_neg (by simp only [reconcileRequired, plainEnv]; split <;> simp)

lemma home_imports : ∃ fingerprint plan result db', Accepted plainEnv homeCall (homeDb server) fingerprint plan ∧
    importPlan plainEnv homeCall (homeCall.operationId.getD fingerprint) fingerprint plan (homeDb server) =
      .ok (result, db') ∧
    importControlPlaneSnapshot plainEnv homeCall (homeDb server) = (.imported result, db') := by
  obtain ⟨plan, hplan⟩ : ∃ plan, planOf plainEnv homeCall (homeDb server) = some plan := by
    have hplanned := home_planned hserver
    cases hplan : planOf plainEnv homeCall (homeDb server) with
    | some plan => exact ⟨plan, rfl⟩
    | none =>
        rw [hplan] at hplanned
        cases hplanned
  obtain ⟨rows, db₁, db₂, hruns⟩ := home_runs hserver hplan
  have hvalid : validationErrors plainEnv.unicode plainEnv.reprText homeCall.snapshot = [] := by decide +kernel
  have hid : validOperationId (List.replicate 64 'a') = true := by
    refine decide_eq_true ⟨Or.inr List.length_replicate, fun c hc => ?_⟩
    rw [List.eq_of_mem_replicate hc]
    decide
  have hfresh : settingRow (homeDb server) (receiptPrefix ++ List.replicate 64 'a') = none := by
    rcases hserver with rfl | rfl <;> decide +kernel
  have hcapacity : receiptCount (homeDb server) < 4096 := by
    have hone : receiptCount (homeDb server) ≤ 1 := List.countP_le_length
    omega
  have hidle : hasRunningJob (homeDb server) = false := by rcases hserver with rfl | rfl <;> rfl
  obtain ⟨result, db', hrun⟩ := @importPlan_succeeds _ _ _ _ _ (List.replicate 64 'a') (List.replicate 64 'a') _ _ _
    hruns hfresh
  refine ⟨List.replicate 64 'a', plan, result, db', ⟨rfl, hvalid, rfl, rfl, hid, hfresh, hidle, hcapacity,
    planOf_eq_some hplan⟩, hrun, ?_⟩
  exact import_of_plan ⟨by decide +kernel, hvalid, rfl, hid⟩ rfl rfl hfresh hidle hcapacity (planOf_eq_some hplan) hrun

end Home

lemma home_valid {server : String} (hserver : server = "a" ∨ server = " a") :
    plainEnv.schema.Valid (homeDb server) := by
  refine ⟨fun t => ?_, fun t => ?_, fun t => ?_⟩
  · rcases hserver with rfl | rfl <;> cases t <;> first
      | exact fun _ hr => absurd hr List.not_mem_nil
      | decide +kernel
  · cases t <;> first | exact List.Pairwise.nil | exact List.pairwise_singleton _ _
  · rcases hserver with rfl | rfl <;> cases t <;> first
      | exact fun _ hr => absurd hr List.not_mem_nil
      | decide +kernel

/-- An import of a subject and a server that are there. -/
theorem outside_unchanged_home : OutsideUnchanged (homeDb "a") (importControlPlaneSnapshot plainEnv homeCall
    (homeDb "a")).2 ↔ HasReceipt plainEnv homeCall (homeDb "a") ∨ NoneOwned plainEnv homeCall (homeDb "a") := by
  refine outside_unchanged_iff (home_valid (Or.inl rfl)) ?_
  obtain ⟨_, _, _, _, -, -, himport⟩ := home_imports (Or.inl rfl)
  rw [himport]
  rfl

/-- The traffic of the subject is lost. -/
theorem home_traffic_lost : plainEnv.schema.Valid (homeDb "a") ∧
    (importControlPlaneSnapshot plainEnv homeCall (homeDb "a")).1.ok = true ∧
    ¬OutsideUnchanged (homeDb "a") (importControlPlaneSnapshot plainEnv homeCall (homeDb "a")).2 := by
  obtain ⟨_, _, _, _, haccepted, hrun, himport⟩ := home_imports (Or.inl rfl)
  have hvalid := home_valid (Or.inl rfl)
  rw [himport]
  refine ⟨hvalid, rfl, fun hunchanged => ?_⟩
  have hnone := (outsideUnchanged_iff_noneOwned hvalid haccepted hrun).mp hunchanged
  exact hnone .trafficMonthly .subject "subject_id" rfl homeTraffic List.mem_cons_self (by decide) (by decide +kernel)

end FwRouter.Transfer
