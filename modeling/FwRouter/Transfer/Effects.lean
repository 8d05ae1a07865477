import FwRouter.Transfer.Import

/-!
# What an import changes

The one inversion of `importControlPlaneSnapshot` (`import_cases`): a call leaves the database as it was,
or it was accepted and its statements have all succeeded.  Of a run of statements only two things
matter below.  Every statement that writes changes one table (`WritesOnly`), so that a table has the
rows of the one statement that writes it; and a delete reaches the tables that refer to its table,
and no others (`cleared_of_not_fed`).
-/

namespace FwRouter.Transfer

open Py Relational

variable {env : Env} {db db' : Database}

/-! ## Runs of statements -/

lemma runStatements_cons_ok {s : Statement} {ss : List Statement} :
    runStatements none (s :: ss) db = .ok db' ↔
      ∃ db₁, s db = .ok db₁ ∧ runStatements none ss db₁ = .ok db' := by
  constructor
  · intro h
    exact Run.exists_of_bind_eq_ok h
  · rintro ⟨db₁, hs, hss⟩
    show s db >>= runStatements none ss = _
    rw [hs]
    exact hss

lemma runStatements_append_ok {ss₁ ss₂ : List Statement} :
    runStatements none (ss₁ ++ ss₂) db = .ok db' ↔
      ∃ db₁, runStatements none ss₁ db = .ok db₁ ∧ runStatements none ss₂ db₁ = .ok db' := by
  induction ss₁ generalizing db with
  | nil =>
      constructor
      · intro h
        exact ⟨db, rfl, h⟩
      · rintro ⟨db₁, hdb, h⟩
        obtain rfl := Except.ok.inj hdb
        exact h
  | cons s ss ih =>
      rw [List.cons_append, runStatements_cons_ok]
      constructor
      · rintro ⟨db₁, hs, h⟩
        obtain ⟨db₂, hss, hrest⟩ := ih.mp h
        exact ⟨db₂, runStatements_cons_ok.mpr ⟨db₁, hs, hss⟩, hrest⟩
      · rintro ⟨db₂, h, hrest⟩
        obtain ⟨db₁, hs, hss⟩ := runStatements_cons_ok.mp h
        exact ⟨db₁, hs, ih.mpr ⟨db₂, hss, hrest⟩⟩

/-- A run that has not failed is a run without a failure. -/
lemma runStatements_none_of_ok {failAt : Option ℕ} {ss : List Statement}
    (h : runStatements failAt ss db = .ok db') : runStatements none ss db = .ok db' := by
  induction ss generalizing failAt db with
  | nil => cases failAt <;> exact h
  | cons s ss ih =>
      match failAt, h with
      | none, h => exact h
      | some (n + 1), h =>
          obtain ⟨db₁, hs, hss⟩ := Run.exists_of_bind_eq_ok h
          exact runStatements_cons_ok.mpr ⟨db₁, hs, ih hss⟩

/-- The statement changes no table but this one. -/
def WritesOnly (t : Table) (s : Statement) : Prop :=
  ∀ ⦃db db' : Database⦄, s db = .ok db' → ∀ u, u ≠ t → db' u = db u

lemma WritesOnly.run {ts : List Table} {ss : List Statement} (h : List.Forall₂ WritesOnly ts ss)
    (hrun : runStatements none ss db = .ok db') {u : Table} (hu : u ∉ ts) : db' u = db u := by
  induction h generalizing db with
  | nil =>
      obtain rfl := Except.ok.inj hrun
      rfl
  | cons hs _ ih =>
      rw [List.mem_cons, not_or] at hu
      obtain ⟨db₁, hfirst, hrest⟩ := runStatements_cons_ok.mp hrun
      rw [ih hrest hu.2, hs hfirst u hu.1]

/-- The states around the one statement that writes a table. -/
lemma WritesOnly.split {ts : List Table} {ss : List Statement} (h : List.Forall₂ WritesOnly ts ss)
    (hrun : runStatements none ss db = .ok db') {i : ℕ} {s : Statement} {t : Table} (hs : ss[i]? = some s)
    (ht : t ∉ ts.eraseIdx i) :
    ∃ db₁ db₂, s db₁ = .ok db₂ ∧ db₁ t = db t ∧ db' t = db₂ t ∧ ∀ u ∉ ts.take i, db₁ u = db u := by
  induction h generalizing db i with
  | nil => cases hs
  | @cons t' s' ts ss hfirst hss ih =>
      obtain ⟨db₁, hs', hrest⟩ := runStatements_cons_ok.mp hrun
      cases i with
      | zero =>
          obtain rfl : s' = s := by simpa using hs
          refine ⟨db, db₁, hs', rfl, WritesOnly.run hss hrest (by simpa using ht), fun u _ => rfl⟩
      | succ i =>
          rw [List.eraseIdx_cons_succ, List.mem_cons, not_or] at ht
          obtain ⟨db₂, db₃, hstep, hbefore, hafter, hkept⟩ := ih hrest (by simpa using hs) ht.2
          refine ⟨db₂, db₃, hstep, by rw [hbefore, hfirst hs' t ht.1], hafter, fun u hu => ?_⟩
          rw [List.take_succ_cons, List.mem_cons, not_or] at hu
          rw [hkept u hu.2, hfirst hs' u hu.1]

/-- The statement leaves a reading of the database as it is. -/
def Keeps {β : Type} (f : Database → β) (s : Statement) : Prop :=
  ∀ ⦃db db' : Database⦄, s db = .ok db' → f db' = f db

lemma Keeps.run {β : Type} {f : Database → β} {ss : List Statement} (h : ∀ s ∈ ss, Keeps f s)
    (hrun : runStatements none ss db = .ok db') : f db' = f db := by
  induction ss generalizing db with
  | nil =>
      obtain rfl := Except.ok.inj hrun
      rfl
  | cons s ss ih =>
      obtain ⟨db₁, hs, hss⟩ := runStatements_cons_ok.mp hrun
      rw [ih (fun s' hs' => h s' (List.mem_cons_of_mem _ hs')) hss, h s List.mem_cons_self hs]

/-- A reading of tables that the statement does not write. -/
lemma WritesOnly.keeps {β : Type} {f : Database → β} {t : Table} {s : Statement} (h : WritesOnly t s)
    (hf : ∀ db db' : Database, (∀ u, u ≠ t → db' u = db u) → f db' = f db) : Keeps f s :=
  fun db db' hs => hf db db' (h hs)

/-! ## Each statement -/

lemma liftViolation_ok {α : Type} {x : Except Violation α} {a : α} :
    liftViolation x = .ok a ↔ x = .ok a := by
  cases x with
  | error e => simp [liftViolation, Except.mapError]
  | ok b => simp [liftViolation, Except.mapError]

lemma insertRows_ok {now : Text} {t : Table} {rows : List Dict}
    (h : insertRows env now t rows db = .ok db') :
    ∃ built, rows.mapM (buildRow env.sqlite env.codec now (insertColumns t)) = .ok built ∧
      db' = Function.update db t (db t ++ built) := by
  obtain ⟨built, hbuilt, hinsert⟩ := Run.exists_of_bind_eq_ok h
  exact ⟨built, hbuilt, Schema.insertAll_eq_update (liftViolation_ok.mp hinsert)⟩

lemma writesOnly_insertRows (now : Text) (t : Table) (rows : List Dict) :
    WritesOnly t (insertRows env now t rows) := by
  intro db db' h u hu
  obtain ⟨built, -, rfl⟩ := insertRows_ok h
  exact Function.update_of_ne hu _ _

lemma writesOnly_writeSetting (now key value : Text) :
    WritesOnly .settings (writeSetting env now key value) := by
  intro db db' h u hu
  exact Schema.upsert_of_ne (liftViolation_ok.mp h) hu

lemma writesOnly_updateWhere {t : Table} {p : Row → Bool} {f : Row → Row}
    (h : env.schema.updateWhere t p f db = .ok db') {u : Table} (hu : u ≠ t) : db' u = db u := by
  rw [Schema.updateWhere_eq_update h]
  exact Function.update_of_ne hu _ _

lemma writesOnly_advanceCoreIntentRevision (now : Text) :
    WritesOnly .settings (advanceCoreIntentRevision env now) := by
  intro db db' h u hu
  unfold advanceCoreIntentRevision at h
  cases hrow : settingRow db coreIntentRevisionKey with
  | none =>
      rw [hrow] at h
      cases h
  | some row =>
      rw [hrow] at h
      dsimp only at h
      split at h
      · obtain ⟨-, h⟩ := Run.guard_eq_ok.mp h
        obtain ⟨-, h⟩ := Run.guard_eq_ok.mp h
        exact writesOnly_updateWhere (liftViolation_ok.mp h) hu
      · cases h

lemma writesOnly_ensureRouting (now : Text) : WritesOnly .routingGlobalState (ensureRouting env now) := by
  intro db db' h u hu
  unfold ensureRouting at h
  split_ifs at h
  · obtain rfl := Except.ok.inj h
    rfl
  · rw [Schema.insert_ok (liftViolation_ok.mp h)]
    exact Function.update_of_ne hu _ _

lemma writesOnly_updateRouting (now : Text) (routing : Dict) (preserved : Option Text) :
    WritesOnly .routingGlobalState (updateRouting env now routing preserved) := by
  intro db db' h u hu
  obtain ⟨db₁, hensure, h⟩ := Run.exists_of_bind_eq_ok h
  obtain ⟨cells, -, h⟩ := Run.exists_of_bind_eq_ok h
  obtain ⟨-, h⟩ := Run.guard_eq_ok.mp h
  rw [writesOnly_updateWhere (liftViolation_ok.mp h) hu, writesOnly_ensureRouting now hensure u hu]

lemma writesOnly_importRouting (now : Text) (routing : Option Dict) (localRow : Option Row) :
    WritesOnly .routingGlobalState (importRouting env now routing localRow) := by
  intro db db' h u hu
  unfold importRouting at h
  split at h
  · exact writesOnly_updateRouting _ _ _ h u hu
  · exact writesOnly_updateRouting _ _ _ h u hu
  · obtain rfl := Except.ok.inj h
    rfl

lemma writesOnly_advanceSelectionRevision (now before : Text) (expected : ℤ) :
    WritesOnly .settings (advanceSelectionRevision env now before expected) := by
  intro db db' h u hu
  unfold advanceSelectionRevision at h
  split_ifs at h
  · obtain rfl := Except.ok.inj h
    rfl
  · obtain ⟨current, -, h⟩ := Run.exists_of_bind_eq_ok h
    obtain ⟨-, h⟩ := Run.guard_eq_ok.mp h
    exact writesOnly_writeSetting _ _ _ h u hu

lemma writesOnly_markReconcile (now : Text) : WritesOnly .routingGlobalState (markReconcile env now) := by
  intro db db' h u hu
  simp only [markReconcile] at h
  split_ifs at h
  · exact writesOnly_updateWhere (liftViolation_ok.mp h) hu
  · obtain rfl := Except.ok.inj h
    rfl

lemma writesOnly_writeGenerationMarker (now : Text) :
    WritesOnly .settings (writeGenerationMarker env now) :=
  fun _ _ h => writesOnly_writeSetting _ _ _ h

lemma writesOnly_writeReceipt (now operationId fingerprint : Text) (result : ImportResult) :
    WritesOnly .settings (writeReceipt env now operationId fingerprint result) := by
  intro db db' h u hu
  rw [Schema.insert_ok (liftViolation_ok.mp h)]
  exact Function.update_of_ne hu _ _

/-- The tables that `writeStatements` writes, in its order. -/
def writtenTables : List Table :=
  [.settings, .settings, .modules, .subjects, .subjectLan, .subjectDocker, .subjectHost, .subjectFwrouter,
    .servers, .serverCustomHttpsProxy, .routingGlobalState, .serverPreferences, .serverPingState,
    .subjectUserOverrides, .subjectServerOverrides, .subscriptionState, .rulesState, .rulesMetadata,
    .settings, .routingGlobalState, .settings]

lemma writesOnly_writeStatements (call : Call) (plan : Plan) (revision : ℤ) (before : Database) :
    List.Forall₂ WritesOnly writtenTables (writeStatements env call plan revision before) := by
  have hsetting := @writesOnly_writeSetting env
  refine .cons (writesOnly_insertRows _ _ _) (.cons (hsetting _ _ _) ?_)
  iterate 8 refine .cons (writesOnly_insertRows _ _ _) ?_
  refine .cons (writesOnly_importRouting _ _ _) ?_
  iterate 7 refine .cons (writesOnly_insertRows _ _ _) ?_
  exact .cons (writesOnly_advanceSelectionRevision _ _ _) (.cons (writesOnly_markReconcile _)
    (.cons (writesOnly_writeGenerationMarker _) .nil))

/-! ## Emptying the tables -/

/-- The database after the deletes. -/
def cleared (env : Env) (db : Database) : Database :=
  clearedTables.foldl (fun db t => env.schema.delete t (fun _ => true) db) db

lemma runStatements_clears (ts : List Table) :
    runStatements none (ts.map (clear env)) db =
      .ok (ts.foldl (fun db t => env.schema.delete t (fun _ => true) db) db) := by
  induction ts generalizing db with
  | nil => rfl
  | cons t ts ih => exact ih

lemma foldl_delete_of_not_fed {ts : List Table} {u : Table}
    (h : ∀ t ∈ ts, feeds foreignKeys t 5 u = false) :
    ts.foldl (fun db t => env.schema.delete t (fun _ => true) db) db u = db u := by
  induction ts generalizing db with
  | nil => rfl
  | cons t ts ih =>
      rw [List.foldl_cons, ih fun t' ht' => h t' (List.mem_cons_of_mem _ ht')]
      exact Schema.delete_eq_of_not_feeds (h t List.mem_cons_self)

/-- A table that refers to none of the emptied ones is as it was. -/
lemma cleared_of_not_fed {u : Table} (h : ∀ t ∈ clearedTables, feeds foreignKeys t 5 u = false) :
    cleared env db u = db u := foldl_delete_of_not_fed h

lemma foldl_delete_of_nil {ts : List Table} {u : Table} (h : db u = []) :
    ts.foldl (fun db t => env.schema.delete t (fun _ => true) db) db u = [] := by
  induction ts generalizing db with
  | nil => exact h
  | cons t ts ih => exact ih (Schema.delete_eq_nil h)

lemma cleared_of_mem {u : Table} (h : u ∈ clearedTables) : cleared env db u = [] := by
  obtain ⟨ts₁, ts₂, hsplit⟩ := List.append_of_mem h
  rw [cleared, hsplit, List.foldl_append, List.foldl_cons]
  exact foldl_delete_of_nil (Schema.delete_all_self (Nat.succ_pos 3))

/-! ## Inversion -/

/-- The key of the receipt of a call. -/
def receiptKey (call : Call) (fingerprint : Text) : Text :=
  receiptPrefix ++ call.operationId.getD fingerprint

/-- The call has passed every check. -/
structure Accepted (env : Env) (call : Call) (db : Database) (fingerprint : Text) (plan : Plan) : Prop where
  admitted : call.admitted = true
  valid : validationErrors env.unicode env.reprText call.snapshot = []
  databaseOk : call.databaseOk = true
  digest : env.fingerprint call.snapshot call.normalizeRuntimeState = some fingerprint
  operationId : validOperationId (call.operationId.getD fingerprint) = true
  fresh : settingRow db (receiptKey call fingerprint) = none
  idle : hasRunningJob db = false
  capacity : receiptCount db < 4096
  prepared : preparePlan env call db = .ok (.ok plan)

/-- The call finds the receipt of its own request. -/
structure Recorded (env : Env) (call : Call) (db : Database) (fingerprint : Text) (result : ImportResult) :
    Prop where
  digest : env.fingerprint call.snapshot call.normalizeRuntimeState = some fingerprint
  receipt : ∃ row s, settingRow db (receiptKey call fingerprint) = some row ∧ row "value_json" = .text s ∧
    env.decodeReceipt s = some (fingerprint, result)

/-- What a call can do. -/
inductive Outcome (env : Env) (call : Call) (db : Database) : Reply × Database → Prop
  | rejected {reply : Reply} (hreply : reply.ok = false) : Outcome env call db (reply, db)
  | replayed {fingerprint : Text} {result : ImportResult} (h : Recorded env call db fingerprint result) :
      Outcome env call db (.replayed result, db)
  | imported {fingerprint : Text} {plan : Plan} {result : ImportResult} {db' : Database}
      (haccepted : Accepted env call db fingerprint plan)
      (hrun : importPlan env call (call.operationId.getD fingerprint) fingerprint plan db = .ok (result, db')) :
      Outcome env call db (.imported result, db')

lemma importTransaction_outcome {call : Call} {fingerprint : Text} {done : Reply × Database}
    (hdigest : env.fingerprint call.snapshot call.normalizeRuntimeState = some fingerprint)
    (hplan : ∀ plan, settingRow db (receiptKey call fingerprint) = none → hasRunningJob db = false →
      receiptCount db < 4096 → preparePlan env call db = .ok (.ok plan) →
      Accepted env call db fingerprint plan)
    (h : importTransaction env call (call.operationId.getD fingerprint) fingerprint db = .ok done) :
    Outcome env call db done := by
  unfold importTransaction at h
  cases hrow : settingRow db (receiptPrefix ++ call.operationId.getD fingerprint) with
  | some row =>
      rw [hrow] at h
      dsimp only at h
      cases hcell : row "value_json" with
      | text s =>
          rw [hcell] at h
          dsimp only at h
          cases hdecode : env.decodeReceipt s with
          | none =>
              rw [hdecode] at h
              cases h
          | some stored =>
              rw [hdecode] at h
              dsimp only at h
              split_ifs at h with hstored
              · obtain rfl := Except.ok.inj h
                exact .rejected rfl
              · obtain rfl := Except.ok.inj h
                refine .replayed ⟨hdigest, row, s, hrow, hcell, ?_⟩
                rw [hdecode, ← not_not.mp hstored]
      | null => rw [hcell] at h; cases h
      | int n => rw [hcell] at h; cases h
      | real r => rw [hcell] at h; cases h
  | none =>
      rw [hrow] at h
      dsimp only at h
      split_ifs at h with hjob hcount
      · obtain rfl := Except.ok.inj h
        exact .rejected rfl
      · obtain rfl := Except.ok.inj h
        exact .rejected rfl
      · obtain ⟨prepared, hprepared, h⟩ := Run.exists_of_bind_eq_ok h
        cases prepared with
        | error code =>
            obtain rfl := Except.ok.inj h
            exact .rejected rfl
        | ok plan =>
            obtain ⟨⟨result, db'⟩, hrun, h⟩ := Run.exists_of_bind_eq_ok h
            obtain rfl := Except.ok.inj h
            exact .imported (hplan plan hrow (by simpa using hjob) (by omega) hprepared) hrun

/-- **What a call can do.**  It is rejected or replayed and leaves the database as it was, or it is
accepted and has executed all its statements. -/
theorem import_outcome (call : Call) (db : Database) :
    Outcome env call db (importControlPlaneSnapshot env call db) := by
  simp only [importControlPlaneSnapshot]
  by_cases hadmitted : call.admitted = false
  · rw [if_pos hadmitted]
    exact .rejected rfl
  rw [if_neg hadmitted]
  split
  · exact .rejected rfl
  by_cases herrors : validationErrors env.unicode env.reprText call.snapshot ≠ []
  · rw [if_pos herrors]
    exact .rejected rfl
  rw [if_neg herrors]
  cases hdone : importValidated env call db with
  | error e => exact .rejected rfl
  | ok done =>
      unfold importValidated at hdone
      split_ifs at hdone with hdatabase
      · obtain rfl := Except.ok.inj hdone
        exact .rejected rfl
      cases hdigest : env.fingerprint call.snapshot call.normalizeRuntimeState with
      | none =>
          rw [hdigest] at hdone
          cases hdone
      | some fingerprint =>
          rw [hdigest] at hdone
          dsimp only at hdone
          split_ifs at hdone with hid
          · obtain rfl := Except.ok.inj hdone
            exact .rejected rfl
          · exact importTransaction_outcome hdigest
              (fun plan hfresh hidle hcapacity hprepared => ⟨by simpa using hadmitted,
                by simpa using herrors, by simpa using hdatabase, hdigest, by simpa using hid, hfresh,
                hidle, hcapacity, hprepared⟩) hdone

/-- What a plan is made of. -/
structure Planned (env : Env) (call : Call) (db : Database) (plan : Plan) : Prop where
  settings : ∃ rows checked, dictRows ((stateFromSnapshot call.snapshot).get "settings") = .ok rows ∧
    validateImportedDisplaySettings env.reprText rows = .ok (checked, plan.display) ∧
    plan.settings = checked.filter (importsSetting env)
  servers : dictRows ((stateFromSnapshot call.snapshot).get "servers") = .ok plan.servers
  subjects : ∃ rows, dictRows ((stateFromSnapshot call.snapshot).get "subjects") = .ok rows ∧
    mergeLegacyProviderDetailRows env.reprText (stateFromSnapshot call.snapshot)
      (rows.map (normalizedSubjectRow env.unicode env.reprText call.normalizeRuntimeState)) =
        .ok plan.subjects

lemma preparePlan_ok {call : Call} {plan : Plan} (h : preparePlan env call db = .ok (.ok plan)) :
    Planned env call db plan := by
  obtain ⟨rows, hrows, h⟩ := Run.exists_of_bind_eq_ok h
  obtain ⟨servers, hservers, h⟩ := Run.exists_of_bind_eq_ok h
  cases hdisplay : validateImportedDisplaySettings env.reprText rows with
  | error code =>
      rw [hdisplay] at h
      cases h
  | ok checked =>
      cases hrevision : readSelectionRevision env db with
      | error e =>
          rw [hdisplay, hrevision] at h
          cases h
      | ok revision =>
          rw [hdisplay, hrevision] at h
          dsimp only at h
          split_ifs at h
          · cases h
          cases hfiles : call.rulesFiles with
          | none =>
              rw [hfiles] at h
              cases h
          | some files =>
              rw [hfiles] at h
              obtain ⟨planned, hplan, h⟩ := Run.exists_of_bind_eq_ok h
              obtain rfl := Except.ok.inj (Except.ok.inj h)
              obtain ⟨modules, -, hplan⟩ := Run.exists_of_bind_eq_ok hplan
              obtain ⟨subjects, hsubjects, hplan⟩ := Run.exists_of_bind_eq_ok hplan
              obtain ⟨merged, hmerged, hplan⟩ := Run.exists_of_bind_eq_ok hplan
              iterate 7 obtain ⟨_, -, hplan⟩ := Run.exists_of_bind_eq_ok hplan
              obtain rfl := Except.ok.inj hplan
              exact ⟨⟨rows, checked.1, hrows, hdisplay, rfl⟩, hservers, subjects, hsubjects, hmerged⟩

/-- The states of an import that has succeeded. -/
lemma importPlan_ok {call : Call} {operationId fingerprint : Text} {plan : Plan} {result : ImportResult}
    (h : importPlan env call operationId fingerprint plan db = .ok (result, db')) :
    ∃ revision db₁ db₂, readSelectionRevision env db = .ok revision ∧
      advanceCoreIntentRevision env call.now db = .ok db₁ ∧
      runStatements none (writeStatements env call plan revision db)
        (env.schema.delete .settings dropsSetting (cleared env db₁)) = .ok db₂ ∧
      writeReceipt env call.now operationId fingerprint result db₂ = .ok db' := by
  obtain ⟨revision, hrevision, h⟩ := Run.exists_of_bind_eq_ok h
  obtain ⟨db₂, hrun, h⟩ := Run.exists_of_bind_eq_ok h
  obtain ⟨after, -, h⟩ := Run.exists_of_bind_eq_ok h
  obtain ⟨db₃, hreceipt, h⟩ := Run.exists_of_bind_eq_ok h
  obtain ⟨rfl, rfl⟩ := Prod.mk.inj (Except.ok.inj h)
  obtain ⟨-, hreceipt⟩ := Run.guard_eq_ok.mp hreceipt
  have hrun := runStatements_none_of_ok hrun
  rw [importStatements, List.cons_append] at hrun
  obtain ⟨db₁, hadvance, hrun⟩ := runStatements_cons_ok.mp hrun
  obtain ⟨db₄, hclears, hrun⟩ := runStatements_append_ok.mp hrun
  rw [runStatements_clears] at hclears
  obtain rfl := Except.ok.inj hclears
  obtain ⟨db₅, hdelete, hrun⟩ := runStatements_cons_ok.mp hrun
  obtain rfl := Except.ok.inj hdelete
  exact ⟨revision, db₁, db₂, hrevision, hadvance, hrun, hreceipt⟩

/-! ## Tables after an import -/

section Tables

variable {call : Call} {operationId fingerprint : Text} {plan : Plan} {result : ImportResult}

/-- An emptied table that one statement fills has the rows of that statement. -/
lemma importPlan_rows (h : importPlan env call operationId fingerprint plan db = .ok (result, db'))
    {i : ℕ} {t : Table} {rows : List Dict}
    (hi : ∀ revision, (writeStatements env call plan revision db)[i]? = some (insertRows env call.now t rows))
    (ht : t ∉ writtenTables.eraseIdx i) (hcleared : t ∈ clearedTables) :
    rows.mapM (buildRow env.sqlite env.codec call.now (insertColumns t)) = .ok (db' t) := by
  obtain ⟨revision, db₁, db₂, -, -, hrun, hreceipt⟩ := importPlan_ok h
  have hne : t ≠ .settings := by
    rintro rfl
    simp [clearedTables] at hcleared
  obtain ⟨db₃, db₄, hinsert, hbefore, hafter, -⟩ :=
    WritesOnly.split (writesOnly_writeStatements _ _ _ _) hrun (hi revision) ht
  obtain ⟨built, hbuilt, rfl⟩ := insertRows_ok hinsert
  have hempty : env.schema.delete .settings dropsSetting (cleared env db₁) t = [] :=
    Schema.delete_eq_nil (cleared_of_mem hcleared)
  rw [hbuilt, writesOnly_writeReceipt _ _ _ _ hreceipt t hne, hafter, Function.update_self, hbefore, hempty]
  rfl

/-- A table that no statement writes has what the deletes have left of it. -/
lemma importPlan_unwritten (h : importPlan env call operationId fingerprint plan db = .ok (result, db')) :
    ∃ db₁, (∀ u, u ≠ .settings → db₁ u = db u) ∧ ∀ t ∉ writtenTables, db' t = cleared env db₁ t := by
  obtain ⟨revision, db₁, db₂, -, hadvance, hrun, hreceipt⟩ := importPlan_ok h
  refine ⟨db₁, fun u hu => writesOnly_advanceCoreIntentRevision _ hadvance u hu, fun t ht => ?_⟩
  have hne : t ≠ .settings := by
    rintro rfl
    simp [writtenTables] at ht
  have hnot : feeds foreignKeys .settings 5 t = false := by
    cases t <;> first | rfl | exact absurd rfl hne
  rw [writesOnly_writeReceipt _ _ _ _ hreceipt t hne,
    WritesOnly.run (writesOnly_writeStatements _ _ _ _) hrun ht]
  exact Schema.delete_eq_of_not_feeds hnot

end Tables

end FwRouter.Transfer
