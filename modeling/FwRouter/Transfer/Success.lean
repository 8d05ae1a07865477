import FwRouter.Transfer.Routing

/-!
# When an import succeeds

The statements of an import raise where a row is not admitted, has the key of another, or refers to
nothing.  A plan whose rows can be built and are admitted, table by table, runs through: every table is
empty when its rows come, and its parents are filled before it.
-/

namespace FwRouter.Transfer

open Py Relational

/-! ## Filling the tables -/

/-- The objects that are inserted into a table. -/
def insertedRows (plan : Plan) : Table → List Dict
  | .modules => plan.modules
  | .subjects => plan.subjects
  | .subjectLan => plan.subjects.filterMap (detailRow .subjectLan)
  | .subjectDocker => plan.subjects.filterMap (detailRow .subjectDocker)
  | .subjectHost => plan.subjects.filterMap (detailRow .subjectHost)
  | .subjectFwrouter => plan.subjects.filterMap (detailRow .subjectFwrouter)
  | .servers => plan.servers
  | .serverCustomHttpsProxy => plan.customHttpsProxy
  | .serverPreferences => plan.preferences
  | .serverPingState => plan.pingState
  | .subjectUserOverrides => plan.userOverrides
  | .subjectServerOverrides => plan.serverOverrides
  | .subscriptionState => if plan.subscription.isEmpty then [] else [plan.subscription]
  | .rulesState => [plan.rulesState]
  | .rulesMetadata => plan.rulesMetadata
  | _ => []

/-- The tables that are filled before the routing. -/
def firstTables : List Table :=
  [.modules, .subjects, .subjectLan, .subjectDocker, .subjectHost, .subjectFwrouter, .servers,
    .serverCustomHttpsProxy]

/-- The tables that are filled after it. -/
def lastTables : List Table :=
  [.serverPreferences, .serverPingState, .subjectUserOverrides, .subjectServerOverrides, .subscriptionState,
    .rulesState, .rulesMetadata]

/-- The rows of the tables that have been filled, and what was there of the others. -/
def filled (done : List Table) (rows base : Database) : Database := fun t => if t ∈ done then rows t else base t

/-- Every table of the list comes after its parents, and once. -/
def ordered? (done : List Table) : List Table → Bool
  | [] => true
  | t :: ts => decide (t ∉ done) && decide (t ∈ clearedTables) &&
      foreignKeys.all (fun ref => decide (ref.child ≠ t) ||
        decide (ref.parent ≠ .settings ∧ ref.parent ≠ .routingGlobalState ∧
          (ref.parent ∈ done ↔ ref.parent ∈ firstTables ++ lastTables))) && ordered? (t :: done) ts

variable {env : Env} {db db' base : Database} {now : Text} {plan : Plan} {rows : Database}

/-- The rows can be built and inserted. -/
structure Loadable (env : Env) (now : Text) (plan : Plan) (base rows : Database) (t : Table) : Prop where
  built : (insertedRows plan t).mapM (buildRow env.sqlite env.codec now (insertColumns t)) = .ok (rows t)
  insertable : Schema.Insertable env.schema (filled (firstTables ++ lastTables) rows base) t (rows t)

/-- The tables of the list are filled, the settings and the routing apart. -/
def Stage (done : List Table) (rows base db : Database) : Prop :=
  ∀ u, u ≠ .settings → u ≠ .routingGlobalState → db u = filled done rows base u

lemma insertRows_succeeds {t : Table} {dicts : List Dict} {built : List Row}
    (hbuilt : dicts.mapM (buildRow env.sqlite env.codec now (insertColumns t)) = .ok built)
    (hinsertable : Schema.Insertable env.schema db t built)
    (hnew : ∀ r ∈ built, ∀ s ∈ db t, env.schema.sameKey t r s = false ∧ env.schema.clash t r s = false) :
    insertRows env now t dicts db = .ok (Function.update db t (db t ++ built)) := by
  have hself : ∀ ref ∈ foreignKeys, ref.child = t → ref.parent ≠ t := by
    have hnone : ∀ ref ∈ foreignKeys, ref.child ≠ ref.parent := by decide
    rintro ref href rfl heq
    exact hnone ref href heq.symm
  rw [insertRows, hbuilt]
  exact liftViolation_ok.mpr (Schema.insertAll_of_insertable hself hinsertable hnew)

lemma insertRows_nil (env : Env) (now : Text) (t : Table) (db : Database) :
    insertRows env now t [] db = .ok db := rfl

lemma Stage.insert {done ts : List Table} {t : Table} (h : Stage done rows base db)
    (hordered : ordered? done (t :: ts) = true) (hempty : base t = [])
    (hload : Loadable env now plan base rows t) :
    ∃ db', insertRows env now t (insertedRows plan t) db = .ok db' ∧ Stage (t :: done) rows base db' ∧
      db' .settings = db .settings ∧ db' .routingGlobalState = db .routingGlobalState := by
  simp only [ordered?, Bool.and_eq_true, decide_eq_true_eq, List.all_eq_true, Bool.or_eq_true] at hordered
  obtain ⟨⟨⟨hnew, hcleared⟩, hparents⟩, -⟩ := hordered
  have hsettings : t ≠ .settings := by
    rintro rfl
    simp [clearedTables] at hcleared
  have hrouting : t ≠ .routingGlobalState := by
    rintro rfl
    simp [clearedTables] at hcleared
  have hrows : db t = [] := by rw [h t hsettings hrouting, filled, if_neg hnew, hempty]
  have hreferences : ∀ r, env.schema.satisfied db t r =
      env.schema.satisfied (filled (firstTables ++ lastTables) rows base) t r := by
    refine fun r => Schema.satisfied_congr fun ref href hchild => ?_
    obtain ⟨hs, hr, hiff⟩ := (hparents ref href).resolve_left fun hne => hne hchild
    rw [h _ hs hr, filled, filled]
    exact if_congr hiff rfl rfl
  obtain ⟨hadmitted, hdistinct, hwhole⟩ := hload.insertable
  refine ⟨_, insertRows_succeeds hload.built ⟨hadmitted, hdistinct, fun r hr => ?_⟩ ?_, ?_, ?_, ?_⟩
  · rw [hreferences]
    exact hwhole r hr
  · intro r _ s hs
    rw [hrows] at hs
    cases hs
  · intro u hus hur
    by_cases hu : u = t
    · subst hu
      rw [Function.update_self, hrows, filled, if_pos List.mem_cons_self, List.nil_append]
    · rw [Function.update_of_ne hu, h u hus hur, filled, filled]
      exact if_congr (by simp [hu]) rfl rfl
  · exact Function.update_of_ne hsettings.symm _ _
  · exact Function.update_of_ne hrouting.symm _ _

lemma Stage.run {ts done : List Table} (h : Stage done rows base db) (hordered : ordered? done ts = true)
    (hempty : ∀ t ∈ clearedTables, base t = []) (hload : ∀ t ∈ ts, Loadable env now plan base rows t) :
    ∃ db', runStatements none (ts.map fun t => insertRows env now t (insertedRows plan t)) db = .ok db' ∧
      Stage (ts.reverse ++ done) rows base db' ∧ db' .settings = db .settings ∧
      db' .routingGlobalState = db .routingGlobalState := by
  induction ts generalizing done db with
  | nil => exact ⟨db, rfl, h, rfl, rfl⟩
  | cons t ts ih =>
      have hcleared : t ∈ clearedTables := by
        simp only [ordered?, Bool.and_eq_true, decide_eq_true_eq] at hordered
        exact hordered.1.1.2
      obtain ⟨db₁, hfirst, hstage, hsettings, hrouting⟩ :=
        h.insert hordered (hempty t hcleared) (hload t List.mem_cons_self)
      rw [ordered?, Bool.and_eq_true] at hordered
      obtain ⟨db', hrest, hstage', hsettings', hrouting'⟩ :=
        ih hstage hordered.2 fun u hu => hload u (List.mem_cons_of_mem _ hu)
      refine ⟨db', runStatements_cons_ok.mpr ⟨db₁, hfirst, hrest⟩, ?_, hsettings'.trans hsettings,
        hrouting'.trans hrouting⟩
      rwa [List.reverse_cons, List.append_assoc]

/-- The rows of a table, where they can be built. -/
def builtRows (env : Env) (now : Text) (plan : Plan) : Database := fun t =>
  (((insertedRows plan t).mapM (buildRow env.sqlite env.codec now (insertColumns t))).toOption).getD []

/-- Whether the rows of all tables can be built and inserted, whatever else there is. -/
def loadable? (env : Env) (now : Text) (plan : Plan) : Bool :=
  (firstTables ++ lastTables).all fun t =>
    ((insertedRows plan t).mapM (buildRow env.sqlite env.codec now (insertColumns t))).isOk &&
      (builtRows env now plan t).all (env.schema.admits t) &&
      decide ((builtRows env now plan t).Pairwise fun r s =>
        env.schema.sameKey t s r = false ∧ env.schema.clash t s r = false) &&
      (builtRows env now plan t).all
        (env.schema.satisfied (filled (firstTables ++ lastTables) (builtRows env now plan) fun _ => []) t)

lemma loadable_of_check (h : loadable? env now plan = true) {t : Table} (ht : t ∈ firstTables ++ lastTables) :
    Loadable env now plan base (builtRows env now plan) t := by
  have hcheck := List.all_eq_true.mp h t ht
  simp only [Bool.and_eq_true, decide_eq_true_eq, List.all_eq_true] at hcheck
  obtain ⟨⟨⟨hbuilt, hadmitted⟩, hdistinct⟩, hreferences⟩ := hcheck
  refine ⟨?_, hadmitted, hdistinct, fun r hr => Schema.satisfied_mono (fun u => ?_) (hreferences r hr)⟩
  · rw [builtRows]
    cases hrows : (insertedRows plan t).mapM (buildRow env.sqlite env.codec now (insertColumns t)) with
    | ok rows => rfl
    | error e =>
        rw [hrows] at hbuilt
        cases hbuilt
  · rw [filled, filled]
    split_ifs
    · exact List.Subset.refl _
    · exact List.nil_subset _

/-! ## The whole import -/

section Import

variable {call : Call} {operationId fingerprint : Text} {revision : ℤ} {db₁ db₂ : Database}

/-- The database when the deletes are done. -/
def emptied (env : Env) (db : Database) : Database := env.schema.delete .settings dropsSetting (cleared env db)

lemma emptied_eq_nil {t : Table} (ht : t ∈ clearedTables) : emptied env db t = [] :=
  Schema.delete_eq_nil (cleared_of_mem ht)

/-- The rows of the routing, when the deletes are done. -/
lemma emptied_routing (env : Env) (db : Database) : ∃ f : Row → Row, (∀ r, Detached r (f r)) ∧
    emptied env db .routingGlobalState = (db .routingGlobalState).map f := by
  obtain ⟨f, hf, hcleared⟩ := @routing_foldl_delete env db clearedTables (by decide)
  obtain ⟨g, hg, hsettings⟩ := @routing_delete env (cleared env db) .settings (by decide) dropsSetting
  refine ⟨g ∘ f, fun r => (hf r).trans (hg (f r)), ?_⟩
  rw [emptied, hsettings, cleared, hcleared, List.map_map]

lemma routingRow_of_map {f : Row → Row} (hf : ∀ r, Detached r (f r))
    (h : db' .routingGlobalState = (db .routingGlobalState).map f) : routingRow db' = (routingRow db).map f := by
  rw [routingRow, h, routingRow_map fun r => (hf r).other "id" (by decide), ← routingRow]

/-! ## The routing -/

/-- The row that `update_imported_routing_intent` writes. -/
def routedRow (active : Cell) (cells : List (String × Cell)) (r : Row) : Row := fun c =>
  if c = "active_auto_server_id" then active else (cells.lookup c).getD (r c)

lemma lookup_cells_of_mem {columns : List Column} {row : Dict} {cells : List (String × Cell)}
    (h : columns.mapM (Column.cell env.sqlite env.codec now row) = .ok cells) {c : String}
    (hc : c ∈ columns.map Column.name) : ∃ cell, cells.lookup c = some cell := by
  have hall := Run.mapM_eq_ok.mp h
  clear h
  induction hall with
  | nil => cases hc
  | @cons d cell columns cells hd _ ih =>
      have hname : cell.1 = d.name := cell_fst hd
      rw [List.lookup_cons]
      by_cases heq : c = cell.1
      · rw [beq_iff_eq.mpr heq]
        exact ⟨cell.2, rfl⟩
      · rw [beq_false_of_ne heq]
        rw [List.map_cons, List.mem_cons, ← hname] at hc
        exact ih (hc.resolve_left heq)

/-- What has been detached is written again. -/
lemma routedRow_of_detached {routing : Dict} {cells : List (String × Cell)} {active : Cell} {r r' : Row}
    (hcells : routingColumns.mapM (Column.cell env.sqlite env.codec now routing) = .ok cells)
    (h : Detached r r') : routedRow active cells r' = routedRow active cells r := by
  funext c
  by_cases hc : c ∈ serverColumns
  · simp only [serverColumns, List.mem_cons, List.not_mem_nil, or_false] at hc
    have hset : ∀ c ∈ routingColumns.map Column.name, c ≠ "active_auto_server_id" →
        routedRow active cells r' c = routedRow active cells r c := by
      intro c hc hne
      obtain ⟨cell, hcell⟩ := lookup_cells_of_mem hcells hc
      rw [routedRow, routedRow, if_neg hne, if_neg hne, hcell]
      rfl
    rcases hc with rfl | rfl | rfl
    · exact hset _ (by decide) (by decide)
    · exact hset _ (by decide) (by decide)
    · rfl
  · rw [routedRow, routedRow, h.other c hc]

lemma importRouting_local (row : Row) : importRouting env now none (some row) db =
    updateRouting env now (rowDict routingFields row)
      (strippedId env.reprText (row "active_auto_server_id")) db := rfl

lemma updateRouting_succeeds {routing : Dict} {preserved : Option Text} {cells : List (String × Cell)}
    (hsome : (routingRow db).isSome)
    (hpreserved : ∀ id ∈ preserved, (db .servers).any (fun r => decide (r "server_id" = .text id)) = true)
    (hcells : routingColumns.mapM (Column.cell env.sqlite env.codec now routing) = .ok cells)
    (hadmitted : ∀ r ∈ db .routingGlobalState, r "id" = .int 1 → env.schema.admits .routingGlobalState
      (routedRow (preserved.elim ((activeAutoServerId db).getD .null) .text) cells r) = true)
    (hreferences : ∀ r ∈ db .routingGlobalState, r "id" = .int 1 → env.schema.satisfied db .routingGlobalState
      (routedRow (preserved.elim ((activeAutoServerId db).getD .null) .text) cells r) = true) :
    ∃ db', updateRouting env now routing preserved db = .ok db' := by
  have hmissing : (preserved.any fun id => !(db .servers).any fun r => decide (r "server_id" = .text id)) =
      false := by
    cases preserved with
    | none => rfl
    | some id => simp only [Option.any_some, hpreserved id rfl, Bool.not_true]
  have hupdate := Schema.updateWhere_of_admitted (S := env.schema) (p := fun r => decide (r "id" = .int 1))
    (f := routedRow (preserved.elim ((activeAutoServerId db).getD .null) .text) cells)
    (fun r hr hid => hadmitted r hr (of_decide_eq_true hid))
    (fun r hr hid => hreferences r hr (of_decide_eq_true hid))
  have hrun : updateRouting env now routing preserved db = liftViolation (env.schema.updateWhere
      .routingGlobalState (fun r => decide (r "id" = .int 1))
      (routedRow (preserved.elim ((activeAutoServerId db).getD .null) .text) cells) db) := by
    simp only [updateRouting, ensureRouting, hsome, if_true, hcells, bind, Except.bind, hmissing]
    rfl
  exact ⟨_, hrun.trans (liftViolation_ok.mpr hupdate)⟩

/-! ## The settings -/

lemma readSelectionRevision_congr (h : settingRow db Selection.selectionRevisionKey =
    settingRow db' Selection.selectionRevisionKey) : readSelectionRevision env db = readSelectionRevision env db' := by
  rw [readSelectionRevision, readSelectionRevision, h]

lemma kept_revision : Kept Selection.selectionRevisionKey := Or.inl (by simp [keptSettings])

lemma kept_provenance : Kept Selection.selectionProvenanceKey := Or.inl (by simp [keptSettings])

lemma kept_receipt (operationId : Text) : Kept (receiptPrefix ++ operationId) := by
  refine Or.inr ?_
  rw [isReceipt, List.isPrefixOf_iff_prefix]
  exact List.prefix_append _ _

/-- Before the statements that write, the kept keys are as they were. -/
lemma settingRow_emptied (hadvance : advanceCoreIntentRevision env now db = .ok db₁) {k : Text} (hk : Kept k)
    (hcore : k ≠ coreIntentRevisionKey) : settingRow (emptied env db₁) k = settingRow db k := by
  have hcleared : cleared env db₁ .settings = db₁ .settings := cleared_of_not_fed (by decide)
  rw [emptied, settingRow_deleteSettings hk, settingRow, hcleared, ← settingRow,
    settingRow_advanceCoreIntentRevision hadvance hcore]

lemma readSelectionRevision_writeSetting (hloads : env.codec.loads (Value.intText revision) = some (.int revision))
    (hrevision : 0 ≤ revision)
    (h : writeSetting env now Selection.selectionRevisionKey (Value.intText revision) db = .ok db') :
    readSelectionRevision env db' = .ok revision := by
  obtain ⟨r, hr, hvalue⟩ := settingRow_writeSetting_self h
  rw [readSelectionRevision, hr]
  dsimp only
  rw [hvalue, cellJson, hloads, Selection.readJsonInt, if_neg (not_lt.mpr hrevision)]
  rfl

lemma nonneg_of_readSelectionRevision (h : readSelectionRevision env db = .ok revision) : 0 ≤ revision := by
  unfold readSelectionRevision at h
  split at h
  · exact (Except.ok.inj h).le
  · unfold Selection.readJsonInt at h
    split at h
    · split_ifs at h with hneg
      · cases h
      · exact (Except.ok.inj h) ▸ not_lt.mp hneg
    · cases h

/-- The revision is read after the rows have been inserted. -/
lemma advanceSelectionRevision_succeeds {before : Text}
    (hloads : env.codec.loads (Value.intText (revision + 1)) = some (.int (revision + 1)))
    (hrevision : readSelectionRevision env db = .ok revision) :
    ∃ db', advanceSelectionRevision env now before revision db = .ok db' ∧
      ∃ n, readSelectionRevision env db' = .ok n := by
  unfold advanceSelectionRevision
  split_ifs
  · exact ⟨db, rfl, revision, hrevision⟩
  · obtain ⟨db', hwrite⟩ :=
      writeSetting_succeeds env now Selection.selectionRevisionKey (Value.intText (revision + 1)) db
    refine ⟨db', ?_, revision + 1, readSelectionRevision_writeSetting hloads
      (by linarith [nonneg_of_readSelectionRevision hrevision]) hwrite⟩
    rw [hrevision]
    exact (if_neg (not_not.mpr rfl)).trans hwrite

/-- The receipt of an operation that has none is written. -/
lemma writeReceipt_succeeds {result : ImportResult} (hfresh : settingRow db (receiptPrefix ++ operationId) = none) :
    ∃ db', writeReceipt env now operationId fingerprint result db = .ok db' := by
  have hnew : ∀ s ∈ db .settings, s "key" ≠ .text (receiptPrefix ++ operationId) := by
    intro s hs hkey
    exact absurd (decide_eq_true hkey) (List.find?_eq_none.mp hfresh s hs)
  refine ⟨_, liftViolation_ok.mpr (Schema.insert_of_admitted rfl (fun s hs => ⟨?_, rfl⟩)
    (satisfied_settings _ _ _))⟩
  rw [sameKey_settings rfl]
  exact decide_eq_false (hnew s hs)

lemma settingRow_advanceSelectionRevision_of_ne {before : Text} {k : Text}
    (h : advanceSelectionRevision env now before revision db = .ok db')
    (hk : k ≠ Selection.selectionRevisionKey) : settingRow db' k = settingRow db k := by
  unfold advanceSelectionRevision at h
  split_ifs at h
  · obtain rfl := Except.ok.inj h
    rfl
  · obtain ⟨current, -, h⟩ := Run.exists_of_bind_eq_ok h
    obtain ⟨-, h⟩ := Run.guard_eq_ok.mp h
    exact settingRow_writeSetting_of_ne h hk

/-- The key of a receipt is no key with another first letter. -/
lemma receipt_ne {k : Text} (hk : k.head? ≠ some 'm') : receiptPrefix ++ operationId ≠ k := by
  rintro rfl
  exact hk rfl

/-- An import whose statements run through is recorded. -/
lemma importPlan_of_run (hunbroken : call.failAt = none) (hread : readSelectionRevision env db = .ok revision)
    (hrun : runStatements none (importStatements env call plan revision db) db = .ok db')
    {n : ℤ} (hlater : readSelectionRevision env db' = .ok n)
    (hfresh : settingRow db' (receiptPrefix ++ operationId) = none) :
    ∃ result db', importPlan env call operationId fingerprint plan db = .ok (result, db') := by
  let result : ImportResult := {
    operationId := operationId
    normalizeRuntimeState := call.normalizeRuntimeState
    subjectsCount := plan.subjects.length
    serversCount := plan.servers.length
    modulesCount := plan.modules.length
    settingsCount := plan.settings.length
    rulesFiles := plan.files
    selectionReconcileRequired := reconcileRequired env db'
    selectionRevision := n }
  obtain ⟨db'', hreceipt⟩ := @writeReceipt_succeeds env db' call.now operationId fingerprint result hfresh
  refine ⟨result, db'', ?_⟩
  simp only [importPlan, hread, hunbroken, hrun, hlater, bind, Except.bind]
  rw [if_neg (Option.some_ne_none _).symm, hreceipt]
  rfl

/-- What makes the statements of an import run through. -/
structure Runs (env : Env) (call : Call) (plan : Plan) (db : Database) (rows : Database) (revision : ℤ)
    (db₁ db₂ : Database) : Prop where
  unbroken : call.failAt = none
  read : readSelectionRevision env db = .ok revision
  next : env.codec.loads (Value.intText (revision + 1)) = some (.int (revision + 1))
  core : advanceCoreIntentRevision env call.now db = .ok db₁
  imported : ∀ row ∈ plan.settings, importsSetting env row = true
  settings : insertRows env call.now .settings plan.settings (emptied env db₁) = .ok db₂
  tables : ∀ t ∈ firstTables ++ lastTables, Loadable env call.now plan (emptied env db₁) rows t
  routing : ∀ db', Stage firstTables.reverse rows (emptied env db₁) db' →
    db' .routingGlobalState = emptied env db₁ .routingGlobalState →
    ∃ db'', importRouting env call.now plan.routing (routingRow db) db' = .ok db''
  reconcile : ∀ db', ∃ db'', markReconcile env call.now db' = .ok db''

/-- **An import that succeeds.**  If the rows can be inserted, all statements run. -/
theorem importPlan_succeeds (h : Runs env call plan db rows revision db₁ db₂)
    (hfresh : settingRow db (receiptPrefix ++ operationId) = none) :
    ∃ result db', importPlan env call operationId fingerprint plan db = .ok (result, db') := by
  have hempty : ∀ t ∈ clearedTables, emptied env db₁ t = [] := fun t ht => emptied_eq_nil ht
  -- the settings and the display settings
  obtain ⟨db₃, hdisplay⟩ := writeSetting_succeeds env call.now displaySettingsKey (env.codec.dumpsCompact (.dict
    (plan.display.set contractKey (.dict [("version".toList, .int 1), ("incarnation".toList, .str call.incarnation),
      ("revision".toList, .int 1)])))) db₂
  have hsame : ∀ u, u ≠ .settings → db₃ u = emptied env db₁ u := fun u hu =>
    (writesOnly_writeSetting _ _ _ hdisplay u hu).trans (writesOnly_insertRows _ _ _ h.settings u hu)
  have hstart : Stage [] rows (emptied env db₁) db₃ := fun u hu _ => hsame u hu
  -- the tables before and after the routing
  obtain ⟨db₄, hfirst, hstage, -, hkept⟩ := hstart.run (show ordered? [] firstTables = true by decide) hempty
    fun t ht => h.tables t (List.mem_append_left _ ht)
  rw [List.append_nil] at hstage
  obtain ⟨db₅, hrouting⟩ := h.routing db₄ hstage (hkept.trans (hsame _ (by decide)))
  have hstage' : Stage firstTables.reverse rows (emptied env db₁) db₅ := fun u hu hur =>
    (writesOnly_importRouting _ _ _ hrouting u hur).trans (hstage u hu hur)
  obtain ⟨db₆, hlast, -, -, -⟩ := hstage'.run
    (show ordered? firstTables.reverse lastTables = true by decide) hempty
    fun t ht => h.tables t (List.mem_append_right _ ht)
  have hfirstRun : runStatements none ((writeStatements env call plan revision db).take 18) (emptied env db₁) =
      .ok db₆ :=
    runStatements_cons_ok.mpr ⟨db₂, h.settings, runStatements_cons_ok.mpr ⟨db₃, hdisplay,
      runStatements_append_ok.mpr ⟨db₄, hfirst, runStatements_cons_ok.mpr ⟨db₅, hrouting, hlast⟩⟩⟩⟩
  -- the revision, the mark and the marker
  have hkeeps : ∀ {k}, Kept k → k ≠ coreIntentRevisionKey → settingRow db₆ k = settingRow db k := by
    intro k hk hcore
    rw [Keeps.run (keeps_kept_first h.imported hk) hfirstRun, settingRow_emptied h.core hk hcore]
  have hread : readSelectionRevision env db₆ = .ok revision :=
    (readSelectionRevision_congr (hkeeps kept_revision (by decide))).trans h.read
  obtain ⟨db₇, hadvance, n, hn⟩ := @advanceSelectionRevision_succeeds env db₆ call.now revision
    (selectionPoolSignature env db) h.next hread
  obtain ⟨db₈, hmark⟩ := h.reconcile db₇
  obtain ⟨db₉, hmarker⟩ := writeSetting_succeeds env call.now nativeGenerationKey (env.generationMarker db₈) db₈
  have hrun : runStatements none (writeStatements env call plan revision db) (emptied env db₁) = .ok db₉ := by
    rw [← List.take_append_drop 18 (writeStatements env call plan revision db)]
    exact runStatements_append_ok.mpr ⟨db₆, hfirstRun, runStatements_cons_ok.mpr ⟨db₇, hadvance,
      runStatements_cons_ok.mpr ⟨db₈, hmark, runStatements_cons_ok.mpr ⟨db₉, hmarker, rfl⟩⟩⟩⟩
  -- the whole run, and the receipt
  have hwhole : runStatements none (importStatements env call plan revision db) db = .ok db₉ := by
    rw [importStatements, List.cons_append]
    exact runStatements_cons_ok.mpr ⟨db₁, h.core, runStatements_append_ok.mpr ⟨cleared env db₁,
      runStatements_clears clearedTables, runStatements_cons_ok.mpr ⟨emptied env db₁, rfl, hrun⟩⟩⟩
  have hsettings : ∀ {k}, k ≠ nativeGenerationKey → settingRow db₉ k = settingRow db₇ k := fun hk =>
    (settingRow_writeSetting_of_ne hmarker hk).trans
      (keeps_settingRow (by decide) (writesOnly_markReconcile _) hmark)
  have hlater : readSelectionRevision env db₉ = .ok n :=
    (readSelectionRevision_congr (hsettings (by decide))).trans hn
  have hreceipt : settingRow db₉ (receiptPrefix ++ operationId) = none := by
    rw [hsettings (receipt_ne (by decide)), settingRow_advanceSelectionRevision_of_ne hadvance
      (receipt_ne (by decide)), hkeeps (kept_receipt _) (receipt_ne (by decide)), hfresh]
  exact importPlan_of_run h.unbroken h.read hwhole hlater hreceipt

/-! ## The whole call -/

/-- The request can be executed or replayed. -/
structure Checked (env : Env) (call : Call) (fingerprint : Text) : Prop where
  sized : (iterate ((stateFromSnapshot call.snapshot).get "modules") >>= fun _ =>
    iterate ((stateFromSnapshot call.snapshot).get "settings")).isOk = true
  valid : validationErrors env.unicode env.reprText call.snapshot = []
  digest : env.fingerprint call.snapshot call.normalizeRuntimeState = some fingerprint
  operationId : validOperationId (call.operationId.getD fingerprint) = true

/-- A checked request reaches its transaction. -/
lemma import_of_checked (hchecked : Checked env call fingerprint) (hadmitted : call.admitted = true)
    (hdatabase : call.databaseOk = true) {done : Reply × Database}
    (h : importTransaction env call (call.operationId.getD fingerprint) fingerprint db = .ok done) :
    importControlPlaneSnapshot env call db = done := by
  simp only [importControlPlaneSnapshot]
  rw [if_neg (by simp [hadmitted])]
  have hsized := hchecked.sized
  split
  · rename_i _ _ herror
    rw [herror] at hsized
    cases hsized
  rw [if_neg (not_not.mpr hchecked.valid), importValidated, if_neg (by simp [hdatabase]), hchecked.digest]
  dsimp only
  rw [if_neg (by simp [hchecked.operationId]), h]

lemma import_of_plan (hchecked : Checked env call fingerprint) (hadmitted : call.admitted = true)
    (hdatabase : call.databaseOk = true) (hfresh : settingRow db (receiptKey call fingerprint) = none)
    (hidle : hasRunningJob db = false) (hcapacity : receiptCount db < 4096)
    (hprepared : preparePlan env call db = .ok (.ok plan)) {result : ImportResult}
    (hrun : importPlan env call (call.operationId.getD fingerprint) fingerprint plan db = .ok (result, db')) :
    importControlPlaneSnapshot env call db = (.imported result, db') := by
  refine import_of_checked hchecked hadmitted hdatabase ?_
  unfold importTransaction
  rw [receiptKey] at hfresh
  rw [hfresh]
  dsimp only
  rw [if_neg (by simp [hidle]), if_neg (not_le.mpr hcapacity), hprepared]
  simp only [bind, Except.bind, hrun]
  rfl

end Import

end FwRouter.Transfer
