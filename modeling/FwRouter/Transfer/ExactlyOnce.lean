import FwRouter.Transfer.Outside

/-!
# Imports one after the other

A sequence of imports: a call that is not ok leaves the database as it was, a call that is ok leaves the
selection as it was, up to the revision, and an operation that has been recorded is not executed again.
-/

namespace FwRouter.Transfer

open Py Relational

variable {env : Env} {db db' : Database} {call later : Call} {plan : Plan} {result : ImportResult}
  {operationId fingerprint now : Text}

/-! ## The states of an import -/

/-- The states of an import around the statements that come last. -/
structure Passed (env : Env) (call : Call) (operationId fingerprint : Text) (plan : Plan)
    (result : ImportResult) (db db' : Database) (revision : ℤ) (db₁ db₂ db₃ db₄ db₅ : Database) : Prop where
  read : readSelectionRevision env db = .ok revision
  core : advanceCoreIntentRevision env call.now db = .ok db₁
  rows : runStatements none ((writeStatements env call plan revision db).take 18) (emptied env db₁) = .ok db₂
  advance : advanceSelectionRevision env call.now (selectionPoolSignature env db) revision db₂ = .ok db₃
  mark : markReconcile env call.now db₃ = .ok db₄
  marker : writeGenerationMarker env call.now db₄ = .ok db₅
  receipt : writeReceipt env call.now operationId fingerprint result db₅ = .ok db'

lemma importPlan_passed (h : importPlan env call operationId fingerprint plan db = .ok (result, db')) :
    ∃ revision db₁ db₂ db₃ db₄ db₅,
      Passed env call operationId fingerprint plan result db db' revision db₁ db₂ db₃ db₄ db₅ := by
  obtain ⟨revision, db₁, db₅, hread, hcore, hrun, hreceipt⟩ := importPlan_ok h
  rw [← List.take_append_drop 18 (writeStatements env call plan revision db)] at hrun
  obtain ⟨db₂, hrows, hrest⟩ := runStatements_append_ok.mp hrun
  obtain ⟨db₃, hadvance, hrest⟩ := runStatements_cons_ok.mp hrest
  obtain ⟨db₄, hmark, hrest⟩ := runStatements_cons_ok.mp hrest
  obtain ⟨db₆, hmarker, hrest⟩ := runStatements_cons_ok.mp hrest
  obtain rfl := Except.ok.inj hrest
  exact ⟨revision, db₁, db₂, db₃, db₄, db₆, hread, hcore, hrows, hadvance, hmark, hmarker, hreceipt⟩

section Passed

variable {revision : ℤ} {db₁ db₂ db₃ db₄ db₅ : Database} {k : Text}

lemma settingRow_writeReceipt_of_ne (h : writeReceipt env now operationId fingerprint result db = .ok db')
    (hk : k ≠ receiptPrefix ++ operationId) : settingRow db' k = settingRow db k := by
  rw [Schema.insert_ok (liftViolation_ok.mp h), settingRow_update]
  refine find?_append_of_ne fun r hr heq => ?_
  obtain rfl := List.mem_singleton.mp hr
  exact hk (Cell.text.inj heq.symm)

lemma settingRow_writeReceipt_self (h : writeReceipt env now operationId fingerprint result db = .ok db')
    (hfresh : settingRow db (receiptPrefix ++ operationId) = none) :
    ∃ r, settingRow db' (receiptPrefix ++ operationId) = some r ∧
      r "value_json" = .text (env.encodeReceipt fingerprint result) := by
  rw [Schema.insert_ok (liftViolation_ok.mp h), settingRow_update, List.find?_append, ← settingRow, hfresh,
    Option.none_or]
  exact ⟨_, List.find?_cons_of_pos (decide_eq_true rfl), rfl⟩

/-- After the revision, only the receipt and the marker are written to the settings. -/
lemma Passed.settingRow_last
    (h : Passed env call operationId fingerprint plan result db db' revision db₁ db₂ db₃ db₄ db₅)
    (hk : k ≠ nativeGenerationKey) : settingRow db₅ k = settingRow db₃ k :=
  (settingRow_writeSetting_of_ne h.marker hk).trans (keeps_settingRow (by decide) (writesOnly_markReconcile _) h.mark)

lemma Passed.settingRow_kept
    (h : Passed env call operationId fingerprint plan result db db' revision db₁ db₂ db₃ db₄ db₅)
    (himports : ∀ row ∈ plan.settings, importsSetting env row = true) (hk : Kept k)
    (hcore : k ≠ coreIntentRevisionKey) : settingRow db₂ k = settingRow db k := by
  rw [Keeps.run (keeps_kept_first himports hk) h.rows, settingRow_emptied h.core hk hcore]

/-- A kept key other than the revisions, the marker and the receipt. -/
lemma Passed.settingRow_of_ne
    (h : Passed env call operationId fingerprint plan result db db' revision db₁ db₂ db₃ db₄ db₅)
    (himports : ∀ row ∈ plan.settings, importsSetting env row = true) (hk : Kept k)
    (hcore : k ≠ coreIntentRevisionKey) (hrevision : k ≠ Selection.selectionRevisionKey)
    (hmarker : k ≠ nativeGenerationKey) (hreceipt : k ≠ receiptPrefix ++ operationId) :
    settingRow db' k = settingRow db k := by
  rw [settingRow_writeReceipt_of_ne h.receipt hreceipt, h.settingRow_last hmarker,
    settingRow_advanceSelectionRevision_of_ne h.advance hrevision, h.settingRow_kept himports hk hcore]

lemma Passed.settingRow_receipt
    (h : Passed env call operationId fingerprint plan result db db' revision db₁ db₂ db₃ db₄ db₅)
    (himports : ∀ row ∈ plan.settings, importsSetting env row = true)
    (hfresh : settingRow db (receiptPrefix ++ operationId) = none) :
    ∃ r, settingRow db' (receiptPrefix ++ operationId) = some r ∧
      r "value_json" = .text (env.encodeReceipt fingerprint result) := by
  refine settingRow_writeReceipt_self h.receipt ?_
  rw [h.settingRow_last (receipt_ne (by decide)), settingRow_advanceSelectionRevision_of_ne h.advance
    (receipt_ne (by decide)), h.settingRow_kept himports (kept_receipt _) (receipt_ne (by decide)), hfresh]

/-! ## The pool and its revision -/

lemma poolInputs_congr (htables : ∀ u, u ≠ .settings → u ≠ .routingGlobalState → db' u = db u)
    (hexclusive : settingRow db' exclusiveSettingKey = settingRow db exclusiveSettingKey)
    (hmode : (routingRow db').map (fun r => r "server_mode") = (routingRow db).map fun r => r "server_mode") :
    poolInputs db' = poolInputs db := by
  simp only [poolInputs, hexclusive, hmode, htables _ (by decide : Table.servers ≠ .settings) (by decide),
    htables _ (by decide : Table.serverPreferences ≠ .settings) (by decide),
    htables _ (by decide : Table.subscriptionServerMemberships ≠ .settings) (by decide),
    htables _ (by decide : Table.logicalServerMembers ≠ .settings) (by decide),
    htables _ (by decide : Table.providerBindings ≠ .settings) (by decide),
    htables _ (by decide : Table.providerMembers ≠ .settings) (by decide)]

lemma poolInputs_of_writesOnly_settings (htables : ∀ u, u ≠ .settings → db' u = db u)
    (hexclusive : settingRow db' exclusiveSettingKey = settingRow db exclusiveSettingKey) :
    poolInputs db' = poolInputs db := by
  refine poolInputs_congr (fun u hu _ => htables u hu) hexclusive ?_
  rw [routingRow, routingRow, htables _ (by decide)]

/-- What the signature reads is not written after it. -/
lemma Passed.poolInputs
    (h : Passed env call operationId fingerprint plan result db db' revision db₁ db₂ db₃ db₄ db₅) :
    poolInputs db' = poolInputs db₂ := by
  have hadvance : Transfer.poolInputs db₃ = Transfer.poolInputs db₂ :=
    poolInputs_of_writesOnly_settings (writesOnly_advanceSelectionRevision _ _ _ h.advance)
      (settingRow_advanceSelectionRevision_of_ne h.advance (by decide))
  have hmark : Transfer.poolInputs db₄ = Transfer.poolInputs db₃ :=
    poolInputs_congr (fun u _ hu => writesOnly_markReconcile _ h.mark u hu)
      (keeps_settingRow (by decide) (writesOnly_markReconcile _) h.mark) (routing_markReconcile h.mark (by decide))
  have hmarker : Transfer.poolInputs db₅ = Transfer.poolInputs db₄ :=
    poolInputs_of_writesOnly_settings (writesOnly_writeGenerationMarker _ h.marker)
      (settingRow_writeSetting_of_ne h.marker (by decide))
  rw [poolInputs_of_writesOnly_settings (writesOnly_writeReceipt _ _ _ _ h.receipt)
    (settingRow_writeReceipt_of_ne h.receipt (receipt_ne (by decide)).symm), hmarker, hmark, hadvance]

lemma Passed.revisionAfter
    (h : Passed env call operationId fingerprint plan result db db' revision db₁ db₂ db₃ db₄ db₅)
    (himports : ∀ row ∈ plan.settings, importsSetting env row = true)
    (hloads : ∀ n : ℤ, 0 ≤ n → env.codec.loads (Value.intText n) = some (.int n)) :
    readSelectionRevision env db' = .ok
      (if selectionPoolSignature env db' = selectionPoolSignature env db then revision else revision + 1) := by
  have hlast : readSelectionRevision env db' = readSelectionRevision env db₃ := by
    refine readSelectionRevision_congr ?_
    rw [settingRow_writeReceipt_of_ne h.receipt (receipt_ne (by decide)).symm, h.settingRow_last (by decide)]
  have hread : readSelectionRevision env db₂ = .ok revision :=
    (readSelectionRevision_congr (h.settingRow_kept himports kept_revision (by decide))).trans h.read
  have hsignature : selectionPoolSignature env db' = selectionPoolSignature env db₂ := by
    rw [selectionPoolSignature, selectionPoolSignature, h.poolInputs]
  have hadvance := h.advance
  unfold advanceSelectionRevision at hadvance
  rw [hlast, hsignature]
  split_ifs at hadvance ⊢
  · obtain rfl := Except.ok.inj hadvance
    exact hread
  · obtain ⟨current, hcurrent, hadvance⟩ := Run.exists_of_bind_eq_ok hadvance
    obtain rfl := Except.ok.inj (hread.symm.trans hcurrent)
    obtain ⟨-, hadvance⟩ := Run.guard_eq_ok.mp hadvance
    have hnonneg := nonneg_of_readSelectionRevision hread
    exact readSelectionRevision_writeSetting (hloads _ (by omega)) (by omega) hadvance

/-! ## The active server -/

lemma activeAutoServerId_congr (h : db' .routingGlobalState = db .routingGlobalState) :
    activeAutoServerId db' = activeAutoServerId db := by
  rw [activeAutoServerId, activeAutoServerId, routingRow, routingRow, h]

/-- The active server is the one that `importRouting` writes. -/
lemma Passed.exists_importRouting
    (h : Passed env call operationId fingerprint plan result db db' revision db₁ db₂ db₃ db₄ db₅) :
    ∃ before after f, (∀ r, Detached r (f r)) ∧ routingRow before = (routingRow db).map f ∧
      importRouting env call.now plan.routing (routingRow db) before = .ok after ∧
      activeAutoServerId db' = activeAutoServerId after := by
  have hwrites := List.forall₂_take 18 (@writesOnly_writeStatements env call plan revision db)
  obtain ⟨before, after, hrouting, hbefore, hafter, -⟩ :=
    WritesOnly.split hwrites h.rows (i := 10) rfl (t := .routingGlobalState) (by decide)
  obtain ⟨f, hf, hemptied⟩ := emptied_routing env db₁
  refine ⟨before, after, f, hf, ?_, hrouting, ?_⟩
  · have hcore : db₁ .routingGlobalState = db .routingGlobalState :=
      writesOnly_advanceCoreIntentRevision _ h.core _ (by decide)
    exact routingRow_of_map hf (by rw [hbefore, hemptied, hcore])
  · have hreceipt : db' .routingGlobalState = db₅ .routingGlobalState :=
      writesOnly_writeReceipt _ _ _ _ h.receipt _ (by decide)
    have hmarker : db₅ .routingGlobalState = db₄ .routingGlobalState :=
      writesOnly_writeGenerationMarker _ h.marker _ (by decide)
    have hadvance : db₃ .routingGlobalState = db₂ .routingGlobalState :=
      writesOnly_advanceSelectionRevision _ _ _ h.advance _ (by decide)
    rw [activeAutoServerId_congr (hreceipt.trans hmarker), activeAutoServerId,
      routing_markReconcile h.mark (by decide), ← activeAutoServerId,
      activeAutoServerId_congr (hadvance.trans hafter)]

/-- An import keeps an active server that is its own `strip`. -/
lemma Passed.active
    (h : Passed env call operationId fingerprint plan result db db' revision db₁ db₂ db₃ db₄ db₅)
    (hclean : CleanActive db) :
    (activeAutoServerId db').getD .null = (activeAutoServerId db).getD .null := by
  obtain ⟨before, after, f, hf, hbefore, hrouting, hafter⟩ := h.exists_importRouting
  rw [hafter]
  exact active_importRouting hclean hf hbefore hrouting

end Passed

/-! ## One call -/

/-- What a call that is ok leaves of the selection. -/
structure SelectionKept (env : Env) (db db' : Database) : Prop where
  active : (activeAutoServerId db').getD .null = (activeAutoServerId db).getD .null
  provenance : settingRow db' Selection.selectionProvenanceKey = settingRow db Selection.selectionProvenanceKey
  revision : readSelectionRevision env db' = (readSelectionRevision env db).map fun n =>
    if selectionPoolSignature env db' = selectionPoolSignature env db then n else n + 1

/-- The operation id of a call. -/
def operationIdOf (env : Env) (call : Call) : Option Text :=
  (env.fingerprint call.snapshot call.normalizeRuntimeState).map fun fingerprint =>
    call.operationId.getD fingerprint

/-- The result that a call answers. -/
def Reply.result? : Reply → Option ImportResult
  | .imported result => some result
  | .replayed result => some result
  | _ => none

/-- The database holds the result of a request. -/
def Stores (env : Env) (db : Database) (id fingerprint : Text) (result : ImportResult) : Prop :=
  ∃ row s, settingRow db (receiptPrefix ++ id) = some row ∧ row "value_json" = .text s ∧
    env.decodeReceipt s = some (fingerprint, result)

lemma importsSetting_of_prepared (h : preparePlan env call db = .ok (.ok plan)) :
    ∀ row ∈ plan.settings, importsSetting env row = true := by
  obtain ⟨rows, checked, -, -, hsettings⟩ := (preparePlan_ok h).settings
  intro row hrow
  rw [hsettings] at hrow
  exact List.of_mem_filter hrow

/-- A call that is not ok leaves the database as it was. -/
lemma import_not_ok (h : (importControlPlaneSnapshot env call db).1.ok = false) :
    (importControlPlaneSnapshot env call db).2 = db := by
  have houtcome := @import_outcome env call db
  generalize importControlPlaneSnapshot env call db = done at houtcome h
  cases houtcome with
  | rejected hreply => rfl
  | replayed hrecorded => rfl
  | imported haccepted hrun => cases h

lemma import_selectionKept (hloads : ∀ n : ℤ, 0 ≤ n → env.codec.loads (Value.intText n) = some (.int n))
    (hclean : CleanActive db) : SelectionKept env db (importControlPlaneSnapshot env call db).2 := by
  have houtcome := @import_outcome env call db
  generalize importControlPlaneSnapshot env call db = done at houtcome
  have hsame : SelectionKept env db db := by
    refine ⟨rfl, rfl, ?_⟩
    simp only [if_true]
    cases readSelectionRevision env db <;> rfl
  cases houtcome with
  | rejected hreply => exact hsame
  | replayed hrecorded => exact hsame
  | imported haccepted hrun =>
      obtain ⟨revision, db₁, db₂, db₃, db₄, db₅, hpassed⟩ := importPlan_passed hrun
      have himports := importsSetting_of_prepared haccepted.prepared
      refine ⟨hpassed.active hclean, ?_, ?_⟩
      · exact hpassed.settingRow_of_ne himports kept_provenance (by decide) (by decide) (by decide)
          (receipt_ne (by decide)).symm
      · rw [hpassed.revisionAfter himports hloads, hpassed.read]
        rfl

lemma checked_of_ok (h : (importControlPlaneSnapshot env call db).1.ok = true) :
    ∃ fingerprint, Checked env call fingerprint := by
  simp only [importControlPlaneSnapshot] at h
  by_cases hadmitted : call.admitted = false
  · rw [if_pos hadmitted] at h
    cases h
  rw [if_neg hadmitted] at h
  split at h
  · cases h
  rename_i _ _ hsized
  by_cases herrors : validationErrors env.unicode env.reprText call.snapshot ≠ []
  · rw [if_pos herrors] at h
    cases h
  rw [if_neg herrors, importValidated] at h
  by_cases hdatabase : call.databaseOk = false
  · rw [if_pos hdatabase] at h
    cases h
  rw [if_neg hdatabase] at h
  cases hdigest : env.fingerprint call.snapshot call.normalizeRuntimeState with
  | none =>
      rw [hdigest] at h
      cases h
  | some fingerprint =>
      rw [hdigest] at h
      dsimp only at h
      by_cases hid : validOperationId (call.operationId.getD fingerprint) = false
      · rw [if_pos hid] at h
        cases h
      · refine ⟨fingerprint, ?_, not_not.mp herrors, hdigest, by simpa using hid⟩
        rw [hsized]
        rfl

/-- A request whose result is stored is replayed. -/
lemma import_replays (hchecked : Checked env call fingerprint) (hadmitted : call.admitted = true)
    (hdatabase : call.databaseOk = true)
    (hstores : Stores env db (call.operationId.getD fingerprint) fingerprint result) :
    importControlPlaneSnapshot env call db = (.replayed result, db) := by
  obtain ⟨row, s, hrow, hvalue, hdecode⟩ := hstores
  refine import_of_checked hchecked hadmitted hdatabase ?_
  unfold importTransaction
  rw [hrow]
  dsimp only
  rw [hvalue]
  dsimp only
  rw [hdecode]
  exact if_neg (not_not.mpr rfl)

/-- An operation that is stored changes nothing, and only its own request is ok. -/
lemma import_of_stored (hid : operationIdOf env call = some operationId)
    (hstores : Stores env db operationId fingerprint result) :
    (importControlPlaneSnapshot env call db).2 = db ∧
      ((importControlPlaneSnapshot env call db).1.ok = true →
        env.fingerprint call.snapshot call.normalizeRuntimeState = some fingerprint) := by
  obtain ⟨row, s, hrow, hvalue, hdecode⟩ := hstores
  have hkey : ∀ {f}, env.fingerprint call.snapshot call.normalizeRuntimeState = some f →
      receiptKey call f = receiptPrefix ++ operationId := by
    intro f hf
    rw [operationIdOf, hf, Option.map_some] at hid
    rw [receiptKey, Option.some.inj hid]
  have houtcome := @import_outcome env call db
  generalize importControlPlaneSnapshot env call db = done at houtcome
  cases houtcome with
  | rejected hreply => exact ⟨rfl, fun hok => by rw [hreply] at hok; cases hok⟩
  | replayed hrecorded =>
      refine ⟨rfl, fun _ => ?_⟩
      obtain ⟨row', s', hrow', hvalue', hdecode'⟩ := hrecorded.receipt
      rw [hkey hrecorded.digest, hrow] at hrow'
      obtain rfl := Option.some.inj hrow'
      obtain rfl := Cell.text.inj (hvalue.symm.trans hvalue')
      rw [hdecode] at hdecode'
      rw [hrecorded.digest, (Prod.mk.inj (Option.some.inj hdecode')).1]
  | imported haccepted hrun =>
      have hfresh := haccepted.fresh
      rw [hkey haccepted.digest, hrow] at hfresh
      cases hfresh

/-- A call keeps the results that are stored. -/
lemma import_keeps_stored (h : Stores env db operationId fingerprint result) :
    Stores env (importControlPlaneSnapshot env call db).2 operationId fingerprint result := by
  obtain ⟨row, s, hrow, hvalue, hdecode⟩ := h
  have houtcome := @import_outcome env call db
  generalize importControlPlaneSnapshot env call db = done at houtcome
  cases houtcome with
  | rejected hreply => exact ⟨row, s, hrow, hvalue, hdecode⟩
  | replayed hrecorded => exact ⟨row, s, hrow, hvalue, hdecode⟩
  | @imported f plan result' db' haccepted hrun =>
      obtain ⟨revision, db₁, db₂, db₃, db₄, db₅, hpassed⟩ := importPlan_passed hrun
      have himports := importsSetting_of_prepared haccepted.prepared
      have hother : receiptPrefix ++ operationId ≠ receiptPrefix ++ call.operationId.getD f := by
        intro heq
        have hfresh := haccepted.fresh
        rw [receiptKey, ← heq, hrow] at hfresh
        cases hfresh
      refine ⟨row, s, ?_, hvalue, hdecode⟩
      exact (hpassed.settingRow_of_ne himports (kept_receipt _) (receipt_ne (by decide)) (receipt_ne (by decide))
        (receipt_ne (by decide)) hother).trans hrow

/-- A call that is ok leaves its request and its result. -/
lemma import_stores
    (hdecode : ∀ fingerprint result, env.decodeReceipt (env.encodeReceipt fingerprint result) =
      some (fingerprint, result))
    (h : (importControlPlaneSnapshot env call db).1.result? = some result) :
    ∃ fingerprint, Checked env call fingerprint ∧
      Stores env (importControlPlaneSnapshot env call db).2 (call.operationId.getD fingerprint) fingerprint
        result := by
  have hok : (importControlPlaneSnapshot env call db).1.ok = true := by
    revert h
    cases (importControlPlaneSnapshot env call db).1 <;> simp [Reply.result?, Reply.ok]
  obtain ⟨f, hchecked⟩ := checked_of_ok hok
  refine ⟨f, hchecked, ?_⟩
  have houtcome := @import_outcome env call db
  generalize importControlPlaneSnapshot env call db = done at houtcome h hok
  cases houtcome with
  | rejected hreply => rw [hreply] at hok; cases hok
  | replayed hrecorded =>
      obtain rfl := Option.some.inj h
      obtain rfl := Option.some.inj (hchecked.digest.symm.trans hrecorded.digest)
      exact hrecorded.receipt
  | imported haccepted hrun =>
      obtain rfl := Option.some.inj h
      obtain rfl := Option.some.inj (hchecked.digest.symm.trans haccepted.digest)
      obtain ⟨revision, db₁, db₂, db₃, db₄, db₅, hpassed⟩ := importPlan_passed hrun
      obtain ⟨row, hrow, hvalue⟩ := hpassed.settingRow_receipt (importsSetting_of_prepared haccepted.prepared)
        haccepted.fresh
      exact ⟨row, _, hrow, hvalue, hdecode _ _⟩

/-! ## A sequence of calls -/

/-- The database after some calls. -/
def runImports (env : Env) (calls : List Call) (db : Database) : Database :=
  calls.foldl (fun db call => (importControlPlaneSnapshot env call db).2) db

lemma runImports_append (calls rest : List Call) :
    runImports env (calls ++ rest) db = runImports env rest (runImports env calls db) := List.foldl_append

lemma runImports_nil (env : Env) (db : Database) : runImports env [] db = db := rfl

lemma runImports_snoc (calls : List Call) (call : Call) : runImports env (calls ++ [call]) db =
    (importControlPlaneSnapshot env call (runImports env calls db)).2 := runImports_append calls [call]

lemma runImports_keeps {P : Database → Prop}
    (hstep : ∀ call db, P db → P (importControlPlaneSnapshot env call db).2) (calls : List Call) (h : P db) :
    P (runImports env calls db) := by
  induction calls generalizing db with
  | nil => exact h
  | cons call calls ih => exact ih (hstep call db h)

lemma runImports_keeps_stored (calls : List Call) (h : Stores env db operationId fingerprint result) :
    Stores env (runImports env calls db) operationId fingerprint result :=
  @runImports_keeps env db (fun db => Stores env db operationId fingerprint result)
    (fun _ _ => import_keeps_stored) calls h

/-- What a later call of the operation does. -/
structure Settled (env : Env) (call later : Call) (reply : Reply) (db : Database) : Prop where
  unchanged : (importControlPlaneSnapshot env later db).2 = db
  replayed : later.snapshot = call.snapshot → later.normalizeRuntimeState = call.normalizeRuntimeState →
    later.admitted = true → later.databaseOk = true →
    ∃ result, reply.result? = some result ∧ (importControlPlaneSnapshot env later db).1 = .replayed result
  rejected : env.fingerprint later.snapshot later.normalizeRuntimeState ≠
      env.fingerprint call.snapshot call.normalizeRuntimeState →
    (importControlPlaneSnapshot env later db).1.ok = false

/-- A sequence of imports is atomic, executes each operation once and keeps the selection. -/
structure ExactlyOnce (env : Env) (db : Database) (calls : List Call) : Prop where
  atomic : ∀ before call after, calls = before ++ call :: after →
    (importControlPlaneSnapshot env call (runImports env before db)).1.ok = false →
    runImports env (before ++ [call]) db = runImports env before db
  kept : ∀ before call after, calls = before ++ call :: after →
    (importControlPlaneSnapshot env call (runImports env before db)).1.ok = true →
    SelectionKept env (runImports env before db) (runImports env (before ++ [call]) db)
  once : ∀ before call between later after, calls = before ++ call :: between ++ later :: after →
    (importControlPlaneSnapshot env call (runImports env before db)).1.ok = true →
    operationIdOf env later = operationIdOf env call →
    Settled env call later (importControlPlaneSnapshot env call (runImports env before db)).1
      (runImports env (before ++ call :: between) db)

lemma cleanActive_import (hloads : ∀ n : ℤ, 0 ≤ n → env.codec.loads (Value.intText n) = some (.int n))
    (h : CleanActive db) : CleanActive (importControlPlaneSnapshot env call db).2 := by
  rw [CleanActive, (import_selectionKept hloads h).active]
  exact h

/-- **Imports are executed once.**  Where the stored active server is null or its own `strip`, every
sequence of imports is atomic, executes each operation at most once, and keeps the selection. -/
theorem imports_exactlyOnce (hloads : ∀ n : ℤ, 0 ≤ n → env.codec.loads (Value.intText n) = some (.int n))
    (hdecode : ∀ fingerprint result, env.decodeReceipt (env.encodeReceipt fingerprint result) =
      some (fingerprint, result))
    (hclean : CleanActive db) (calls : List Call) : ExactlyOnce env db calls := by
  refine ⟨?_, ?_, ?_⟩
  · intro before call _ _ hfailed
    rw [runImports_snoc]
    exact import_not_ok hfailed
  · intro before call _ _ _
    rw [runImports_snoc]
    exact import_selectionKept hloads (runImports_keeps (fun _ _ => cleanActive_import hloads) before hclean)
  · intro before call between later _ _ hok hid
    -- the result is stored by the call and kept by what comes between
    obtain ⟨result, hresult⟩ : ∃ result,
        (importControlPlaneSnapshot env call (runImports env before db)).1.result? = some result := by
      revert hok
      cases (importControlPlaneSnapshot env call (runImports env before db)).1 <;>
        simp [Reply.result?, Reply.ok]
    obtain ⟨fingerprint, hchecked, hstores⟩ := import_stores hdecode hresult
    have hcall : operationIdOf env call = some (call.operationId.getD fingerprint) := by
      rw [operationIdOf, hchecked.digest, Option.map_some]
    have hstored : Stores env (runImports env (before ++ call :: between) db)
        (call.operationId.getD fingerprint) fingerprint result := by
      rw [runImports_append]
      exact runImports_keeps_stored between hstores
    obtain ⟨hunchanged, hown⟩ := import_of_stored (hid.trans hcall) hstored
    refine ⟨hunchanged, ?_, ?_⟩
    · intro hsnapshot hoption hadmitted hdatabase
      refine ⟨result, hresult, ?_⟩
      have hdigest : env.fingerprint later.snapshot later.normalizeRuntimeState = some fingerprint := by
        rw [hsnapshot, hoption, hchecked.digest]
      have hsameId : later.operationId.getD fingerprint = call.operationId.getD fingerprint := by
        rw [hcall, operationIdOf, hdigest, Option.map_some] at hid
        exact Option.some.inj hid
      have hlater : Checked env later fingerprint := by
        refine ⟨?_, ?_, hdigest, ?_⟩
        · rw [hsnapshot]
          exact hchecked.sized
        · rw [hsnapshot]
          exact hchecked.valid
        · rw [hsameId]
          exact hchecked.operationId
      rw [import_replays hlater hadmitted hdatabase (hsameId.symm ▸ hstored)]
    · intro hdiffers
      by_contra hok'
      rw [Bool.not_eq_false] at hok'
      exact hdiffers ((hown hok').trans hchecked.digest.symm)

lemma cleanActive_home : CleanActive (homeDb "a") := Or.inr ⟨['a'], rfl, by decide, by decide⟩

/-- Imports of one snapshot, one after the other. -/
theorem imports_exactlyOnce_home : ExactlyOnce plainEnv (homeDb "a") [homeCall, homeCall] :=
  imports_exactlyOnce loads_plainCodec readNumberReceipt_numberReceipt cleanActive_home _

/-- A selected server whose id starts with a space is replaced by another one. -/
theorem home_selection_replaced : plainEnv.schema.Valid (homeDb " a") ∧
    ¬ExactlyOnce plainEnv (homeDb " a") [homeCall] := by
  refine ⟨home_valid (Or.inr rfl), fun honce => ?_⟩
  obtain ⟨f, plan, result, db', -, hrun, himport⟩ := home_imports (Or.inr rfl)
  obtain ⟨revision, db₁, db₂, db₃, db₄, db₅, hpassed⟩ := importPlan_passed hrun
  obtain ⟨before, after, -, -, -, hrouting, hactive⟩ := hpassed.exists_importRouting
  have hafter : activeAutoServerId db' = some (.text ['a']) :=
    hactive.trans (active_importRouting_stripped (home_strippedId (Or.inr rfl)) hrouting)
  have hkept := honce.kept [] homeCall [] rfl
  rw [runImports_snoc, runImports_nil, himport] at hkept
  have hactive := (hkept rfl).active
  rw [hafter] at hactive
  exact absurd hactive (by decide)

end FwRouter.Transfer
