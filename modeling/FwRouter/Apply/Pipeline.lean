import FwRouter.Apply.HotSwap

/-!
# The apply pipeline

`run_apply_pipeline`, from the rendered manifest on: the check, the mutation of the live table, the
reconcile of dnsmasq, the verification, the promotion to last good, and the rollbacks in between.  What
each step answers is an input (`Answers`); a phase raises at its end where it took too long, and the
job may have been aborted when the pipeline asks.

The two places that the pipeline moves are the live table and the last good manifest.
-/

namespace FwRouter.Apply

open Py

/-! ## Inputs -/

/-- `ApplyMode`. -/
inductive ApplyMode
  | dryRun
  | apply
  deriving DecidableEq

/-- The phases of the tracker, from the check on; a hot-swap has a phase of its own in place of `apply_nft`. -/
inductive Phase
  | check
  | applyNft
  | rollback
  | reconcileDnsmasq
  | inspectDnsmasq
  | verifyRuntime
  | promoteManifest
  deriving DecidableEq

/-- Where the pipeline asks whether its job is still running. -/
inductive JobCheck
  | beforeApplyNft
  | promoteManifest
  | finalize
  deriving DecidableEq

/-- The answer of a step. -/
structure StepAnswer where
  ok : Bool
  errorCode : Option String

/-- `error_code or default`. -/
def StepAnswer.codeOr (answer : StepAnswer) (default : String) : String :=
  (answer.errorCode.filter fun code => !code.isEmpty).getD default

/-- An answer of `probe_live_global_mode`. -/
structure Probe where
  ok : Bool
  mode : Option Text
  selectiveDefault : Option Text

/-- The live table, and the last good manifest. -/
structure World (τ : Type) where
  live : τ
  lastGood : Dict

/-- What the pipeline is called for: the modes, the rendered manifest, and the candidate table with its
text. -/
structure Call (τ : Type) where
  mode : ApplyMode
  inputData : Dict
  manifest : Dict
  checkDetails : Dict
  preflight : Dict
  candidateText : Option Text
  candidate : τ

/-- What the steps answer. -/
structure Answers (τ : Type) where
  check : StepAnswer
  /-- Whether the job is active. -/
  running : JobCheck → Bool
  /-- Whether a phase takes longer than `apply_phase_timeout_seconds`. -/
  overruns : Phase → Bool
  /-- Whether the hot-swap or the full apply is ok; where it is not, what it leaves. -/
  apply : StepAnswer
  applyLeaves : τ
  reconcile : StepAnswer
  inspectOk : Bool
  /-- `_verify_fast_subject_apply`. -/
  verifySubject : StepAnswer
  /-- The first probe and its retries. -/
  probe : ℕ → Probe
  /-- `vpn_external_path_verified` and `vpn_contract_ready` of the apply. -/
  pathVerified : Bool
  contractReady : Bool
  /-- `traffic_enforcement_guaranteed`, and again after a second preflight. -/
  guaranteed : Bool
  guaranteedAgain : Bool
  runtimeEnforcement : Value
  globalPreflight : Value

/-- How a run ends. -/
inductive Ending
  | returned (ok : Bool) (errorCode : Option String) (rolledBack : Bool)
  | aborted (at_ : JobCheck)
  | timedOut (phase : Phase)
  deriving DecidableEq

def Ending.ok : Ending → Bool
  | .returned ok _ _ => ok
  | _ => false

/-! ## What the pipeline decides -/

section Decisions

variable {τ : Type} (U : Unicode) (reprText : Text → Text) (call : Call τ)

def Call.fastSubject : Option FastSubjectApply := fastSubjectApplyContext U reprText call.inputData call.manifest

def Call.globalHotSwap : Option HotSwap :=
  globalModeHotSwapContext reprText call.inputData call.manifest call.checkDetails call.preflight call.candidateText

def Call.subjectHotSwap : Option HotSwap :=
  subjectModeHotSwapContext (call.fastSubject U reprText) call.manifest call.checkDetails call.preflight
    call.candidateText

/-- `classify_hot_swap is None`. -/
def Call.fullApply : Bool := (call.globalHotSwap reprText).isNone && (call.subjectHotSwap U reprText).isNone

/-- `str(selective_rules.get("path_kind") or "") == "domain_aware"`. -/
def Call.domainAware : Bool :=
  decide (((call.preflight.get "selective_rules").dictOr.get "path_kind").textOr reprText = "domain_aware".toList)

/-- A full apply has emptied the sets that dnsmasq fills. -/
def Call.reconciles : Bool := call.fullApply U reprText && call.domainAware reprText

/-- The hot-swap of a subject to selective, which relies on the sets. -/
def Call.inspects : Bool :=
  (call.subjectHotSwap U reprText).any (fun context => decide (context.targetMode = "selective".toList)) &&
    call.domainAware reprText

def Call.bypassRequested : Bool := manifestRequestsCoreBypass call.manifest

def Call.applyMode : Text := runtimeModeFromManifest reprText call.manifest

/-- `expected_selective_default`. -/
def Call.expectedSelectiveDefault : Text :=
  U.lower ((((call.manifest.get "routing_global_state").dictOr.get "selective_default").or
    (.str "direct".toList)).text reprText)

/-- `live_mode_matches_intent`. -/
def matchesIntent (expectedMode expectedDefault : Text) (probe : Probe) : Bool :=
  let mode := U.lower (Subjects.strOf (Subjects.orElse probe.mode (some "unknown".toList)))
  let default := U.lower (Subjects.strOf (Subjects.orElse probe.selectiveDefault (some "direct".toList)))
  probe.ok && decide (mode = U.lower (strip expectedMode)) &&
    (decide (mode ≠ "selective".toList) || decide (default = U.lower expectedDefault))

/-- `live_mode_ok`: a fast apply reads the rules of its subject, another probes the mode up to four times. -/
def Call.liveModeOk (answers : Answers τ) : Bool :=
  let expected := fun i => matchesIntent U (call.applyMode reprText) (call.expectedSelectiveDefault U reprText)
    (answers.probe i)
  if (call.fastSubject U reprText).isSome then answers.verifySubject.ok
  else call.bypassRequested || (List.range 4).any expected

/-- A VPN that is not guaranteed is asked for once more if the path and the contract are ready. -/
def Call.enforced (answers : Answers τ) : Bool :=
  let again := !answers.guaranteed && answers.pathVerified && answers.contractReady &&
    (call.preflight.get "can_prepare_global_vpn").truthy
  call.bypassRequested || decide (call.applyMode reprText ≠ "vpn".toList) ||
    (if again then answers.guaranteedAgain else answers.guaranteed)

/-- The manifest that is promoted. -/
def Call.appliedManifest (answers : Answers τ) : Dict :=
  (call.manifest.set "runtime_enforcement" answers.runtimeEnforcement).set "global_preflight"
    answers.globalPreflight

end Decisions

/-! ## The steps -/

section Steps

variable {τ : Type} (U : Unicode) (reprText : Text → Text) (call : Call τ) (answers : Answers τ)

/-- `phase_tracker.finish`. -/
def finish (phase : Phase) (rest : World τ → Ending × World τ) (w : World τ) : Ending × World τ :=
  if answers.overruns phase then (.timedOut phase, w) else rest w

/-- `_require_job_running`. -/
def requireJobRunning (check : JobCheck) (rest : World τ → Ending × World τ) (w : World τ) :
    Ending × World τ :=
  if answers.running check then rest w else (.aborted check, w)

/-- A rollback to the snapshot that the call has found, and the failure it ends with. -/
def rollback (snapshot : τ) (errorCode : Option String) (w : World τ) :
    Ending × World τ :=
  finish answers .rollback (fun w => (.returned false errorCode true, w)) { w with live := snapshot }

/-- The last check of the job, after the promotion. -/
def finalize (snapshot : τ) (w : World τ) : Ending × World τ :=
  if answers.running .finalize then (.returned true none false, w)
  else rollback answers snapshot "APPLY_JOB_ABORTED" w

/-- The promotion. -/
def promote (snapshot : τ) : World τ → Ending × World τ :=
  requireJobRunning answers .promoteManifest fun w =>
    finish answers .promoteManifest (finalize answers snapshot) { w with lastGood := call.appliedManifest answers }

/-- The verification. -/
def verify (snapshot : τ) : World τ → Ending × World τ :=
  finish answers .verifyRuntime fun w =>
    if call.liveModeOk U reprText answers = false then
      rollback answers snapshot (if (call.fastSubject U reprText).isSome then
        answers.verifySubject.codeOr "ACTIVE_DATAPLANE_MODE_MISMATCH" else "ACTIVE_DATAPLANE_MODE_MISMATCH") w
    else if call.enforced reprText answers = false then
      rollback answers snapshot "GLOBAL_VPN_VERIFY_FAILED" w
    else promote call answers snapshot w

/-- The code of a failed reconcile. -/
def reconcileCode : Option String := answers.reconcile.codeOr "DNSMASQ_RECONCILE_FAILED"

/-- The sets of dnsmasq, where the mode relies on them.  A failed reconcile after a full apply is rolled
back; one after a hot-swap is not. -/
def dnsmasq (snapshot : τ) : World τ → Ending × World τ :=
  if call.reconciles U reprText then
    finish answers .reconcileDnsmasq fun w =>
      if answers.reconcile.ok then verify U reprText call answers snapshot w
      else rollback answers snapshot (reconcileCode answers) w
  else if call.inspects U reprText then
    finish answers .inspectDnsmasq fun w =>
      if answers.inspectOk then verify U reprText call answers snapshot w
      else finish answers .reconcileDnsmasq (fun w =>
        if answers.reconcile.ok then verify U reprText call answers snapshot w
        else (.returned false (reconcileCode answers) false, w)) w
  else verify U reprText call answers snapshot

/-- The mutation of the live table. -/
def mutate (w : World τ) : Ending × World τ :=
  finish answers .applyNft (fun w' =>
    if answers.apply.ok then dnsmasq U reprText call answers w.live w'
    else rollback answers w.live answers.apply.errorCode w')
    { w with live := if answers.apply.ok then call.candidate else answers.applyLeaves }

/-- `run_apply_pipeline`, after the manifest has been rendered. -/
def runApplyPipeline : World τ → Ending × World τ :=
  finish answers .check fun w =>
    if call.mode = .apply ∧ answers.check.ok = true then
      requireJobRunning answers .beforeApplyNft (mutate U reprText call answers) w
    else (.returned answers.check.ok answers.check.errorCode false, w)

end Steps

/-! ## All or nothing -/

section AllOrNothing

variable {τ : Type} {U : Unicode} {reprText : Text → Text} {call : Call τ} {answers : Answers τ} {w : World τ}
  {snapshot : τ} {code : Option String}

/-- The run has succeeded and both places are the candidate, or it has not and both are as before. -/
def AllOrNothing (before done : World τ) (result : Ending × World τ) : Prop :=
  (result.1.ok = true ∧ result.2 = done) ∨ (result.1.ok = false ∧ result.2 = before)

/-- What a run that succeeds leaves. -/
def Call.done (call : Call τ) (answers : Answers τ) : World τ := ⟨call.candidate, call.appliedManifest answers⟩

/-- The mutation is reached. -/
def Answers.Starts (answers : Answers τ) : Prop :=
  answers.overruns .check = false ∧ answers.running .beforeApplyNft = true

/-- The reconcile has ended in time and well. -/
def Answers.Reconciled (answers : Answers τ) : Prop :=
  answers.overruns .reconcileDnsmasq = false ∧ answers.reconcile.ok = true

variable (U reprText call answers) in
/-- The candidate is live, and the step with dnsmasq ends the run without a rollback. -/
def StrandsAtDnsmasq : Prop :=
  if call.reconciles U reprText = true then answers.overruns .reconcileDnsmasq = true
  else call.inspects U reprText = true ∧
    (answers.overruns .inspectDnsmasq = true ∨ (answers.inspectOk = false ∧ ¬answers.Reconciled))

variable (U reprText call answers) in
/-- The verification is reached. -/
def ReachesVerify : Prop :=
  if call.reconciles U reprText = true then answers.Reconciled
  else call.inspects U reprText = true →
    answers.overruns .inspectDnsmasq = false ∧ (answers.inspectOk = true ∨ answers.Reconciled)

variable (U reprText call answers) in
/-- The verification has ended in time and well. -/
def Verified : Prop :=
  answers.overruns .verifyRuntime = false ∧ call.liveModeOk U reprText answers = true ∧
    call.enforced reprText answers = true

variable (U reprText call answers) in
/-- The candidate is live and stays so in a run that ends before the promotion. -/
def Strands : Prop :=
  answers.overruns .applyNft = true ∨ StrandsAtDnsmasq U reprText call answers ∨
    (ReachesVerify U reprText call answers ∧ (answers.overruns .verifyRuntime = true ∨
      (Verified U reprText call answers ∧ answers.running .promoteManifest = false)))

variable (U reprText call answers) in
/-- The manifest is promoted. -/
def Promotes : Prop :=
  answers.overruns .applyNft = false ∧ ReachesVerify U reprText call answers ∧
    Verified U reprText call answers ∧ answers.running .promoteManifest = true

variable {before done : World τ}

/-- A run that is not ok lands where nothing has moved. -/
lemma allOrNothing_of_not_ok {result : Ending × World τ} (h : result.1.ok = false) :
    AllOrNothing before done result ↔ result.2 = before := by
  rw [AllOrNothing, h]
  simp

/-- A rollback restores the table, and the last good manifest is what it was there. -/
lemma allOrNothing_rollback :
    AllOrNothing before done (rollback answers before.live code w) ↔ w.lastGood = before.lastGood := by
  have hok : (rollback answers before.live code w).1.ok = false := by
    rw [rollback, finish]
    split_ifs <;> rfl
  have hworld : (rollback answers before.live code w).2 = ⟨before.live, w.lastGood⟩ := by
    rw [rollback, finish]
    split_ifs <;> rfl
  rw [allOrNothing_of_not_ok hok, hworld]
  constructor
  · intro h
    rw [← h]
  · intro h
    rw [h]

/-- A phase that ends in time goes on; one that does not leaves the world as it is. -/
lemma allOrNothing_finish {phase : Phase} {rest : World τ → Ending × World τ} :
    AllOrNothing before done (finish answers phase rest w) ↔
      (answers.overruns phase = true → w = before) ∧
        (answers.overruns phase = false → AllOrNothing before done (rest w)) := by
  rw [finish]
  split_ifs with h
  · have htimedOut : AllOrNothing before done (.timedOut phase, w) ↔ w = before := allOrNothing_of_not_ok rfl
    simp [h, htimedOut]
  · simp [h]

lemma allOrNothing_requireJobRunning {check : JobCheck} {rest : World τ → Ending × World τ} :
    AllOrNothing before done (requireJobRunning answers check rest w) ↔
      (answers.running check = false → w = before) ∧
        (answers.running check = true → AllOrNothing before done (rest w)) := by
  rw [requireJobRunning]
  split_ifs with h
  · simp [h]
  · have haborted : AllOrNothing before done (.aborted check, w) ↔ w = before := allOrNothing_of_not_ok rfl
    simp [h, haborted]

lemma allOrNothing_finalize : AllOrNothing before (call.done answers)
      (finalize answers before.live (call.done answers)) ↔
    (answers.running .finalize = false → call.appliedManifest answers = before.lastGood) := by
  rw [finalize]
  split_ifs with hrunning
  · simp [hrunning, AllOrNothing, Ending.ok]
  · rw [allOrNothing_rollback]
    simp [hrunning, Call.done]

/-- Where a promotion may go wrong, nothing has to move. -/
def PromotionLands (call : Call τ) (answers : Answers τ) (before : World τ) : Prop :=
  (answers.overruns .promoteManifest = true → call.done answers = before) ∧
    (answers.overruns .promoteManifest = false → answers.running .finalize = false →
      call.appliedManifest answers = before.lastGood)

/-- The candidate is live, and nothing is promoted yet. -/
def swapped (call : Call τ) (before : World τ) : World τ := ⟨call.candidate, before.lastGood⟩

lemma swapped_eq : swapped call before = before ↔ call.candidate = before.live := by
  constructor
  · intro h
    exact congrArg World.live h
  · intro h
    rw [swapped, h]

lemma allOrNothing_promote : AllOrNothing before (call.done answers)
      (promote call answers before.live (swapped call before)) ↔
    (answers.running .promoteManifest = false → call.candidate = before.live) ∧
      (answers.running .promoteManifest = true → PromotionLands call answers before) := by
  rw [promote, allOrNothing_requireJobRunning, swapped_eq, allOrNothing_finish, PromotionLands]
  exact and_congr_right fun _ => imp_congr_right fun _ => and_congr_right fun _ =>
    imp_congr_right fun _ => allOrNothing_finalize

lemma allOrNothing_verify : AllOrNothing before (call.done answers)
      (verify U reprText call answers before.live (swapped call before)) ↔
    (answers.overruns .verifyRuntime = true → call.candidate = before.live) ∧
      (Verified U reprText call answers → (answers.running .promoteManifest = false →
          call.candidate = before.live) ∧
        (answers.running .promoteManifest = true → PromotionLands call answers before)) := by
  rw [verify, allOrNothing_finish, swapped_eq]
  refine and_congr_right fun _ => ?_
  rw [← allOrNothing_promote, Verified]
  by_cases hmode : call.liveModeOk U reprText answers = false
  · simp [hmode, allOrNothing_rollback, swapped]
  · by_cases henforced : call.enforced reprText answers = false
    · simp [hmode, henforced, allOrNothing_rollback, swapped]
    · simp [hmode, henforced]

/-- The condition under which a run after the mutation lands. -/
def SwapLands (U : Unicode) (reprText : Text → Text) (call : Call τ) (answers : Answers τ) (before : World τ) :
    Prop :=
  (answers.overruns .verifyRuntime = true → call.candidate = before.live) ∧
    (Verified U reprText call answers → (answers.running .promoteManifest = false →
        call.candidate = before.live) ∧
      (answers.running .promoteManifest = true → PromotionLands call answers before))

lemma allOrNothing_dnsmasq : AllOrNothing before (call.done answers)
      (dnsmasq U reprText call answers before.live (swapped call before)) ↔
    (StrandsAtDnsmasq U reprText call answers → call.candidate = before.live) ∧
      (ReachesVerify U reprText call answers → SwapLands U reprText call answers before) := by
  have hverify : AllOrNothing before (call.done answers)
      (verify U reprText call answers before.live (swapped call before)) ↔
        SwapLands U reprText call answers before := allOrNothing_verify
  have hstranded : AllOrNothing before (call.done answers)
      (.returned false (reconcileCode answers) false, swapped call before) ↔ call.candidate = before.live :=
    (allOrNothing_of_not_ok rfl).trans swapped_eq
  have hrollback : ∀ code, AllOrNothing before (call.done answers)
      (rollback answers before.live code (swapped call before)) := fun code => allOrNothing_rollback.mpr rfl
  rw [dnsmasq, StrandsAtDnsmasq, ReachesVerify]
  by_cases hreconciles : call.reconciles U reprText = true
  · rw [if_pos hreconciles, if_pos hreconciles, if_pos hreconciles, allOrNothing_finish, swapped_eq,
      Answers.Reconciled]
    refine and_congr_right fun _ => ?_
    by_cases hok : answers.reconcile.ok = true
    · simp only [hok, if_true, and_true, hverify]
    · simp [hok, hrollback]
  · rw [if_neg hreconciles, if_neg hreconciles, if_neg hreconciles]
    by_cases hinspects : call.inspects U reprText = true
    · rw [if_pos hinspects, allOrNothing_finish, swapped_eq, Answers.Reconciled]
      by_cases hok : answers.inspectOk = true
      · simp [hinspects, hok, hverify]
      · have hreconcile : AllOrNothing before (call.done answers)
            (finish answers .reconcileDnsmasq (fun w =>
              if answers.reconcile.ok then verify U reprText call answers before.live w
              else (.returned false (reconcileCode answers) false, w)) (swapped call before)) ↔
            (¬answers.Reconciled → call.candidate = before.live) ∧
              (answers.Reconciled → SwapLands U reprText call answers before) := by
          rw [allOrNothing_finish, swapped_eq, Answers.Reconciled]
          by_cases hdone : answers.reconcile.ok = true
          · simp [hdone, hverify]
          · cases hlate : answers.overruns .reconcileDnsmasq <;> simp [hdone, hstranded]
        rw [Answers.Reconciled] at hreconcile
        simp only [hok, Bool.false_eq_true, if_false, hreconcile]
        cases hlate : answers.overruns .inspectDnsmasq <;> simp [hinspects]
    · simp [hinspects, hverify]

lemma allOrNothing_mutate : AllOrNothing before (call.done answers) (mutate U reprText call answers before) ↔
    (answers.apply.ok = false → answers.overruns .applyNft = true → answers.applyLeaves = before.live) ∧
      (answers.apply.ok = true → (Strands U reprText call answers → call.candidate = before.live) ∧
        (Promotes U reprText call answers → PromotionLands call answers before)) := by
  rw [mutate, allOrNothing_finish]
  by_cases hok : answers.apply.ok = true
  · have hswapped : ({ before with live := call.candidate } : World τ) = swapped call before := rfl
    simp only [hok, if_true, hswapped, swapped_eq, allOrNothing_dnsmasq, SwapLands, Strands, Promotes,
      Bool.true_eq_false, false_implies, true_and, true_implies]
    cases hlate : answers.overruns .applyNft
    · simp only [Bool.false_eq_true, false_implies, true_and, true_implies, false_or]
      tauto
    · simp
  · have hleaves : ({ before with live := answers.applyLeaves } : World τ) = before ↔
        answers.applyLeaves = before.live :=
      ⟨fun h => congrArg World.live h, fun h => by rw [h]⟩
    have hrollback : AllOrNothing before (call.done answers)
        (rollback answers before.live answers.apply.errorCode { before with live := answers.applyLeaves }) :=
      allOrNothing_rollback.mpr rfl
    simp only [hok, Bool.false_eq_true, if_false, hleaves, hrollback, imp_true_iff, and_true, false_implies,
      true_implies]

/-- The condition under which a run lands. -/
structure Lands (U : Unicode) (reprText : Text → Text) (call : Call τ) (answers : Answers τ) (before : World τ) :
    Prop where
  /-- A failed apply that takes too long is not rolled back. -/
  failed : answers.Starts → answers.apply.ok = false → answers.overruns .applyNft = true →
    answers.applyLeaves = before.live
  stranded : answers.Starts → answers.apply.ok = true → Strands U reprText call answers →
    call.candidate = before.live
  promoted : answers.Starts → answers.apply.ok = true → Promotes U reprText call answers →
    PromotionLands call answers before

/-- **When an apply is all or nothing.** -/
theorem runApplyPipeline_allOrNothing_iff (hmode : call.mode = .apply) (hcheck : answers.check.ok = true) :
    AllOrNothing before (call.done answers) (runApplyPipeline U reprText call answers before) ↔
      Lands U reprText call answers before := by
  have hlands : Lands U reprText call answers before ↔ (answers.Starts →
      (answers.apply.ok = false → answers.overruns .applyNft = true → answers.applyLeaves = before.live) ∧
      (answers.apply.ok = true → (Strands U reprText call answers → call.candidate = before.live) ∧
        (Promotes U reprText call answers → PromotionLands call answers before))) := by
    constructor
    · rintro ⟨hfailed, hstranded, hpromoted⟩ hstarts
      exact ⟨hfailed hstarts, fun hok => ⟨hstranded hstarts hok, hpromoted hstarts hok⟩⟩
    · intro h
      exact ⟨fun hstarts => (h hstarts).1, fun hstarts hok => ((h hstarts).2 hok).1,
        fun hstarts hok => ((h hstarts).2 hok).2⟩
  rw [hlands, runApplyPipeline, allOrNothing_finish, if_pos ⟨hmode, hcheck⟩, allOrNothing_requireJobRunning,
    Answers.Starts, allOrNothing_mutate]
  simp only [imp_true_iff, true_and, and_imp]

/-! ## A job that is aborted on the way -/

/-- The apply of a table with one chain. -/
def directCall : Call Text :=
  ⟨.apply, [], [("routing_global_state".toList, .dict [("desired_mode".toList, .str "direct".toList)])], [], [],
    none, "table inet fwrouter { }".toList⟩

/-- Every step is ok, the live mode is direct, and the job runs on up to `aborted`. -/
def answersUntil (aborted : Option JobCheck) : Answers Text where
  check := ⟨true, none⟩
  running check := decide (some check ≠ aborted)
  overruns _ := false
  apply := ⟨true, none⟩
  applyLeaves := []
  reconcile := ⟨true, none⟩
  inspectOk := true
  verifySubject := ⟨true, none⟩
  probe _ := ⟨true, some "direct".toList, none⟩
  pathVerified := false
  contractReady := false
  guaranteed := true
  guaranteedAgain := true
  runtimeEnforcement := .dict []
  globalPreflight := .dict []

/-- No table, and no last good manifest. -/
def emptyWorld : World Text := ⟨[], []⟩

lemma not_strands_direct : ¬Strands .ascii id directCall (answersUntil none) := by
  rintro (hlate | hdnsmasq | ⟨-, hlate | ⟨-, hrunning⟩⟩)
  · exact absurd hlate (by decide)
  · rw [StrandsAtDnsmasq] at hdnsmasq
    split_ifs at hdnsmasq with hreconciles
    · exact absurd hdnsmasq (by decide)
    · rcases hdnsmasq with ⟨-, hlate | ⟨hinspect, -⟩⟩
      · exact absurd hlate (by decide)
      · exact absurd hinspect (by decide)
  · exact absurd hlate (by decide)
  · exact absurd hrunning (by decide)

theorem runApplyPipeline_direct : AllOrNothing emptyWorld (directCall.done (answersUntil none))
    (runApplyPipeline .ascii id directCall (answersUntil none) emptyWorld) :=
  (runApplyPipeline_allOrNothing_iff rfl rfl).mpr
    { failed := fun _ h => absurd h (by decide)
      stranded := fun _ _ h => absurd h not_strands_direct
      promoted := fun _ _ _ => ⟨fun h => absurd h (by decide), fun _ h => absurd h (by decide)⟩ }

/-- The job is aborted before the promotion: the call raises, and the candidate stays live. -/
theorem runApplyPipeline_strands : ¬AllOrNothing emptyWorld (directCall.done (answersUntil (some .promoteManifest)))
    (runApplyPipeline .ascii id directCall (answersUntil (some .promoteManifest)) emptyWorld) := by
  have hending : (runApplyPipeline .ascii id directCall (answersUntil (some .promoteManifest)) emptyWorld).1 =
      .aborted .promoteManifest := by decide +kernel
  have hlive : (runApplyPipeline .ascii id directCall (answersUntil (some .promoteManifest)) emptyWorld).2.live =
      directCall.candidate := by decide +kernel
  intro h
  have hworld := (allOrNothing_of_not_ok (by rw [hending]; rfl)).mp h
  rw [hworld] at hlive
  exact absurd hlive (by decide)

end AllOrNothing

end FwRouter.Apply
