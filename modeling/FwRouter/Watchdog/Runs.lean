import FwRouter.Library.Run
import FwRouter.Watchdog.FailureState

/-!
# Runs of the watchdog operations

Two properties of the shared failure candidate over whole runs.

* **The pending incident.**  No health evaluation changes the recovery incident, with one
  exception: `idle_probe_due` clears an idle candidate with everything pinned to it when it finds
  another active server (`recoveryPending_kept`).
* **The evidence of a stall.**  A confirmed stall rests on stalled snapshots, unless a stalled call
  meets the candidate of a quality or idle failure on the same path: the confirmation compares the
  path but not the kind, and takes that candidate's age for the age of the stall
  (`stall_confirmed_on_evidence`).

Both rest on one inversion lemma for each operation, which says what it may do to the candidate.
-/

namespace FwRouter.Watchdog

open Py

/-- A call of one of the operations. -/
inductive Op (π : Type) where
  | trafficFailure (a : StallCheck)
  | activeQualityDegraded (a : QualityArgs)
  | idleActiveFailure (a : QualityArgs)
  | activeQualityRecovery (a : RecoveryArgs)
  | resetTrafficFailure
  | resetStalledTrafficFailure
  | idleProbeDue (activeServerId : Text) (intervalSeconds : Int) (now : Instant)
  | recordIdleProbe (activeServerId status : Text) (checkedAt : Instant)
  | setRecoveryPending (pending : Option π)
  | compareAndSetRecoveryPending (expected pending : Option π)
  | completeRecoveryPending (expected : π)
  | recordSuccessfulFailover (pathKey previousTargetId selectedTargetId : Option Text)
      (cooldownSeconds : Int) (now : Instant)
deriving DecidableEq

variable {π : Type} [DecidableEq π] (pathKeyOf : π → Option Text)

/-- The state after a call.  `active_quality_degraded_confirmation` is called with its defaults. -/
def step (st : State π) : Op π → State π
  | .trafficFailure a => (trafficFailureConfirmation a st).2
  | .activeQualityDegraded a =>
      (activeQualityDegradedConfirmation
        { a with candidateKind := .activeQualityDegraded, requireResponseTraffic := true } st).2
  | .idleActiveFailure a => (idleActiveFailureConfirmation a st).2
  | .activeQualityRecovery a => (activeQualityRecoveryConfirmation a st).2
  | .resetTrafficFailure => resetTrafficFailureCandidate st
  | .resetStalledTrafficFailure => resetStalledTrafficFailureCandidate st
  | .idleProbeDue server interval now => (idleProbeDue server interval now st).2
  | .recordIdleProbe server status checkedAt => recordIdleProbe server status checkedAt st
  | .setRecoveryPending pending => setRecoveryPending pathKeyOf pending st
  | .compareAndSetRecoveryPending expected pending =>
      (compareAndSetRecoveryPending expected pending st).2
  | .completeRecoveryPending expected => (completeRecoveryPending expected st).2
  | .recordSuccessfulFailover path previous selected cooldown now =>
      recordSuccessfulFailover path previous selected cooldown now st

/-! ## What each operation may do to the candidate -/

/-- The call reads `c` as its own earlier evidence. -/
structure Matches (a : StallCheck) (st : State π) (c : Candidate π) : Prop where
  candidate : st.candidate = some c
  kind : c.kind ≠ some .trafficRecovery
  path : c.pathKey = some a.path

/-- The five outcomes of `traffic_failure_confirmation`: whether it confirms, and the state
after it. -/
inductive StallOutcome (a : StallCheck) (st : State π) : Bool → State π → Prop
  | notStalled (h : ¬a.Stalled) : StallOutcome a st false (resetTrafficFailureCandidate st)
  | first (h : a.Stalled) (new : Candidate π)
      (hnew : new = a.fresh (st.candidate.bind Candidate.recoveryPending)) :
      StallOutcome a st false
        ⟨st.row.write (some a.path) (some new) (some a.signal.decision), some new⟩
  | same (h : a.Stalled) (c : Candidate π) (hc : Matches a st c)
      (hdecision : c.decisionId = some a.signal.decision) (copy : Candidate π)
      (hcopy : copy = { c with firstSeenAt := some (c.firstSeenAt.getD a.now) }) :
      StallOutcome a st false
        ⟨st.row, if st.row.failureCandidate.isSome then st.memory else some copy⟩
  | window (h : a.Stalled) (c : Candidate π) (hc : Matches a st c)
      (hdecision : c.decisionId ≠ some a.signal.decision) (new : Candidate π) (n : Nat)
      (hnew : new = { c with
        lastCollectedAt := some a.signal.collectedAt
        decisionId := some a.signal.decision
        stalledSnapshots := some n }) :
      StallOutcome a st false
        ⟨st.row.write (some a.path) (some new) (some a.signal.decision), some new⟩
  | confirmed (h : a.Stalled) (c : Candidate π) (hc : Matches a st c)
      (hdecision : c.decisionId ≠ some a.signal.decision)
      (hage : a.threshold ≤ elapsedSeconds (c.firstSeenAt.getD a.now) a.now)
      (kept : Option (Candidate π))
      (hkept : kept = (st.candidate.bind Candidate.recoveryPending).map
        (Candidate.recoveryOf (some a.path))) :
      StallOutcome a st true
        ⟨st.row.write (some a.path) kept (some a.signal.decision), kept⟩

omit [DecidableEq π] in
lemma stallOutcome (a : StallCheck) (st : State π) :
    StallOutcome a st (trafficFailureConfirmation a st).1.confirmed
      (trafficFailureConfirmation a st).2 := by
  by_cases hst : a.Stalled
  · rw [trafficFailureConfirmation, if_neg (not_not.mpr hst)]
    dsimp only
    cases hc : st.candidate.filter
        (fun c => c.kind ≠ some .trafficRecovery ∧ c.pathKey = some a.path) with
    | none => exact .first hst _ rfl
    | some c =>
        obtain ⟨hcand, hprop⟩ := Option.filter_eq_some_iff.mp hc
        simp only [decide_eq_true_eq] at hprop
        have hmatch : Matches a st c := ⟨hcand, hprop.1, hprop.2⟩
        dsimp only
        by_cases hdec : c.decisionId = some a.signal.decision
        · rw [if_pos hdec]
          exact .same hst c hmatch hdec _ rfl
        · rw [if_neg hdec]
          by_cases hage : elapsedSeconds (c.firstSeenAt.getD a.now) a.now < a.threshold
          · rw [if_pos hage]
            exact .window hst c hmatch hdec _ _ rfl
          · -- a second snapshot always makes two
            have hsnap : ¬c.snapshots + 1 < 2 := by
              rw [Candidate.snapshots]
              omega
            rw [if_neg hage, if_neg hsnap]
            exact .confirmed hst c hmatch hdec (not_lt.mp hage) _ rfl
  · rw [trafficFailureConfirmation, if_pos hst]
    exact .notStalled hst

/-- A guarded write that follows its own read always goes through. -/
lemma compareAndWrite_self (row : Row π) (path : Option Text) (c : Option (Candidate π))
    (decision : Option Text) :
    row.compareAndWrite row path c decision = some (row.write path c decision) := by
  simp [Row.compareAndWrite]

omit [DecidableEq π] in
lemma write_write (row : Row π) (p p' : Option Text) (c c' : Option (Candidate π))
    (d d' : Option Text) : (row.write p c d).write p' c' d' = row.write p' c' d' := rfl

/-- A quality check leaves the state alone, or it finds no pending incident and leaves a candidate
of its own kind or none. -/
lemma activeQualityDegradedConfirmation_cases (a : QualityArgs) (st : State π) :
    (activeQualityDegradedConfirmation a st).2 = st ∨
      st.candidate.bind Candidate.recoveryPending = none ∧
        ∀ c, (activeQualityDegradedConfirmation a st).2.candidate = some c →
          c.kind = some a.candidateKind := by
  rw [activeQualityDegradedConfirmation]
  by_cases heval : a.Evaluable
  · rw [if_neg (not_not.mpr heval)]
    by_cases hpend : (st.candidate.bind Candidate.recoveryPending).isSome
    · rw [if_pos hpend]
      exact Or.inl rfl
    · rw [if_neg hpend]
      right
      refine ⟨by simpa using hpend, ?_⟩
      cases hc : st.candidate.filter (fun c => c.kind = some a.candidateKind ∧
          c.pathKey = some a.path ∧ c.serverId = some a.server) with
      | none =>
          simp only [compareAndWrite_self]
          intro c hcand
          obtain rfl : a.fresh = c := by simpa [State.candidate, Row.write] using hcand
          rfl
      | some c =>
          obtain ⟨-, hprop⟩ := Option.filter_eq_some_iff.mp hc
          have hkind : c.kind = some a.candidateKind := by
            simp only [decide_eq_true_eq] at hprop
            exact hprop.1
          have hkept : ∀ c', (⟨st.row.write (some a.path) (some (a.extend c))
              (some a.signal.decision), some (a.extend c)⟩ : State π).candidate = some c' →
              c'.kind = some a.candidateKind := by
            intro c' hcand
            obtain rfl : a.extend c = c' := by simpa [State.candidate, Row.write] using hcand
            exact hkind
          simp only [compareAndWrite_self, write_write]
          by_cases hbad : ((a.extend c).badChecks.getD 0 : Int) < a.requiredBadChecks
          · rw [if_pos hbad]
            exact hkept
          · rw [if_neg hbad]
            by_cases hwin : (((a.extend c).qualityChecks.getD []).length : Int) <
                a.requiredWindowChecks ∨
                  ((a.extend c).badChecks.getD 0 : Int) < a.requiredWindowBadChecks
            · rw [if_pos hwin]
              exact hkept
            · rw [if_neg hwin]
              intro c' hcand
              exact absurd hcand (by simp [State.candidate, Row.write])
  · rw [if_pos heval]
    exact Or.inl rfl

lemma activeQualityRecoveryConfirmation_cases (a : RecoveryArgs) (st : State π) :
    (activeQualityRecoveryConfirmation a st).2 = st ∨
      st.candidate.bind Candidate.recoveryPending = none ∧
        ∀ c, (activeQualityRecoveryConfirmation a st).2.candidate = some c →
          c.kind = some .activeQualityDegraded := by
  rw [activeQualityRecoveryConfirmation]
  by_cases hpend : (st.candidate.bind Candidate.recoveryPending).isSome
  · rw [if_pos hpend]
    exact Or.inl rfl
  · rw [if_neg hpend]
    dsimp only
    cases hc : st.candidate.filter (fun c => c.kind = some .activeQualityDegraded ∧
        c.pathKey = some (normalizedPathKey a.pathKey a.activeServerId) ∧
        c.serverId = some (strip a.activeServerId)) with
    | none => exact Or.inl rfl
    | some c =>
        right
        refine ⟨by simpa using hpend, ?_⟩
        obtain ⟨-, hprop⟩ := Option.filter_eq_some_iff.mp hc
        have hkind : c.kind = some .activeQualityDegraded := by
          simp only [decide_eq_true_eq] at hprop
          exact hprop.1
        simp only [compareAndWrite_self]
        split_ifs
        · intro c' hcand
          exact absurd hcand (by simp [State.candidate, Row.write])
        · intro c' hcand
          obtain rfl : a.extend c = c' := by simpa [State.candidate, Row.write] using hcand
          exact hkind

omit [DecidableEq π] in
lemma resetTrafficFailureCandidate_kind {st : State π} {c : Candidate π}
    (h : (resetTrafficFailureCandidate st).candidate = some c) :
    c.kind = some .trafficRecovery := by
  have hc : (st.row.failureCandidate.bind fun c =>
      c.recoveryPending.map (Candidate.recoveryOf c.pathKey)) = some c := by
    simpa [resetTrafficFailureCandidate, State.candidate, Row.write] using h
  obtain ⟨d, -, hd⟩ := Option.bind_eq_some_iff.mp hc
  obtain ⟨p, -, rfl⟩ := Option.map_eq_some_iff.mp hd
  rfl

omit [DecidableEq π] in
lemma resetStalledTrafficFailureCandidate_kind {st : State π} {c : Candidate π}
    (h : (resetStalledTrafficFailureCandidate st).candidate = some c) :
    c.kind = some .trafficRecovery ∨ c.kind = some .activeQualityDegraded := by
  rw [resetStalledTrafficFailureCandidate] at h
  cases hcand : st.candidate with
  | none =>
      rw [hcand] at h
      exact absurd h (by simp [State.candidate, Row.write])
  | some d =>
      rw [hcand] at h
      dsimp only at h
      by_cases hkind : d.kind = some .activeQualityDegraded
      · rw [if_pos hkind] at h
        right
        rw [State.candidate] at hcand h
        cases hrow : st.row.failureCandidate with
        | none =>
            rw [hrow] at h
            obtain rfl : d = c := by simpa using h
            exact hkind
        | some e =>
            rw [hrow] at h hcand
            obtain rfl : e = c := by simpa using h
            obtain rfl : e = d := by simpa using hcand
            exact hkind
      · rw [if_neg hkind] at h
        cases hpend : d.recoveryPending with
        | none =>
            rw [hpend] at h
            exact absurd h (by simp [State.candidate, Row.write])
        | some p =>
            rw [hpend] at h
            left
            obtain rfl : Candidate.recoveryOf d.pathKey p = c := by simpa [State.candidate] using h
            rfl

/-! ## The pending incident -/

/-- The health evaluations: every operation but the four that manage the incident. -/
def Op.Evaluation : Op π → Prop
  | .setRecoveryPending _ | .compareAndSetRecoveryPending _ _ | .completeRecoveryPending _
  | .recordSuccessfulFailover .. => False
  | _ => True

instance : ∀ op : Op π, Decidable op.Evaluation
  | .setRecoveryPending _ | .compareAndSetRecoveryPending _ _ | .completeRecoveryPending _
  | .recordSuccessfulFailover .. => isFalse id
  | .trafficFailure _ | .activeQualityDegraded _ | .idleActiveFailure _ | .activeQualityRecovery _
  | .resetTrafficFailure | .resetStalledTrafficFailure | .idleProbeDue .. | .recordIdleProbe .. =>
      isTrue trivial

/-- An idle probe for another server than the last one, while an idle failure is the candidate. -/
def ClearsIdleCandidate (st : State π) : Op π → Prop
  | .idleProbeDue server _ _ => idleProbeServerChanged server st ∧
      st.row.failureCandidate.bind Candidate.kind = some .idleActiveFailure
  | _ => False

instance (st : State π) : ∀ op, Decidable (ClearsIdleCandidate st op)
  | .idleProbeDue .. => inferInstanceAs (Decidable (_ ∧ _))
  | .trafficFailure _ | .activeQualityDegraded _ | .idleActiveFailure _ | .activeQualityRecovery _
  | .resetTrafficFailure | .resetStalledTrafficFailure | .recordIdleProbe ..
  | .setRecoveryPending _ | .compareAndSetRecoveryPending _ _ | .completeRecoveryPending _
  | .recordSuccessfulFailover .. => isFalse id

omit [DecidableEq π] in
lemma trafficFailureConfirmation_keeps {st : State π} {c : Candidate π} {R : π}
    (hrow : st.row.failureCandidate = some c) (hR : c.recoveryPending = some R)
    (a : StallCheck) : getRecoveryPending (trafficFailureConfirmation a st).2 = some R := by
  have hcand : st.candidate = some c := by rw [State.candidate, hrow]; rfl
  have hout := stallOutcome a st
  generalize (trafficFailureConfirmation a st).1.confirmed = ok at hout
  generalize (trafficFailureConfirmation a st).2 = st' at hout ⊢
  cases hout with
  | notStalled h =>
      simp [getRecoveryPending, resetTrafficFailureCandidate, Row.write, hrow, hR,
        Candidate.recoveryOf]
  | first h new hnew =>
      simp [getRecoveryPending, Row.write, hnew, StallCheck.fresh, hcand, hR]
  | same h d hd hdec copy hcopy =>
      simp [getRecoveryPending, hrow, hR]
  | window h d hd hdec new n hnew =>
      obtain rfl : c = d := by simpa [hcand] using hd.candidate
      simp [getRecoveryPending, Row.write, hnew, hR]
  | confirmed h d hd hdec hage kept hkept =>
      simp [getRecoveryPending, Row.write, hkept, hcand, hR, Candidate.recoveryOf]

omit [DecidableEq π] in
lemma resetStalledTrafficFailureCandidate_keeps {st : State π} {c : Candidate π} {R : π}
    (hrow : st.row.failureCandidate = some c) (hR : c.recoveryPending = some R) :
    getRecoveryPending (resetStalledTrafficFailureCandidate st) = some R := by
  have hcand : st.candidate = some c := by rw [State.candidate, hrow]; rfl
  rw [resetStalledTrafficFailureCandidate, hcand]
  dsimp only
  split_ifs
  · simp [getRecoveryPending, hrow, hR]
  · simp [getRecoveryPending, hR, Candidate.recoveryOf]

/-- **One evaluation.**  It loses a pending incident exactly when it clears an idle candidate. -/
lemma step_keeps_pending_iff {st : State π} {R : π} (h : getRecoveryPending st = some R)
    {op : Op π} (hop : op.Evaluation) :
    getRecoveryPending (step pathKeyOf st op) = some R ↔ ¬ClearsIdleCandidate st op := by
  obtain ⟨c, hrow, hR⟩ := Option.bind_eq_some_iff.mp h
  have hcand : st.candidate = some c := by rw [State.candidate, hrow]; rfl
  have hpend : st.candidate.bind Candidate.recoveryPending ≠ none := by simp [hcand, hR]
  -- a quality or recovery check returns early
  have hquality : ∀ a, getRecoveryPending (activeQualityDegradedConfirmation a st).2 = some R := by
    intro a
    rcases activeQualityDegradedConfirmation_cases a st with hsame | ⟨hnone, -⟩
    · rw [hsame, h]
    · exact absurd hnone hpend
  cases op with
  | trafficFailure a => exact iff_of_true (trafficFailureConfirmation_keeps hrow hR a) id
  | activeQualityDegraded a => exact iff_of_true (hquality _) id
  | idleActiveFailure a => exact iff_of_true (hquality _) id
  | activeQualityRecovery a =>
      refine iff_of_true ?_ id
      rcases activeQualityRecoveryConfirmation_cases a st with hsame | ⟨hnone, -⟩
      · rw [step, hsame, h]
      · exact absurd hnone hpend
  | resetTrafficFailure =>
      refine iff_of_true ?_ id
      simp [step, getRecoveryPending, resetTrafficFailureCandidate, Row.write, hrow, hR,
        Candidate.recoveryOf]
  | resetStalledTrafficFailure =>
      exact iff_of_true (resetStalledTrafficFailureCandidate_keeps hrow hR) id
  | idleProbeDue server interval now =>
      rw [step, idleProbeDue, ClearsIdleCandidate]
      by_cases hempty : strip server = []
      · rw [if_pos hempty]
        exact iff_of_true h fun hc => hc.1.1 hempty
      · rw [if_neg hempty]
        by_cases hchanged : idleProbeServerChanged server st
        · rw [if_pos hchanged]
          dsimp only
          split_ifs with hkind
          · exact iff_of_false (by simp [getRecoveryPending]) (not_not.mpr ⟨hchanged, hkind⟩)
          · exact iff_of_true h fun hc => hkind hc.2
        · rw [if_neg hchanged]
          refine iff_of_true ?_ fun hc => hchanged hc.1
          cases st.row.lastIdleProbeAt <;> exact h
  | recordIdleProbe server status checkedAt => exact iff_of_true h id
  | setRecoveryPending p => exact absurd hop id
  | compareAndSetRecoveryPending e p => exact absurd hop id
  | completeRecoveryPending e => exact absurd hop id
  | recordSuccessfulFailover => exact absurd hop id

/-- **No evaluation loses the incident.**  Over every run of health evaluations in which no idle
probe clears an idle candidate, the pending incident of the first state is the pending incident of
the last. -/
theorem recoveryPending_kept (st : State π) (R : π) (h : getRecoveryPending st = some R)
    (ops : List (Op π))
    (hops : Run.Along (step pathKeyOf) (fun st op => op.Evaluation ∧ ¬ClearsIdleCandidate st op)
      st ops) :
    getRecoveryPending (ops.foldl (step pathKeyOf) st) = some R :=
  Run.Along.keeps (I := fun st => getRecoveryPending st = some R)
    (fun _ _ hst hop => (step_keeps_pending_iff pathKeyOf hst hop.1).mpr hop.2) h hops

/-! ## The evidence of a stall -/

/-- The six operations that judge the path or reset the judgement. -/
def Op.Judgement : Op π → Prop
  | .trafficFailure _ | .activeQualityDegraded _ | .idleActiveFailure _ | .activeQualityRecovery _
  | .resetTrafficFailure | .resetStalledTrafficFailure => True
  | _ => False

instance : ∀ op : Op π, Decidable op.Judgement
  | .trafficFailure _ | .activeQualityDegraded _ | .idleActiveFailure _ | .activeQualityRecovery _
  | .resetTrafficFailure | .resetStalledTrafficFailure => isTrue trivial
  | .setRecoveryPending _ | .compareAndSetRecoveryPending _ _ | .completeRecoveryPending _
  | .recordSuccessfulFailover .. | .idleProbeDue .. | .recordIdleProbe .. => isFalse id

/-- A stalled call that meets the candidate of a quality or idle failure on its own path. -/
def MeetsOtherFailure (st : State π) : Op π → Prop
  | .trafficFailure a => a.Stalled ∧ ∃ c ∈ st.candidate, c.pathKey = some a.path ∧
      (c.kind = some .activeQualityDegraded ∨ c.kind = some .idleActiveFailure)
  | _ => False

instance (st : State π) : ∀ op, Decidable (MeetsOtherFailure st op)
  | .trafficFailure a =>
      decidable_of_iff (a.Stalled ∧ (st.candidate.any fun c => c.pathKey = some a.path ∧
        (c.kind = some .activeQualityDegraded ∨ c.kind = some .idleActiveFailure)) = true)
        (by simp [MeetsOtherFailure, Option.any_eq_true])
  | .activeQualityDegraded _ | .idleActiveFailure _ | .activeQualityRecovery _
  | .resetTrafficFailure | .resetStalledTrafficFailure | .recordIdleProbe .. | .idleProbeDue ..
  | .setRecoveryPending _ | .compareAndSetRecoveryPending _ _ | .completeRecoveryPending _
  | .recordSuccessfulFailover .. => isFalse id

/-- The call takes back the evidence for the path: a reset, a report that traffic is not stalled,
or a report about another path. -/
def Op.Resets (path : Text) : Op π → Prop
  | .resetTrafficFailure | .resetStalledTrafficFailure => True
  | .trafficFailure a => ¬a.Stalled ∨ a.path ≠ path
  | _ => False

/-- The history holds stalled snapshots behind the candidate `c`: the first one at its
`first_seen_at`, one with its decision id, and nothing since the first took them back. -/
def Evidence (history : List (Op π)) (c : Candidate π) : Prop :=
  ∃ before first since, history = before ++ .trafficFailure first :: since ∧ first.Stalled ∧
    c.pathKey = some first.path ∧ c.firstSeenAt = some first.now ∧
    (∀ op ∈ since, ¬op.Resets first.path) ∧
    ∃ last, .trafficFailure last ∈ Op.trafficFailure first :: since ∧ last.Stalled ∧
      last.path = first.path ∧ c.decisionId = some last.signal.decision

/-- What a run of judgements keeps: every candidate has a kind, and the candidate of a stall has
its evidence. -/
def Supported (history : List (Op π)) (st : State π) : Prop :=
  ∀ c, st.candidate = some c →
    c.kind ≠ none ∧ (c.kind = some .stalledTraffic → Evidence history c)

omit [DecidableEq π] in
lemma Evidence.concat {history : List (Op π)} {c : Candidate π} (h : Evidence history c)
    {op : Op π} (hop : ∀ path, c.pathKey = some path → ¬op.Resets path) :
    Evidence (history ++ [op]) c := by
  obtain ⟨before, first, since, rfl, hst, hpath, hseen, hmid, last, hlast, hrest⟩ := h
  refine ⟨before, first, since ++ [op], by simp, hst, hpath, hseen, ?_, last, ?_, hrest⟩
  · intro o ho
    rcases List.mem_append.mp ho with ho | ho
    · exact hmid o ho
    · exact List.mem_singleton.mp ho ▸ hop _ hpath
  · simp only [List.mem_cons, List.mem_append] at hlast ⊢
    tauto

omit [DecidableEq π] in
/-- A further stalled snapshot of the path becomes the last one. -/
lemma Evidence.report {history : List (Op π)} {c c' : Candidate π} (h : Evidence history c)
    {a : StallCheck} (hst : a.Stalled) (hpath : c.pathKey = some a.path)
    (hpath' : c'.pathKey = c.pathKey) (hseen' : c'.firstSeenAt = c.firstSeenAt)
    (hdecision : c'.decisionId = some a.signal.decision) :
    Evidence (history ++ [.trafficFailure a]) c' := by
  obtain ⟨before, first, since, rfl, hfirst, hfpath, hseen, hmid, -⟩ := h
  have hap : a.path = first.path := Option.some.inj (hpath.symm.trans hfpath)
  refine ⟨before, first, since ++ [.trafficFailure a], by simp, hfirst, hpath'.trans hfpath,
    hseen'.trans hseen, ?_, a, by simp, hst, hap, hdecision⟩
  intro o ho
  rcases List.mem_append.mp ho with ho | ho
  · exact hmid o ho
  · rw [List.mem_singleton.mp ho]
    simp [Op.Resets, hst, hap]

omit [DecidableEq π] in
/-- A state whose candidates are all of one other kind is supported by any history. -/
lemma supported_of_kind {history : List (Op π)} {st : State π}
    (h : ∀ c, st.candidate = some c → c.kind = some .trafficRecovery ∨
      c.kind = some .activeQualityDegraded ∨ c.kind = some .idleActiveFailure) :
    Supported history st := by
  intro c hc
  rcases h c hc with h | h | h <;> simp [h]

omit [DecidableEq π] in
/-- A call that changes nothing and takes nothing back. -/
lemma Supported.concat {history : List (Op π)} {st : State π} (h : Supported history st)
    {op : Op π} (hop : ∀ path, ¬op.Resets path) : Supported (history ++ [op]) st := by
  intro c hc
  exact ⟨(h c hc).1, fun hk => ((h c hc).2 hk).concat fun path _ => hop path⟩

omit [DecidableEq π] in
/-- A candidate that a stalled call reads as its own is the candidate of a stall. -/
lemma Supported.stalled {history : List (Op π)} {st : State π} (h : Supported history st)
    {a : StallCheck} (hother : ¬MeetsOtherFailure st (.trafficFailure a)) (hst : a.Stalled)
    {c : Candidate π} (hc : Matches a st c) : c.kind = some .stalledTraffic := by
  have hkind := (h c hc.candidate).1
  have hno : ¬(c.kind = some .activeQualityDegraded ∨ c.kind = some .idleActiveFailure) :=
    fun hk => hother ⟨hst, c, hc.candidate, hc.path, hk⟩
  have hrec := hc.kind
  cases hk : c.kind with
  | none => exact absurd hk hkind
  | some k =>
      rw [hk] at hno hrec
      cases k <;> simp_all

omit [DecidableEq π] in
lemma Supported.trafficFailure {history : List (Op π)} {st : State π} (h : Supported history st)
    {a : StallCheck} (hother : ¬MeetsOtherFailure st (.trafficFailure a)) :
    Supported (history ++ [.trafficFailure a]) (trafficFailureConfirmation a st).2 := by
  have hself : ∀ c, Matches a st c → a.Stalled → ∀ path, c.pathKey = some path →
      ¬(Op.trafficFailure a : Op π).Resets path := by
    intro c hc hst path hpath
    obtain rfl : a.path = path := by simpa [hc.path] using hpath
    simp [Op.Resets, hst]
  have hout := stallOutcome a st
  generalize (trafficFailureConfirmation a st).1.confirmed = ok at hout
  generalize (trafficFailureConfirmation a st).2 = st' at hout ⊢
  cases hout with
  | notStalled hst =>
      exact supported_of_kind fun c hc => Or.inl (resetTrafficFailureCandidate_kind hc)
  | first hst new hnew =>
      intro c hc
      obtain rfl : new = c := by simpa [State.candidate, Row.write] using hc
      subst hnew
      exact ⟨by simp [StallCheck.fresh], fun _ => ⟨history, a, [], rfl, hst, rfl, rfl, by simp, a,
        by simp, hst, rfl, rfl⟩⟩
  | same hst c hc hdec copy hcopy =>
      have hev := (h c hc.candidate).2 (h.stalled hother hst hc)
      have hfirst : copy = c := by
        obtain ⟨-, first, -, -, -, -, hseen, -⟩ := hev
        have hget : some (c.firstSeenAt.getD a.now) = c.firstSeenAt := by rw [hseen]; rfl
        rw [hcopy, hget]
      have hsame : (⟨st.row, if st.row.failureCandidate.isSome then st.memory else some copy⟩ :
          State π).candidate = some c := by
        have := hc.candidate
        rw [State.candidate] at this ⊢
        cases hrow : st.row.failureCandidate with
        | none => simp [hfirst]
        | some d =>
            rw [hrow] at this
            simpa using this
      intro d hd
      obtain rfl : c = d := by rw [hsame] at hd; exact Option.some.inj hd
      exact ⟨(h c hc.candidate).1, fun _ => hev.concat (hself c hc hst)⟩
  | window hst c hc hdec new n hnew =>
      intro d hd
      obtain rfl : new = d := by simpa [State.candidate, Row.write] using hd
      subst hnew
      exact ⟨(h c hc.candidate).1, fun _ =>
        ((h c hc.candidate).2 (h.stalled hother hst hc)).report hst hc.path rfl rfl rfl⟩
  | confirmed hst c hc hdec hage kept hkept =>
      refine supported_of_kind fun d hd => Or.inl ?_
      have : kept = some d := by
        cases hk : kept with
        | none => simp [State.candidate, Row.write, hk] at hd
        | some k => simpa [State.candidate, Row.write, hk] using hd
      rw [hkept] at this
      obtain ⟨p, -, rfl⟩ := Option.map_eq_some_iff.mp this
      rfl

/-- **One judgement.** -/
lemma Supported.step {history : List (Op π)} {st : State π} (h : Supported history st) {op : Op π}
    (hop : op.Judgement) (hother : ¬MeetsOtherFailure st op) :
    Supported (history ++ [op]) (step pathKeyOf st op) := by
  have hquality : ∀ (a : QualityArgs) (o : Op π), (∀ path, ¬o.Resets path) →
      (a.candidateKind = .activeQualityDegraded ∨ a.candidateKind = .idleActiveFailure) →
      Supported (history ++ [o]) (activeQualityDegradedConfirmation a st).2 := by
    intro a o ho hkind
    rcases activeQualityDegradedConfirmation_cases a st with hsame | ⟨-, hnew⟩
    · rw [hsame]
      exact h.concat ho
    · refine supported_of_kind fun c hc => ?_
      rw [hnew c hc]
      rcases hkind with hk | hk <;> simp [hk]
  cases op with
  | trafficFailure a => exact h.trafficFailure hother
  | activeQualityDegraded a => exact hquality _ _ (fun _ => id) (Or.inl rfl)
  | idleActiveFailure a => exact hquality _ _ (fun _ => id) (Or.inr rfl)
  | activeQualityRecovery a =>
      rcases activeQualityRecoveryConfirmation_cases a st with hsame | ⟨-, hnew⟩
      · rw [Watchdog.step, hsame]
        exact h.concat fun _ => id
      · exact supported_of_kind fun c hc => Or.inr (Or.inl (hnew c hc))
  | resetTrafficFailure =>
      exact supported_of_kind fun c hc => Or.inl (resetTrafficFailureCandidate_kind hc)
  | resetStalledTrafficFailure =>
      refine supported_of_kind fun c hc => ?_
      rcases resetStalledTrafficFailureCandidate_kind hc with hk | hk <;> simp [hk]
  | idleProbeDue => exact absurd hop id
  | recordIdleProbe => exact absurd hop id
  | setRecoveryPending => exact absurd hop id
  | compareAndSetRecoveryPending => exact absurd hop id
  | completeRecoveryPending => exact absurd hop id
  | recordSuccessfulFailover => exact absurd hop id

/-- **A confirmed stall rests on stalled snapshots.**  Over every run of judgements in which no
stalled call meets the candidate of a quality or idle failure on its own path, a confirmation has
a first stalled snapshot of the same path at least `max(30, confirm_seconds)` seconds before it and
a second one with another decision id, the confirming call itself included, with nothing in between
that took the evidence back. -/
theorem stall_confirmed_on_evidence (ops : List (Op π)) (a : StallCheck)
    (hops : Run.Along (step pathKeyOf) (fun st op => op.Judgement ∧ ¬MeetsOtherFailure st op) {}
      (ops ++ [.trafficFailure a]))
    (hconfirmed : (trafficFailureConfirmation a (ops.foldl (step pathKeyOf) {})).1.confirmed) :
    a.Stalled ∧ ∃ before first since, ops = before ++ .trafficFailure first :: since ∧
      first.Stalled ∧ first.path = a.path ∧
      first.now + max 30 a.confirmSeconds * 1000000 ≤ a.now ∧
      (∀ op ∈ since, ¬op.Resets a.path) ∧
      ∃ second, .trafficFailure second ∈ since ++ [.trafficFailure a] ∧ second.Stalled ∧
        second.path = a.path ∧ second.signal.decision ≠ first.signal.decision := by
  obtain ⟨hops, hlast, -⟩ := Run.along_append.mp hops
  have hsupp : Supported ops (ops.foldl (step pathKeyOf) {}) :=
    Run.Along.invariant (I := Supported) (h := [])
      (fun _ _ _ hst hop => hst.step pathKeyOf hop.1 hop.2)
      (fun c hc => by simp [State.candidate] at hc) hops
  have hout := stallOutcome a (ops.foldl (step pathKeyOf) {})
  rw [hconfirmed] at hout
  generalize (trafficFailureConfirmation a _).2 = st' at hout
  cases hout with
  | confirmed hst c hc hdec hage kept hkept =>
      obtain ⟨before, first, since, hhist, hfirst, hpath, hseen, hmid, last, hmem, hlst, hlpath,
        hldec⟩ := (hsupp c hc.candidate).2 (hsupp.stalled hlast.2 hst hc)
      have hap : first.path = a.path := Option.some.inj (hpath.symm.trans hc.path)
      refine ⟨hst, before, first, since, hhist, hfirst, hap, ?_, hap ▸ hmid, ?_⟩
      · rw [hseen, Option.getD_some, elapsedSeconds, StallCheck.threshold, orDefault] at hage
        split_ifs at hage <;> omega
      · -- the last snapshot differs from this one, so one of the two differs from the first
        by_cases hne : a.signal.decision = first.signal.decision
        · have hldiff : last.signal.decision ≠ first.signal.decision := by
            intro he
            exact hdec (by rw [hldec, he, hne])
          rcases List.mem_cons.mp hmem with heq | hmem
          · obtain rfl : last = first := by simpa using heq
            exact absurd rfl hldiff
          · exact ⟨last, by simp [hmem], hlst, hlpath.trans hap, hldiff⟩
        · exact ⟨a, by simp, hst, rfl, hne⟩

section Examples

/-- A degraded check of a server at a time, in seconds. -/
def degradedAt (server : String) (decision : String) (seconds : Int) : QualityArgs where
  activeServerId := server.toList
  signal := ⟨decision.toList, decision.toList, false, true⟩
  confirmSeconds := 60
  badChecksRequired := 2
  windowChecks := 4
  windowBadChecks := 3
  pathKey := "p".toList
  now := seconds * 1000000

/-- A stalled snapshot of the path `p`. -/
def stalledAt (server : String) (decision : String) (seconds : Int) : StallCheck where
  activeServerId := server.toList
  signal := ⟨decision.toList, decision.toList, true, false⟩
  confirmSeconds := 60
  pathKey := "p".toList
  now := seconds * 1000000

/-- An idle failure of server `A` with a recovery incident. -/
def idleIncident : List (Op Nat) :=
  [.idleActiveFailure (degradedAt "A" "d1" 0), .recordIdleProbe "A".toList "failed".toList 0,
    .setRecoveryPending (some 7)]

theorem recoveryPending_kept_stall :
    getRecoveryPending (idleIncident.foldl (step fun _ => none) {}) = some 7 ∧
      getRecoveryPending
        ([.trafficFailure (stalledAt "A" "d2" 10), .trafficFailure (stalledAt "A" "d3" 90),
          .resetTrafficFailure, .idleProbeDue "A".toList 60 100000000].foldl (step fun _ => none)
          (idleIncident.foldl (step fun _ => none) {})) = some 7 :=
  have h : getRecoveryPending (idleIncident.foldl (step fun _ => none) {}) = some 7 := by decide
  ⟨h, recoveryPending_kept (fun _ => none) _ 7 h _ (by decide +kernel)⟩

/-- The active server changes from `A` to `B`, and the incident is gone. -/
theorem idleProbe_loses_incident :
    getRecoveryPending (idleIncident.foldl (step fun _ => none) {}) = some 7 ∧
      getRecoveryPending (step (fun _ => none) (idleIncident.foldl (step fun _ => none) {})
        (.idleProbeDue "B".toList 60 1000000)) = none := by decide

/-- Two stalled snapshots a minute apart. -/
theorem stall_confirmed_after_a_minute :
    Run.Along (step fun _ : Nat => none) (fun st op => op.Judgement ∧ ¬MeetsOtherFailure st op) {}
        [.trafficFailure (stalledAt "A" "d1" 0), .trafficFailure (stalledAt "A" "d2" 60)] ∧
      ∃ before first since, [.trafficFailure (stalledAt "A" "d1" 0)] =
        before ++ Op.trafficFailure (π := Nat) first :: since ∧ first.Stalled :=
  have h : Run.Along (step fun _ : Nat => none)
      (fun st op => op.Judgement ∧ ¬MeetsOtherFailure st op) {}
      [.trafficFailure (stalledAt "A" "d1" 0), .trafficFailure (stalledAt "A" "d2" 60)] := by
    decide +kernel
  ⟨h, by
    obtain ⟨-, before, first, since, heq, hst, -⟩ := stall_confirmed_on_evidence (fun _ : Nat => none)
      [.trafficFailure (stalledAt "A" "d1" 0)] (stalledAt "A" "d2" 60) h (by decide +kernel)
    exact ⟨before, first, since, heq, hst⟩⟩

/-- A degraded check and, a minute later, a first stalled snapshot of the same path: the stall is
confirmed at once, with no earlier stalled call. -/
theorem stall_confirmed_without_evidence :
    (trafficFailureConfirmation (stalledAt "A" "d2" 60)
        ([.activeQualityDegraded (degradedAt "A" "d1" 0)].foldl (step fun _ : Nat => none)
          {})).1.confirmed = true ∧
      ¬∃ first, Op.trafficFailure (π := Nat) first ∈
        [Op.activeQualityDegraded (degradedAt "A" "d1" 0)] := by
  refine ⟨by decide +kernel, ?_⟩
  rintro ⟨first, h⟩
  simp at h

end Examples

end FwRouter.Watchdog
