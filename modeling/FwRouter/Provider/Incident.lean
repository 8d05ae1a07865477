import FwRouter.Library.History
import FwRouter.Watchdog.FailureState

/-!
# The provider recovery incident

`provider_recovery.py` keeps one durable incident, the `recovery_pending` entry of the watchdog's
failure candidate.  This module has the incident and the statements that the recovery calls execute
on it; everything that a call asks of the provider, the runtime, the policy or the clock is an
argument of the call, so that a theorem about all calls is a theorem about all answers.

A compare-and-set may fail although the incident is the expected one, since it answers `False` when
the database raises.  An entry of the incident that is absent and one that is null are the same
here.  The writer guard and the reservation are not modelled: every interleaving they admit is one
of those below.  A call that raises or dies is one that takes no further step.
-/

namespace FwRouter.Provider

open Py Watchdog Interleave

/-- The `phase` of an incident. -/
inductive RecoveryPhase
  | providerRecovery
  | emergencyDirectPending
  | emergencyDirect
  | emergencyDirectUnconfirmed
  | reentryVerification
  | memberReselectPending
  | trafficVerifying
deriving DecidableEq

/-- `recovery_pending`. -/
structure Marker where
  providerManaged : Bool := false
  sourceRef : Option Text := none
  bindingRevision : Option Int := none
  logicalServerId : Option Text := none
  pathKey : Option Text := none
  phase : Option RecoveryPhase := none
  providerConfirmation : Nat := 0
  trafficDecisionId : Option Text := none
  notBefore : Option Instant := none
  lastOutcome : Option Text := none
  errorCode : Option Text := none
  switchAttempted : Option Bool := none
  emergencyDirect : Bool := false
  switchOutcomeUnconfirmed : Bool := false
  switchConfirmationAttempted : Bool := false
  switchRequestedMemberId : Option Text := none
  switchPreviousMemberId : Option Text := none
  switchConfirmationReason : Option Text := none
  switchConfirmationResult : Option Text := none
  switchApiErrorCode : Option Text := none
  reentryOperationId : Option Text := none
  reentryStartedAt : Option Instant := none
deriving DecidableEq

/-- What an incident is about: `source_ref` and `binding_revision`. -/
def Marker.key (m : Marker) : Option Text × Option Int := (m.sourceRef, m.bindingRevision)

/-- `emergency_override()` on what `get_recovery_pending` returned. -/
def emergencyOverride (pending : Option Marker) : Option Marker :=
  pending.filter fun m => m.providerManaged && m.emergencyDirect

/-! ## Statements -/

inductive Stmt
  | getRecoveryPending
  /-- The compare-and-set by which `_confirmed_provider_recovery` takes a confirmation. -/
  | claimPending (expected : Option Marker) (value : Marker)
  | casPending (expected value : Marker)
  | completeRecoveryPending (expected : Marker)
  /-- `_recovery_context_matches`. -/
  | contextMatches (expected : Marker)
  /-- `execute_provider_operation(…, "switch", …)`; `claim` says which write of the incident was
  the call's claim. -/
  | switchMember (sourceRef : Text) (bindingRevision : Int) (memberId : Text) (claim : ℕ)
  | applyOverride (reentry : Bool)
  | probe
  /-- `load_watchdog_runtime_state().get("failure_candidate")`. -/
  | loadCandidate
  /-- The update of `set_recovery_pending`. -/
  | writeCandidate (candidate : Option (Candidate Marker))
  /-- The update of `reset_traffic_failure_candidate`. -/
  | resetCandidate (preserved : Option (Candidate Marker))

@[reducible] def Stmt.Reply : Stmt → Type
  | .getRecoveryPending => Option Marker
  | .claimPending .. => Option ℕ
  | .casPending .. => Bool
  | .completeRecoveryPending _ => Bool
  | .contextMatches _ => Bool
  | .switchMember .. => Unit
  | .applyOverride _ => Bool
  | .probe => Bool
  | .loadCandidate => Option (Candidate Marker)
  | .writeCandidate _ => Unit
  | .resetCandidate _ => Unit

/-- The durable state.  `writes` counts the updates of the incident; no statement depends on it. -/
structure Store where
  watchdog : Watchdog.State Marker := {}
  writes : ℕ := 0

/-- The stored incident. -/
def Store.incident (s : Store) : Option Marker := getRecoveryPending s.watchdog

def Store.write (s : Store) (watchdog : Watchdog.State Marker) : Store :=
  ⟨watchdog, s.writes + 1⟩

/-- Executing a statement.  `ok` is what the environment adds: whether the database answers a
compare-and-set, whether the other fences of a context hold, whether an apply or a probe succeeds. -/
def execute : (a : Stmt) → Bool → Store → Except Empty a.Reply × Store
  | .getRecoveryPending, _, s => (.ok s.incident, s)
  | .claimPending expected value, ok, s =>
      let done := compareAndSetRecoveryPending expected (some value) s.watchdog
      if ok && done.1 then (.ok (some (s.writes + 1)), s.write done.2) else (.ok none, s)
  | .casPending expected value, ok, s =>
      let done := compareAndSetRecoveryPending (some expected) (some value) s.watchdog
      if ok && done.1 then (.ok true, s.write done.2) else (.ok false, s)
  | .completeRecoveryPending expected, ok, s =>
      let done := Watchdog.completeRecoveryPending expected s.watchdog
      if ok && done.1 then (.ok true, s.write done.2) else (.ok false, s)
  | .contextMatches expected, ok, s => (.ok (decide (s.incident = some expected) && ok), s)
  | .switchMember .., _, s => (.ok (), s)
  | .applyOverride _, ok, s => (.ok ok, s)
  | .probe, ok, s => (.ok ok, s)
  | .loadCandidate, _, s => (.ok s.watchdog.row.failureCandidate, s)
  | .writeCandidate candidate, _, s =>
      (.ok (), s.write { s.watchdog with row :=
        { s.watchdog.row with failureCandidate := candidate } })
  | .resetCandidate preserved, _, s =>
      (.ok (), s.write ⟨s.watchdog.row.write none preserved none, preserved⟩)

/-! ## What the statements do -/

section Effects

variable {s : Store} {ok : Bool}

lemma incident_compareAndSet {expected : Option Marker} {value : Marker}
    {st : Watchdog.State Marker} :
    ((compareAndSetRecoveryPending expected (some value) st).1 = true →
      getRecoveryPending st = expected) ∧
    ((compareAndSetRecoveryPending expected (some value) st).1 = true →
      getRecoveryPending (compareAndSetRecoveryPending expected (some value) st).2 = some value) := by
  rw [compareAndSetRecoveryPending]
  split_ifs with h
  · exact ⟨fun hc => absurd hc (by simp), fun hc => absurd hc (by simp)⟩
  · exact ⟨fun _ => not_not.mp h, fun _ => rfl⟩

lemma execute_claimPending (expected : Option Marker) (value : Marker) (ok : Bool) (s : Store) :
    execute (.claimPending expected value) ok s = (.ok none, s) ∨
      s.incident = expected ∧
      (execute (.claimPending expected value) ok s).1 = .ok (some (s.writes + 1)) ∧
      (execute (.claimPending expected value) ok s).2.incident = some value ∧
      (execute (.claimPending expected value) ok s).2.writes = s.writes + 1 := by
  rw [execute]
  split_ifs with h
  · rw [Bool.and_eq_true] at h
    exact Or.inr ⟨incident_compareAndSet.1 h.2, rfl, incident_compareAndSet.2 h.2, rfl⟩
  · exact Or.inl rfl

lemma execute_casPending (expected value : Marker) (ok : Bool) (s : Store) :
    execute (.casPending expected value) ok s = (.ok false, s) ∨
      s.incident = some expected ∧
      (execute (.casPending expected value) ok s).2.incident = some value ∧
      (execute (.casPending expected value) ok s).2.writes = s.writes + 1 := by
  rw [execute]
  split_ifs with h
  · rw [Bool.and_eq_true] at h
    exact Or.inr ⟨incident_compareAndSet.1 h.2, incident_compareAndSet.2 h.2, rfl⟩
  · exact Or.inl rfl

lemma incident_complete {expected : Marker} {st : Watchdog.State Marker}
    (h : (Watchdog.completeRecoveryPending expected st).1 = true) :
    getRecoveryPending st = some expected ∧
      getRecoveryPending (Watchdog.completeRecoveryPending expected st).2 = none := by
  rw [Watchdog.completeRecoveryPending] at h ⊢
  split_ifs at h ⊢ with hne
  refine ⟨not_not.mp hne, ?_⟩
  simp only [getRecoveryPending, Row.write]
  cases st.row.failureCandidate with
  | none => rfl
  | some c =>
      simp only [Option.bind_some]
      split_ifs
      · rfl
      · rfl

lemma execute_complete (expected : Marker) (ok : Bool) (s : Store) :
    execute (.completeRecoveryPending expected) ok s = (.ok false, s) ∨
      s.incident = some expected ∧
      (execute (.completeRecoveryPending expected) ok s).2.incident = none ∧
      (execute (.completeRecoveryPending expected) ok s).2.writes = s.writes + 1 := by
  rw [execute]
  split_ifs with h
  · rw [Bool.and_eq_true] at h
    obtain ⟨hwas, his⟩ := incident_complete h.2
    exact Or.inr ⟨hwas, his, rfl⟩
  · exact Or.inl rfl

end Effects

/-- The two statements of `set_recovery_pending(None)`, with nothing between them, are the
operation of the watchdog state. -/
lemma setRecoveryPending_none (pathKeyOf : Marker → Option Text) (s : Store) (ok : Bool) :
    (execute (.writeCandidate ((s.watchdog.row.failureCandidate.getD
      { kind := some .trafficRecovery }).withoutPending)) ok s).2.watchdog =
      setRecoveryPending pathKeyOf none s.watchdog := rfl

/-- So are those of `reset_traffic_failure_candidate`. -/
lemma resetTrafficFailureCandidate_eq (s : Store) (ok : Bool) :
    (execute (.resetCandidate (s.watchdog.row.failureCandidate.bind fun c =>
      c.recoveryPending.map (Candidate.recoveryOf c.pathKey))) ok s).2.watchdog =
      resetTrafficFailureCandidate s.watchdog := rfl

end FwRouter.Provider
