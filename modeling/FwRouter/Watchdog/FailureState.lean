import FwRouter.Python.Text

/-!
# The watchdog failure candidate

`watchdog_failure_state.py`: one durable `failure_candidate` cell and its in-memory copy, shared by
the confirmation of stalled traffic, of degraded quality and of idle failures, and by the recovery
incident that is pinned to whatever candidate there is.

An instant is a number of microseconds; a stored time is kept as the instant, since `isoformat` and
its parser are inverse to each other.  The database is taken to be reachable.  The compacted probe
and traffic records that a candidate carries along are never read back and are left out.  `π` is the
type of a recovery incident, of which only the `path_key` entry is read.
-/

namespace FwRouter.Watchdog

open Py

/-- Microseconds. -/
abbrev Instant := Int

/-- `max(0, int((now - then).total_seconds()))`. -/
def elapsedSeconds (since now : Instant) : Int := max 0 ((now - since) / 1000000)

/-- An entry of `quality_checks`. -/
structure QualityCheck where
  checkedAt : Option Instant
  decisionId : Option Text
  degraded : Bool
deriving DecidableEq

/-- The `kind` of a candidate. -/
inductive Kind where
  | stalledTraffic
  | activeQualityDegraded
  | idleActiveFailure
  | trafficRecovery
deriving DecidableEq

/-- `failure_candidate`: a JSON object, an absent entry being `none`. -/
structure Candidate (π : Type) where
  kind : Option Kind := none
  pathKey : Option Text := none
  serverId : Option Text := none
  firstSeenAt : Option Instant := none
  lastSeenAt : Option Instant := none
  lastCollectedAt : Option Text := none
  decisionId : Option Text := none
  stalledSnapshots : Option Nat := none
  badChecks : Option Nat := none
  goodChecks : Option Nat := none
  qualityChecks : Option (List QualityCheck) := none
  /-- The candidate carries a compacted probe. -/
  activeCheck : Bool := false
  recoveryPending : Option π := none
deriving DecidableEq

/-- The row of `watchdog_state`. -/
structure Row (π : Type) where
  pathKey : Option Text := none
  failureCandidate : Option (Candidate π) := none
  lastProcessedDecisionId : Option Text := none
  lastSuccessfulFailoverAt : Option Instant := none
  failoverPathKey : Option Text := none
  previousTargetId : Option Text := none
  selectedTargetId : Option Text := none
  cooldownUntil : Option Instant := none
  lastIdleProbeAt : Option Instant := none
  lastIdleProbeServerId : Option Text := none
  lastIdleProbeStatus : Option Text := none
deriving DecidableEq

/-- The durable row and the process's copy of the candidate. -/
structure State (π : Type) where
  row : Row π := {}
  memory : Option (Candidate π) := none
deriving DecidableEq

variable {π : Type}

/-- The candidate an operation works on: the durable one, else the copy. -/
def State.candidate (st : State π) : Option (Candidate π) :=
  st.row.failureCandidate <|> st.memory

/-- `update_watchdog_runtime_state` of the three guarded columns. -/
def Row.write (row : Row π) (pathKey : Option Text) (candidate : Option (Candidate π))
    (decisionId : Option Text) : Row π :=
  { row with pathKey, failureCandidate := candidate, lastProcessedDecisionId := decisionId }

/-- The same update `WHERE` the three columns still hold what `seen` read; `none` when they do
not. -/
def Row.compareAndWrite [DecidableEq π] (row seen : Row π) (pathKey : Option Text)
    (candidate : Option (Candidate π)) (decisionId : Option Text) : Option (Row π) :=
  if row.failureCandidate = seen.failureCandidate ∧ row.pathKey = seen.pathKey ∧
      row.lastProcessedDecisionId = seen.lastProcessedDecisionId then
    some (row.write pathKey candidate decisionId)
  else none

/-! ## The recovery incident -/

/-- The candidate that only keeps an incident alive. -/
def Candidate.recoveryOf (pathKey : Option Text) (pending : π) : Candidate π :=
  { kind := some .trafficRecovery, pathKey, recoveryPending := some pending }

/-- `reset_traffic_failure_candidate`. -/
def resetTrafficFailureCandidate (st : State π) : State π :=
  let preserved := st.row.failureCandidate.bind fun c =>
    c.recoveryPending.map (Candidate.recoveryOf c.pathKey)
  ⟨st.row.write none preserved none, preserved⟩

/-- `get_recovery_pending`. -/
def getRecoveryPending (st : State π) : Option π :=
  st.row.failureCandidate.bind Candidate.recoveryPending

/-- `updated.pop("recovery_pending", None)`, and the candidate goes when it was only kept for
it. -/
def Candidate.withoutPending (c : Candidate π) : Option (Candidate π) :=
  if c.kind = some .trafficRecovery then none else some { c with recoveryPending := none }

/-- `set_recovery_pending`; `pathKeyOf` is `pending.get("path_key")`. -/
def setRecoveryPending (pathKeyOf : π → Option Text) (pending : Option π) (st : State π) :
    State π :=
  let candidate := st.row.failureCandidate.getD
    { kind := some .trafficRecovery, pathKey := pending.bind pathKeyOf }
  let updated :=
    match pending with
    | none => candidate.withoutPending
    | some p => some { candidate with recoveryPending := some p }
  { st with row := { st.row with failureCandidate := updated } }

/-- `compare_and_set_recovery_pending`. -/
def compareAndSetRecoveryPending [DecidableEq π] (expected pending : Option π) (st : State π) :
    Bool × State π :=
  if getRecoveryPending st ≠ expected then (false, st)
  else
    let candidate := st.row.failureCandidate.getD {}
    let updated :=
      match pending with
      | none => candidate.withoutPending
      | some p => some { candidate with recoveryPending := some p }
    (true, { st with row := { st.row with failureCandidate := updated } })

/-- `complete_recovery_pending`. -/
def completeRecoveryPending [DecidableEq π] (expected : π) (st : State π) : Bool × State π :=
  if getRecoveryPending st ≠ some expected then (false, st)
  else
    let preserved := st.row.failureCandidate.bind fun c =>
      if c.kind = some .activeQualityDegraded then some { c with recoveryPending := none } else none
    (true, ⟨st.row.write none preserved none, preserved⟩)

/-- `reset_stalled_traffic_failure_candidate`. -/
def resetStalledTrafficFailureCandidate (st : State π) : State π :=
  match st.candidate with
  | some c =>
      if c.kind = some .activeQualityDegraded then { st with memory := some c }
      else
        match c.recoveryPending with
        | some p =>
            let kept := some (Candidate.recoveryOf c.pathKey p)
            ⟨{ st.row with failureCandidate := kept }, kept⟩
        | none => ⟨st.row.write none none none, none⟩
  | none => ⟨st.row.write none none none, none⟩

/-! ## The idle probe -/

/-- The answer of `idle_probe_due`. -/
structure ProbeDue where
  due : Bool
  reason : Text
  elapsedSeconds : Option Int := none
  remainingSeconds : Option Int := none

/-- The branch of `idle_probe_due` that finds another active server than the last one probed. -/
def idleProbeServerChanged (activeServerId : Text) (st : State π) : Prop :=
  strip activeServerId ≠ [] ∧ strip (st.row.lastIdleProbeServerId.getD []) ≠ [] ∧
    strip (st.row.lastIdleProbeServerId.getD []) ≠ strip activeServerId

instance (activeServerId : Text) (st : State π) :
    Decidable (idleProbeServerChanged activeServerId st) :=
  inferInstanceAs (Decidable (_ ∧ _ ∧ _))

/-- `idle_probe_due`. -/
def idleProbeDue (activeServerId : Text) (intervalSeconds : Int) (now : Instant) (st : State π) :
    ProbeDue × State π :=
  if strip activeServerId = [] then
    ({ due := false, reason := "idle_probe_no_active_server".toList }, st)
  else if idleProbeServerChanged activeServerId st then
    let cleared :=
      if (st.row.failureCandidate.bind Candidate.kind) = some .idleActiveFailure then
        { st with row := { st.row with failureCandidate := none, lastProcessedDecisionId := none } }
      else st
    ({ due := true, reason := "idle_probe_active_server_changed".toList }, cleared)
  else
    match st.row.lastIdleProbeAt with
    | none => ({ due := true, reason := "idle_probe_never_checked".toList }, st)
    | some checkedAt =>
        let elapsed := elapsedSeconds checkedAt now
        ({ due := intervalSeconds ≤ elapsed
           reason :=
            if intervalSeconds ≤ elapsed then "idle_probe_due".toList
            else "idle_probe_not_due".toList
           elapsedSeconds := some elapsed
           remainingSeconds := some (max 0 (intervalSeconds - elapsed)) }, st)

/-- `record_idle_probe`. -/
def recordIdleProbe (activeServerId status : Text) (checkedAt : Instant) (st : State π) :
    State π :=
  { st with row := { st.row with
      lastIdleProbeAt := some checkedAt
      lastIdleProbeServerId := some activeServerId
      lastIdleProbeStatus := some status } }

/-- `record_successful_failover`. -/
def recordSuccessfulFailover (pathKey previousTargetId selectedTargetId : Option Text)
    (cooldownSeconds : Int) (now : Instant) (st : State π) : State π :=
  let cooldown := max 30 (if cooldownSeconds = 0 then 300 else cooldownSeconds)
  { st with row := { st.row with
      pathKey
      failureCandidate := none
      lastSuccessfulFailoverAt := some now
      failoverPathKey := pathKey
      previousTargetId
      selectedTargetId
      cooldownUntil := some (now + cooldown * 1000000) } }

/-! ## Confirmations -/

/-- What a confirmation reads of a traffic signal; the texts are `str(signal.get(…) or "")`. -/
structure TrafficSignal where
  lastCollectedAt : Text
  decisionId : Text
  trafficStalled : Bool
  responseObserved : Bool
deriving DecidableEq

/-- `int(value or default)`. -/
def orDefault (value default : Int) : Int := if value = 0 then default else value

/-- `str(path_key or normalized_server_id or "").strip()`. -/
def normalizedPathKey (pathKey activeServerId : Text) : Text :=
  strip (if pathKey ≠ [] then pathKey else strip activeServerId)

def TrafficSignal.collectedAt (g : TrafficSignal) : Text := strip g.lastCollectedAt

/-- `str(signal.get("decision_id") or collected_at or "").strip()`. -/
def TrafficSignal.decision (g : TrafficSignal) : Text :=
  strip (if g.decisionId ≠ [] then g.decisionId else g.collectedAt)

/-- What a confirmation answers.  The entries that only repeat an argument are left out. -/
structure Confirmation where
  confirmed : Bool
  pending : Bool
  reason : Text
  confirmSeconds : Int
  firstSeenAt : Option Instant := none
  ageSeconds : Option Int := none
  stalledSnapshots : Option Nat := none
  badChecks : Option Nat := none
  goodChecks : Option Nat := none
  observedChecks : Option Nat := none
deriving DecidableEq

/-- The arguments of `traffic_failure_confirmation`. -/
structure StallCheck where
  activeServerId : Text
  signal : TrafficSignal
  confirmSeconds : Int
  pathKey : Text
  now : Instant
deriving DecidableEq

def StallCheck.path (a : StallCheck) : Text := normalizedPathKey a.pathKey a.activeServerId

/-- `max(30, int(confirm_seconds or 60))`. -/
def StallCheck.threshold (a : StallCheck) : Int := max 30 (orDefault a.confirmSeconds 60)

/-- The call has a path, a time and a decision, and reports traffic as stalled. -/
def StallCheck.Stalled (a : StallCheck) : Prop :=
  a.path ≠ [] ∧ a.signal.collectedAt ≠ [] ∧ a.signal.decision ≠ [] ∧ a.signal.trafficStalled = true

instance (a : StallCheck) : Decidable a.Stalled := inferInstanceAs (Decidable (_ ∧ _ ∧ _ ∧ _))

/-- The candidate of a first stalled snapshot. -/
def StallCheck.fresh (a : StallCheck) (pending : Option π) : Candidate π where
  kind := some .stalledTraffic
  pathKey := some a.path
  serverId := some (strip a.activeServerId)
  firstSeenAt := some a.now
  lastCollectedAt := some a.signal.collectedAt
  decisionId := some a.signal.decision
  stalledSnapshots := some 1
  recoveryPending := pending

/-- `int(candidate.get("stalled_snapshots") or 1)`. -/
def Candidate.snapshots (c : Candidate π) : Nat := max 1 (c.stalledSnapshots.getD 1)

/-- `traffic_failure_confirmation`. -/
def trafficFailureConfirmation (a : StallCheck) (st : State π) : Confirmation × State π :=
  if ¬a.Stalled then
    ({ confirmed := false, pending := false, reason := "traffic_not_stalled".toList,
       confirmSeconds := a.threshold }, resetTrafficFailureCandidate st)
  else
    let pending := st.candidate.bind Candidate.recoveryPending
    -- a candidate that only carries an incident is no evidence; the kind is not looked at further
    match st.candidate.filter fun c => c.kind ≠ some .trafficRecovery ∧ c.pathKey = some a.path with
    | none =>
        let first := some (a.fresh pending)
        ({ confirmed := false, pending := true, reason := "first_stalled_traffic_snapshot".toList,
           confirmSeconds := a.threshold, firstSeenAt := some a.now, stalledSnapshots := some 1 },
          ⟨st.row.write (some a.path) first (some a.signal.decision), first⟩)
    | some c =>
        let firstSeenAt := c.firstSeenAt.getD a.now
        let age := elapsedSeconds firstSeenAt a.now
        if c.decisionId = some a.signal.decision then
          ({ confirmed := false, pending := true, reason := "same_stalled_traffic_snapshot".toList,
             confirmSeconds := a.threshold, firstSeenAt := some firstSeenAt, ageSeconds := some age,
             stalledSnapshots := some c.snapshots },
            -- the assignment reaches the copy only when the candidate was read from it
            { st with memory :=
                if st.row.failureCandidate.isSome then st.memory
                else some { c with firstSeenAt := some firstSeenAt } })
        else
          let snapshots := c.snapshots + 1
          let updated : Candidate π := { c with
            lastCollectedAt := some a.signal.collectedAt
            decisionId := some a.signal.decision
            stalledSnapshots := some snapshots }
          let kept : State π :=
            ⟨st.row.write (some a.path) (some updated) (some a.signal.decision), some updated⟩
          let answer : Confirmation :=
            { confirmed := false, pending := true, reason := [], confirmSeconds := a.threshold,
              firstSeenAt := some firstSeenAt, ageSeconds := some age,
              stalledSnapshots := some snapshots }
          if age < a.threshold then
            ({ answer with reason := "stalled_traffic_confirmation_window".toList }, kept)
          else if snapshots < 2 then
            ({ answer with reason := "stalled_traffic_consecutive_checks".toList }, kept)
          else
            let preserved := pending.map (Candidate.recoveryOf (some a.path))
            ({ answer with
                confirmed := true, pending := false, reason := "stalled_traffic_confirmed".toList },
              ⟨kept.row.write (some a.path) preserved (some a.signal.decision), preserved⟩)

/-! ## Quality checks -/

/-- `_append_quality_history`: a check at the same instant as the last one replaces it. -/
def appendQualityHistory (history : List QualityCheck) (entry : QualityCheck) (maxChecks : Nat) :
    List QualityCheck :=
  let history :=
    match history.getLast? with
    | some last => if last.checkedAt = entry.checkedAt then history.dropLast else history
    | none => history
  let history := history ++ [entry]
  history.drop (history.length - max 1 maxChecks)

def qualityHistoryBadCount (history : List QualityCheck) : Nat :=
  (history.filter QualityCheck.degraded).length

def qualityHistoryGoodCount (history : List QualityCheck) : Nat :=
  (history.reverse.takeWhile fun e => !e.degraded).length

/-- `_candidate_quality_history`. -/
def candidateQualityHistory (c : Candidate π) : List QualityCheck :=
  match c.qualityChecks with
  | some history => history
  | none => if c.activeCheck then [⟨c.lastSeenAt <|> c.firstSeenAt, c.decisionId, true⟩] else []

/-- The arguments of `active_quality_degraded_confirmation` and its idle variant. -/
structure QualityArgs where
  activeServerId : Text
  signal : TrafficSignal
  confirmSeconds : Int
  badChecksRequired : Int
  windowChecks : Int
  windowBadChecks : Int
  pathKey : Text
  now : Instant
  candidateKind : Kind := .activeQualityDegraded
  requireResponseTraffic : Bool := true
deriving DecidableEq

def QualityArgs.path (a : QualityArgs) : Text := normalizedPathKey a.pathKey a.activeServerId

def QualityArgs.server (a : QualityArgs) : Text := strip a.activeServerId

def QualityArgs.threshold (a : QualityArgs) : Int := max 30 (orDefault a.confirmSeconds 180)

def QualityArgs.requiredBadChecks (a : QualityArgs) : Int := max 1 (orDefault a.badChecksRequired 2)

def QualityArgs.requiredWindowChecks (a : QualityArgs) : Int := max 2 (orDefault a.windowChecks 4)

def QualityArgs.requiredWindowBadChecks (a : QualityArgs) : Int :=
  max 1 (min a.requiredWindowChecks (orDefault a.windowBadChecks 3))

def QualityArgs.Evaluable (a : QualityArgs) : Prop :=
  a.path ≠ [] ∧ a.server ≠ [] ∧ a.signal.collectedAt ≠ [] ∧ a.signal.decision ≠ [] ∧
    (a.requireResponseTraffic = true → a.signal.responseObserved = true)

instance (a : QualityArgs) : Decidable a.Evaluable :=
  inferInstanceAs (Decidable (_ ∧ _ ∧ _ ∧ _ ∧ (_ → _)))

def QualityArgs.entry (a : QualityArgs) : QualityCheck :=
  ⟨some a.now, some a.signal.decision, true⟩

/-- The candidate of a first degraded check. -/
def QualityArgs.fresh (a : QualityArgs) : Candidate π where
  kind := some a.candidateKind
  pathKey := some a.path
  serverId := some a.server
  firstSeenAt := some a.now
  lastSeenAt := some a.now
  lastCollectedAt := some a.signal.collectedAt
  decisionId := some a.signal.decision
  badChecks := some 1
  goodChecks := some 0
  qualityChecks := some [a.entry]
  activeCheck := true

/-- The candidate after one more degraded check. -/
def QualityArgs.extend (a : QualityArgs) (c : Candidate π) : Candidate π :=
  let history := appendQualityHistory (candidateQualityHistory c) a.entry
    a.requiredWindowChecks.toNat
  { c with
    firstSeenAt := some (c.firstSeenAt.getD a.now)
    qualityChecks := some history
    badChecks := some (qualityHistoryBadCount history)
    goodChecks := some (qualityHistoryGoodCount history)
    lastCollectedAt := some a.signal.collectedAt
    decisionId := some a.signal.decision
    lastSeenAt := some a.now
    activeCheck := true }

section Quality

variable [DecidableEq π]

/-- `active_quality_degraded_confirmation`. -/
def activeQualityDegradedConfirmation (a : QualityArgs) (st : State π) :
    Confirmation × State π :=
  let refused (reason : String) : Confirmation :=
    { confirmed := false, pending := false, reason := reason.toList, confirmSeconds := a.threshold }
  if ¬a.Evaluable then
    (refused (if a.requireResponseTraffic then "active_quality_not_evaluable"
      else "idle_active_failure_not_evaluable"), st)
  else if (st.candidate.bind Candidate.recoveryPending).isSome then
    (refused "recovery_pending", st)
  else
    match st.candidate.filter fun c => c.kind = some a.candidateKind ∧ c.pathKey = some a.path ∧
        c.serverId = some a.server with
    | none =>
        match st.row.compareAndWrite st.row (some a.path) (some a.fresh)
            (some a.signal.decision) with
        | none => (refused "watchdog_state_changed", st)
        | some row =>
            ({ confirmed := false, pending := false
               reason :=
                if a.requireResponseTraffic then "first_active_quality_degraded_check".toList
                else "first_idle_active_failure_check".toList
               confirmSeconds := a.threshold, firstSeenAt := some a.now, badChecks := some 1
               goodChecks := some 0, observedChecks := some 1 }, ⟨row, some a.fresh⟩)
    | some c =>
        let updated := a.extend c
        let bad := updated.badChecks.getD 0
        let observed := (updated.qualityChecks.getD []).length
        let answer : Confirmation :=
          { confirmed := false, pending := false, reason := [], confirmSeconds := a.threshold
            firstSeenAt := updated.firstSeenAt
            ageSeconds := some (elapsedSeconds (c.firstSeenAt.getD a.now) a.now)
            badChecks := updated.badChecks, goodChecks := updated.goodChecks
            observedChecks := some observed }
        match st.row.compareAndWrite st.row (some a.path) (some updated)
            (some a.signal.decision) with
        | none => (refused "watchdog_state_changed", st)
        | some row =>
            if (bad : Int) < a.requiredBadChecks then
              ({ answer with reason := "active_quality_bad_checks_window".toList },
                ⟨row, some updated⟩)
            else if (observed : Int) < a.requiredWindowChecks ∨
                (bad : Int) < a.requiredWindowBadChecks then
              ({ answer with pending := true, reason := "active_quality_rolling_window".toList },
                ⟨row, some updated⟩)
            else
              match row.compareAndWrite
                  (row.write (some a.path) (some updated) (some a.signal.decision))
                  (some a.path) none (some a.signal.decision) with
              | none => (refused "watchdog_state_changed", ⟨row, some updated⟩)
              | some cleared =>
                  ({ answer with
                      confirmed := true
                      goodChecks := none
                      reason :=
                        if a.requireResponseTraffic then "active_quality_degraded_confirmed".toList
                        else "idle_active_failure_confirmed".toList }, ⟨cleared, none⟩)

/-- `idle_active_failure_confirmation`. -/
def idleActiveFailureConfirmation (a : QualityArgs) (st : State π) : Confirmation × State π :=
  activeQualityDegradedConfirmation
    { a with
      badChecksRequired := 2
      windowChecks := 2
      windowBadChecks := 2
      candidateKind := .idleActiveFailure
      requireResponseTraffic := false } st

/-- The arguments of `active_quality_recovery_confirmation`. -/
structure RecoveryArgs where
  activeServerId : Text
  signal : TrafficSignal
  recoveryChecksRequired : Int
  windowChecks : Int
  pathKey : Text
  now : Instant
deriving DecidableEq

/-- What `active_quality_recovery_confirmation` answers. -/
structure Recovery where
  recovered : Bool
  pending : Bool
  reason : Text
  goodChecks : Option Nat := none
  goodChecksRequired : Int
  windowChecks : Int
deriving DecidableEq

/-- The candidate after one good check. -/
def RecoveryArgs.extend (a : RecoveryArgs) (c : Candidate π) : Candidate π :=
  -- here the fallback of the decision id is the unstripped collection time
  let decision := strip
    (if a.signal.decisionId ≠ [] then a.signal.decisionId else a.signal.lastCollectedAt)
  let history := appendQualityHistory (candidateQualityHistory c)
    ⟨some a.now, some decision, false⟩ (max 2 (orDefault a.windowChecks 4)).toNat
  { c with
    qualityChecks := some history
    badChecks := some (qualityHistoryBadCount history)
    goodChecks := some (qualityHistoryGoodCount history)
    decisionId := some decision
    lastSeenAt := some a.now }

/-- `active_quality_recovery_confirmation`. -/
def activeQualityRecoveryConfirmation (a : RecoveryArgs) (st : State π) : Recovery × State π :=
  let path := normalizedPathKey a.pathKey a.activeServerId
  let required := max 1 (orDefault a.recoveryChecksRequired 2)
  let window := max 2 (orDefault a.windowChecks 4)
  let answer (recovered pending : Bool) (reason : String) (good : Option Nat) : Recovery :=
    { recovered, pending, reason := reason.toList, goodChecks := good
      goodChecksRequired := required, windowChecks := window }
  if (st.candidate.bind Candidate.recoveryPending).isSome then
    (answer false false "recovery_pending" none, st)
  else
    match st.candidate.filter fun c => c.kind = some .activeQualityDegraded ∧
        c.pathKey = some path ∧ c.serverId = some (strip a.activeServerId) with
    | none => (answer false false "no_active_quality_candidate" none, st)
    | some c =>
        let updated := a.extend c
        let good := updated.goodChecks.getD 0
        -- `decision_id or None`
        let processed := updated.decisionId.filter fun d => d ≠ []
        if required ≤ (good : Int) then
          match st.row.compareAndWrite st.row (some path) none processed with
          | none => (answer false false "watchdog_state_changed" (some good), st)
          | some row => (answer true false "active_quality_recovered" (some good), ⟨row, none⟩)
        else
          match st.row.compareAndWrite st.row (some path) (some updated) processed with
          | none => (answer false false "watchdog_state_changed" (some good), st)
          | some row =>
              (answer false true "active_quality_recovery_window" (some good), ⟨row, some updated⟩)

end Quality

end FwRouter.Watchdog
