import FwRouter.Provider.Incident

/-!
# Provider recovery

The calls of `provider_recovery.py` that move the incident, as programs over its statements, and the
watchdog tick that chooses between them.  A confirmed failure takes the next of three
confirmations: the first refreshes the provider's material, the second may switch the member, the
third probes the connection and enters Emergency Direct when it is gone.  Emergency Direct is left
by a re-entry that applies the VPN path again and probes it.

What a call returns goes into the response and the log of the tick and is left out.
-/

namespace FwRouter.Provider

open Py Watchdog Interleave

abbrev RecoveryProg (ρ : Type) := Prog Stmt.Reply Empty ρ

/-- Execute one statement. -/
abbrev perform (a : Stmt) : RecoveryProg a.Reply := Prog.perform a

/-! ## Provider errors -/

/-- `ProviderError`. -/
structure ProviderError where
  code : Text
  statusCode : Option Int := none
  retryAfterSeconds : Option Int := none

/-- `recovery_evidence_code`. -/
def recoveryEvidenceCode (U : Unicode) (error : ProviderError) : Text :=
  let code := U.upper error.code
  if code ∈ ["PROVIDER_TIMEOUT".toList, "TIMEOUT".toList, "APITIMEOUT".toList] then
    "provider_api_timeout".toList
  else if code ∈ ["RATE_LIMITED".toList, "PROVIDER_RATE_LIMIT".toList,
      "PROVIDER_RATE_LIMITED".toList] ∨ error.statusCode = some 429 then
    "provider_api_rate_limited".toList
  else if code ∈ ["PROVIDER_TRANSPORT_ERROR".toList, "PROVIDER_UNAVAILABLE".toList,
      "PROVIDER_CONNECT_ERROR".toList] then
    if error.statusCode.any (500 ≤ ·) then "provider_api_5xx".toList
    else "provider_api_unreachable".toList
  else if code = "PROVIDER_AUTH_FAILED".toList ∨ error.statusCode = some 401 ∨
      error.statusCode = some 403 then
    "provider_api_auth_failed".toList
  else if error.statusCode.any (500 ≤ ·) then "provider_api_5xx".toList
  else if code = "PROVIDER_REQUEST_REJECTED".toList ∨ error.statusCode.any (400 ≤ ·) then
    "provider_api_request_rejected".toList
  else "provider_response_unknown".toList

/-- What `execute_provider_operation` returns, as far as it enters the incident. -/
structure OperationResult where
  outcome : Option Text := none
  errorCode : Option Text := none
  evidenceCode : Option Text := none
  notBefore : Option Instant := none
  mutationAttempted : Bool := false
  requestedMemberId : Option Text := none
  providerStatusCode : Option Int := none

def deferred (errorCode : String) : OperationResult :=
  { outcome := some "deferred".toList, errorCode := some errorCode.toList }

/-- The handler of `except ProviderError` in the second confirmation. -/
def ProviderError.result (U : Unicode) (now : Instant) (exc : ProviderError) : OperationResult :=
  if exc.code = "PROVIDER_OPERATION_BUSY".toList then deferred "provider_operation_busy"
  else
    { outcome := some "unknown".toList
      errorCode := some (recoveryEvidenceCode U exc)
      notBefore := exc.retryAfterSeconds.map fun seconds => now + seconds * 1000000 }

/-! ## The arguments and answers of a call -/

/-- What the calls read of a row of `provider_bindings`. -/
structure Binding where
  sourceRef : Text
  bindingRevision : Int
  currentMemberId : Option Text

/-- What `_confirm_unconfirmed_switch` is answered: whether the context was captured and the
reservation taken, whether the provider now has the requested member (`none` when it raised), whether
the refresh succeeded and the captured contexts agree. -/
structure ConfirmationAnswers where
  captured : Bool
  reserved : Bool
  requestedMember : Option Bool
  refreshed : Bool
  identityPreserved : Bool

/-- What the second confirmation is answered.  `switchAllowed n` is the answer of the `n`-th
`_automatic_member_switch_allowed`; `status` is the answer of `get_server_stats`, with the reservation
and the adapter it needs; `candidates` says whether there are candidates before a discovery. -/
structure SwitchAnswers where
  switchAllowed : ℕ → Bool
  captured : Bool
  status : Except ProviderError Text
  candidates : Bool
  discovered : Except ProviderError Unit
  selected : Option Text
  evidenceFresh : Bool
  switched : Except ProviderError OperationResult
  refreshed : Except ProviderError OperationResult

/-- The arguments of `confirmed_provider_recovery` and what it is answered.  `exclusivePool` says
whether the server is in the pool of the exclusive source, if there is one. -/
structure RecoverArgs where
  logicalServerId : Option Text
  pathKey : Option Text
  decisionId : Option Text
  allowSwitch : Bool
  writerGuardHeld : Bool
  binding : Option Binding
  exclusivePool : Option Bool
  now : Instant
  confirmation : ConfirmationAnswers
  /-- The first confirmation: whether the context was captured, and the refresh. -/
  firstCaptured : Bool
  firstRefreshed : OperationResult
  second : SwitchAnswers
  /-- The third confirmation: whether the context was captured, and whether the guard is held when
  Emergency Direct is entered. -/
  thirdCaptured : Bool
  entryGuardHeld : Bool

/-- The arguments of `try_verified_reentry` and what it is answered.  `captured n` is the answer of
the `n`-th `_capture_recovery_context`, `prepared` that of `_prepare_verified_reentry_runtime`. -/
structure ReentryArgs where
  timeoutMs : Int
  writerGuardHeld : Bool
  now : Instant
  exclusivePool : Option Bool
  captured : ℕ → Bool
  prepared : Bool
  operationId : Text
  startedAt : Instant

/-! ## Confirmed failures -/

section Confirmed

variable (U : Unicode)

/-- `_record_policy_disabled`. -/
def recordPolicyDisabled (pending : Marker) : RecoveryProg Unit := do
  let _ ← perform (.casPending pending { pending with
    lastOutcome := some "policy_disabled".toList
    errorCode := some "provider_auto_switch_disabled".toList
    switchAttempted := some false })

/-- `_confirm_unconfirmed_switch`. -/
def confirmUnconfirmedSwitch (q : ConfirmationAnswers) (pending : Marker) : RecoveryProg Unit :=
  if pending.switchConfirmationAttempted then pure ()
  else if !q.captured then pure ()
  else if !q.reserved then pure ()
  else do
    let attempted := { pending with switchConfirmationAttempted := true }
    let owned ← perform (.contextMatches pending)
    if !owned then pure ()
    else do
      let taken ← perform (.casPending pending attempted)
      if !taken then pure ()
      else
        match q.requestedMember with
        | none => pure ()
        | some false => do
            let _ ← perform (.contextMatches attempted)
        | some true =>
            if !q.refreshed then pure ()
            else if !q.identityPreserved then pure ()
            else do
              let owned ← perform (.contextMatches attempted)
              if !owned then pure ()
              else do
                let _ ← perform (.casPending attempted { attempted with
                  switchOutcomeUnconfirmed := false
                  switchConfirmationAttempted := false
                  switchRequestedMemberId := none
                  switchPreviousMemberId := none
                  switchConfirmationResult := some "requested_member".toList })

/-- `enter_emergency_direct`, with the context that was captured for `pending`. -/
def enterEmergencyDirect (guardHeld : Bool) (pending : Marker) : RecoveryProg Unit :=
  if guardHeld then pure ()
  else do
    let marker := { pending with
      providerManaged := true, emergencyDirect := true, phase := some .emergencyDirectPending }
    let snapshot ← perform .getRecoveryPending
    let current ← perform .getRecoveryPending
    if current ≠ snapshot then pure ()
    else if snapshot ≠ some pending then pure ()
    else do
      let owned ← perform (.contextMatches pending)
      if !owned then pure ()
      else do
        let taken ← perform (.casPending pending marker)
        if !taken then pure ()
        else do
          let applied ← perform (.applyOverride false)
          let current ← perform .getRecoveryPending
          if current ≠ some marker then pure ()
          else if applied then do
            let owned ← perform (.contextMatches marker)
            if !owned then pure ()
            else do
              let _ ← perform (.casPending marker { marker with
                phase := some .emergencyDirect })
          else do
            -- Either dataplane may already have changed: the override stays until Direct is
            -- verified.
            let _ ← perform (.casPending marker { marker with
              phase := some .emergencyDirectUnconfirmed })

/-- The switch of the second confirmation, once there are candidates.  `none` when the call has
returned. -/
def switchSelected (q : SwitchAnswers) (now : Instant) (binding : Binding) (pending : Marker)
    (claim : ℕ) (evidenceCode : Text) : RecoveryProg (Option OperationResult) := do
  let owned ← perform (.contextMatches pending)
  if !owned then pure (some (deferred "provider_recovery_stale"))
  else if !q.evidenceFresh then
    pure (some { deferred "provider_evidence_stale" with
      evidenceCode := some "switch_not_attempted".toList })
  else if !q.switchAllowed 3 then do
    recordPolicyDisabled pending
    pure none
  else
    match q.selected with
    | none => pure (some { outcome := some "no_candidate".toList, evidenceCode := some evidenceCode })
    | some memberId => do
        perform (.switchMember binding.sourceRef binding.bindingRevision memberId claim)
        match q.switched with
        | .error exc => pure (some (exc.result U now))
        | .ok result =>
            pure (some { result with evidenceCode := result.evidenceCode <|> some evidenceCode })

/-- The second confirmation when the provider says that its member is down. -/
def switchDown (q : SwitchAnswers) (now : Instant) (binding : Binding) (pending : Marker)
    (claim : ℕ) (evidenceCode : Text) : RecoveryProg (Option OperationResult) :=
  if !q.switchAllowed 1 then do
    recordPolicyDisabled pending
    pure none
  else if q.candidates then switchSelected U q now binding pending claim evidenceCode
  else if !q.switchAllowed 2 then do
    recordPolicyDisabled pending
    pure none
  else
    match q.discovered with
    | .error exc => pure (some (exc.result U now))
    | .ok () => do
        let owned ← perform (.contextMatches pending)
        if !owned then pure (some (deferred "provider_recovery_stale"))
        else switchSelected U q now binding pending claim evidenceCode

/-- The second confirmation. -/
def secondConfirmation (q : SwitchAnswers) (now : Instant) (binding : Binding) (pending : Marker)
    (claim : ℕ) : RecoveryProg (Option OperationResult) :=
  if !q.switchAllowed 0 then do
    recordPolicyDisabled pending
    pure none
  else if !q.captured then pure (some (deferred "provider_recovery_fence_unavailable"))
  else
    match q.status with
    | .error exc => pure (some (exc.result U now))
    | .ok status => do
        let owned ← perform (.contextMatches pending)
        if !owned then pure (some (deferred "provider_recovery_stale"))
        else if status = "down".toList then
          switchDown U q now binding pending claim "provider_member_confirmed_down".toList
        else if status = "unavailable".toList then
          switchDown U q now binding pending claim "provider_member_explicitly_unavailable".toList
        else if status = "up".toList then
          match q.refreshed with
          | .error exc => pure (some (exc.result U now))
          | .ok result => pure (some result)
        else
          pure (some { outcome := some "unknown".toList
                       errorCode := some "provider_response_unknown".toList })

/-- The error code of a result as the incident records it. -/
def recordedErrorCode (result : OperationResult) : Option Text :=
  let raw := result.errorCode.getD []
  if raw ∈ ["PROVIDER_BINDING_REVISION_CONFLICT".toList, "VPN_AUTO_SELECTION_STALE_STATE".toList,
      "VPN_AUTO_SELECTION_STALE_RUNTIME_EVIDENCE".toList] then
    some "provider_recovery_stale".toList
  else if "PROVIDER_".toList <+: raw ∧ raw ∉ ["PROVIDER_LOCAL_VERIFICATION_FAILED".toList,
      "PROVIDER_EFFECTIVE_TARGET_UNCONFIRMED".toList, "PROVIDER_MEMBER_READBACK_UNCONFIRMED".toList,
      "PROVIDER_CONNECTIVITY_UNCONFIRMED".toList] then
    some (recoveryEvidenceCode U { code := raw, statusCode := result.providerStatusCode })
  else if raw ∈ ["PROVIDER_LOCAL_VERIFICATION_FAILED".toList,
      "PROVIDER_EFFECTIVE_TARGET_UNCONFIRMED".toList,
      "PROVIDER_MEMBER_READBACK_UNCONFIRMED".toList] then
    some "readback_failed".toList
  else if raw = "PROVIDER_CONNECTIVITY_UNCONFIRMED".toList then some "local_apply_failed".toList
  else result.errorCode

/-- `outcome_pending`: the incident with the outcome of the first or the second confirmation. -/
def outcomePending (binding : Binding) (pending : Marker) (phase : ℕ) (result : OperationResult) :
    Marker :=
  let errorCode := recordedErrorCode U result
  let outcome := { pending with
    lastOutcome := result.outcome
    errorCode := (errorCode.filter fun code => !code.isEmpty) <|> result.evidenceCode
    notBefore := result.notBefore }
  if result.outcome = some "unconfirmed".toList ∧ phase = 2 ∧ result.mutationAttempted then
    { outcome with
      switchOutcomeUnconfirmed := true
      errorCode := some "switch_outcome_unconfirmed".toList
      switchConfirmationReason := errorCode
      switchRequestedMemberId := result.requestedMemberId
      switchPreviousMemberId := binding.currentMemberId
      switchApiErrorCode :=
        if "provider_api_".toList <+: errorCode.getD [] ∨
            errorCode = some "provider_response_unknown".toList then errorCode
        else pending.switchApiErrorCode }
  else outcome

/-- The last part of the first and the second confirmation. -/
def recordOutcome (binding : Binding) (pending : Marker) (phase : ℕ) (result : OperationResult) :
    RecoveryProg Unit := do
  let _ ← perform (.casPending pending (outcomePending U binding pending phase result))

/-- The third confirmation. -/
def thirdConfirmation (q : RecoverArgs) (pending : Marker) : RecoveryProg Unit :=
  if !q.thirdCaptured then pure ()
  else do
    let reached ← perform .probe
    if reached then
      if pending.switchOutcomeUnconfirmed then pure ()
      else do
        let owned ← perform (.contextMatches pending)
        if !owned then pure ()
        else do
          let _ ← perform (.completeRecoveryPending pending)
    else enterEmergencyDirect q.entryGuardHeld pending

/-- A call that has claimed the confirmation `phase`. -/
def confirm (q : RecoverArgs) (binding : Binding) (pending : Marker) (phase claim : ℕ) :
    RecoveryProg Unit :=
  if phase = 1 then
    recordOutcome U binding pending phase
      (if q.firstCaptured then q.firstRefreshed
       else deferred "provider_recovery_fence_unavailable")
  else if phase = 2 then do
    let result ← secondConfirmation U q.second q.now binding pending claim
    match result with
    | none => pure ()
    | some result => recordOutcome U binding pending phase result
  else thirdConfirmation q pending

/-- `pending` for the binding: the stored incident, or a new one when that is about another
binding. -/
def incidentFor (binding : Binding) (previous : Option Marker) : Marker :=
  let stored := previous.getD {}
  if stored.sourceRef ≠ some binding.sourceRef ∨
      stored.bindingRevision ≠ some binding.bindingRevision then {}
  else stored

/-- The incident that a call writes when it takes the next confirmation. -/
def claimedMarker (q : RecoverArgs) (binding : Binding) (pending : Marker) : Marker :=
  { pending with
    providerManaged := true
    sourceRef := some binding.sourceRef
    bindingRevision := some binding.bindingRevision
    logicalServerId := q.logicalServerId
    pathKey := q.pathKey
    phase := some .providerRecovery
    providerConfirmation := min 3 (pending.providerConfirmation + 1)
    trafficDecisionId := q.decisionId }

/-- `not decision_id or decision_id == pending.get("traffic_decision_id")`. -/
def repeatedDecision (q : RecoverArgs) (pending : Marker) : Bool :=
  q.decisionId.all List.isEmpty || decide (q.decisionId = pending.trafficDecisionId)

/-- A call that has read the incident `previous`. -/
def considerIncident (q : RecoverArgs) (binding : Binding) (previous : Option Marker) :
    RecoveryProg Unit :=
  let stored := previous.getD {}
  let pending := incidentFor binding previous
  if stored.switchOutcomeUnconfirmed ∧ stored.sourceRef = some binding.sourceRef ∧
      stored.bindingRevision ≠ some binding.bindingRevision then pure ()
  else if pending.switchOutcomeUnconfirmed ∧ ¬pending.switchConfirmationAttempted then
    confirmUnconfirmedSwitch q.confirmation pending
  else if repeatedDecision q pending then pure ()
  else if q.now < pending.notBefore.getD 0 then pure ()
  else do
    let claimed := claimedMarker q binding pending
    let current ← perform .getRecoveryPending
    if current ≠ previous then pure ()
    else do
      let claim ← perform (.claimPending previous claimed)
      match claim with
      | none => pure ()
      | some claim => confirm U q binding claimed claimed.providerConfirmation claim

/-- `confirmed_provider_recovery`. -/
def confirmedProviderRecovery (q : RecoverArgs) : RecoveryProg Unit :=
  if q.writerGuardHeld then pure ()
  else
    match q.binding with
    | none => pure ()
    | some binding =>
        if q.exclusivePool = some false then do
          let _ ← perform .getRecoveryPending
        else if !q.allowSwitch then pure ()
        else do
          let previous ← perform .getRecoveryPending
          considerIncident U q binding previous

end Confirmed

/-! ## Re-entry -/

/-- The terminal part of a re-entry whose probe failed or whose apply did: Direct again, while the
claim still owns the incident. -/
def restoreDirect (pending claimed : Marker) : RecoveryProg Unit := do
  let owned ← perform (.contextMatches claimed)
  if !owned then pure ()
  else do
    let fallback ← perform (.applyOverride false)
    if fallback then do
      let owned ← perform (.contextMatches claimed)
      let _ ← perform (.casPending claimed
        (if owned then pending else { pending with phase := some .emergencyDirectUnconfirmed }))
    else do
      let _ ← perform (.casPending claimed
        { pending with phase := some .emergencyDirectUnconfirmed })

/-- A re-entry whose probe after the apply succeeded. -/
def finishReentry (claimed : Marker) : RecoveryProg Unit := do
  let owned ← perform (.contextMatches claimed)
  if !owned then pure ()
  else do
    let _ ← perform (.completeRecoveryPending claimed)

/-- The part of `_try_verified_reentry` after any repair of Direct. -/
def verifyReentry (q : ReentryArgs) (pending : Marker) : RecoveryProg Unit :=
  if !q.prepared then pure ()
  else do
    let reached ← perform .probe
    if !reached then pure ()
    else do
      let claimed := { pending with
        phase := some .reentryVerification
        reentryOperationId := some q.operationId
        reentryStartedAt := some q.startedAt }
      let owned ← perform (.contextMatches pending)
      if !owned then pure ()
      else do
        let taken ← perform (.casPending pending claimed)
        if !taken then pure ()
        else do
          let applied ← perform (.applyOverride true)
          let exactTarget ← perform (.contextMatches claimed)
          if !exactTarget then do
            let _ ← perform (.casPending claimed
              { pending with phase := some .emergencyDirectUnconfirmed })
          else if !applied then restoreDirect pending claimed
          else do
            let reached ← perform .probe
            if reached then finishReentry claimed else restoreDirect pending claimed

/-- The repair of a Direct that was never confirmed. -/
def repairDirect (q : ReentryArgs) (pending : Marker) : RecoveryProg Unit := do
  let owned ← perform (.contextMatches pending)
  if !owned then pure ()
  else do
    let repaired ← perform (.applyOverride false)
    if !repaired then pure ()
    else do
      let owned ← perform (.contextMatches pending)
      if !owned then do
        let _ ← perform (.casPending pending
          { pending with phase := some .emergencyDirectUnconfirmed })
      else do
        let updated := { pending with phase := some .emergencyDirect }
        let taken ← perform (.casPending pending updated)
        if !taken then pure ()
        else if !q.captured 1 then pure ()
        else verifyReentry q updated

/-- The part of `_try_verified_reentry` that owns no claim of an earlier one. -/
def reenter (q : ReentryArgs) (pending : Marker) : RecoveryProg Unit :=
  if q.exclusivePool = some false then pure ()
  else if !q.captured 0 then pure ()
  else if pending.phase = some .emergencyDirectUnconfirmed then repairDirect q pending
  else verifyReentry q pending

/-- `time.time() - started < max(120.0, timeout_ms / 1000.0 * 4)` for a claim that has a time. -/
def reentryInProgress (q : ReentryArgs) (pending : Marker) : Bool :=
  decide (0 < pending.reentryStartedAt.getD 0) &&
    decide (q.now - pending.reentryStartedAt.getD 0 < max 120000000 (q.timeoutMs * 4000))

/-- `try_verified_reentry`. -/
def tryVerifiedReentry (q : ReentryArgs) : RecoveryProg Unit :=
  if q.writerGuardHeld then pure ()
  else do
    let stored ← perform .getRecoveryPending
    match emergencyOverride stored with
    | none => pure ()
    | some pending =>
        if pending.switchOutcomeUnconfirmed then pure ()
        else if pending.phase = some .reentryVerification then
          if reentryInProgress q pending then pure ()
          else do
            let staleClaim := { pending with
              phase := some .emergencyDirectUnconfirmed
              reentryOperationId := none
              reentryStartedAt := none }
            let taken ← perform (.casPending pending staleClaim)
            if !taken then pure () else reenter q staleClaim
        else reenter q pending

/-! ## The watchdog tick -/

/-- What a tick reads of an authoritative traffic signal and of the runtime state. -/
structure TickSignal where
  responseObserved : Bool
  decisionId : Option Text
  pathKey : Option Text
  activeServerId : Option Text

/-- A tick of `run_vpn_watchdog_auto_check`.  `signal` is there when it gets as far as an
authoritative traffic signal, `recover` when a flow it goes on to confirms a failure. -/
structure Tick where
  allowSwitch : Bool
  reentry : ReentryArgs
  signal : Option TickSignal
  recover : Option RecoverArgs

/-- The condition under which a tick clears a recovered incident. -/
def recoveredIncident (g : TickSignal) (pending : Marker) : Bool :=
  decide (pending.phase ∈ [some .memberReselectPending, some .trafficVerifying,
    some .providerRecovery]) &&
  g.responseObserved &&
  decide (g.decisionId.getD [] ≠ pending.trafficDecisionId.getD []) &&
  decide (some (pending.pathKey.getD []) = g.pathKey) &&
  decide (pending.logicalServerId.getD [] = g.activeServerId.getD [])

/-- `set_recovery_pending(None)` and `reset_traffic_failure_candidate()`. -/
def clearRecovered : RecoveryProg Unit := do
  let candidate ← perform .loadCandidate
  perform (.writeCandidate
    (candidate.getD { kind := some .trafficRecovery }).withoutPending)
  let existing ← perform .loadCandidate
  perform (.resetCandidate (existing.bind fun c =>
    c.recoveryPending.map (Candidate.recoveryOf c.pathKey)))

/-- The tick: re-entry when Emergency Direct is stored; else a recovered incident is cleared or a
confirmed failure handled. -/
def watchdogTick (U : Unicode) (t : Tick) : RecoveryProg Unit := do
  let stored ← perform .getRecoveryPending
  match emergencyOverride stored with
  | some _ => if t.allowSwitch then tryVerifiedReentry t.reentry else pure ()
  | none =>
      match t.signal with
      | none => pure ()
      | some g => do
          let pending ← perform .getRecoveryPending
          if pending.any (recoveredIncident g) then clearRecovered
          else
            match t.recover with
            | none => pure ()
            | some q => confirmedProviderRecovery U q

/-! ## The system -/

inductive Call
  | recover (q : RecoverArgs)
  | tick (t : Tick)

def Call.prog (U : Unicode) : Call → RecoveryProg Unit
  | .recover q => confirmedProviderRecovery U q
  | .tick t => watchdogTick U t

def system (U : Unicode) : System Stmt Bool Store Empty Call Stmt.Reply where
  exec := execute
  prog := Call.prog U
  spawn _ _ := []

end FwRouter.Provider
