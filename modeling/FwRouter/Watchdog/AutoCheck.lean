import FwRouter.Watchdog.TrafficSignal

/-!
# The automatic check

`run_vpn_watchdog_auto_check` and the flows it chooses between: the idle probe, response traffic,
stalled traffic and the generic check.  A tick is a function of what it is answered: the module and
the routing state, the runtime, the counter rows, the stored incident at each of its readings, the
probes and the confirmations.  Its outcome is its status and the calls it makes, in their order.

Automated recovery is meant to be driven by confirmed stalls of traffic alone.  The generic check is
reached by a signal that is active without outbound bytes, and there a failed probe is enough for a
failover; this is the only way to a failover without a confirmed stall.
-/

namespace FwRouter.Watchdog

open Py

/-! ## Answers -/

inductive SelectionMode where
  | auto
  | manual
  | other
deriving DecidableEq

/-- What is read of `runtime_controller.get_state()`. -/
structure RuntimeState where
  ready : Bool
  activeTargetId : Text
  pathKey : Text
  selectionMode : SelectionMode
  activeTargetValid : Bool
  probeSupported : Bool
  failoverSupported : Bool
  initialSelectSupported : Bool

/-- A probe of the active server; `lastPingMs` is `none` when it is no number. -/
structure ActiveCheck where
  ok : Bool
  lastPingMs : Option Int := none

/-- What is read of `recovery_pending`; the texts are `str(pending.get(…) or "")`. -/
structure PendingRecovery where
  providerManaged : Bool := false
  emergencyDirect : Bool := false
  phase : Text := []
  pathKey : Text := []
  logicalServerId : Text := []
  trafficDecisionId : Text := []

structure FailoverResult where
  ok : Bool
  deferred : Bool := false
  noop : Bool := false
  applied : Bool := false

structure QualityAnswer where
  confirmed : Bool
  pending : Bool

/-- A tick and what it is answered.  `module` is `none` when the row is missing and else says whether
the watchdog is enabled; `pending n` is the answer of the `n`-th `get_recovery_pending`;
`providerRecovery` says whether the active server belongs to a provider. -/
structure AutoTick where
  allowSwitch : Bool
  module : Option Bool
  coreBypass : Bool
  mode : Text
  scopedVpnSubjects : Bool
  pending : ℕ → Option PendingRecovery
  convergenceOk : Bool
  runtime : RuntimeState
  adapterSubject : Text
  initialSelectOk : Bool
  initialSelectDeferred : Bool
  detector : Detector
  windowSeconds : Option Int
  now : Instant
  rows : List CounterRow
  idleProbeDue : Bool
  recentCheck : Option ActiveCheck
  probe : Option ActiveCheck
  maxLatencyMs : Int
  qualityConfirmation : QualityAnswer
  idleConfirmation : QualityAnswer
  /-- `traffic_failure_confirmation(…)["confirmed"]`. -/
  stallConfirmation : Bool
  providerRecovery : Bool
  refreshRecovered : Bool
  refreshProbe : Option ActiveCheck
  cooldownActive : Bool
  reselectionOk : Bool
  fullRefreshOk : Bool
  failover : FailoverResult
  /-- The runtime state that the generic check reads again. -/
  runtimeNow : RuntimeState

variable (t : AutoTick)

/-- The signal of the tick. -/
def AutoTick.signal : VpnTrafficSignal :=
  detectRecentVpnTrafficAttempts t.detector t.windowSeconds t.now t.rows

/-- `active_server_id`, empty for `None`. -/
def AutoTick.activeServerId : Text :=
  strip (if t.runtime.activeTargetId ≠ [] then t.runtime.activeTargetId else t.adapterSubject)

/-- `path_key`, empty for `None`. -/
def AutoTick.pathKey : Text :=
  strip (if t.runtime.pathKey ≠ [] then t.runtime.pathKey else t.activeServerId)

/-- `str(traffic_signal.get("decision_id") or "")`. -/
def VpnTrafficSignal.decision (g : VpnTrafficSignal) : Text := g.decisionId.getD []

/-- `active_quality_degraded`. -/
def activeQualityDegraded : Option ActiveCheck → Bool
  | none => false
  | some check => !check.ok || check.lastPingMs.any fun ms => decide (t.maxLatencyMs < ms)

/-! ## Outcomes -/

inductive Status where
  | watchdogModuleMissing
  | watchdogDisabled
  | pausedCoreBypass
  | pausedNotVpn
  | emergencyDirect
  | runtimeConvergenceFailed
  | runtimeUnavailable
  | selectionDeferred
  | initialAutoSelected
  | needsInitialAutoSelection
  | pausedSignalUnavailable
  | logicalGroupRecovered
  | idleProbeNotDue
  | idleActiveProbeDegraded
  | idleActiveFailurePending
  | idleActiveFailureUnconfirmed
  | idleActiveHealthy
  | healthyTraffic
  | activeQualityDegradedPending
  | activeQualityDegradedTrafficHealthy
  | manualSelection
  | externalRuntimeFailoverUnavailable
  | providerRecovery
  | failoverCooldown
  | failoverNoop
  | failoverApplied
  | failoverUnconfirmed
  | failoverCandidateFound
  | noWorkingCandidates
  | trafficFailurePending
  | memberReselectionPending
  | fullRefreshPending
  | noFailureNoTraffic
  | externalRuntimeActive
  | healthy
  | failOpenDirectRecommended
deriving DecidableEq

/-- The calls that a tick makes on the runtime and on provider recovery. -/
inductive RuntimeCall where
  | tryVerifiedReentry
  | initialSelect (apply : Bool)
  | probe
  | confirmedProviderRecovery
  | refreshCurrent
  | requestMemberReselection
  | fullHealthRefresh
  | failover (apply : Bool)
deriving DecidableEq

structure Outcome where
  status : Status
  calls : List RuntimeCall := []

def Outcome.after (call : RuntimeCall) (o : Outcome) : Outcome :=
  { o with calls := call :: o.calls }

/-! ## Response traffic and the idle probe -/

/-- The last part of both recoveries: the cooldown and the failover. -/
def failoverOutcome (unconfirmedApplied : Status) (failed : Status) : Outcome :=
  if t.allowSwitch && t.cooldownActive then { status := .failoverCooldown }
  else Outcome.after (.failover t.allowSwitch)
    { status :=
        if t.failover.deferred then .selectionDeferred
        else if t.failover.ok then
          if t.failover.noop then .failoverNoop
          else if t.allowSwitch then
            if t.failover.applied then .failoverApplied else unconfirmedApplied
          else .failoverCandidateFound
        else failed }

/-- `handle_response_traffic_auto_flow` once the degradation of the active server is confirmed. -/
def confirmedDegradation : Outcome :=
  if t.runtime.selectionMode = .manual then { status := .manualSelection }
  else if !t.runtime.failoverSupported then { status := .externalRuntimeFailoverUnavailable }
  else Outcome.after .confirmedProviderRecovery <|
    if t.providerRecovery then { status := .providerRecovery }
    else Outcome.after .refreshCurrent <|
      if t.refreshRecovered && !activeQualityDegraded t t.refreshProbe then
        { status := .logicalGroupRecovered }
      else failoverOutcome t .failoverUnconfirmed .noWorkingCandidates

/-- `handle_response_traffic_auto_flow` after the probe. -/
def judgeActiveCheck (idleProbe : Bool) (check : Option ActiveCheck) : Outcome :=
  if idleProbe && activeQualityDegraded t check then { status := .idleActiveProbeDegraded }
  else if !idleProbe && t.signal.responseObserved then { status := .healthyTraffic }
  else if activeQualityDegraded t check then
    let confirmation := if idleProbe then t.idleConfirmation else t.qualityConfirmation
    if !confirmation.confirmed then
      { status :=
          if idleProbe then
            if confirmation.pending then .idleActiveFailurePending
            else .idleActiveFailureUnconfirmed
          else if confirmation.pending then .activeQualityDegradedPending
          else .activeQualityDegradedTrafficHealthy }
    else confirmedDegradation t
  else { status := if idleProbe then .idleActiveHealthy else .healthyTraffic }

/-- `handle_response_traffic_auto_flow`. -/
def handleResponseTrafficAutoFlow (idleProbe : Bool) : Outcome :=
  if t.runtime.selectionMode = .auto ∧ t.runtime.probeSupported ∧ t.activeServerId ≠ [] then
    match if idleProbe then none else t.recentCheck with
    | some check => judgeActiveCheck t idleProbe (some check)
    | none => Outcome.after .probe (judgeActiveCheck t idleProbe t.probe)
  else judgeActiveCheck t idleProbe none

/-! ## Stalled traffic -/

/-- An incident of the tick's path and server. -/
def AutoTick.inScope (p : PendingRecovery) : Bool :=
  decide (p.pathKey = t.pathKey) && decide (p.logicalServerId = t.activeServerId)

/-- `distinct_post_reselect_stall`. -/
def distinctPostReselectStall : Bool :=
  (t.pending 2).any fun p =>
    decide (p.phase = "traffic_verifying".toList) && t.inScope p &&
      decide (t.signal.decision ≠ []) && decide (t.signal.decision ≠ p.trafficDecisionId)

/-- `handle_stalled_traffic_auto_flow` once member recovery has not helped. -/
def refreshAndFailover : Outcome :=
  Outcome.after .fullHealthRefresh <|
    if !t.fullRefreshOk then { status := .fullRefreshPending }
    else failoverOutcome t .failoverApplied .failOpenDirectRecommended

/-- `handle_stalled_traffic_auto_flow` once the stall is confirmed. -/
def confirmedStall : Outcome :=
  Outcome.after .confirmedProviderRecovery <|
    if t.providerRecovery then { status := .providerRecovery }
    else if t.runtime.selectionMode = .manual then { status := .manualSelection }
    else if !t.runtime.failoverSupported then { status := .externalRuntimeFailoverUnavailable }
    else
      match (t.pending 3).filter t.inScope with
      | some p =>
          if t.signal.decision ≠ [] ∧ t.signal.decision = p.trafficDecisionId then
            { status := .memberReselectionPending }
          else if t.signal.authoritative ∧ t.signal.responseObserved ∧ t.signal.decision ≠ [] ∧
              t.signal.decision ≠ p.trafficDecisionId then { status := .logicalGroupRecovered }
          else refreshAndFailover t
      | none => Outcome.after .requestMemberReselection <|
          if t.reselectionOk then { status := .memberReselectionPending }
          else refreshAndFailover t

/-- `handle_stalled_traffic_auto_flow`. -/
def handleStalledTrafficAutoFlow : Outcome :=
  if distinctPostReselectStall t || t.stallConfirmation then confirmedStall t
  else { status := .trafficFailurePending }

/-! ## The generic check -/

/-- `active_check`: a recent success, else a probe. -/
def AutoTick.genericCheckOk : Bool := (t.recentCheck <|> t.probe).any ActiveCheck.ok

/-- `run_vpn_watchdog_check`. -/
def runVpnWatchdogCheck (trafficAttemptsObserved : Bool) : Outcome :=
  if !t.runtimeNow.ready then { status := .runtimeUnavailable }
  else if !t.runtimeNow.failoverSupported && !t.runtimeNow.probeSupported then
    { status := if trafficAttemptsObserved then .externalRuntimeActive else .noFailureNoTraffic }
  else if strip t.runtimeNow.activeTargetId = [] then
    Outcome.after (.initialSelect t.allowSwitch)
      { status :=
          if t.initialSelectDeferred then .selectionDeferred
          else if t.allowSwitch && t.initialSelectOk then .initialAutoSelected
          else .needsInitialAutoSelection }
  else if !trafficAttemptsObserved then { status := .noFailureNoTraffic }
  else
    let judged :=
      if t.genericCheckOk then { status := .healthy }
      else Outcome.after (.failover t.allowSwitch)
        { status :=
            if t.failover.deferred then .selectionDeferred
            else if t.failover.ok then
              if t.failover.noop then .failoverNoop
              else if t.allowSwitch then .failoverApplied else .failoverCandidateFound
            else .failOpenDirectRecommended }
    if t.recentCheck.isSome then judged else Outcome.after .probe judged

/-! ## The tick -/

/-- `run_vpn_watchdog_auto_check` once it has an authoritative signal. -/
def autoFlow : Outcome :=
  let recovered := (t.pending 1).any fun p =>
    decide (p.phase ∈ ["member_reselect_pending".toList, "traffic_verifying".toList,
      "provider_recovery".toList]) &&
    t.signal.responseObserved && decide (t.signal.decision ≠ p.trafficDecisionId) &&
    (decide (t.pathKey ≠ []) && t.inScope p)
  if recovered then { status := .logicalGroupRecovered }
  else if !t.signal.observed && decide (t.runtime.selectionMode = .auto) &&
      t.runtime.probeSupported && decide (t.activeServerId ≠ []) then
    if !t.idleProbeDue then { status := .idleProbeNotDue }
    else handleResponseTrafficAutoFlow t true
  else if t.signal.responseObserved then handleResponseTrafficAutoFlow t false
  else if t.signal.trafficStalled then handleStalledTrafficAutoFlow t
  else runVpnWatchdogCheck t t.signal.observed

/-- `run_vpn_watchdog_auto_check`. -/
def runVpnWatchdogAutoCheck : Outcome :=
  match t.module with
  | none => { status := .watchdogModuleMissing }
  | some false => { status := .watchdogDisabled }
  | some true =>
      if t.coreBypass then { status := .pausedCoreBypass }
      else if t.mode ∉ ["vpn".toList, "selective".toList] ∧ !t.scopedVpnSubjects then
        { status := .pausedNotVpn }
      else if (t.pending 0).any fun p => p.providerManaged && p.emergencyDirect then
        { status := .emergencyDirect
          calls := if t.allowSwitch then [.tryVerifiedReentry] else [] }
      else if !t.convergenceOk then { status := .runtimeConvergenceFailed }
      else if !t.runtime.ready then { status := .runtimeUnavailable }
      else if t.runtime.selectionMode = .auto ∧ t.runtime.initialSelectSupported ∧
          !t.runtime.activeTargetValid then
        if t.allowSwitch then
          Outcome.after (.initialSelect true)
            { status :=
                if t.initialSelectDeferred then .selectionDeferred
                else if t.initialSelectOk then .initialAutoSelected
                else .needsInitialAutoSelection }
        else { status := .needsInitialAutoSelection }
      else if !t.signal.authoritative then { status := .pausedSignalUnavailable }
      else autoFlow t

/-! ## Where a tick fails over -/

section Failover

variable {t} {call : RuntimeCall} {o : Outcome}

@[simp] lemma mem_after {c : RuntimeCall} :
    c ∈ (Outcome.after call o).calls ↔ c = call ∨ c ∈ o.calls :=
  List.mem_cons

lemma mem_gate {c : Prop} [Decidable c] {x : RuntimeCall} {o o' : Outcome} (h : x ∉ o.calls) :
    x ∈ (if c then o else o').calls ↔ ¬c ∧ x ∈ o'.calls := by
  split_ifs with hc
  · exact ⟨fun hx => absurd hx h, fun hx => absurd hc hx.1⟩
  · exact ⟨fun hx => ⟨hc, hx⟩, fun hx => hx.2⟩

/-- The idle probe and response traffic never lead to a failover: the degradation that would is
answered before it is looked at. -/
lemma no_failover_response {idleProbe : Bool}
    (h : idleProbe = true ∨ t.signal.responseObserved = true) (b : Bool) :
    .failover b ∉ (handleResponseTrafficAutoFlow t idleProbe).calls := by
  have hjudge : ∀ check, .failover b ∉ (judgeActiveCheck t idleProbe check).calls := by
    intro check
    rw [judgeActiveCheck]
    cases idleProbe with
    | true =>
        by_cases hdegraded : activeQualityDegraded t check = true
        · simp [hdegraded]
        · simp [hdegraded]
    | false =>
        have hresponse := h.resolve_left Bool.false_ne_true
        simp [hresponse]
  rw [handleResponseTrafficAutoFlow]
  by_cases hprobes : t.runtime.selectionMode = .auto ∧ t.runtime.probeSupported ∧
      t.activeServerId ≠ []
  · rw [if_pos hprobes]
    cases if idleProbe then none else t.recentCheck with
    | some check => exact hjudge _
    | none =>
        rw [mem_after]
        rintro (h | h)
        · cases h
        · exact hjudge _ h
  · rw [if_neg hprobes]
    exact hjudge _

/-- The flow of stalled traffic fails over on a confirmed stall only. -/
lemma confirmed_of_failover_stalled {b : Bool}
    (h : .failover b ∈ (handleStalledTrafficAutoFlow t).calls) :
    distinctPostReselectStall t = true ∨ t.stallConfirmation = true := by
  rw [handleStalledTrafficAutoFlow] at h
  split_ifs at h with hconfirmed
  · rwa [Bool.or_eq_true] at hconfirmed
  · cases h

/-- The active server fails the check of a tick whose signal was active. -/
structure AutoTick.FailsGenericCheck (t : AutoTick) : Prop where
  observed : t.signal.observed = true
  ready : t.runtimeNow.ready = true
  supported : t.runtimeNow.failoverSupported = true ∨ t.runtimeNow.probeSupported = true
  active : strip t.runtimeNow.activeTargetId ≠ []
  fails : t.genericCheckOk = false

/-- The generic check fails over whenever the active server fails it. -/
lemma failover_generic_iff {b : Bool} :
    .failover b ∈ (runVpnWatchdogCheck t t.signal.observed).calls ↔
      t.FailsGenericCheck ∧ b = t.allowSwitch := by
  have hjudged : ∀ judged : Outcome,
      .failover b ∈ (if t.recentCheck.isSome then judged else judged.after .probe).calls ↔
        .failover b ∈ judged.calls := by
    intro judged
    split_ifs
    · rfl
    · rw [mem_after, or_iff_right (by simp)]
  rw [runVpnWatchdogCheck, mem_gate (by simp), mem_gate (by simp), mem_gate (by simp),
    mem_gate (by simp), hjudged, mem_gate (by simp), mem_after, or_iff_left (by simp)]
  constructor
  · rintro ⟨hready, hsupported, hactive, hobserved, hfails, hb⟩
    refine ⟨⟨by simpa using hobserved, by simpa using hready, ?_, hactive, by simpa using hfails⟩,
      by simpa using hb⟩
    simpa [or_iff_not_imp_left] using hsupported
  · rintro ⟨h, rfl⟩
    refine ⟨by simp [h.ready], ?_, h.active, by simp [h.observed], by simp [h.fails], rfl⟩
    simpa [or_iff_not_imp_left] using h.supported

/-- The tick gets as far as an authoritative signal. -/
structure AutoTick.ReachesSignal (t : AutoTick) : Prop where
  enabled : t.module = some true
  noBypass : t.coreBypass = false
  vpn : t.mode ∈ ["vpn".toList, "selective".toList] ∨ t.scopedVpnSubjects = true
  noOverride : ((t.pending 0).any fun p => p.providerManaged && p.emergencyDirect) = false
  converged : t.convergenceOk = true
  ready : t.runtime.ready = true
  selected : ¬(t.runtime.selectionMode = .auto ∧ t.runtime.initialSelectSupported = true ∧
    t.runtime.activeTargetValid = false)
  authoritative : t.signal.authoritative = true

lemma failover_auto_iff {b : Bool} :
    .failover b ∈ (runVpnWatchdogAutoCheck t).calls ↔
      t.ReachesSignal ∧ .failover b ∈ (autoFlow t).calls := by
  rw [runVpnWatchdogAutoCheck]
  cases hmodule : t.module with
  | none => simpa using fun h : t.ReachesSignal => absurd (hmodule.symm.trans h.enabled) (by simp)
  | some enabled =>
      cases enabled with
      | false =>
          simpa using fun h : t.ReachesSignal => absurd (hmodule.symm.trans h.enabled) (by simp)
      | true =>
          have hoverride : .failover b ∉ ({ status := .emergencyDirect, calls :=
              if t.allowSwitch then [.tryVerifiedReentry] else [] } : Outcome).calls := by
            cases t.allowSwitch with
            | true => simp
            | false => simp
          have hinitial : ∀ status, .failover b ∉ (if t.allowSwitch = true then
              Outcome.after (.initialSelect true) { status } else
              { status := .needsInitialAutoSelection }).calls := by
            intro status
            split_ifs
            · simp
            · simp
          dsimp only
          rw [mem_gate (by simp), mem_gate (by simp), mem_gate hoverride, mem_gate (by simp),
            mem_gate (by simp), mem_gate (hinitial _), mem_gate (by simp)]
          constructor
          · rintro ⟨hbypass, hvpn, hnone, hconverged, hready, hselected, hauthoritative, hflow⟩
            refine ⟨⟨hmodule, by simpa using hbypass, ?_, by simpa using hnone,
              by simpa using hconverged, by simpa using hready, by simpa using hselected,
              by simpa using hauthoritative⟩, hflow⟩
            by_contra hneither
            rw [not_or] at hneither
            exact hvpn ⟨hneither.1, by simpa using hneither.2⟩
          · rintro ⟨h, hflow⟩
            refine ⟨by simp [h.noBypass], ?_, by simp [h.noOverride], by simp [h.converged],
              by simp [h.ready], by simpa using h.selected, by simp [h.authoritative], hflow⟩
            rintro ⟨hmode, hscoped⟩
            rcases h.vpn with hvpn | hvpn
            · exact hmode hvpn
            · rw [hvpn] at hscoped
              cases hscoped

lemma failover_autoFlow {b : Bool} (h : .failover b ∈ (autoFlow t).calls) :
    t.signal.trafficStalled = true ∧
        (distinctPostReselectStall t = true ∨ t.stallConfirmation = true) ∨
      t.signal.responseObserved = false ∧ t.signal.trafficStalled = false ∧
        t.FailsGenericCheck := by
  rw [autoFlow, mem_gate (by simp)] at h
  replace h := h.2
  by_cases hidle : (!t.signal.observed && decide (t.runtime.selectionMode = .auto) &&
      t.runtime.probeSupported && decide (t.activeServerId ≠ [])) = true
  · rw [if_pos hidle, mem_gate (by simp)] at h
    exact absurd h.2 (no_failover_response (Or.inl rfl) b)
  · rw [if_neg hidle] at h
    cases hresponse : t.signal.responseObserved with
    | true =>
        rw [hresponse, if_pos rfl] at h
        exact absurd h (no_failover_response (Or.inr hresponse) b)
    | false =>
        rw [hresponse, if_neg Bool.false_ne_true] at h
        cases hstalled : t.signal.trafficStalled with
        | true =>
            rw [hstalled, if_pos rfl] at h
            exact Or.inl ⟨rfl, confirmed_of_failover_stalled h⟩
        | false =>
            rw [hstalled, if_neg Bool.false_ne_true] at h
            exact Or.inr ⟨rfl, rfl, (failover_generic_iff.mp h).1⟩

/-- A tick that judges a signal without outbound bytes by a probe: its signal is active, reports
neither a response nor a stall, and the active server fails the generic check. -/
structure AutoTick.JudgesByProbe (t : AutoTick) : Prop where
  reaches : t.ReachesSignal
  silent : t.signal.outboundObserved = false
  fails : t.FailsGenericCheck

/-- **Failover on confirmed stalls.**  A tick fails over with a confirmed stall of its traffic, and
on nothing else, exactly when it does not judge a signal without outbound bytes by a probe. -/
theorem failover_on_confirmed_stall_iff (t : AutoTick) (hallow : t.allowSwitch = true) :
    (.failover true ∈ (runVpnWatchdogAutoCheck t).calls →
      t.signal.trafficStalled = true ∧
        (t.stallConfirmation = true ∨ distinctPostReselectStall t = true)) ↔
    ¬t.JudgesByProbe := by
  have hsilent : t.signal.outboundObserved =
      (t.signal.responseObserved || t.signal.trafficStalled) :=
    outboundObserved_iff t.detector t.windowSeconds t.now t.rows
  rw [failover_auto_iff]
  constructor
  · rintro h ⟨hreaches, hout, hfails⟩
    rw [hout, eq_comm, Bool.or_eq_false_iff] at hsilent
    have hflow : .failover true ∈ (autoFlow t).calls := by
      have hgeneric : autoFlow t = runVpnWatchdogCheck t t.signal.observed := by
        simp [autoFlow, hsilent.1, hsilent.2, hfails.observed]
      rw [hgeneric]
      exact failover_generic_iff.mpr ⟨hfails, hallow.symm⟩
    rw [(h ⟨hreaches, hflow⟩).1] at hsilent
    exact absurd hsilent.2 (by simp)
  · rintro h ⟨hreaches, hflow⟩
    rcases failover_autoFlow hflow with ⟨hstalled, hconfirmed⟩ | ⟨hresponse, hstalled, hfails⟩
    · exact ⟨hstalled, hconfirmed.symm⟩
    · rw [hresponse, hstalled] at hsilent
      exact absurd ⟨hreaches, hsilent, hfails⟩ h

end Failover

/-! ## Two ticks -/

/-- What an external VPN module reports of its traffic. -/
def adapterRow : CounterRow where
  counterKey := "xray:adapter:vpn".toList
  subjectId := none
  collectedAt := "2026-10-04T12:00:00+00:00".toList
  rxDelta := 0
  txDelta := 900
  activityObserved := true
  source := "xray".toList
  scope := []
  watchdogSignal := "external_vpn_module_response".toList
  connectionType := "external_vpn_module".toList

/-- The global counter of the VPN mark, which counts what was sent. -/
def globalRow : CounterRow :=
  { adapterRow with
    counterKey := "fwrouter:global:vpn".toList
    source := "nftables".toList
    scope := "global".toList
    watchdogSignal := [] }

def managedRuntime : RuntimeState where
  ready := true
  activeTargetId := "nl-1".toList
  pathKey := "vpn-auto".toList
  selectionMode := .auto
  activeTargetValid := true
  probeSupported := true
  failoverSupported := true
  initialSelectSupported := true

/-- A tick that finds the rows and fails its probe. -/
def failingTick (rows : List CounterRow) : AutoTick where
  allowSwitch := true
  module := some true
  coreBypass := false
  mode := "vpn".toList
  scopedVpnSubjects := false
  pending _ := none
  convergenceOk := true
  runtime := managedRuntime
  adapterSubject := []
  initialSelectOk := true
  initialSelectDeferred := false
  detector :=
    { unicode := .ascii, parse := fun _ => some 1791115200000000
      digest := fun _ => "84e1772fa5f1e6096970a5d7".toList, prefixes := ["host_".toList]
      trafficWindowSeconds := 75, correlationSeconds := 30 }
  windowSeconds := none
  now := 1791115210000000
  rows
  idleProbeDue := true
  recentCheck := none
  probe := some { ok := false }
  maxLatencyMs := 1500
  qualityConfirmation := ⟨false, false⟩
  idleConfirmation := ⟨false, false⟩
  stallConfirmation := true
  providerRecovery := false
  refreshRecovered := false
  refreshProbe := none
  cooldownActive := false
  reselectionOk := false
  fullRefreshOk := true
  failover := { ok := true, applied := true }
  runtimeNow := managedRuntime

/-- Outbound bytes without a response, confirmed: the tick fails over. -/
theorem stalled_tick_fails_over :
    .failover true ∈ (runVpnWatchdogAutoCheck (failingTick [globalRow])).calls ∧
      ((failingTick [globalRow]).signal.trafficStalled = true ∧
        ((failingTick [globalRow]).stallConfirmation = true ∨
          distinctPostReselectStall (failingTick [globalRow]) = true)) := by
  have hfailover : .failover true ∈ (runVpnWatchdogAutoCheck (failingTick [globalRow])).calls := by
    decide +kernel
  have hout : (failingTick [globalRow]).signal.outboundObserved = true := by decide +kernel
  refine ⟨hfailover, (failover_on_confirmed_stall_iff (failingTick [globalRow]) rfl).mpr ?_
    hfailover⟩
  intro h
  rw [h.silent] at hout
  cases hout

/-- Activity that only the adapter reports: a failed probe is enough. -/
theorem silent_tick_fails_over :
    (failingTick [adapterRow]).allowSwitch = true ∧
      (failingTick [adapterRow]).signal.trafficStalled = false ∧
      .failover true ∈ (runVpnWatchdogAutoCheck (failingTick [adapterRow])).calls := by
  decide +kernel

end FwRouter.Watchdog
