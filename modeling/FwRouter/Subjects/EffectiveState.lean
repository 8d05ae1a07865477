import FwRouter.Python.Value

/-!
# The effective state of a subject

`services/subject_policy.py` projects the effective state of a subject twice: in full
(`enrich_subject_with_effective_state`) and for lists (`_subject_effective_state_summary`).  Both
resolve the mode by one chain of precedence and bind it to a path and a server.  The emergency
override sends VPN traffic direct; only the full projection applies it to the mode.

The scoped runtime is built from the subject and the binding by `build_scoped_subject_runtime`, a
parameter here: both projections hand their binding to it.
-/

namespace FwRouter.Subjects

open Py

/-! ## Inputs -/

/-- What is read of a subject; the scoped runtime reads the other fields. -/
structure Subject where
  subjectId : Text
  subjectType : Text
  desiredMode : Text
  others : Dict

/-- The routing snapshot. -/
structure RoutingSnapshot where
  desiredMode : Option Text
  selectiveDefault : Option Text
  serverMode : Option Text
  desiredFixedServerId : Option Text
  appliedFixedServerId : Option Text
  activeAutoServerId : Option Text
  deriving DecidableEq

structure UserOverride where
  overrideMode : Text
  deriving DecidableEq

structure ServerOverride where
  selectedServerId : Option Text
  deriving DecidableEq

/-- What both projections are given besides the subject.  An override that is not provided is
loaded; the loaders are the queries for one subject. -/
structure Inputs where
  routing : RoutingSnapshot
  userOverride : Option (Option UserOverride)
  serverOverride : Option (Option ServerOverride)
  loadActiveUserOverride : Text → Option UserOverride
  loadActiveServerOverride : Text → Option ServerOverride
  vpnSupported : Bool
  bypassEnabled : Bool
  emergency : Bool

def Inputs.resolvedUserOverride (i : Inputs) (s : Subject) : Option UserOverride :=
  i.userOverride.getD (i.loadActiveUserOverride s.subjectId)

def Inputs.resolvedServerOverride (i : Inputs) (s : Subject) : Option ServerOverride :=
  i.serverOverride.getD (i.loadActiveServerOverride s.subjectId)

/-- `str` of a text or of `None`. -/
def strOf (t : Option Text) : Text := t.getD "None".toList

/-- `value or other`, of texts or `None`. -/
def orElse (value other : Option Text) : Option Text :=
  match value with
  | some (c :: t) => some (c :: t)
  | _ => other

/-! ## Modes -/

variable (U : Unicode)

def subjectFollowsGlobalMode (subjectType : Text) : Bool :=
  decide (U.lower (strip subjectType) ∈ ["lan".toList, "external_network_client".toList,
    "tailscale".toList, "tailscale_node".toList])

def isExplicitExternalClientSubjectType (subjectType : Text) : Bool :=
  decide (U.lower (strip subjectType) ∈ ["explicit_external_client".toList, "xray".toList])

inductive ModeSource
  | architecturalInvariant
  | adminLocked
  | userOverride
  | global
  | subject
  | subjectDefault
  | emergencyDirect
  deriving DecidableEq

def vpn : Text := "vpn".toList
def forcedVpn : Text := "forced_vpn".toList
def selective : Text := "selective".toList
def direct : Text := "direct".toList
def disabled : Text := "disabled".toList
def fwrouter : Text := "fwrouter".toList

/-- `_xray_effective_mode`. -/
def xrayEffectiveMode (desiredMode : Text) (userOverride : Option UserOverride) :
    Text × ModeSource :=
  if desiredMode = disabled then (disabled, .subject)
  else if desiredMode = "enabled".toList then
    match userOverride with
    | some o => (o.overrideMode, .userOverride)
    | none => (forcedVpn, .subjectDefault)
  else if desiredMode = forcedVpn then (forcedVpn, .subject)
  else if desiredMode ∈ [direct, selective, vpn] then (desiredMode, .adminLocked)
  else (disabled, .subject)

/-- `resolve_effective_capture_mode`. -/
def resolveEffectiveCaptureMode (s : Subject) (routing : RoutingSnapshot)
    (userOverride : Option UserOverride) : Text × ModeSource :=
  if subjectFollowsGlobalMode U s.subjectType then
    if s.desiredMode = "global".toList then
      match userOverride with
      | some o => (o.overrideMode, .userOverride)
      | none => (strOf routing.desiredMode, .global)
    else (s.desiredMode, .adminLocked)
  else if isExplicitExternalClientSubjectType U s.subjectType then
    xrayEffectiveMode s.desiredMode userOverride
  else (s.desiredMode, .subject)

/-- `_effective_mode_with_override`. -/
def effectiveModeWithOverride (s : Subject) (routing : RoutingSnapshot)
    (userOverride : Option UserOverride) : Text × ModeSource :=
  if s.subjectType = fwrouter then (direct, .architecturalInvariant)
  else resolveEffectiveCaptureMode U s routing userOverride

/-! ## Bindings -/

structure VpnTarget where
  vpnTargetId : Option Text
  vpnTargetSource : Option Text
  selectedServerId : Option Text
  selectedServerSource : Text
  selectiveDefault : Option Text
  deriving DecidableEq

/-- `resolve_selective_default`. -/
def resolveSelectiveDefault (routing : RoutingSnapshot) : Text :=
  (orElse routing.selectiveDefault (some direct)).getD direct

/-- The target of a subject that has none. -/
def noTarget (source : Text) : VpnTarget := ⟨none, none, none, source, none⟩

def overrideTarget (o : ServerOverride) (selectiveDefault : Option Text) : VpnTarget :=
  ⟨some (strOf o.selectedServerId), some "subject_override".toList, o.selectedServerId,
    "subject_override".toList, selectiveDefault⟩

/-- `resolve_effective_vpn_target`. -/
def resolveEffectiveVpnTarget (mode subjectType : Text) (serverOverride : Option ServerOverride)
    (routing : RoutingSnapshot) : VpnTarget :=
  if subjectType = fwrouter then noTarget "fwrouter_direct_safe".toList
  else if mode = disabled then noTarget disabled
  else if mode = direct then noTarget direct
  else if mode = selective then
    match serverOverride with
    | some o => overrideTarget o (some (resolveSelectiveDefault routing))
    | none =>
        { noTarget (resolveSelectiveDefault routing) with
          selectiveDefault := some (resolveSelectiveDefault routing) }
  else if mode ≠ vpn ∧ mode ≠ forcedVpn then noTarget "unknown".toList
  else
    match serverOverride, orElse routing.appliedFixedServerId routing.desiredFixedServerId with
    | some o, _ => overrideTarget o none
    | none, some (c :: fixed) =>
        if routing.serverMode = some "fixed".toList then
          ⟨some (c :: fixed), some "global_fixed".toList, some (c :: fixed),
            "global_fixed".toList, none⟩
        else ⟨some "vpn-global".toList, some "vpn_auto".toList, routing.activeAutoServerId,
          "vpn_auto".toList, none⟩
    | none, _ => ⟨some "vpn-global".toList, some "vpn_auto".toList, routing.activeAutoServerId,
        "vpn_auto".toList, none⟩

structure Binding where
  dataplanePath : Text
  target : VpnTarget
  deriving DecidableEq

/-- `_effective_binding`. -/
def effectiveBinding (mode subjectType : Text) (serverOverride : Option ServerOverride)
    (routing : RoutingSnapshot) : Binding where
  dataplanePath :=
    if subjectType = fwrouter then direct
    else if mode = disabled then "blocked".toList
    else if mode = direct then direct
    else if mode = selective then selective
    else if mode ≠ vpn ∧ mode ≠ forcedVpn then mode
    else vpn
  target := resolveEffectiveVpnTarget mode subjectType serverOverride routing

/-! ## The projections -/

/-- The arguments of `build_scoped_subject_runtime`. -/
structure ScopedArgs where
  subject : Subject
  dataplanePath : Text
  globalMode : Text
  selectedServerId : Option Text
  selectedServerSource : Text
  vpnTargetId : Option Text
  vpnTargetSource : Option Text
  serverOverride : Option ServerOverride
  vpnSupported : Bool
  bypassEnabled : Bool

/-- `effective_state` of the summary. -/
structure SummaryState (ρ : Type) where
  effectiveMode : Text
  modeSource : ModeSource
  captureMode : Text
  captureModeSource : ModeSource
  dataplanePath : Text
  selectedServerId : Option Text
  selectedServerSource : Text
  vpnTargetId : Option Text
  vpnTargetSource : Option Text
  scopedRuntime : ρ

/-- `effective_state` of the full projection; the runtime enforcement is handed through. -/
structure EffectiveState (ρ : Type) extends SummaryState ρ where
  committedDesiredMode : Text
  appliedControlPlaneMode : Text
  selectiveDefault : Option Text
  globalRouting : RoutingSnapshot
  userOverride : Option UserOverride
  serverOverride : Option ServerOverride

variable {ρ : Type} (buildScopedSubjectRuntime : ScopedArgs → ρ)

/-- The arguments that both projections make of a binding. -/
def scopedArgs (i : Inputs) (s : Subject) (b : Binding) : ScopedArgs where
  subject := s
  dataplanePath := b.dataplanePath
  globalMode := if i.emergency then direct else (orElse i.routing.desiredMode none).getD direct
  selectedServerId := b.target.selectedServerId
  selectedServerSource := b.target.selectedServerSource
  vpnTargetId := b.target.vpnTargetId
  vpnTargetSource := b.target.vpnTargetSource
  serverOverride := i.resolvedServerOverride s
  vpnSupported := i.vpnSupported
  bypassEnabled := i.bypassEnabled

/-- The fields that both projections make of a mode and a binding. -/
def summaryFields (i : Inputs) (s : Subject) (mode : Text × ModeSource) (b : Binding) :
    SummaryState ρ where
  effectiveMode := mode.1
  modeSource := mode.2
  captureMode := mode.1
  captureModeSource := mode.2
  dataplanePath := b.dataplanePath
  selectedServerId := b.target.selectedServerId
  selectedServerSource := b.target.selectedServerSource
  vpnTargetId := b.target.vpnTargetId
  vpnTargetSource := b.target.vpnTargetSource
  scopedRuntime := buildScopedSubjectRuntime (scopedArgs i s b)

/-- `_subject_effective_state_summary(...)["effective_state"]`. -/
def subjectEffectiveStateSummary (i : Inputs) (s : Subject) : SummaryState ρ :=
  let mode := effectiveModeWithOverride U s i.routing (i.resolvedUserOverride s)
  let binding := effectiveBinding mode.1 s.subjectType (i.resolvedServerOverride s) i.routing
  summaryFields buildScopedSubjectRuntime i s mode binding

/-- `enrich_subject_with_effective_state(...)["effective_state"]`. -/
def enrichSubjectWithEffectiveState (i : Inputs) (s : Subject) : EffectiveState ρ :=
  let mode := effectiveModeWithOverride U s i.routing (i.resolvedUserOverride s)
  let binding := effectiveBinding mode.1 s.subjectType (i.resolvedServerOverride s) i.routing
  let override := i.emergency && decide (mode.1 ∈ [vpn, forcedVpn, selective])
  let mode := if override then (direct, .emergencyDirect) else mode
  let binding := if override then effectiveBinding mode.1 s.subjectType none i.routing else binding
  { summaryFields buildScopedSubjectRuntime i s mode binding with
    committedDesiredMode := s.desiredMode
    appliedControlPlaneMode := mode.1
    selectiveDefault := binding.target.selectiveDefault
    globalRouting := i.routing
    userOverride := i.resolvedUserOverride s
    serverOverride := i.resolvedServerOverride s }

/-! ## Agreement -/

/-- The inputs ask for a VPN path: the admin's mode for the subject or, where that defers to them,
the mode of the user or the global mode. -/
def AsksForVpn (i : Inputs) (s : Subject) : Prop :=
  let vpnModes := [vpn, forcedVpn, selective]
  s.subjectType ≠ fwrouter ∧
    if subjectFollowsGlobalMode U s.subjectType then
      if s.desiredMode = "global".toList then
        (match i.resolvedUserOverride s with
          | some o => o.overrideMode
          | none => strOf i.routing.desiredMode) ∈ vpnModes
      else s.desiredMode ∈ vpnModes
    else if isExplicitExternalClientSubjectType U s.subjectType ∧
        s.desiredMode = "enabled".toList then
      ∀ o ∈ i.resolvedUserOverride s, o.overrideMode ∈ vpnModes
    else s.desiredMode ∈ vpnModes

variable {U}

lemma xrayEffectiveMode_mem {desiredMode : Text} {userOverride : Option UserOverride} :
    (xrayEffectiveMode desiredMode userOverride).1 ∈ [vpn, forcedVpn, selective] ↔
      if desiredMode = "enabled".toList then
        ∀ o ∈ userOverride, o.overrideMode ∈ [vpn, forcedVpn, selective]
      else desiredMode ∈ [vpn, forcedVpn, selective] := by
  unfold xrayEffectiveMode
  by_cases henabled : desiredMode = "enabled".toList
  · rw [if_neg (by rw [henabled]; decide), if_pos henabled, if_pos henabled]
    cases userOverride with
    | none =>
        refine ⟨?_, fun _ => by decide⟩
        rintro _ o ho
        cases ho
    | some o =>
        refine ⟨?_, fun h => h o rfl⟩
        rintro h o' ho'
        obtain rfl := Option.some.inj ho'
        exact h
  · rw [if_neg henabled, if_neg henabled]
    by_cases hdisabled : desiredMode = disabled
    · rw [if_pos hdisabled, hdisabled]
    · rw [if_neg hdisabled]
      by_cases hforced : desiredMode = forcedVpn
      · rw [if_pos hforced, hforced]
      · rw [if_neg hforced]
        split_ifs with hmode
        · exact Iff.rfl
        · -- an unknown mode counts as disabled
          constructor
          · intro h
            exact absurd h (by decide)
          · intro h
            simp only [List.mem_cons, List.not_mem_nil, or_false, not_or] at hmode h
            rcases h with h | h | h
            · exact absurd h hmode.2.2
            · exact absurd h hforced
            · exact absurd h hmode.2.1

/-- The resolved mode is a VPN mode if the inputs ask for one. -/
lemma effectiveMode_mem_iff {i : Inputs} {s : Subject} :
    (effectiveModeWithOverride U s i.routing (i.resolvedUserOverride s)).1 ∈
      [vpn, forcedVpn, selective] ↔ AsksForVpn U i s := by
  rw [effectiveModeWithOverride, AsksForVpn]
  by_cases hcore : s.subjectType = fwrouter
  · rw [if_pos hcore]
    constructor
    · intro h
      exact absurd h (by decide)
    · rintro ⟨hne, -⟩
      exact absurd hcore hne
  · rw [if_neg hcore]
    unfold resolveEffectiveCaptureMode
    simp only [ne_eq, hcore, not_false_eq_true, true_and]
    by_cases hglobal : subjectFollowsGlobalMode U s.subjectType = true
    · rw [if_pos hglobal, if_pos hglobal]
      split_ifs
      · cases i.resolvedUserOverride s with
        | none => exact Iff.rfl
        | some o => exact Iff.rfl
      · exact Iff.rfl
    · rw [if_neg hglobal, if_neg hglobal]
      by_cases hexplicit : isExplicitExternalClientSubjectType U s.subjectType = true
      · rw [if_pos hexplicit, xrayEffectiveMode_mem]
        simp only [hexplicit, true_and]
      · rw [if_neg hexplicit, if_neg (by simp [hexplicit])]

/-- **The two projections agree exactly if no emergency overrides a VPN mode.** -/
theorem summary_eq_enriched_iff (U : Unicode) (buildScopedSubjectRuntime : ScopedArgs → ρ)
    (i : Inputs) (s : Subject) :
    subjectEffectiveStateSummary U buildScopedSubjectRuntime i s =
        (enrichSubjectWithEffectiveState U buildScopedSubjectRuntime i s).toSummaryState ↔
      ¬(i.emergency = true ∧ AsksForVpn U i s) := by
  rw [← effectiveMode_mem_iff]
  simp only [subjectEffectiveStateSummary, enrichSubjectWithEffectiveState]
  by_cases hoverride : i.emergency = true ∧
      (effectiveModeWithOverride U s i.routing (i.resolvedUserOverride s)).1 ∈
        [vpn, forcedVpn, selective]
  · -- the summary keeps the VPN mode, the full projection says direct
    have hflag := Bool.and_eq_true_iff.mpr ⟨hoverride.1, decide_eq_true hoverride.2⟩
    constructor
    · intro h
      have hmode := congrArg SummaryState.effectiveMode h
      simp only [hflag, if_true, summaryFields] at hmode
      rw [hmode] at hoverride
      exact absurd hoverride.2 (by decide)
    · intro h
      exact absurd hoverride h
  · have hflag : (i.emergency && decide ((effectiveModeWithOverride U s i.routing
        (i.resolvedUserOverride s)).1 ∈ [vpn, forcedVpn, selective])) = false := by
      rw [Bool.and_eq_false_iff]
      simpa only [not_and_or, Bool.not_eq_true, decide_eq_false_iff_not] using hoverride
    simp only [hflag]
    exact ⟨fun _ => hoverride, fun _ => rfl⟩

/-- A LAN client that the admin sent through the VPN, during an emergency. -/
def emergencyInputs : Inputs where
  routing := ⟨some direct, some direct, some "auto".toList, none, none, some "sub:berlin".toList⟩
  userOverride := some none
  serverOverride := some none
  loadActiveUserOverride _ := none
  loadActiveServerOverride _ := none
  vpnSupported := true
  bypassEnabled := false
  emergency := true

def emergencySubject : Subject := ⟨"lan:phone".toList, "lan".toList, vpn, []⟩

theorem summary_ignores_emergency :
    (subjectEffectiveStateSummary .ascii (fun _ => ()) emergencyInputs emergencySubject).effectiveMode
        = vpn ∧
      (enrichSubjectWithEffectiveState .ascii (fun _ => ()) emergencyInputs
        emergencySubject).effectiveMode = direct ∧
      subjectEffectiveStateSummary .ascii (fun _ => ()) emergencyInputs emergencySubject ≠
        (enrichSubjectWithEffectiveState .ascii (fun _ => ()) emergencyInputs
          emergencySubject).toSummaryState := by
  have hsummary : (subjectEffectiveStateSummary .ascii (fun _ => ()) emergencyInputs
      emergencySubject).effectiveMode = vpn := by
    decide +kernel
  have hfull : (enrichSubjectWithEffectiveState .ascii (fun _ => ()) emergencyInputs
      emergencySubject).effectiveMode = direct := by
    decide +kernel
  refine ⟨hsummary, hfull, ?_⟩
  intro h
  have hmode := congrArg SummaryState.effectiveMode h
  rw [hsummary, hfull] at hmode
  exact absurd hmode (by decide)

end FwRouter.Subjects
