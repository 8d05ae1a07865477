import FwRouter.Mihomo.Guard
import FwRouter.Nft.RuleSets

/-!
# The generated Mihomo rules

`_build_effective_rules` renders the artifact as rule lines, `_build_mihomo_config_with_source`
puts the lines together: for the transparent listener first, for every subject with a server
override, copies of the VPN lines narrowed to the subject's address, then all effective lines,
then the fallback.  Every VPN line gets its UDP guard.

Two questions about the transparent list are answered here.  `override_only_changes_exit_iff`: when
does a server override change nothing but the exit of VPN traffic?  `mihomo_agrees_on_vpn_iff`:
when does Mihomo send to the VPN what nft hands to it?
-/

namespace FwRouter.Mihomo

open Py Ipaddress

/-! ## Rendering -/

/-- The target of a rule action. -/
def actionTarget : Action → Target
  | .vpn => .vpnGlobal
  | .direct => .direct

/-- The loop body of `_build_effective_rules`. -/
def renderRule (U : Unicode) (r : RuleEntry) : Option Text :=
  let rawValue := strip r.value
  if rawValue.isEmpty then none
  else
    let target := (actionTarget r.action).text
    match r.kind with
    | .domain =>
        some (joinFields ["DOMAIN".toList, (U.lower rawValue).rdropWhile isDot, target])
    | .domainSuffix =>
        some (joinFields ["DOMAIN-SUFFIX".toList, stripBy isDot (U.lower rawValue), target])
    | .cidr =>
        if ':' ∈ rawValue then some (joinFields ["IP-CIDR6".toList, rawValue, target])
        else some (joinFields ["IP-CIDR".toList, rawValue, target])
    | .ip => none

/-- `_build_effective_rules`, without the counters. -/
def buildEffectiveRules (U : Unicode) (A : EffectiveRules) : List Text :=
  A.rules.filterMap fun r => renderRule U r.toRuleEntry

/-- What the routing state says; a missing field is read from elsewhere. -/
structure Routing where
  desiredMode : Option RoutingMode
  appliedMode : Option RoutingMode
  selectiveDefault : Option Action

/-- `_resolved_selective_default`; the second argument is the default of the rules state. -/
def resolvedSelectiveDefault (routing : Routing) (rulesDefault : Action) : Action :=
  routing.selectiveDefault.getD rulesDefault

def buildFallbackRule : Text := "MATCH,DIRECT".toList

/-- `_build_transparent_fallback_rule`. -/
def buildTransparentFallbackRule (routing : Routing) (rulesDefault : Action) : Text :=
  if (routing.desiredMode.orElse fun _ => routing.appliedMode) = some .vpn ∨
      resolvedSelectiveDefault routing rulesDefault = .vpn then "MATCH,vpn-global".toList
  else "MATCH,DIRECT".toList

/-- A subject with a server override: its address and the digest in its selector's name. -/
structure SubjectRoute where
  source : Addr
  digest : Digest
deriving DecidableEq

/-- The network of the one source address. -/
def SubjectRoute.network (ρ : SubjectRoute) : PlainNetwork where
  network := (IpAddress.ofAddr ρ.source).host
  unscoped := by rw [IpAddress.host_eq]; rfl

def SubjectRoute.sourceCidr (ρ : SubjectRoute) : Text := ρ.network.network.str

def SubjectRoute.selectorName (ρ : SubjectRoute) : Text := (Target.subject ρ.digest).text

/-- The rule lists of `_build_mihomo_config_with_source`. -/
structure ConfigRules where
  rules : List Text
  transparentRules : List Text
  fullVpnRules : List Text
  scopedVpnSourceRulesCount : Nat
  finalMatchRule : Text
  transparentFinalMatchRule : Text
  transparentRequiredUdpGuard : Option Text
  fullVpnRequiredUdpGuard : Option Text

/-- The scoped lines of one route, before their guards. -/
def scopedLines (U : Unicode) (effectiveRules : List Text) (ρ : SubjectRoute) : List Text :=
  effectiveRules.filterMap fun rule =>
    buildSourceScopedVpnRule U rule ρ.sourceCidr ρ.selectorName

/-- The transparent list: scoped copies, effective lines, fallback, all guarded. -/
def transparentRules (U : Unicode) (effectiveRules : List Text) (routes : List SubjectRoute)
    (fallback : Text) : List Text :=
  (routes.flatMap fun ρ =>
      (scopedLines U effectiveRules ρ).flatMap fun rule => guardMandatoryVpnRules U [rule])
    ++ guardMandatoryVpnRules U effectiveRules ++ guardMandatoryVpnRules U [fallback]

/-- `_build_mihomo_config_with_source`. -/
def buildMihomoConfigWithSource (U : Unicode) (A : EffectiveRules) (routes : List SubjectRoute)
    (routing : Routing) (rulesDefault : Action) : ConfigRules :=
  let effectiveRules := buildEffectiveRules U A
  let fallback := buildTransparentFallbackRule routing rulesDefault
  { rules := guardMandatoryVpnRules U effectiveRules ++ [buildFallbackRule]
    transparentRules := transparentRules U effectiveRules routes fallback
    fullVpnRules := guardMandatoryVpnRules U (routes.map fun ρ =>
        joinFields ["SRC-IP-CIDR".toList, ρ.sourceCidr, ρ.selectorName])
      ++ guardMandatoryVpnRules U ["MATCH,vpn-global".toList]
    scopedVpnSourceRulesCount := (routes.map fun ρ =>
      (scopedLines U effectiveRules ρ).length).sum
    finalMatchRule := buildFallbackRule
    transparentFinalMatchRule := fallback
    transparentRequiredUdpGuard := mandatoryVpnUdpGuard U fallback
    fullVpnRequiredUdpGuard := mandatoryVpnUdpGuard U "MATCH,vpn-global".toList }

/-! ## Connections -/

/-- A connection: its network, its source, and the destination as a host name, an address, or
both. -/
structure Flow where
  network : Network
  src : Addr
  host : Option Text
  dst : Option Addr

/-- What Mihomo tests.  A `no-resolve` condition leaves a named destination alone. -/
def Flow.test (f : Flow) : Atom → Bool
  | .domain d => f.host == some d.text
  | .domainSuffix d => f.host.any fun h => h == d.text || ('.' :: d.text).isSuffixOf h
  | .ipCidr n src noResolve | .ipCidr6 n src noResolve =>
      if src then decide (f.src ∈ n.network)
      else (f.host.isNone || !noResolve) && f.dst.any fun d => decide (d ∈ n.network)
  | .srcIpCidr n => decide (f.src ∈ n.network)
  | .networkUdp => decide (f.network = .udp)

def Flow.conn (f : Flow) : Conn := ⟨f.network, f.test⟩

/-- Every target carries every connection. -/
def allCarry : Target → Bool := fun _ => false

/-! ## The transparent list as rules -/

/-- An effective line: an atomic condition and an action. -/
structure EffectiveLine where
  atom : Atom
  action : Action
deriving DecidableEq

def EffectiveLine.rule (e : EffectiveLine) : Rule := ⟨some (.atom e.atom), actionTarget e.action⟩

/-- The copy of a VPN line for one source. -/
def scopedRule (ρ : SubjectRoute) (e : EffectiveLine) : Option Rule :=
  match e.action with
  | .vpn => some ⟨some (.and (.atom (.srcIpCidr ρ.network)) (.atom e.atom)), .subject ρ.digest⟩
  | .direct => none

/-- The transparent list without guards. -/
def plainTransparentRules (effective : List EffectiveLine) (routes : List SubjectRoute)
    (fallback : Action) : List Rule :=
  (routes.flatMap fun ρ => effective.filterMap (scopedRule ρ))
    ++ effective.map EffectiveLine.rule ++ [⟨none, actionTarget fallback⟩]

/-- **A scoped printed line is the printed scoped rule.** -/
lemma buildSourceScopedVpnRule_text (U : Unicode) (ρ : SubjectRoute) (e : EffectiveLine) :
    buildSourceScopedVpnRule U e.rule.text ρ.sourceCidr ρ.selectorName
      = (scopedRule ρ e).map Rule.text := by
  rw [buildSourceScopedVpnRule, splitMihomoRuleTarget_text, Option.bind_some]
  dsimp only
  obtain ⟨atom, action⟩ := e
  cases action with
  | direct =>
      show (if Target.direct.text ≠ "vpn-global".toList then none else _) = none
      rw [if_pos (by decide)]
  | vpn =>
      have hsrc : (Cond.atom (.srcIpCidr ρ.network)).text
          = "SRC-IP-CIDR,".toList ++ ρ.sourceCidr := by
        have hone : joinFields [ρ.sourceCidr] = ρ.sourceCidr := by simp [joinFields]
        rw [Cond.text_atom]
        show "SRC-IP-CIDR".toList ++ ',' :: joinFields [ρ.sourceCidr] = _
        rw [hone, show "SRC-IP-CIDR,".toList = "SRC-IP-CIDR".toList ++ [','] from rfl,
          List.append_assoc]
        rfl
      have hopen : "AND,((SRC-IP-CIDR,".toList = "AND,((".toList ++ "SRC-IP-CIDR,".toList := rfl
      have hclose : ")),".toList = "))".toList ++ [','] := rfl
      show (if Target.vpnGlobal.text ≠ "vpn-global".toList then none else _) = _
      rw [if_neg (by decide)]
      show some ("AND,((SRC-IP-CIDR,".toList ++ ρ.sourceCidr ++ "),(".toList
          ++ (Cond.atom atom).text ++ ")),".toList ++ ρ.selectorName)
        = some (Rule.text ⟨some (.and (.atom (.srcIpCidr ρ.network)) (.atom atom)),
            .subject ρ.digest⟩)
      rw [text_and_atom, hsrc, hopen, hclose]
      simp only [List.append_assoc, List.singleton_append]
      rfl

lemma guardRules_append (as bs : List Rule) :
    guardRules (as ++ bs) = guardRules as ++ guardRules bs := by
  simp [guardRules]

lemma guardRules_flatMap {α : Type} (f : α → List Rule) (xs : List α) :
    guardRules (xs.flatMap f) = xs.flatMap fun x => guardRules (f x) := by
  simp [guardRules, List.flatMap_assoc]

/-- The scoped lines of one route, guarded one by one. -/
lemma scopedLines_text (U : Unicode) (effective : List EffectiveLine) (ρ : SubjectRoute) :
    ((scopedLines U (effective.map fun e => e.rule.text) ρ).flatMap fun rule =>
        guardMandatoryVpnRules U [rule])
      = (guardRules (effective.filterMap (scopedRule ρ))).map Rule.text := by
  have hlines : scopedLines U (effective.map fun e => e.rule.text) ρ
      = (effective.filterMap (scopedRule ρ)).map Rule.text := by
    rw [scopedLines, List.filterMap_map, List.map_filterMap]
    simp only [Function.comp_def, buildSourceScopedVpnRule_text]
  rw [hlines, ← guardMandatoryVpnRules_text U]
  simp [guardMandatoryVpnRules]

/-- **The transparent list is the printed guarded list.** -/
lemma transparentRules_text (U : Unicode) (effective : List EffectiveLine)
    (routes : List SubjectRoute) (fallback : Action) :
    transparentRules U (effective.map fun e => e.rule.text) routes
        (⟨none, actionTarget fallback⟩ : Rule).text
      = (guardRules (plainTransparentRules effective routes fallback)).map Rule.text := by
  have hmap : (effective.map fun e => e.rule.text)
      = (effective.map EffectiveLine.rule).map Rule.text := by simp
  rw [transparentRules, plainTransparentRules, guardRules_append, guardRules_append,
    guardRules_flatMap, List.map_append, List.map_append, List.map_flatMap]
  congr 1
  · congr 1
    · simp only [scopedLines_text]
    · rw [hmap, guardMandatoryVpnRules_text]
  · exact guardMandatoryVpnRules_text U [⟨none, actionTarget fallback⟩]

/-! ## Evaluating the transparent list -/

lemma firstMatch_append (conn : Conn) (as bs : List Rule) :
    firstMatch conn (as ++ bs) = (firstMatch conn as).or (firstMatch conn bs) := by
  unfold firstMatch
  rw [List.find?_append]

/-- With targets that carry everything the guards are never reached. -/
lemma route_guardRules_allCarry (conn : Conn) (rules : List Rule) :
    route allCarry conn (guardRules rules) = (firstMatch conn rules).map Rule.target := by
  rw [route_guardRules]
  simp [carries, allCarry]

/-- Some VPN line matches. -/
def VpnMatches (conn : Conn) (effective : List EffectiveLine) : Prop :=
  ∃ e ∈ effective, e.action = .vpn ∧ conn.meets e.atom = true

instance (conn : Conn) (effective : List EffectiveLine) : Decidable (VpnMatches conn effective) :=
  inferInstanceAs (Decidable (∃ e ∈ effective, _))

lemma vpnMatches_cons (conn : Conn) (e : EffectiveLine) (effective : List EffectiveLine) :
    VpnMatches conn (e :: effective)
      ↔ (e.action = .vpn ∧ conn.meets e.atom = true) ∨ VpnMatches conn effective := by
  simp [VpnMatches]

/-- The route of a source. -/
def routeOf (routes : List SubjectRoute) (src : Addr) : Option SubjectRoute :=
  routes.find? fun ρ => decide (src ∈ ρ.network.network)

lemma routeOf_cons (ρ : SubjectRoute) (routes : List SubjectRoute) (src : Addr) :
    routeOf (ρ :: routes) src
      = if src ∈ ρ.network.network then some ρ else routeOf routes src := by
  unfold routeOf
  rw [List.find?_cons]
  by_cases h : src ∈ ρ.network.network <;> simp [h]

/-- The scoped copies of one route catch a connection of its source that some VPN line matches. -/
lemma firstMatch_scoped (f : Flow) (effective : List EffectiveLine) (ρ : SubjectRoute) :
    (firstMatch f.conn (effective.filterMap (scopedRule ρ))).map Rule.target
      = if f.src ∈ ρ.network.network ∧ VpnMatches f.conn effective then some (.subject ρ.digest)
        else none := by
  induction effective with
  | nil => simp [firstMatch, VpnMatches]
  | cons e effective ih =>
      obtain ⟨atom, action⟩ := e
      cases action with
      | direct =>
          have hnone : scopedRule ρ ⟨atom, .direct⟩ = none := rfl
          rw [List.filterMap_cons_none hnone, ih]
          simp only [vpnMatches_cons, reduceCtorEq, false_and, false_or]
      | vpn =>
          have hsome : scopedRule ρ ⟨atom, .vpn⟩ = some
            ⟨some (.and (.atom (.srcIpCidr ρ.network)) (.atom atom)), .subject ρ.digest⟩ := rfl
          have hmatch : Rule.matches f.conn
              ⟨some (.and (.atom (.srcIpCidr ρ.network)) (.atom atom)), .subject ρ.digest⟩
              = (decide (f.src ∈ ρ.network.network) && f.conn.meets atom) := rfl
          rw [List.filterMap_cons_some hsome, firstMatch_cons, hmatch]
          by_cases hsrc : f.src ∈ ρ.network.network <;> by_cases ha : f.conn.meets atom = true
          · simp [hsrc, ha, vpnMatches_cons]
          all_goals
            simp only [hsrc, ha, decide_true, decide_false, Bool.true_and, Bool.false_and,
              Bool.false_eq_true, if_false, ih, vpnMatches_cons, and_false, false_or, false_and]

lemma firstMatch_scoped_routes (f : Flow) (effective : List EffectiveLine)
    (routes : List SubjectRoute) :
    (firstMatch f.conn (routes.flatMap fun ρ => effective.filterMap (scopedRule ρ))).map Rule.target
      = if VpnMatches f.conn effective then
          (routeOf routes f.src).map fun ρ => Target.subject ρ.digest
        else none := by
  induction routes with
  | nil => simp [firstMatch, routeOf]
  | cons ρ routes ih =>
      rw [List.flatMap_cons, firstMatch_append, Option.map_or, firstMatch_scoped, ih, routeOf_cons]
      by_cases hv : VpnMatches f.conn effective <;> by_cases hs : f.src ∈ ρ.network.network <;>
        simp [hv, hs]

/-- **Evaluating the transparent list**: the route's selector when some VPN line matches, else what
the effective lines and the fallback say. -/
lemma routeLines_transparentRules (U : Unicode) (effective : List EffectiveLine)
    (routes : List SubjectRoute) (fallback : Action) (f : Flow) :
    routeLines allCarry f.conn (transparentRules U (effective.map fun e => e.rule.text) routes
        (⟨none, actionTarget fallback⟩ : Rule).text)
      = ((if VpnMatches f.conn effective then
            (routeOf routes f.src).map fun ρ => Target.subject ρ.digest
          else none).or
        ((firstMatch f.conn (effective.map EffectiveLine.rule)).map Rule.target)).or
          (some (actionTarget fallback)) := by
  have hfallback : firstMatch f.conn [⟨none, actionTarget fallback⟩]
      = some ⟨none, actionTarget fallback⟩ := rfl
  rw [transparentRules_text, routeLines_text, route_guardRules_allCarry, plainTransparentRules,
    firstMatch_append, firstMatch_append, Option.map_or, Option.map_or, firstMatch_scoped_routes,
    hfallback]
  rfl

/-! ## Server overrides -/

/-- The lines that decide the connection, without overrides: the first effective line that
matches. -/
def firstLine (f : Flow) (effective : List EffectiveLine) : Option EffectiveLine :=
  effective.find? fun e => f.conn.meets e.atom

lemma firstMatch_map_rule (f : Flow) (effective : List EffectiveLine) :
    (firstMatch f.conn (effective.map EffectiveLine.rule)).map Rule.target
      = (firstLine f effective).map fun e => actionTarget e.action := by
  unfold firstMatch firstLine
  rw [List.find?_map, Option.map_map]
  rfl

/-- A VPN line matches exactly when the first line is one, or one comes behind a direct first
line. -/
lemma vpnMatches_of_firstLine {f : Flow} {effective : List EffectiveLine} {e : EffectiveLine}
    (h : firstLine f effective = some e) (he : e.action = .vpn) : VpnMatches f.conn effective :=
  ⟨e, List.mem_of_find?_eq_some h, he, by simpa using List.find?_some h⟩

lemma not_vpnMatches_of_firstLine_none {f : Flow} {effective : List EffectiveLine}
    (h : firstLine f effective = none) : ¬ VpnMatches f.conn effective := by
  rintro ⟨e, he, -, hm⟩
  exact List.find?_eq_none.mp h e he hm

/-- What an override should do: keep direct traffic direct, and move VPN traffic of the route's
source, and no other, to the route's selector. -/
def OverrideOnlyChangesExit (base overridden : Option Target) (route : Option SubjectRoute) : Prop :=
  (overridden = some .direct ↔ base = some .direct) ∧
  (base = some .vpnGlobal → overridden = some (match route with
    | some ρ => .subject ρ.digest
    | none => .vpnGlobal))

/-- The configurations on which it does: the source has no route, or no VPN line hides behind a
direct first line and no VPN fallback decides. -/
def OverrideSafe (f : Flow) (effective : List EffectiveLine) (routes : List SubjectRoute)
    (fallback : Action) : Prop :=
  routeOf routes f.src = none ∨
  match firstLine f effective with
  | some e => e.action = .direct → ¬ VpnMatches f.conn effective
  | none => fallback = .direct

/-- **A server override changes only the exit of VPN traffic if and only if the configuration is
`OverrideSafe` for the connection.** -/
theorem override_only_changes_exit_iff (U : Unicode) (effective : List EffectiveLine)
    (routes : List SubjectRoute) (fallback : Action) (f : Flow) :
    OverrideOnlyChangesExit
        (routeLines allCarry f.conn (transparentRules U (effective.map fun e => e.rule.text) []
          (⟨none, actionTarget fallback⟩ : Rule).text))
        (routeLines allCarry f.conn (transparentRules U (effective.map fun e => e.rule.text) routes
          (⟨none, actionTarget fallback⟩ : Rule).text))
        (routeOf routes f.src)
      ↔ OverrideSafe f effective routes fallback := by
  rw [routeLines_transparentRules, routeLines_transparentRules, firstMatch_map_rule]
  have hnil : routeOf [] f.src = none := rfl
  cases hroute : routeOf routes f.src with
  | none =>
      simp only [hnil, OverrideOnlyChangesExit, OverrideSafe, hroute, Option.map_none, ite_self,
        Option.none_or, true_or, iff_true, true_and]
      exact fun h => h
  | some ρ =>
      cases hline : firstLine f effective with
      | none =>
          have hv := not_vpnMatches_of_firstLine_none hline
          cases fallback <;>
            simp [OverrideOnlyChangesExit, OverrideSafe, hroute, hline, hv, actionTarget]
      | some e =>
          cases he : e.action with
          | vpn =>
              have hv := vpnMatches_of_firstLine hline he
              simp [hnil, OverrideOnlyChangesExit, OverrideSafe, hroute, hline, hv, he,
                actionTarget]
          | direct =>
              by_cases hv : VpnMatches f.conn effective <;>
                simp [hnil, OverrideOnlyChangesExit, OverrideSafe, hroute, hline, hv, he,
                  actionTarget]

/-- A direct line for a name and a VPN line for a network. -/
def overlappingLines : List EffectiveLine :=
  [⟨.domain examplePayload, .direct⟩,
    ⟨.ipCidr ⟨(IpAddress.ofAddr ⟨.v4, 134744072, by decide⟩).host, by decide⟩ false false, .vpn⟩]

/-- An override for the subject at `192.168.1.2`. -/
def overriddenSubject : SubjectRoute :=
  ⟨⟨.v4, 3232235778, by decide⟩, ⟨"0123456789ab".toList, by decide⟩⟩

/-- The subject asks for the name, which resolves into the network. -/
def overriddenFlow : Flow :=
  ⟨.tcp, ⟨.v4, 3232235778, by decide⟩, some "example.com".toList, some ⟨.v4, 134744072, by decide⟩⟩

/-- Without the override the connection is direct, with it the connection goes to the VPN. -/
theorem override_turns_direct_into_vpn :
    ¬ OverrideOnlyChangesExit
      (routeLines allCarry overriddenFlow.conn (transparentRules .ascii
        (overlappingLines.map fun e => e.rule.text) [] "MATCH,DIRECT".toList))
      (routeLines allCarry overriddenFlow.conn (transparentRules .ascii
        (overlappingLines.map fun e => e.rule.text) [overriddenSubject] "MATCH,DIRECT".toList))
      (routeOf [overriddenSubject] overriddenFlow.src) := by
  intro h
  have hbase : routeLines allCarry overriddenFlow.conn (transparentRules .ascii
      (overlappingLines.map fun e => e.rule.text) [] "MATCH,DIRECT".toList) = some .direct := by
    decide +kernel
  have hover : routeLines allCarry overriddenFlow.conn (transparentRules .ascii
      (overlappingLines.map fun e => e.rule.text) [overriddenSubject] "MATCH,DIRECT".toList)
      = some (.subject overriddenSubject.digest) := by
    decide +kernel
  have := h.1.mpr hbase
  rw [hover] at this
  exact absurd this (by decide)

/-! ## Agreement with nft -/

/-- The effective line of a rule; `none` for a rule that is not rendered. -/
def effectiveLine (U : Unicode) (r : RuleEntry) : Option EffectiveLine :=
  if r.value.isEmpty then none
  else match r.kind with
    | .domain =>
        (readPayload ((U.lower r.value).rdropWhile isDot)).map fun d => ⟨.domain d, r.action⟩
    | .domainSuffix =>
        (readPayload (stripBy isDot (U.lower r.value))).map fun d => ⟨.domainSuffix d, r.action⟩
    | .cidr => (readNetwork r.value).map fun n =>
        ⟨if ':' ∈ r.value then .ipCidr6 n false false else .ipCidr n false false, r.action⟩
    | .ip => none

lemma lower_domainOk (U : Unicode) {t : Text} (h : DomainOk t) : DomainOk (U.lower t) := by
  refine ⟨fun c hc => ?_, fun c hc hp => ?_⟩
  · by_contra hs
    exact hs (h.1 c (U.lower_punct t c hc (Or.inr (by simpa using hs))))
  · exact h.2 c (U.lower_punct t c hc (Or.inl hp)) hp

lemma domainOk_of_subset {s t : Text} (h : DomainOk t) (hs : ∀ c ∈ s, c ∈ t) : DomainOk s :=
  ⟨fun c hc => h.1 c (hs c hc), fun c hc => h.2 c (hs c hc)⟩

/-- The text of a network shows its scope id. -/
lemma str_of_scopeId {n : IpNetwork} {s : Text} (h : n.networkAddress.scopeId = some s) :
    ∃ rest, n.str = ipv6ToString n.networkAddress.addr.ip ++ '%' :: rest := by
  obtain ⟨⟨⟨v, ip, hlt⟩, scope, hv6, hok⟩, p, hp, hal⟩ := n
  simp only at h
  subst h
  have hv : v = .v6 := hv6 (by simp)
  subst hv
  exact ⟨s ++ '/' :: dec p, by simp [IpNetwork.str, IpAddress.str]⟩

lemma unscoped_of_str {n : IpNetwork} (h : '%' ∉ n.str) : n.networkAddress.scopeId = none := by
  cases hs : n.networkAddress.scopeId with
  | none => rfl
  | some s =>
      obtain ⟨rest, hstr⟩ := str_of_scopeId hs
      exact absurd (by rw [hstr]; simp) h

lemma scoped_of_str {n : IpNetwork} (h : '%' ∈ n.str) : ∃ s, n.networkAddress.scopeId = some s := by
  cases hs : n.networkAddress.scopeId with
  | some s => exact ⟨s, rfl⟩
  | none => exact absurd h fun h => (fieldText_network ⟨n, hs⟩ '%' h).2 (by simp)

/-- **A well-formed rule without a scope id is rendered as its effective line.** -/
lemma renderRule_eq (U : Unicode) {r : RuleEntry} (hok : r.Ok)
    (hplain : r.kind = .cidr → '%' ∉ r.value) :
    renderRule U r = (effectiveLine U r).map fun e => e.rule.text := by
  obtain ⟨action, kind, value, line, source⟩ := r
  cases kind with
  | domain =>
      have hd : DomainOk value := hok
      have hp : DomainOk ((U.lower value).rdropWhile isDot) :=
        domainOk_of_subset (lower_domainOk U hd) fun c hc => (List.rdropWhile_prefix _ _).subset hc
      unfold renderRule effectiveLine
      dsimp only
      rw [strip_solid hd.1, readPayload, dif_pos hp]
      cases value.isEmpty <;> rfl
  | domainSuffix =>
      have hd : DomainOk value := hok
      have hp : DomainOk (stripBy isDot (U.lower value)) :=
        domainOk_of_subset (lower_domainOk U hd) fun c hc => mem_of_mem_stripBy hc
      unfold renderRule effectiveLine
      dsimp only
      rw [strip_solid hd.1, readPayload, dif_pos hp]
      cases value.isEmpty <;> rfl
  | ip =>
      unfold renderRule effectiveLine
      dsimp only
      split_ifs <;> rfl
  | cidr =>
      obtain ⟨n, rfl⟩ : ∃ n : IpNetwork, value = n.str := hok
      have hread : readNetwork n.str = some ⟨n, unscoped_of_str (hplain rfl)⟩ :=
        readNetwork_str ⟨n, _⟩
      have hempty : n.str.isEmpty = false := by simpa using n.str_ne_nil
      unfold renderRule effectiveLine
      dsimp only
      rw [IpNetwork.strip_str, hempty, hread]
      simp only [Bool.false_eq_true, if_false, Option.map_some]
      split_ifs <;> rfl

/-- A literal destination meets exactly the `cidr` lines that contain it. -/
lemma meets_effectiveLine {U : Unicode} {r : RuleEntry} {e : EffectiveLine} {f : Flow} {d : Addr}
    (hhost : f.host = none) (hdst : f.dst = some d) (h : effectiveLine U r = some e) :
    e.action = r.action ∧
    (f.conn.meets e.atom = true ↔ r.kind = .cidr ∧ r.containsAddr d = true) := by
  unfold effectiveLine at h
  by_cases hempty : r.value.isEmpty
  · rw [if_pos hempty] at h
    cases h
  rw [if_neg hempty] at h
  cases hk : r.kind with
  | ip => simp [hk] at h
  | domain | domainSuffix =>
      simp only [hk, Option.map_eq_some_iff] at h
      obtain ⟨p, -, rfl⟩ := h
      simp [Conn.meets, Flow.conn, Flow.test, hhost]
  | cidr =>
      simp only [hk, Option.map_eq_some_iff] at h
      obtain ⟨n, hn, rfl⟩ := h
      have hnet : ipNetwork r.value = some n.network := by
        unfold readNetwork at hn
        split_ifs at hn
        obtain ⟨m, hm, hmn⟩ := Option.bind_eq_some_iff.mp hn
        split_ifs at hmn
        rw [hm, ← Option.some.inj hmn]
      have hcontains : r.containsAddr d = decide (d ∈ n.network) := by
        simp [RuleEntry.containsAddr, networkForRule, hk, hnet]
      split_ifs <;> simp [Conn.meets, Flow.conn, Flow.test, hhost, hdst, hcontains]

/-! ### Lines that Mihomo refuses -/

/-- The first field of a text keeps what stands before the first comma. -/
lemma mem_head_splitOn {x : Char} (hx : x ≠ ',') (b : Text) : ∀ {a : Text}, ',' ∉ a →
    ∃ field rest, (a ++ x :: b).splitOn ',' = field :: rest ∧ x ∈ field
  | [], _ => by
      obtain ⟨field, rest, h⟩ := List.exists_cons_of_ne_nil (List.splitOn_ne_nil ',' b)
      exact ⟨x :: field, rest, by simp [List.splitOn_cons_eq_if_modifyHead, hx, h], by simp⟩
  | c :: a, ha => by
      obtain ⟨field, rest, h, hmem⟩ := mem_head_splitOn hx b
        (fun h => ha (List.mem_cons_of_mem c h))
      have hc : c ≠ ',' := fun h => ha (by simp [h])
      refine ⟨c :: field, rest, ?_, List.mem_cons_of_mem c hmem⟩
      rw [List.cons_append, List.splitOn_cons_eq_if_modifyHead, h]
      simp [hc]

/-- Mihomo refuses a network with a scope id. -/
lemma readRule_scoped {type value target : Text} (htype : type ∈ ["IP-CIDR".toList, "IP-CIDR6".toList])
    {n : IpNetwork} (hvalue : value = n.str) (h : '%' ∈ n.str) :
    readRule (joinFields [type, value, target]) = none := by
  obtain ⟨s, hs⟩ := scoped_of_str h
  obtain ⟨rest, hstr⟩ := str_of_scopeId hs
  have hcomma : ',' ∉ type := by
    simp only [List.mem_cons, List.not_mem_nil, or_false] at htype
    rcases htype with rfl | rfl <;> decide
  have htext : joinFields [type, value, target] = type ++ ',' ::
      (ipv6ToString n.networkAddress.addr.ip ++ '%' :: (rest ++ ',' :: target)) := by
    rw [joinFields_cons_cons, joinFields_cons_cons, hvalue, hstr]
    simp [joinFields]
  obtain ⟨field, fields, hsplit, hmem⟩ := mem_head_splitOn (x := '%') (by decide)
    (rest ++ ',' :: target) (not_mem_ipv6ToString (c := ',') (n := n.networkAddress.addr.ip) (by simp))
  have hnet : readNetwork field = none := by rw [readNetwork, if_pos hmem]
  have hatom : ∀ params, readAtom type field params = none := by
    intro params
    simp only [List.mem_cons, List.not_mem_nil, or_false] at htype
    rcases htype with rfl | rfl
    · rw [readAtom, if_neg (by decide), if_neg (by decide), if_pos rfl, hnet]
      rfl
    · rw [readAtom, if_neg (by decide), if_neg (by decide), if_neg (by decide), if_pos rfl, hnet]
      rfl
  have hmatch : type ≠ "MATCH".toList ∧ type ≠ "AND".toList := by
    simp only [List.mem_cons, List.not_mem_nil, or_false] at htype
    rcases htype with rfl | rfl <;> decide
  rw [readRule, htext, List.splitOn_append_cons_self_of_not_mem hcomma, hsplit]
  dsimp only
  rw [if_neg hmatch.1, if_neg hmatch.2]
  cases fields with
  | nil => rfl
  | cons t ts => simp [hatom]

lemma routeLines_eq_none {noUdp : Target → Bool} {conn : Conn} {lines : List Text} {t : Text}
    (ht : t ∈ lines) (h : readRule t = none) : routeLines noUdp conn lines = none := by
  rw [routeLines]
  cases hm : lines.mapM readRule with
  | none => rfl
  | some rules =>
      obtain ⟨r, -, hr⟩ := exists_mem_of_mapM hm t ht
      rw [h] at hr
      cases hr

lemma mem_guardMandatoryVpnRules (U : Unicode) {rules : List Text} {t : Text} (h : t ∈ rules) :
    t ∈ guardMandatoryVpnRules U rules :=
  List.mem_flatMap.mpr ⟨t, h, by simp⟩

/-- The transparent list of an artifact with a scope id in it is refused. -/
lemma routeLines_scoped {U : Unicode} {A : EffectiveRules} {r : EffectiveRule} (hr : r ∈ A.rules)
    (hok : r.toRuleEntry.Ok) (hk : r.kind = .cidr) (hscope : '%' ∈ r.value) (conn : Conn)
    (routes : List SubjectRoute) (fallback : Text) :
    routeLines allCarry conn (transparentRules U (buildEffectiveRules U A) routes fallback)
      = none := by
  obtain ⟨n, hn⟩ : ∃ n : IpNetwork, r.value = n.str := by
    have : ValueOk r.kind r.value := hok
    rwa [hk] at this
  have hempty : (strip r.value).isEmpty = false := by
    rw [hn, IpNetwork.strip_str]
    simpa using n.str_ne_nil
  obtain ⟨type, htype, hrender⟩ : ∃ type ∈ ["IP-CIDR".toList, "IP-CIDR6".toList],
      renderRule U r.toRuleEntry
        = some (joinFields [type, r.value, (actionTarget r.action).text]) := by
    unfold renderRule
    simp only [hempty, hk, Bool.false_eq_true, if_false]
    rw [hn, IpNetwork.strip_str]
    by_cases hcolon : ':' ∈ n.str
    · exact ⟨"IP-CIDR6".toList, by simp, by rw [if_pos hcolon]⟩
    · exact ⟨"IP-CIDR".toList, by simp, by rw [if_neg hcolon]⟩
  refine routeLines_eq_none (t := joinFields [type, r.value, (actionTarget r.action).text]) ?_
    (readRule_scoped htype hn (hn ▸ hscope))
  refine List.mem_append_left _ (List.mem_append_right _ (mem_guardMandatoryVpnRules U ?_))
  exact List.mem_filterMap.mpr ⟨r, hr, hrender⟩

/-- Without scope ids the rendered lines are the printed effective lines. -/
lemma buildEffectiveRules_eq (U : Unicode) {A : EffectiveRules}
    (hok : ∀ r ∈ A.rules, r.toRuleEntry.Ok)
    (hplain : ∀ r ∈ A.rules, r.kind = .cidr → '%' ∉ r.value) :
    buildEffectiveRules U A
      = (A.rules.filterMap fun r => effectiveLine U r.toRuleEntry).map fun e => e.rule.text := by
  rw [buildEffectiveRules, List.map_filterMap]
  exact List.filterMap_congr fun r hr => renderRule_eq U (hok r hr) (hplain r hr)

/-- A VPN line meets a literal destination exactly when a VPN `cidr` rule contains it. -/
lemma vpnMatches_iff {U : Unicode} {A : EffectiveRules} {f : Flow} {d : Addr}
    (hok : ∀ r ∈ A.rules, r.toRuleEntry.Ok)
    (hplain : ∀ r ∈ A.rules, r.kind = .cidr → '%' ∉ r.value)
    (hhost : f.host = none) (hdst : f.dst = some d) :
    VpnMatches f.conn (A.rules.filterMap fun r => effectiveLine U r.toRuleEntry)
      ↔ ∃ r ∈ A.rules, r.kind = .cidr ∧ r.action = .vpn ∧ r.containsAddr d = true := by
  constructor
  · rintro ⟨e, he, hact, hm⟩
    obtain ⟨r, hr, hre⟩ := List.mem_filterMap.mp he
    obtain ⟨hact', hmeets⟩ := meets_effectiveLine hhost hdst hre
    obtain ⟨hk, hc⟩ := hmeets.mp hm
    exact ⟨r, hr, hk, hact' ▸ hact, hc⟩
  · rintro ⟨r, hr, hk, hact, hc⟩
    obtain ⟨e, he⟩ : ∃ e, effectiveLine U r.toRuleEntry = some e := by
      obtain ⟨n, hn⟩ : ∃ n : IpNetwork, r.value = n.str := by
        have : ValueOk r.kind r.value := hok r hr
        rwa [hk] at this
      have hempty : r.value.isEmpty = false := by simpa [hn] using n.str_ne_nil
      have hscope : '%' ∉ n.str := hn ▸ hplain r hr hk
      have hread : readNetwork r.value = some ⟨n, unscoped_of_str hscope⟩ := by
        rw [hn]
        exact readNetwork_str ⟨n, _⟩
      simp [effectiveLine, hempty, hk, hread]
    obtain ⟨hact', hmeets⟩ := meets_effectiveLine hhost hdst he
    exact ⟨e, List.mem_filterMap.mpr ⟨r, hr, he⟩, hact'.trans hact, hmeets.mpr ⟨hk, hc⟩⟩

/-- **Mihomo sends to the VPN what nft hands to it, if and only if a `cidr` rule is behind it** (and
Mihomo can read the list, which a scope id prevents).  An `ip` rule reaches the nft sets, but no
Mihomo line.  Of what nft tests, only the direct sets matter: they must not cover the address. -/
theorem mihomo_agrees_on_vpn_iff (U : Unicode) (S : NetworkSettings) (C : CollapseAddresses)
    (H : NftHost) (texts : RuleTexts) (dflt rulesDefault : Action) (appliedMode : Option RoutingMode)
    (routes : List SubjectRoute) (f : Flow) (d : Addr) (hhost : f.host = none) (hdst : f.dst = some d)
    (hdirect : ¬ Covers (buildNftRuleSets U S C H
      (effectiveRulesOfTexts U S C texts dflt)).directNetworks d) :
    (∃ t, routeLines allCarry f.conn (buildMihomoConfigWithSource U
        (effectiveRulesOfTexts U S C texts dflt) routes ⟨some .selective, appliedMode, some .direct⟩
          rulesDefault).transparentRules = some t ∧ t.isVpn = true)
      ↔ (∃ r ∈ (effectiveRulesOfTexts U S C texts dflt).rules,
          r.kind = .cidr ∧ r.action = .vpn ∧ r.containsAddr d = true) ∧
        ∀ r ∈ (effectiveRulesOfTexts U S C texts dflt).rules, r.kind = .cidr → '%' ∉ r.value := by
  have hok := (effectiveRulesOfTexts_merged U S C texts dflt).ok
  generalize effectiveRulesOfTexts U S C texts dflt = A at hok hdirect ⊢
  show (∃ t, routeLines allCarry f.conn (transparentRules U (buildEffectiveRules U A) routes
    (⟨none, actionTarget .direct⟩ : Rule).text) = some t ∧ _) ↔ _
  by_cases hplain : ∀ r ∈ A.rules, r.kind = .cidr → '%' ∉ r.value
  · -- no direct line can match, since the direct sets do not cover the destination
    have hfirst : ∀ e, firstLine f (A.rules.filterMap fun r => effectiveLine U r.toRuleEntry)
        = some e → e.action = .vpn := by
      intro e he
      obtain ⟨r, hr, hre⟩ := List.mem_filterMap.mp (List.mem_of_find?_eq_some he)
      obtain ⟨hact, hmeets⟩ := meets_effectiveLine hhost hdst hre
      obtain ⟨hk, hc⟩ := hmeets.mp (by simpa using List.find?_some he)
      rw [hact]
      cases hra : r.action with
      | vpn => rfl
      | direct =>
          exact absurd ((covers_directNetworks U S C H hok d).mpr
            ⟨r, hr, hra, rendered_of_kind_cidr hk, hc⟩) hdirect
    rw [buildEffectiveRules_eq U hok hplain, routeLines_transparentRules, firstMatch_map_rule,
      ← vpnMatches_iff (U := U) hok hplain hhost hdst]
    rw [and_iff_left hplain]
    cases hline : firstLine f (A.rules.filterMap fun r => effectiveLine U r.toRuleEntry) with
    | none =>
        have hv := not_vpnMatches_of_firstLine_none hline
        simp [hv, actionTarget, Target.isVpn]
    | some e =>
        have hact := hfirst e hline
        have hv := vpnMatches_of_firstLine hline hact
        cases routeOf routes f.src <;> simp [hv, hact, actionTarget, Target.isVpn]
  · obtain ⟨r, hr, hk, hscope⟩ : ∃ r ∈ A.rules, r.kind = .cidr ∧ '%' ∈ r.value := by
      simpa using hplain
    rw [routeLines_scoped hr (hok r hr) hk hscope]
    simp [hplain]

/-- One manual VPN rule for a network, and one for a single address of it. -/
def vpnNetworkTexts : RuleTexts := ⟨"VPN 8.8.8.0/24".toList, [], [], []⟩

def vpnHostTexts : RuleTexts := ⟨"VPN 8.8.8.8".toList, [], [], []⟩

/-- A connection from `192.168.1.2` to the literal address `8.8.8.8`. -/
def literalFlow : Flow :=
  ⟨.tcp, ⟨.v4, 3232235778, by decide⟩, none, some ⟨.v4, 134744072, by decide⟩⟩

/-- The network rule meets the hypotheses. -/
theorem mihomo_agrees_on_vpn_network :
    Covers (buildNftRuleSets .ascii .noClassE .sorted .bare
      (effectiveRulesOfTexts .ascii .noClassE .sorted vpnNetworkTexts .direct)).vpnNetworks
        ⟨.v4, 134744072, by decide⟩ ∧
    ((∃ t, routeLines allCarry literalFlow.conn (buildMihomoConfigWithSource .ascii
        (effectiveRulesOfTexts .ascii .noClassE .sorted vpnNetworkTexts .direct) []
          ⟨some .selective, none, some .direct⟩ .direct).transparentRules = some t ∧
        t.isVpn = true)
      ↔ (∃ r ∈ (effectiveRulesOfTexts .ascii .noClassE .sorted vpnNetworkTexts .direct).rules,
          r.kind = .cidr ∧ r.action = .vpn ∧
            r.containsAddr ⟨.v4, 134744072, by decide⟩ = true) ∧
        ∀ r ∈ (effectiveRulesOfTexts .ascii .noClassE .sorted vpnNetworkTexts .direct).rules,
          r.kind = .cidr → '%' ∉ r.value) :=
  ⟨by decide +kernel, mihomo_agrees_on_vpn_iff .ascii .noClassE .sorted .bare vpnNetworkTexts .direct
    .direct none [] literalFlow ⟨.v4, 134744072, by decide⟩ rfl rfl (by decide +kernel)⟩

/-- nft hands the address to the VPN, Mihomo sends it out directly. -/
theorem mihomo_leaks_vpn_host :
    (validateManualRules .ascii .noClassE vpnHostTexts.manual).valid = true ∧
    Covers (buildNftRuleSets .ascii .noClassE .sorted .bare
      (effectiveRulesOfTexts .ascii .noClassE .sorted vpnHostTexts .direct)).vpnNetworks
        ⟨.v4, 134744072, by decide⟩ ∧
    ¬ Covers (buildNftRuleSets .ascii .noClassE .sorted .bare
      (effectiveRulesOfTexts .ascii .noClassE .sorted vpnHostTexts .direct)).directNetworks
        ⟨.v4, 134744072, by decide⟩ ∧
    ¬ Covers (buildNftRuleSets .ascii .noClassE .sorted .bare
      (effectiveRulesOfTexts .ascii .noClassE .sorted vpnHostTexts .direct)).protectedNetworks
        ⟨.v4, 134744072, by decide⟩ ∧
    routeLines allCarry literalFlow.conn (buildMihomoConfigWithSource .ascii
      (effectiveRulesOfTexts .ascii .noClassE .sorted vpnHostTexts .direct) []
        ⟨some .selective, none, some .direct⟩ .direct).transparentRules = some .direct := by
  decide +kernel

end FwRouter.Mihomo
