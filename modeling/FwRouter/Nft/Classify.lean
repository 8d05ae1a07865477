import FwRouter.Nft.RuleSets

/-!
# The classify chain

`_build_classify_chain_lines` builds the nft chain that sends a packet to the direct branch or to
one of the VPN branches.  nft takes the first line whose match holds and whose statement ends the
evaluation.

The artifact declares a priority: the rule of smallest priority that contains the destination
names the branch.  The chain tests every direct set before every VPN set, so the two agree only
where `EffectiveRules.NftAgrees` holds, and `classify_eq_declaredAction_iff` says that this is
the exact condition.
-/

namespace FwRouter

open Py Ipaddress

/-! ## Lines -/

/-- What the chain can see of a packet: the destination, whether the host itself owns it
(`fib daddr type local`), and the destination port of a TCP packet. -/
structure Packet where
  daddr : Addr
  fibLocal : Bool
  tcpDport : Option Nat

inductive SetName where
  | protectedIpv4
  | protectedIpv6
  | directIpv4
  | dnsDirectIpv4
  | directIpv6
  | vpnIpv4
  | dnsVpnIpv4
  | vpnIpv6
deriving DecidableEq

def SetName.version : SetName → Version
  | .protectedIpv6 | .directIpv6 | .vpnIpv6 => .v6
  | _ => .v4

def SetName.text : SetName → String
  | .protectedIpv4 => "protected_ipv4"
  | .protectedIpv6 => "protected_ipv6"
  | .directIpv4 => "direct_ipv4"
  | .dnsDirectIpv4 => "dns_direct_ipv4"
  | .directIpv6 => "direct_ipv6"
  | .vpnIpv4 => "vpn_ipv4"
  | .dnsVpnIpv4 => "dns_vpn_ipv4"
  | .vpnIpv6 => "vpn_ipv6"

/-- The match part of a line.  A scoped steering rule is written elsewhere; it enters with its
text and what it tests. -/
inductive LineMatch where
  | always
  | fibDaddrLocal
  | daddr (set : SetName)
  | tcpDport22
  | scoped (expr : String) (test : Packet → Bool)

/-- The statement of a line. -/
inductive Verdict where
  | gotoDirect
  | gotoVpn
  | gotoVpnFull
  | drop
  | counter
deriving DecidableEq

structure ChainLine where
  on : LineMatch
  verdict : Verdict
  comment : String

def LineMatch.text : LineMatch → String
  | .always => ""
  | .fibDaddrLocal => "fib daddr type local "
  | .daddr set => (if set.version = .v4 then "ip" else "ip6") ++ " daddr @" ++ set.text ++ " "
  | .tcpDport22 => "meta l4proto tcp tcp dport \x7b 22 \x7d "
  | .scoped expr _ => expr ++ " "

def Verdict.text : Verdict → String
  | .gotoDirect => "goto fwrouter_direct"
  | .gotoVpn => "goto fwrouter_vpn"
  | .gotoVpnFull => "goto fwrouter_vpn_full"
  | .drop => "drop"
  | .counter => "counter"

/-- The line as it stands in the nft file. -/
def ChainLine.text (l : ChainLine) : String :=
  "        " ++ l.on.text ++ l.verdict.text ++ " comment \"" ++ l.comment ++ "\""

example : (⟨.daddr .directIpv6, .gotoDirect, "selective direct IPv6"⟩ : ChainLine).text
    = "        ip6 daddr @direct_ipv6 goto fwrouter_direct comment \"selective direct IPv6\"" := by
  decide

/-- `_build_classify_chain_lines`, without the line that opens the chain and the one that closes
it. -/
def buildClassifyChainLines (mode : RoutingMode) (selectiveDefault : Action)
    (selectiveVpnPolicyReady selectiveDegraded : Bool) (scopedSteeringRules : List ChainLine) :
    List ChainLine :=
  [⟨.fibDaddrLocal, .gotoDirect, "host-local destination always direct"⟩,
    ⟨.daddr .protectedIpv4, .gotoDirect, "protected IPv4 always direct"⟩,
    ⟨.daddr .protectedIpv6, .gotoDirect, "protected IPv6 always direct"⟩,
    ⟨.tcpDport22, .gotoDirect, "management tcp ingress direct"⟩] ++ scopedSteeringRules ++
  match mode with
  | .direct => [⟨.always, .gotoDirect, "global direct v1"⟩]
  | .vpn => [⟨.always, .gotoVpnFull, "global vpn v1"⟩]
  | .selective =>
      [⟨.daddr .directIpv4, .gotoDirect, "selective direct IPv4"⟩,
        ⟨.daddr .dnsDirectIpv4, .gotoDirect, "selective dns direct IPv4"⟩,
        ⟨.daddr .directIpv6, .gotoDirect, "selective direct IPv6"⟩,
        if selectiveVpnPolicyReady then ⟨.daddr .vpnIpv4, .gotoVpn, "selective vpn IPv4"⟩
        else ⟨.daddr .vpnIpv4, .drop, "selective degraded block VPN IPv4"⟩,
        if selectiveVpnPolicyReady then ⟨.daddr .dnsVpnIpv4, .gotoVpn, "selective dns vpn IPv4"⟩
        else ⟨.daddr .dnsVpnIpv4, .drop, "selective degraded block DNS VPN IPv4"⟩,
        if selectiveVpnPolicyReady then ⟨.daddr .vpnIpv6, .gotoVpn, "selective vpn IPv6"⟩
        else ⟨.daddr .vpnIpv6, .drop, "selective degraded block VPN IPv6"⟩] ++
      match selectiveDefault with
      | .vpn =>
          if selectiveVpnPolicyReady then [⟨.always, .gotoVpnFull, "selective default vpn"⟩]
          else [⟨.always, .counter, "selective degraded default vpn blocked"⟩,
            ⟨.always, .drop, "selective default vpn"⟩]
      | .direct =>
          [⟨.always, .gotoDirect, if selectiveDegraded then "selective degraded default direct"
            else "selective default direct"⟩]

/-! ## Evaluation -/

/-- What each named set holds while the chain runs: the compiled sets, and the two sets that the
DNS runtime fills. -/
def setContents (s : NftRuleSets) (dnsDirect dnsVpn : List IpNetwork) : SetName → List IpNetwork
  | .protectedIpv4 => networksOf s.protectedIpv4
  | .protectedIpv6 => networksOf s.protectedIpv6
  | .directIpv4 => networksOf s.directIpv4
  | .dnsDirectIpv4 => dnsDirect
  | .directIpv6 => networksOf s.directIpv6
  | .vpnIpv4 => networksOf s.vpnIpv4
  | .dnsVpnIpv4 => dnsVpn
  | .vpnIpv6 => networksOf s.vpnIpv6

/-- `ip daddr` looks at version 4 packets only, `ip6 daddr` at version 6 packets only. -/
def LineMatch.holds (sets : SetName → List IpNetwork) (p : Packet) : LineMatch → Bool
  | .always => true
  | .fibDaddrLocal => p.fibLocal
  | .daddr set => decide (p.daddr.version = set.version ∧ Covers (sets set) p.daddr)
  | .tcpDport22 => p.tcpDport == some 22
  | .scoped _ test => test p

/-- A `counter` statement lets the evaluation go on. -/
def Verdict.terminal : Verdict → Bool
  | .counter => false
  | _ => true

/-- The statement of the first matching line that ends the evaluation. -/
def classify (sets : SetName → List IpNetwork) (lines : List ChainLine) (p : Packet) :
    Option Verdict :=
  (lines.find? fun l => l.verdict.terminal && l.on.holds sets p).map ChainLine.verdict

/-- The action a branch stands for. -/
def Verdict.action : Verdict → Option Action
  | .gotoDirect => some .direct
  | .gotoVpn | .gotoVpnFull => some .vpn
  | .drop | .counter => none

/-! ## What the selective chain does -/

/-- The packet is taken by the host-local line or by the management line. -/
def Packet.bypasses (p : Packet) : Prop := p.fibLocal = true ∨ p.tcpDport = some 22

instance (p : Packet) : Decidable p.bypasses := inferInstanceAs (Decidable (_ ∨ _))

/-- A rule of this action that reaches the sets contains the address. -/
def EffectiveRules.RenderedFor (A : EffectiveRules) (action : Action) (d : Addr) : Prop :=
  ∃ r ∈ A.rules, r.action = action ∧ r.rendered = true ∧ r.containsAddr d = true

instance (A : EffectiveRules) (action : Action) (d : Addr) : Decidable (A.RenderedFor action d) :=
  inferInstanceAs (Decidable (∃ r ∈ A.rules, _))

lemma classify_cons (sets : SetName → List IpNetwork) (l : ChainLine) (ls : List ChainLine)
    (p : Packet) :
    classify sets (l :: ls) p = if l.verdict.terminal && l.on.holds sets p then some l.verdict
      else classify sets ls p := by
  unfold classify
  rw [List.find?_cons]
  cases l.verdict.terminal && l.on.holds sets p <;> rfl

/-- The first terminal line of the selective chain, when the protected sets and the DNS sets do
not match. -/
lemma classify_selective_lines {sets : SetName → List IpNetwork} {p : Packet}
    (hother : ∀ set ∈ [.protectedIpv4, .protectedIpv6, .dnsDirectIpv4, .dnsVpnIpv4],
      (LineMatch.daddr set).holds sets p = false) (dflt : Action) (degraded : Bool) :
    (classify sets (buildClassifyChainLines .selective dflt true degraded []) p).bind
        Verdict.action
      = some (if p.bypasses then .direct
        else if (LineMatch.daddr .directIpv4).holds sets p = true ∨
          (LineMatch.daddr .directIpv6).holds sets p = true then .direct
        else if (LineMatch.daddr .vpnIpv4).holds sets p = true ∨
          (LineMatch.daddr .vpnIpv6).holds sets p = true then .vpn
        else dflt) := by
  have hp4 := hother .protectedIpv4 (by simp)
  have hp6 := hother .protectedIpv6 (by simp)
  have hdd := hother .dnsDirectIpv4 (by simp)
  have hdv := hother .dnsVpnIpv4 (by simp)
  simp only [buildClassifyChainLines, List.append_nil, List.cons_append, List.nil_append,
    classify_cons, hp4, hp6, hdd, hdv, if_true, Verdict.terminal, Bool.true_and,
    Bool.false_eq_true, if_false, Packet.bypasses]
  by_cases hlocal : p.fibLocal = true
  · simp [LineMatch.holds, hlocal, Verdict.action]
  by_cases hssh : p.tcpDport = some 22
  · simp [LineMatch.holds, hlocal, hssh, Verdict.action]
  have hlocal' : LineMatch.fibDaddrLocal.holds sets p = false := by
    simpa [LineMatch.holds] using hlocal
  have hssh' : LineMatch.tcpDport22.holds sets p = false := by simpa [LineMatch.holds]
  simp only [hlocal', hssh', hlocal, hssh, Bool.false_eq_true, if_false, or_self]
  cases (LineMatch.daddr .directIpv4).holds sets p <;>
    cases (LineMatch.daddr .directIpv6).holds sets p <;>
    cases (LineMatch.daddr .vpnIpv4).holds sets p <;>
    cases (LineMatch.daddr .vpnIpv6).holds sets p <;>
    cases dflt <;> simp [classify, LineMatch.holds, Verdict.action, Verdict.terminal]

/-- The two sets of one action match the rendered rules of that action. -/
lemma holds_or_holds_iff (sets : SetName → List IpNetwork) (p : Packet) (set4 set6 : SetName)
    {P : Prop} (hset4 : set4.version = .v4) (hset6 : set6.version = .v6)
    (h4 : Covers (sets set4) p.daddr ↔ p.daddr.version = .v4 ∧ P)
    (h6 : Covers (sets set6) p.daddr ↔ p.daddr.version = .v6 ∧ P) :
    (LineMatch.daddr set4).holds sets p = true ∨ (LineMatch.daddr set6).holds sets p = true
      ↔ P := by
  simp only [LineMatch.holds, decide_eq_true_eq, hset4, hset6, h4, h6]
  cases p.daddr.version <;> simp

/-- **The selective chain on the compiled sets**: bypasses, then the direct rules, then the VPN
rules, then the default. -/
lemma classify_selective (U : Unicode) (S : NetworkSettings) (C : CollapseAddresses) (H : NftHost)
    {A : EffectiveRules} (hok : ∀ r ∈ A.rules, r.toRuleEntry.Ok) (degraded : Bool) (p : Packet)
    (hprot : ¬ Covers (buildNftRuleSets U S C H A).protectedNetworks p.daddr) :
    (classify (setContents (buildNftRuleSets U S C H A) [] [])
        (buildClassifyChainLines .selective A.selectiveDefault true degraded []) p).bind
          Verdict.action
      = some (if p.bypasses then .direct
        else if A.RenderedFor .direct p.daddr then .direct
        else if A.RenderedFor .vpn p.daddr then .vpn
        else A.selectiveDefault) := by
  rw [NftRuleSets.protectedNetworks, networksOf_append, not_or] at hprot
  have hother : ∀ set ∈ [.protectedIpv4, .protectedIpv6, .dnsDirectIpv4, .dnsVpnIpv4],
      (LineMatch.daddr set).holds (setContents (buildNftRuleSets U S C H A) [] []) p = false := by
    have hnil : ¬ Covers [] p.daddr := by simp [Covers]
    simp [LineMatch.holds, setContents, hprot.1, hprot.2, hnil]
  rw [classify_selective_lines hother]
  have hdirect := holds_or_holds_iff
    (setContents (buildNftRuleSets U S C H A) [] []) p .directIpv4 .directIpv6 rfl rfl
    (covers_collapsed_rules C hok .direct .v4 p.daddr)
    (covers_collapsed_rules C hok .direct .v6 p.daddr)
  have hvpn := holds_or_holds_iff
    (setContents (buildNftRuleSets U S C H A) [] []) p .vpnIpv4 .vpnIpv6 rfl rfl
    (covers_collapsed_rules C hok .vpn .v4 p.daddr)
    (covers_collapsed_rules C hok .vpn .v6 p.daddr)
  simp only [hdirect, hvpn]
  rfl

/-! ## Agreement with the declared priority -/

/-- When the chain sends a packet where the artifact says it should go.  A top rule for the direct
branch must reach the sets, or nothing that does may pull the packet away from a direct default;
a top rule for the VPN needs that no rendered direct rule contains the address, and that a
rendered VPN rule or the default takes it. -/
def EffectiveRules.NftAgrees (A : EffectiveRules) (p : Packet) : Prop :=
  if p.bypasses then A.declaredAction p.daddr = .direct
  else match A.topRule p.daddr with
    | none => True
    | some r => match r.action with
      | .direct => A.RenderedFor .direct p.daddr ∨
          (¬ A.RenderedFor .vpn p.daddr ∧ A.selectiveDefault = .direct)
      | .vpn => ¬ A.RenderedFor .direct p.daddr ∧
          (A.RenderedFor .vpn p.daddr ∨ A.selectiveDefault = .vpn)

/-- Without a top rule no rule contains the address, rendered or not. -/
lemma not_renderedFor_of_topRule_none {A : EffectiveRules} {q : Nat} (h : Merged q A.rules)
    {d : Addr} (htop : A.topRule d = none) (action : Action) : ¬ A.RenderedFor action d := by
  rw [topRule_eq_find? h, List.find?_eq_none] at htop
  rintro ⟨r, hr, -, -, hd⟩
  exact htop r hr hd

/-- **The chain refines the declared priority if and only if `NftAgrees` holds.** -/
theorem classify_eq_declaredAction_iff (U : Unicode) (S : NetworkSettings) (C : CollapseAddresses)
    (H : NftHost) (texts : RuleTexts) (dflt : Action) (degraded : Bool) (p : Packet)
    (hprot : ¬ Covers (buildNftRuleSets U S C H
      (effectiveRulesOfTexts U S C texts dflt)).protectedNetworks p.daddr) :
    (classify (setContents (buildNftRuleSets U S C H (effectiveRulesOfTexts U S C texts dflt)) [] [])
        (buildClassifyChainLines .selective (effectiveRulesOfTexts U S C texts dflt).selectiveDefault
          true degraded []) p).bind Verdict.action
      = some ((effectiveRulesOfTexts U S C texts dflt).declaredAction p.daddr)
      ↔ (effectiveRulesOfTexts U S C texts dflt).NftAgrees p := by
  have hmerged := effectiveRulesOfTexts_merged U S C texts dflt
  generalize effectiveRulesOfTexts U S C texts dflt = A at hmerged hprot ⊢
  rw [classify_selective U S C H hmerged.ok degraded p hprot, Option.some.injEq,
    EffectiveRules.NftAgrees]
  by_cases hb : p.bypasses
  · simp only [hb, if_true]
    exact eq_comm
  · simp only [hb, if_false]
    cases htop : A.topRule p.daddr with
    | none =>
        simp [EffectiveRules.declaredAction, htop,
          not_renderedFor_of_topRule_none hmerged htop]
    | some r =>
        simp only [EffectiveRules.declaredAction, htop]
        by_cases hd : A.RenderedFor .direct p.daddr <;>
          by_cases hv : A.RenderedFor .vpn p.daddr <;>
          cases r.action <;> simp [hd, hv]

/-- A manual VPN rule inside a network of the large direct list. -/
def overlappingTexts : RuleTexts :=
  ⟨"VPN 8.8.8.0/24".toList, [], "8.8.0.0/16".toList, []⟩

/-- A packet to `8.8.8.8`, port 443. -/
def resolverPacket : Packet := ⟨⟨.v4, 134744072, resolver_lt⟩, false, some 443⟩

/-- The agreement is not vacuous: the manual rule alone is enforced. -/
theorem classify_manual_vpn_rule :
    ¬ Covers (buildNftRuleSets .ascii .noClassE .sorted .bare (effectiveRulesOfTexts .ascii .noClassE
      .sorted ⟨overlappingTexts.manual, [], [], []⟩ .direct)).protectedNetworks
        resolverPacket.daddr ∧
    ((classify (setContents (buildNftRuleSets .ascii .noClassE .sorted .bare
          (effectiveRulesOfTexts .ascii .noClassE .sorted ⟨overlappingTexts.manual, [], [], []⟩
            .direct)) [] [])
        (buildClassifyChainLines .selective (effectiveRulesOfTexts .ascii .noClassE .sorted
          ⟨overlappingTexts.manual, [], [], []⟩ .direct).selectiveDefault true false [])
        resolverPacket).bind Verdict.action
      = some ((effectiveRulesOfTexts .ascii .noClassE .sorted ⟨overlappingTexts.manual, [], [], []⟩
        .direct).declaredAction resolverPacket.daddr)
      ↔ (effectiveRulesOfTexts .ascii .noClassE .sorted ⟨overlappingTexts.manual, [], [], []⟩
        .direct).NftAgrees resolverPacket) :=
  ⟨by decide +kernel, classify_eq_declaredAction_iff _ _ _ _ _ _ _ _ (by decide +kernel)⟩

/-- The manual rule has priority 2 and names the VPN, the large list's rule has priority 4, and the
chain goes to the direct branch. -/
theorem classify_inverts_priority :
    (validateManualRules .ascii .noClassE overlappingTexts.manual).valid = true ∧
    (validateValueList .ascii .noClassE .sorted overlappingTexts.bigDirect .direct
      .bigDirect).valid = true ∧
    ¬ Covers (buildNftRuleSets .ascii .noClassE .sorted .bare (effectiveRulesOfTexts .ascii .noClassE
      .sorted overlappingTexts .direct)).protectedNetworks resolverPacket.daddr ∧
    (effectiveRulesOfTexts .ascii .noClassE .sorted overlappingTexts .direct).declaredAction
      resolverPacket.daddr = .vpn ∧
    (classify (setContents (buildNftRuleSets .ascii .noClassE .sorted .bare
          (effectiveRulesOfTexts .ascii .noClassE .sorted overlappingTexts .direct)) [] [])
        (buildClassifyChainLines .selective (effectiveRulesOfTexts .ascii .noClassE .sorted
          overlappingTexts .direct).selectiveDefault true false []) resolverPacket).bind
        Verdict.action = some .direct := by
  decide +kernel

end FwRouter
