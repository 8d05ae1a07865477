import FwRouter.Rules.Artifact

/-!
# The nft rule sets

`build_nft_rule_sets` flattens the effective rules artifact into one set of networks for each
action and IP version.  A `cidr` rule goes to the set of its network's version; an `ip` rule
always goes to the version 4 list, whatever its address is, and the version filter of
`_collapse_network_values` then decides whether it stays.

`covers_directNetworks` and `covers_vpnNetworks` say what the finished sets cover: the addresses
of the rules that `RuleEntry.rendered` admits.
-/

namespace FwRouter

open Py Ipaddress

/-! ## The sets -/

/-- What the renderer reads besides the artifact: the service domains of the settings, the
addresses of the custom proxies and the networks of the local interfaces, each list by version. -/
structure NftHost where
  protectedServiceDomains : List Text
  proxyProtected : Version → List Text
  localProtected : Version → List Text

/-- A host with no service domains, no proxies and no interfaces. -/
def NftHost.bare : NftHost := ⟨[], fun _ => [], fun _ => []⟩

def androidConnectivityDirectDomains : List Text :=
  ["connectivitycheck.gstatic.com".toList, "connectivitycheck.android.com".toList,
    "clients3.google.com".toList, "clients.l.google.com".toList, "www.google.com".toList,
    "www.gstatic.com".toList]

/-- The common body of `_is_protected_service_domain` and
`_is_android_connectivity_direct_domain`. -/
def isBelowDomain (U : Unicode) (parents : List Text) (value : Text) : Bool :=
  let normalized := (U.lower (strip value)).rdropWhile isDot
  !normalized.isEmpty &&
    parents.any fun parent => normalized == parent || ('.' :: parent).isSuffixOf normalized

def isProtectedServiceDomain (U : Unicode) (H : NftHost) (value : Text) : Bool :=
  isBelowDomain U H.protectedServiceDomains value

def isAndroidConnectivityDirectDomain (U : Unicode) (value : Text) : Bool :=
  isBelowDomain U androidConnectivityDirectDomains value

/-- The lists `build_nft_rule_sets` fills, by action. -/
structure RuleLists where
  ipv4 : Action → List Text
  ipv6 : Action → List Text
  domains : Action → List Text

def RuleLists.addrs (l : RuleLists) (action : Action) : Version → List Text
  | .v4 => l.ipv4 action
  | .v6 => l.ipv6 action

/-- Append to one of the lists. -/
def appendAt (f : Action → List Text) (action : Action) (value : Text) : Action → List Text :=
  Function.update f action (f action ++ [value])

/-- The loop body of `build_nft_rule_sets`. -/
def addRule (U : Unicode) (H : NftHost) (l : RuleLists) (r : RuleEntry) : RuleLists :=
  let value := strip r.value
  if value.isEmpty then l
  else match r.kind with
    | .domain | .domainSuffix =>
        let normalizedDomain := (U.lower value).rdropWhile isDot
        if isProtectedServiceDomain U H normalizedDomain then l
        else if isAndroidConnectivityDirectDomain U normalizedDomain then
          { l with domains := appendAt l.domains .direct normalizedDomain }
        else { l with domains := appendAt l.domains r.action normalizedDomain }
    | .ip => { l with ipv4 := appendAt l.ipv4 r.action value }
    | .cidr =>
        match ipNetwork value with
        | none => l
        | some network => match network.version with
          | .v4 => { l with ipv4 := appendAt l.ipv4 r.action network.str }
          | .v6 => { l with ipv6 := appendAt l.ipv6 r.action network.str }

/-- `_collapse_network_values`. -/
def collapseNetworkValues (C : CollapseAddresses) (values : List Text) (version : Version) :
    List Text :=
  (C.collapse ((values.filterMap ipNetwork).filter fun n => n.version = version)).map IpNetwork.str

/-- `sorted(dict.fromkeys(values))`. -/
def sortedUnique (values : List Text) : List Text :=
  values.eraseDups.insertionSort fun a b => a ≤ b

/-- What `build_nft_rule_sets` returns. -/
structure NftRuleSets where
  protectedIpv4 : List Text
  protectedIpv6 : List Text
  directIpv4 : List Text
  directIpv6 : List Text
  vpnIpv4 : List Text
  vpnIpv6 : List Text
  directDomains : List Text
  vpnDomains : List Text
deriving DecidableEq

def emptyRuleLists : RuleLists where
  ipv4 _ := []
  ipv6 _ := []
  domains
    | .direct => androidConnectivityDirectDomains
    | .vpn => []

/-- `build_nft_rule_sets`, for an artifact that brings no protected lists of its own. -/
def buildNftRuleSets (U : Unicode) (S : NetworkSettings) (C : CollapseAddresses) (H : NftHost)
    (A : EffectiveRules) : NftRuleSets :=
  let l := (A.rules.map EffectiveRule.toRuleEntry).foldl (addRule U H) emptyRuleLists
  { protectedIpv4 := collapseNetworkValues C
      (protectedIpv4Networks S ++ H.proxyProtected .v4 ++ H.localProtected .v4) .v4
    protectedIpv6 := collapseNetworkValues C
      (protectedIpv6Networks S ++ H.proxyProtected .v6 ++ H.localProtected .v6) .v6
    directIpv4 := collapseNetworkValues C (l.ipv4 .direct) .v4
    directIpv6 := collapseNetworkValues C (l.ipv6 .direct) .v6
    vpnIpv4 := collapseNetworkValues C (l.ipv4 .vpn) .v4
    vpnIpv6 := collapseNetworkValues C (l.ipv6 .vpn) .v6
    directDomains := sortedUnique (l.domains .direct)
    vpnDomains := sortedUnique (l.domains .vpn) }

/-- The networks an nft set is filled with. -/
def networksOf (values : List Text) : List IpNetwork := values.filterMap ipNetwork

def NftRuleSets.directNetworks (s : NftRuleSets) : List IpNetwork :=
  networksOf (s.directIpv4 ++ s.directIpv6)

def NftRuleSets.vpnNetworks (s : NftRuleSets) : List IpNetwork :=
  networksOf (s.vpnIpv4 ++ s.vpnIpv6)

def NftRuleSets.protectedNetworks (s : NftRuleSets) : List IpNetwork :=
  networksOf (s.protectedIpv4 ++ s.protectedIpv6)

/-! ## Which rules reach the sets -/

/-- The address of an `ip` rule of version 6, the kind of rule that the version filter drops. -/
def RuleEntry.ipv6Host (r : RuleEntry) : Option Addr :=
  if r.kind = .ip then ((ipAddress r.value).map IpAddress.addr).filter fun a => a.version = .v6
  else none

/-- The version filter has nothing to drop. -/
def RuleEntry.rendered (r : RuleEntry) : Bool := r.ipv6Host.isNone

/-- What a rule adds to the address lists. -/
def RuleEntry.contribution (r : RuleEntry) : Option (Action × Version × Text) :=
  if (strip r.value).isEmpty then none
  else match r.kind with
    | .domain | .domainSuffix => none
    | .ip => some (r.action, .v4, strip r.value)
    | .cidr => (ipNetwork (strip r.value)).map fun n => (r.action, n.version, n.str)

/-- The text a rule adds to the list of one action and version. -/
def RuleEntry.contributes (r : RuleEntry) (action : Action) (version : Version) : Option Text :=
  r.contribution.bind fun c => if c.1 = action ∧ c.2.1 = version then some c.2.2 else none

lemma appendAt_apply (f : Action → List Text) (a b : Action) (t : Text) :
    appendAt f a t b = f b ++ if a = b then [t] else [] := by
  unfold appendAt
  by_cases h : a = b
  · subst h
    simp
  · rw [Function.update_of_ne (Ne.symm h)]
    simp [h]

lemma addrs_addRule (U : Unicode) (H : NftHost) (l : RuleLists) (r : RuleEntry) (action : Action)
    (version : Version) :
    (addRule U H l r).addrs action version
      = l.addrs action version ++ (r.contributes action version).toList := by
  unfold addRule RuleEntry.contributes RuleEntry.contribution
  by_cases hempty : (strip r.value).isEmpty
  · simp [hempty]
  simp only [hempty, Bool.false_eq_true, if_false]
  cases hk : r.kind with
  | domain | domainSuffix =>
      dsimp only
      split_ifs <;> cases version <;> simp [RuleLists.addrs]
  | ip =>
      cases version <;> by_cases ha : r.action = action <;>
        simp [RuleLists.addrs, appendAt_apply, ha]
  | cidr =>
      dsimp only
      cases hn : ipNetwork (strip r.value) with
      | none => simp
      | some n =>
          cases hv : n.version <;> cases version <;> by_cases ha : r.action = action <;>
            simp [RuleLists.addrs, appendAt_apply, ha, hv]

/-- The address lists after a run over the rules: what each rule contributes, in order. -/
lemma addrs_foldl_addRule (U : Unicode) (H : NftHost) (action : Action) (version : Version) :
    ∀ (rules : List RuleEntry) (l : RuleLists),
      (rules.foldl (addRule U H) l).addrs action version
        = l.addrs action version ++ rules.filterMap fun r => r.contributes action version
  | [], l => by simp
  | r :: rules, l => by
      rw [List.foldl_cons, addrs_foldl_addRule U H action version rules, addrs_addRule,
        List.filterMap_cons]
      cases r.contributes action version <;> simp

lemma covers_collapseNetworkValues (C : CollapseAddresses) (values : List Text)
    (version : Version) (a : Addr) :
    Covers (networksOf (collapseNetworkValues C values version)) a
      ↔ ∃ n ∈ networksOf values, n.version = version ∧ a ∈ n := by
  unfold networksOf collapseNetworkValues
  rw [covers_filterMap_str, C.covers_collapse]
  simp only [Covers, List.mem_filter, decide_eq_true_eq]
  constructor
  · rintro ⟨n, ⟨hn, hv⟩, ha⟩
    exact ⟨n, hn, hv, ha⟩
  · rintro ⟨n, hn, hv, ha⟩
    exact ⟨n, ⟨hn, hv⟩, ha⟩

lemma IpAddress.version_host (x : IpAddress) : x.host.version = x.addr.version :=
  IpNetwork.version_ofAddress x _ le_rfl

/-- What a well-formed rule adds to the list of one action and version covers exactly its own
addresses of that version, unless the rule is one of those the version filter drops. -/
lemma contributes_covers {r : RuleEntry} (hok : r.Ok) (action : Action) (version : Version)
    (a : Addr) :
    (∃ t ∈ r.contributes action version, ∃ n, ipNetwork t = some n ∧ n.version = version ∧ a ∈ n)
      ↔ r.action = action ∧ a.version = version ∧ r.rendered = true ∧ r.containsAddr a = true := by
  obtain ⟨raction, kind, value, line, source⟩ := r
  cases kind with
  | domain | domainSuffix =>
      simp [RuleEntry.contributes, RuleEntry.contribution, RuleEntry.containsAddr, networkForRule]
  | ip =>
      obtain ⟨x, hscope, rfl⟩ : ∃ x : IpAddress, (∀ s ∈ x.scopeId, Solid s) ∧ value = x.str := hok
      have hstrip : strip x.str = x.str := strip_solid (IpAddress.solid_str hscope)
      have hcontrib : RuleEntry.contributes ⟨raction, .ip, x.str, line, source⟩ action version
          = if raction = action ∧ .v4 = version then some x.str else none := by
        simp [RuleEntry.contributes, RuleEntry.contribution, hstrip, IpAddress.str_ne_nil]
      have hcontains : RuleEntry.containsAddr ⟨raction, .ip, x.str, line, source⟩ a = true
          ↔ a = x.addr := by
        simp [RuleEntry.containsAddr, networkForRule, ipAddress_str, IpAddress.mem_host]
      have hrendered : RuleEntry.rendered ⟨raction, .ip, x.str, line, source⟩ = true
          ↔ x.addr.version = .v4 := by
        rcases hv : x.addr.version with _ | _ <;>
          simp [RuleEntry.rendered, RuleEntry.ipv6Host, ipAddress_str, hv]
      rw [hcontains, hrendered, hcontrib]
      constructor
      · rintro ⟨t, ht, n, hn, hv, ha⟩
        split_ifs at ht with hc
        · obtain rfl := Option.mem_some_iff.mp ht
          rw [ipNetwork_str_address, Option.some.injEq] at hn
          subst hn
          rw [IpAddress.mem_host] at ha
          rw [IpAddress.version_host] at hv
          subst ha
          exact ⟨hc.1, hv, hv.trans hc.2.symm, rfl⟩
        · simp at ht
      · rintro ⟨rfl, hv, h4, rfl⟩
        rw [h4] at hv
        refine ⟨x.str, by simp [hv], x.host, ipNetwork_str_address x, ?_, ?_⟩
        · rw [IpAddress.version_host, h4, hv]
        · exact IpAddress.mem_host.mpr rfl
  | cidr =>
      obtain ⟨m, rfl⟩ : ∃ m : IpNetwork, value = m.str := hok
      have hcontrib : RuleEntry.contributes ⟨raction, .cidr, m.str, line, source⟩ action version
          = if raction = action ∧ m.version = version then some m.str else none := by
        simp [RuleEntry.contributes, RuleEntry.contribution, IpNetwork.strip_str, ipNetwork_str,
          IpNetwork.str_ne_nil]
      have hcontains : RuleEntry.containsAddr ⟨raction, .cidr, m.str, line, source⟩ a = true
          ↔ a ∈ m := by
        simp [RuleEntry.containsAddr, networkForRule, ipNetwork_str]
      have hrendered : RuleEntry.rendered ⟨raction, .cidr, m.str, line, source⟩ = true := by
        simp [RuleEntry.rendered, RuleEntry.ipv6Host]
      rw [hcontains, hcontrib]
      constructor
      · rintro ⟨t, ht, n, hn, hv, ha⟩
        split_ifs at ht with hc
        · obtain rfl := Option.mem_some_iff.mp ht
          rw [ipNetwork_str, Option.some.injEq] at hn
          subst hn
          exact ⟨hc.1, (IpNetwork.mem_def.mp ha).1.trans hv, hrendered, ha⟩
        · simp at ht
      · rintro ⟨rfl, hv, -, ha⟩
        have hm : m.version = version := (IpNetwork.mem_def.mp ha).1.symm.trans hv
        exact ⟨m.str, by simp [hm], m, ipNetwork_str m, hm, ha⟩

/-- The collapsed set of one action and version, after a run over well-formed rules. -/
lemma covers_collapsed_rules {U : Unicode} {H : NftHost} (C : CollapseAddresses)
    {rules : List EffectiveRule} (hok : ∀ r ∈ rules, r.toRuleEntry.Ok) (action : Action)
    (version : Version) (a : Addr) :
    Covers (networksOf (collapseNetworkValues C
      (((rules.map EffectiveRule.toRuleEntry).foldl (addRule U H) emptyRuleLists).addrs action
        version) version)) a
      ↔ a.version = version ∧
        ∃ r ∈ rules, r.action = action ∧ r.rendered = true ∧ r.containsAddr a = true := by
  have hempty : emptyRuleLists.addrs action version = [] := by cases version <;> rfl
  rw [covers_collapseNetworkValues, addrs_foldl_addRule, hempty, List.nil_append]
  constructor
  · rintro ⟨n, hn, hv, ha⟩
    obtain ⟨t, ht, hnt⟩ := List.mem_filterMap.mp hn
    obtain ⟨e, he, hte⟩ := List.mem_filterMap.mp ht
    obtain ⟨r, hr, rfl⟩ := List.mem_map.mp he
    obtain ⟨h1, h2, h3, h4⟩ :=
      (contributes_covers (hok r hr) action version a).mp ⟨t, hte, n, hnt, hv, ha⟩
    exact ⟨h2, r, hr, h1, h3, h4⟩
  · rintro ⟨hav, r, hr, h1, h3, h4⟩
    obtain ⟨t, hte, n, hnt, hv, ha⟩ :=
      (contributes_covers (hok r hr) action version a).mpr ⟨h1, hav, h3, h4⟩
    exact ⟨n, List.mem_filterMap.mpr ⟨t, List.mem_filterMap.mpr
      ⟨r.toRuleEntry, List.mem_map_of_mem hr, hte⟩, hnt⟩, hv, ha⟩

lemma networksOf_append (xs ys : List Text) (a : Addr) :
    Covers (networksOf (xs ++ ys)) a ↔ Covers (networksOf xs) a ∨ Covers (networksOf ys) a := by
  simp only [networksOf, Covers, List.filterMap_append, List.mem_append, or_and_right, exists_or]

lemma version_cases (a : Addr) {P : Prop} :
    (a.version = .v4 ∧ P) ∨ (a.version = .v6 ∧ P) ↔ P := by
  cases a.version <;> simp

/-- **What the direct sets cover.** -/
theorem covers_directNetworks (U : Unicode) (S : NetworkSettings) (C : CollapseAddresses)
    (H : NftHost) {A : EffectiveRules} (hok : ∀ r ∈ A.rules, r.toRuleEntry.Ok) (a : Addr) :
    Covers (buildNftRuleSets U S C H A).directNetworks a
      ↔ ∃ r ∈ A.rules, r.action = .direct ∧ r.rendered = true ∧ r.containsAddr a = true := by
  rw [NftRuleSets.directNetworks, networksOf_append]
  exact (or_congr (covers_collapsed_rules C hok .direct .v4 a)
    (covers_collapsed_rules C hok .direct .v6 a)).trans (version_cases a)

/-- **What the VPN sets cover.** -/
theorem covers_vpnNetworks (U : Unicode) (S : NetworkSettings) (C : CollapseAddresses)
    (H : NftHost) {A : EffectiveRules} (hok : ∀ r ∈ A.rules, r.toRuleEntry.Ok) (a : Addr) :
    Covers (buildNftRuleSets U S C H A).vpnNetworks a
      ↔ ∃ r ∈ A.rules, r.action = .vpn ∧ r.rendered = true ∧ r.containsAddr a = true := by
  rw [NftRuleSets.vpnNetworks, networksOf_append]
  exact (or_congr (covers_collapsed_rules C hok .vpn .v4 a)
    (covers_collapsed_rules C hok .vpn .v6 a)).trans (version_cases a)

/-! ## Exactness

The sets lose an `ip` rule of version 6, and nothing else.
-/

/-- The sets cover the addresses of the rules, action by action. -/
def NftRuleSets.Exact (s : NftRuleSets) (A : EffectiveRules) : Prop :=
  ∀ a : Addr,
    (Covers s.vpnNetworks a ↔ ∃ r ∈ A.rules, r.action = .vpn ∧ r.containsAddr a = true) ∧
    (Covers s.directNetworks a ↔ ∃ r ∈ A.rules, r.action = .direct ∧ r.containsAddr a = true)

/-- Every `ip` rule of version 6 repeats what a `cidr` rule of the same action says. -/
def EffectiveRules.Ipv6HostsCovered (A : EffectiveRules) : Prop :=
  ∀ r ∈ A.rules, ∀ x ∈ r.ipv6Host,
    ∃ r' ∈ A.rules, r'.kind = .cidr ∧ r'.action = r.action ∧ r'.containsAddr x = true

lemma containsAddr_of_mem_ipv6Host {r : RuleEntry} {x a : Addr} (h : x ∈ r.ipv6Host) :
    (r.containsAddr a = true ↔ a = x) ∧ x.version = .v6 := by
  unfold RuleEntry.ipv6Host at h
  split_ifs at h with hk
  · simp only [Option.mem_def, Option.filter_eq_some_iff, Option.map_eq_some_iff,
      decide_eq_true_eq] at h
    obtain ⟨⟨y, hy, rfl⟩, hv⟩ := h
    exact ⟨by simp [RuleEntry.containsAddr, networkForRule, hk, hy, IpAddress.mem_host], hv⟩
  · simp at h

/-- A rendered rule that contains a version 6 address is a `cidr` rule. -/
lemma kind_of_rendered {r : RuleEntry} {x : Addr} (hr : r.rendered = true)
    (hx : r.containsAddr x = true) (hv : x.version = .v6) : r.kind = .cidr := by
  cases hk : r.kind with
  | domain | domainSuffix => simp [RuleEntry.containsAddr, networkForRule, hk] at hx
  | cidr => rfl
  | ip =>
      cases hy : ipAddress r.value with
      | none => simp [RuleEntry.containsAddr, networkForRule, hk, hy] at hx
      | some y =>
          obtain rfl : x = y.addr := by
            simpa [RuleEntry.containsAddr, networkForRule, hk, hy, IpAddress.mem_host] using hx
          simp [RuleEntry.rendered, RuleEntry.ipv6Host, hk, hy, hv] at hr

lemma rendered_of_kind_cidr {r : RuleEntry} (h : r.kind = .cidr) : r.rendered = true := by
  simp [RuleEntry.rendered, RuleEntry.ipv6Host, h]

/-- For one action: the rendered rules reach every address of the action's rules when the version
6 hosts are covered. -/
lemma exists_rendered_iff {A : EffectiveRules} (h : A.Ipv6HostsCovered) (action : Action)
    (a : Addr) :
    (∃ r ∈ A.rules, r.action = action ∧ r.rendered = true ∧ r.containsAddr a = true)
      ↔ ∃ r ∈ A.rules, r.action = action ∧ r.containsAddr a = true := by
  constructor
  · rintro ⟨r, hr, hact, -, ha⟩
    exact ⟨r, hr, hact, ha⟩
  · rintro ⟨r, hr, hact, ha⟩
    cases hx : r.ipv6Host with
    | none => exact ⟨r, hr, hact, by simp [RuleEntry.rendered, hx], ha⟩
    | some x =>
        obtain rfl := (containsAddr_of_mem_ipv6Host hx).1.mp ha
        obtain ⟨r', hr', hk, hact', ha'⟩ := h r hr a hx
        exact ⟨r', hr', hact'.trans hact, rendered_of_kind_cidr hk, ha'⟩

/-- For one host: if its address is in the set of its action, a `cidr` rule put it there. -/
lemma exists_cidr_of_rendered {A : EffectiveRules} {action : Action} {x : Addr}
    (hv : x.version = .v6)
    (h : ∃ r ∈ A.rules, r.action = action ∧ r.rendered = true ∧ r.containsAddr x = true) :
    ∃ r ∈ A.rules, r.kind = .cidr ∧ r.action = action ∧ r.containsAddr x = true := by
  obtain ⟨r, hr, hact, hrend, hx⟩ := h
  exact ⟨r, hr, kind_of_rendered hrend hx hv, hact, hx⟩

/-- **The nft sets are exact if and only if every version 6 host rule is covered by a network rule
of its action.** -/
theorem nftRuleSets_exact_iff (U : Unicode) (S : NetworkSettings) (C : CollapseAddresses)
    (H : NftHost) (texts : RuleTexts) (dflt : Action) :
    (buildNftRuleSets U S C H (effectiveRulesOfTexts U S C texts dflt)).Exact
        (effectiveRulesOfTexts U S C texts dflt)
      ↔ (effectiveRulesOfTexts U S C texts dflt).Ipv6HostsCovered := by
  have hok := (effectiveRulesOfTexts_merged U S C texts dflt).ok
  generalize effectiveRulesOfTexts U S C texts dflt = A at hok ⊢
  constructor
  · intro h r hr x hx
    obtain ⟨hcontains, hv⟩ := containsAddr_of_mem_ipv6Host (a := x) hx
    refine exists_cidr_of_rendered hv ?_
    cases hact : r.action with
    | vpn =>
        rw [← covers_vpnNetworks U S C H hok, (h x).1]
        exact ⟨r, hr, hact, hcontains.mpr rfl⟩
    | direct =>
        rw [← covers_directNetworks U S C H hok, (h x).2]
        exact ⟨r, hr, hact, hcontains.mpr rfl⟩
  · intro h a
    rw [covers_vpnNetworks U S C H hok, covers_directNetworks U S C H hok]
    exact ⟨exists_rendered_iff h .vpn a, exists_rendered_iff h .direct a⟩

/-- One manual rule for a version 6 resolver. -/
def ipv6ResolverTexts : RuleTexts := ⟨"VPN 2001:4860:4860::8888".toList, [], [], []⟩

/-- The resolver's address. -/
def ipv6Resolver : Addr := ⟨.v6, 0x20014860486000000000000000008888, by decide⟩

/-- The rule is accepted, contains the resolver, and leaves no trace in the VPN sets. -/
theorem nftRuleSets_lose_ipv6_host :
    (validateManualRules .ascii .noClassE ipv6ResolverTexts.manual).valid = true ∧
    ¬ (buildNftRuleSets .ascii .noClassE .sorted .bare
        (effectiveRulesOfTexts .ascii .noClassE .sorted ipv6ResolverTexts .direct)).Exact
      (effectiveRulesOfTexts .ascii .noClassE .sorted ipv6ResolverTexts .direct) := by
  refine ⟨by decide +kernel, fun h => ?_⟩
  have hlost := (h ipv6Resolver).1
  revert hlost
  decide +kernel

end FwRouter
