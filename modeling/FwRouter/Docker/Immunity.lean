import FwRouter.Docker.Policy

/-!
# Docker VPN subjects and the infrastructure set

The renderer puts the addresses of protected subjects into the set `infrastructure_ipv4`, whose
sources are accepted before they can reach the VPN.  It takes the address of the matcher.  The
validator takes the inventory of a Docker subject where there is one, and the address of the matcher
only where there is none.  What it accepts is therefore safe exactly if no Docker subject has a
matcher address outside its own inventory that a subject on the VPN path has, too.
-/

namespace FwRouter.Docker

open Py Ipaddress

/-! ## The property -/

variable (U : Unicode) (reprText : Text → Text)

/-- The matcher of the scoped runtime, if it is one of family `ipv4`, has an IPv4 address. -/
def MatcherParses (s : Dict) : Prop :=
  ∀ runtime ∈ (s.get "scoped_runtime").asDict, ∀ matcher ∈ (runtime.get "matcher").asDict,
    (matcher.get "family").isText "ipv4".toList →
      ∃ a ∈ ipAddress (strip ((matcher.get "value").text reprText)), a.addr.version = .v4

instance (s : Dict) : Decidable (MatcherParses reprText s) :=
  inferInstanceAs (Decidable (∀ runtime ∈ (s.get "scoped_runtime").asDict,
    ∀ matcher ∈ (runtime.get "matcher").asDict, (matcher.get "family").isText "ipv4".toList →
      ∃ a ∈ ipAddress (strip ((matcher.get "value").text reprText)), a.addr.version = .v4))

/-- The text of a set element covers the address. -/
def ElementCovers (element : Text) (a : Addr) : Prop :=
  ∃ n, ipNetwork (strip element) = some n ∧ a ∈ n

/-- Every active Docker subject on the VPN path has a matcher address that no element of the
rendered set covers and that no other Docker subject has. -/
def Immune (m : Manifest) (table : OwnedTable) : Prop :=
  ∀ (i : ℕ) s, m.dicts[i]? = some s → isVpnSubject U reprText s = true →
    ∃ a, subjectIpv4 reprText s = some a ∧
      (∀ e ∈ table.infrastructureIpv4, ¬ElementCovers e a.addr) ∧
      ∀ (j : ℕ) other, j ≠ i → m.dicts[j]? = some other → subjectType reprText other = dockerText →
        subjectIpv4 reprText other ≠ some a

/-- No Docker subject has its matcher address outside its inventory and in common with another
subject, one that is active on the VPN path. -/
def MatchersInventoried (m : Manifest) : Prop :=
  ∀ (i j : ℕ) s other a inventory, i ≠ j → m.dicts[i]? = some s → isVpnSubject U reprText s = true →
    m.dicts[j]? = some other → subjectType reprText other = dockerText →
    dockerIpv4Addresses U reprText other = some inventory →
    subjectIpv4 reprText s = some a → subjectIpv4 reprText other = some a → a ∈ inventory

variable {U reprText}

/-! ## Addresses -/

lemma version_of_subjectIpv4 {s : Dict} {a : IpAddress} (h : subjectIpv4 reprText s = some a) :
    a.addr.version = .v4 := by
  rw [subjectIpv4, Option.bind_eq_some_iff] at h
  obtain ⟨matcher, -, h⟩ := h
  dsimp only at h
  split at h
  · cases h
  · simpa using (Option.filter_eq_some_iff.mp h).2

/-- An IPv4 address has no scope, so that it is its bare address. -/
lemma ipAddress_eq_of_addr {a b : IpAddress} (ha : a.addr.version = .v4) (h : a.addr = b.addr) :
    a = b := by
  have hscope : ∀ c : IpAddress, c.addr.version = .v4 → c.scopeId = none := by
    intro c hc
    by_contra hne
    have := c.scope_v6 hne
    rw [hc] at this
    cases this
  have hb := hscope b (h ▸ ha)
  have ha := hscope a ha
  obtain ⟨a, sa, _, _⟩ := a
  obtain ⟨b, sb, _, _⟩ := b
  simp only at ha hb h
  subst ha hb h
  rfl

/-- The text of an IPv4 address, read as a network, is that address alone. -/
lemma mem_ipNetwork_of_ipAddress {t : Text} {b : IpAddress} {n : IpNetwork} {a : Addr}
    (hb : ipAddress t = some b) (hv : b.addr.version = .v4) (hn : ipNetwork t = some n) :
    a ∈ n ↔ a = b.addr := by
  have hread : ipv4Address t = some b := by
    rw [ipAddress] at hb
    cases h4 : ipv4Address t with
    | some c => simpa [h4] using hb
    | none =>
        -- the other reader makes IPv6 addresses only
        rw [h4, Option.orElse_eq_or, Option.none_or, ipv6Address] at hb
        split at hb
        · cases hb
        · simp only [Option.bind_eq_some_iff] at hb
          obtain ⟨⟨text, scope⟩, -, k, -, hb⟩ := hb
          split_ifs at hb
          cases hb
          cases hv
  have hslash : '/' ∉ t := by
    rw [ipv4Address, Option.bind_eq_some_iff] at hread
    obtain ⟨k, hk, -⟩ := hread
    intro hmem
    rcases mem_of_ipv4FromString hk '/' hmem with h | h
    · exact absurd h (by decide)
    · exact absurd h (by decide)
  have hof : networkOf b b.addr.version.maxPrefixlen = some b.host := by
    rw [networkOf, dif_pos le_rfl]
    rfl
  rw [ipNetwork, networkWith, List.splitOn_eq_singleton hslash] at hn
  simp only [hread, Option.bind_some, hof, Option.orElse_eq_or, Option.some_or] at hn
  cases hn
  exact IpAddress.mem_host

/-! ## The rendered set -/

lemma mem_sortedUnique {t : Text} {values : List Text} : t ∈ sortedUnique values ↔ t ∈ values := by
  rw [sortedUnique, List.mem_insertionSort, List.mem_eraseDups]

/-- A subject with an address in the set is one that the validator protects, too. -/
lemma infrastructureIp_some {s : Dict} {element : Text} (hparse : MatcherParses reprText s)
    (h : infrastructureIp U reprText s = some element) :
    isProtected U reprText s = true ∧
      ∃ b, subjectIpv4 reprText s = some b ∧ ipAddress (strip element) = some b := by
  rw [infrastructureIp, Option.bind_eq_some_iff] at h
  obtain ⟨runtime, hruntime, h⟩ := h
  rw [Option.bind_eq_some_iff] at h
  obtain ⟨matcher, hmatcher, h⟩ := h
  dsimp only at h
  have hscoped : scopedRuntime s = some runtime := by rw [scopedRuntime, hruntime]
  split at h
  · cases h
  · rename_i hfamily
    simp only [Bool.or_eq_true, Bool.not_eq_true', not_or, Bool.not_eq_false] at hfamily
    obtain ⟨b, hb, hv⟩ := hparse runtime hruntime matcher hmatcher hfamily.1
    have hsubject : subjectIpv4 reprText s = some b := by
      rw [subjectIpv4, matcherOf, hscoped, Option.bind_some, hmatcher, Option.bind_some]
      dsimp only
      rw [if_neg (by simp [hfamily.2]), hb]
      simp [hv]
    have hrole : infrastructureRole s = (runtime.get "infrastructure_role").truthy := by
      rw [infrastructureRole, runtimeField, hscoped]
    have happlied : applied s = (runtime.get "applied").truthy := by
      rw [applied, runtimeField, hscoped]
    -- the branches that add the address are the cases of `isProtected`
    have hcases : element = (matcher.get "value").text reprText ∧
        isProtected U reprText s = true := by
      rw [isProtected, dockerImmune, hrole, happlied]
      split_ifs at h with h₁ h₂ h₃ h₄
      · cases h
        refine ⟨rfl, ?_⟩
        rcases h₁ with h₁ | h₁
        · simp only [decide_eq_true h₁, Bool.true_or]
        · simp only [h₁, Bool.true_or, Bool.or_true]
      · cases h
        rw [not_not] at h₂
        refine ⟨rfl, ?_⟩
        rcases h₃ with h₃ | h₃
        · simp only [decide_eq_true h₂, h₃, Bool.true_and, Bool.true_or, Bool.or_true]
        · simp only [decide_eq_true h₂, decide_eq_true h₃, Bool.true_and, Bool.true_or,
            Bool.or_true]
      · cases h
        rw [not_not] at h₂
        refine ⟨rfl, ?_⟩
        simp only [decide_eq_true h₂, decide_eq_true h₄.1, h₄.2, Bool.true_and, Bool.or_true]
    obtain ⟨rfl, hprotected⟩ := hcases
    exact ⟨hprotected, b, hsubject, hb⟩

lemma mem_infrastructureIps {m : Manifest} {element : Text} :
    element ∈ infrastructureIps U reprText m ↔
      (∃ (j : ℕ) (s : Dict), m.dicts[j]? = some s ∧ infrastructureIp U reprText s = some element) ∨
        element ∈ readManifestExtraIpv4List reprText m "infrastructure_ipv4" := by
  rw [infrastructureIps, mem_sortedUnique, List.mem_append, List.mem_filterMap]
  refine or_congr ⟨?_, ?_⟩ Iff.rfl
  · rintro ⟨s, hs, h⟩
    obtain ⟨j, hj⟩ := List.mem_iff_getElem?.mp hs
    exact ⟨j, s, hj, h⟩
  · rintro ⟨j, s, hj, h⟩
    exact ⟨s, List.mem_of_getElem? hj, h⟩

/-! ## What the validator accepts -/

/-- What a subject on the VPN path has passed. -/
structure Accepted (U : Unicode) (reprText : Text → Text) (subjects others : List Dict)
    (networks : List IpNetwork) (s : Dict) (a : IpAddress) : Prop where
  role : infrastructureRole s = false
  address : subjectIpv4 reprText s = some a
  mem : a ∈ sourceAddresses U reprText s
  applied : applied s = true
  alone : ∀ other ∈ others, subjectType reprText other = dockerText →
    a ∉ sourceAddresses U reprText other
  unprotected : a ∉ protectedAddresses U reprText subjects
  outside : ∀ n ∈ networks, a.addr ∉ n

lemma accepted_of_vpnConflict {subjects others : List Dict} {networks : List IpNetwork} {s : Dict}
    (h : vpnConflict U reprText subjects others networks s = none) :
    ∃ a, Accepted U reprText subjects others networks s a := by
  rw [vpnConflict] at h
  split at h
  · cases h
  · rename_i hrole
    split at h
    · cases h
    · rename_i a ha
      split_ifs at h with hmem happlied halone hprotected
      rw [not_or] at hprotected
      refine ⟨a, by simpa using hrole, ha, hmem, by simpa using happlied, ?_, ?_, ?_⟩
      · intro other hother hdocker hshared
        exact halone ⟨other, hother, hdocker, a, Finset.mem_inter.mpr ⟨hmem, hshared⟩⟩
      · intro hshared
        exact hprotected.1 ⟨a, Finset.mem_inter.mpr ⟨hmem, hshared⟩⟩
      · intro n hn hin
        exact hprotected.2 ⟨n, hn, a, hmem, hin⟩

/-- Without conflicts every subject on the VPN path is accepted. -/
lemma exists_accepted {subjects : List Dict} {infrastructureIpv4 : List Text}
    {globalMode : Option Text}
    (h : dockerVpnImmunityConflicts U reprText subjects infrastructureIpv4 globalMode = [])
    {i : ℕ} {s : Dict} (hs : subjects[i]? = some s) (hvpn : isVpnSubject U reprText s = true) :
    ∃ networks a, protectedNetworks infrastructureIpv4 = some networks ∧
      Accepted U reprText subjects (subjects.eraseIdx i) networks s a := by
  have hmem : (s, i) ∈ subjects.zipIdx.filter fun p => isVpnSubject U reprText p.1 :=
    List.mem_filter.mpr ⟨List.mk_mem_zipIdx_iff_getElem?.mpr hs, hvpn⟩
  rw [dockerVpnImmunityConflicts] at h
  dsimp only at h
  split at h
  · exact absurd h ‹_›
  · split at h
    · rw [List.map_eq_nil_iff] at h
      rw [h] at hmem
      cases hmem
    · rename_i networks hnetworks
      rw [List.filterMap_eq_nil_iff] at h
      obtain ⟨a, ha⟩ := accepted_of_vpnConflict (h _ hmem)
      exact ⟨networks, a, hnetworks, ha⟩

lemma mem_protectedAddresses {subjects : List Dict} {s : Dict} {a : IpAddress} (hs : s ∈ subjects)
    (ha : a ∈ protectedBy U reprText s) : a ∈ protectedAddresses U reprText subjects := by
  rw [protectedAddresses]
  induction subjects with
  | nil => cases hs
  | cons t subjects ih =>
      rw [List.map_cons, List.foldr_cons, Finset.mem_union]
      rcases List.mem_cons.mp hs with rfl | hs
      · exact Or.inl ha
      · exact Or.inr (ih hs)

/-- An accepted subject is not protected itself. -/
lemma Accepted.not_isProtected {subjects others : List Dict} {networks : List IpNetwork} {s : Dict}
    {a : IpAddress} (h : Accepted U reprText subjects others networks s a)
    (hvpn : isVpnSubject U reprText s = true) : isProtected U reprText s = false := by
  simp only [isVpnSubject, Bool.and_eq_true, decide_eq_true_eq] at hvpn
  obtain ⟨⟨hdocker, hactive⟩, hpath⟩ := hvpn
  rw [isProtected, dockerImmune, h.role, h.applied, hactive, hpath, hdocker]
  decide

/-! ## The theorem -/

section Accepted

variable {m : Manifest} {infrastructureIpv4 : List Text} {networks : List IpNetwork} {i : ℕ}
  {s : Dict} {a : IpAddress}
  (hs : m.dicts[i]? = some s) (hvpn : isVpnSubject U reprText s = true)
  (h : Accepted U reprText m.dicts (m.dicts.eraseIdx i) networks s a)

include hs hvpn h in
/-- No other Docker subject has the address. -/
lemma Accepted.alone_of_inventoried (hcond : MatchersInventoried U reprText m) {j : ℕ}
    {other : Dict} (hj : j ≠ i) (hother : m.dicts[j]? = some other)
    (hdocker : subjectType reprText other = dockerText) :
    subjectIpv4 reprText other ≠ some a := by
  intro hsame
  refine h.alone other (List.mem_eraseIdx_iff_getElem?.mpr ⟨j, hj, hother⟩) hdocker ?_
  rw [sourceAddresses]
  cases hinv : dockerIpv4Addresses U reprText other with
  | some inventory =>
      exact hcond i j s other a inventory hj.symm hs hvpn hother hdocker hinv h.address hsame
  | none => simp [hsame]

include hs hvpn h in
/-- No element of the rendered set covers the address. -/
lemma Accepted.not_covered (hcond : MatchersInventoried U reprText m)
    (hparse : ∀ t ∈ m.dicts, MatcherParses reprText t)
    (hnetworks : protectedNetworks
      (readManifestExtraIpv4List reprText m "infrastructure_ipv4") = some networks)
    {element : Text} (helement : element ∈ infrastructureIps U reprText m) :
    ¬ElementCovers element a.addr := by
  rintro ⟨n, hn, hin⟩
  rcases mem_infrastructureIps.mp helement with ⟨j, other, hother, hip⟩ | hextra
  · -- a matcher address: the subject is `s`, or another Docker subject, or neither
    have hmem := List.mem_of_getElem? hother
    obtain ⟨hprotected, b, hb, htext⟩ := infrastructureIp_some (hparse other hmem) hip
    have hbv := version_of_subjectIpv4 hb
    obtain rfl : a = b := ipAddress_eq_of_addr (version_of_subjectIpv4 h.address)
      ((mem_ipNetwork_of_ipAddress htext hbv hn).mp hin)
    by_cases hj : j = i
    · obtain rfl : other = s := Option.some.inj ((hj ▸ hother).symm.trans hs)
      rw [h.not_isProtected hvpn] at hprotected
      cases hprotected
    · by_cases hdocker : subjectType reprText other = dockerText
      · exact h.alone_of_inventoried hs hvpn hcond hj hother hdocker hb
      · refine h.unprotected (mem_protectedAddresses hmem ?_)
        rw [protectedBy, if_neg (by simp [hprotected]), if_neg hdocker, hb]
        simp
  · -- an extra element: one of the networks of the validator
    obtain ⟨n', hn', hfound⟩ := exists_mem_of_mapM hnetworks element hextra
    obtain ⟨hfound, -⟩ := Option.filter_eq_some_iff.mp hfound
    obtain rfl : n' = n := Option.some.inj (hfound.symm.trans hn)
    exact h.outside n' hn' hin

end Accepted

/-- **The validator is sound for the renderer exactly if every Docker matcher that a VPN subject
could share is in its inventory.** -/
theorem immune_iff_matchers_inventoried (m : Manifest) (hbypass : m.coreBypassEnabled = false)
    (hparse : ∀ s ∈ m.dicts, MatcherParses reprText s)
    (haccepted : dockerVpnImmunityConflicts U reprText m.dicts
      (readManifestExtraIpv4List reprText m "infrastructure_ipv4")
      (some ((m.globalMode.or (.str directText)).text reprText)) = []) :
    (∃ table, renderOwnedTableCandidate U reprText m = .ok table ∧ Immune U reprText m table) ↔
      MatchersInventoried U reprText m := by
  have hrender : renderOwnedTableCandidate U reprText m = .ok ⟨infrastructureIps U reprText m⟩ := by
    rw [renderOwnedTableCandidate, if_neg (by simp [hbypass]), haccepted]
  constructor
  · rintro ⟨table, -, himmune⟩ i j s other a inventory hij hs hvpn hother hdocker - ha hsame
    obtain ⟨a', ha', -, halone⟩ := himmune i s hs hvpn
    obtain rfl : a' = a := Option.some.inj (ha'.symm.trans ha)
    exact absurd hsame (halone j other hij.symm hother hdocker)
  · intro hcond
    refine ⟨_, hrender, ?_⟩
    intro i s hs hvpn
    obtain ⟨networks, a, hnetworks, h⟩ := exists_accepted haccepted hs hvpn
    refine ⟨a, h.address, ?_, ?_⟩
    · intro element helement
      exact h.not_covered hs hvpn hcond hparse hnetworks helement
    · intro j other hj hother hdocker
      exact h.alone_of_inventoried hs hvpn hcond hj hother hdocker

/-- Python's quotes. -/
def quoted (t : Text) : Text := Char.ofNat 39 :: t ++ [Char.ofNat 39]

def sampleMatcher (address : String) : Value :=
  .dict [("family".toList, .str "ipv4".toList), ("nft_expr".toList, .str "ip saddr".toList),
    ("value".toList, .str address.toList)]

/-- An active container on the VPN path. -/
def sampleVpnSubject : Value :=
  .dict [("subject_id".toList, .str "docker:a".toList), ("subject_type".toList, .str dockerText),
    ("is_active".toList, .bool true), ("dataplane_path".toList, .str vpnText),
    ("scoped_runtime".toList, .dict [("applied".toList, .bool true),
      ("matcher".toList, sampleMatcher "172.18.0.5")])]

/-- A stopped container, observed at `172.18.0.6`. -/
def sampleStoppedSubject (address : String) : Value :=
  .dict [("subject_id".toList, .str "docker:b".toList), ("subject_type".toList, .str dockerText),
    ("is_active".toList, .bool false), ("dataplane_path".toList, .str directText),
    ("observed_docker_source".toList, .dict [("available".toList, .bool true),
      ("valid".toList, .bool true), ("host_network".toList, .bool false),
      ("ipv4_addresses".toList, .list [.str "172.18.0.6".toList]),
      ("primary_ipv4".toList, .str "172.18.0.6".toList),
      ("ipv4_inventory_complete".toList, .bool true),
      ("ipv6_inventory_status".toList, .str completeNoGlobalIpv6)]),
    ("scoped_runtime".toList, .dict [("applied".toList, .bool false),
      ("matcher".toList, sampleMatcher address)])]

def sampleManifest (address : String) : Manifest where
  subjects := [sampleVpnSubject, sampleStoppedSubject address]
  extra := .dict []
  globalMode := .str vpnText

/-- The stopped container keeps the matcher of its inventory: the other one is not affected. -/
theorem immune_inventoried_matcher :
    (sampleManifest "172.18.0.6").coreBypassEnabled = false ∧
      (∀ s ∈ (sampleManifest "172.18.0.6").dicts, MatcherParses quoted s) ∧
      dockerVpnImmunityConflicts .ascii quoted (sampleManifest "172.18.0.6").dicts
        (readManifestExtraIpv4List quoted (sampleManifest "172.18.0.6") "infrastructure_ipv4")
        (some (((sampleManifest "172.18.0.6").globalMode.or (.str directText)).text quoted)) = [] ∧
      ∃ table, renderOwnedTableCandidate .ascii quoted (sampleManifest "172.18.0.6") = .ok table ∧
        Immune .ascii quoted (sampleManifest "172.18.0.6") table := by
  have hbypass : (sampleManifest "172.18.0.6").coreBypassEnabled = false := by decide +kernel
  have hparse : ∀ s ∈ (sampleManifest "172.18.0.6").dicts, MatcherParses quoted s := by
    decide +kernel
  have haccepted : dockerVpnImmunityConflicts .ascii quoted (sampleManifest "172.18.0.6").dicts
      (readManifestExtraIpv4List quoted (sampleManifest "172.18.0.6") "infrastructure_ipv4")
      (some (((sampleManifest "172.18.0.6").globalMode.or (.str directText)).text quoted)) = [] := by
    decide +kernel
  have hinventoried : ∀ other ∈ (sampleManifest "172.18.0.6").dicts,
      ∀ inventory ∈ dockerIpv4Addresses .ascii quoted other, ∀ a ∈ subjectIpv4 quoted other,
        a ∈ inventory := by
    decide +kernel
  refine ⟨hbypass, hparse, haccepted,
    (immune_iff_matchers_inventoried _ hbypass hparse haccepted).mpr ?_⟩
  intro i j s other a inventory _ _ _ hother _ hinventory _ ha
  exact hinventoried other (List.mem_of_getElem? hother) inventory hinventory a ha

/-- The stopped container keeps the matcher of an address it no longer has, and the validator does
not see that it is the address of the other one. -/
theorem stale_matcher_overrides_vpn :
    (sampleManifest "172.18.0.5").coreBypassEnabled = false ∧
      (∀ s ∈ (sampleManifest "172.18.0.5").dicts, MatcherParses quoted s) ∧
      dockerVpnImmunityConflicts .ascii quoted (sampleManifest "172.18.0.5").dicts
        (readManifestExtraIpv4List quoted (sampleManifest "172.18.0.5") "infrastructure_ipv4")
        (some (((sampleManifest "172.18.0.5").globalMode.or (.str directText)).text quoted)) = [] ∧
      infrastructureIps .ascii quoted (sampleManifest "172.18.0.5") = ["172.18.0.5".toList] ∧
      ¬∃ table, renderOwnedTableCandidate .ascii quoted (sampleManifest "172.18.0.5") = .ok table ∧
        Immune .ascii quoted (sampleManifest "172.18.0.5") table := by
  refine ⟨by decide +kernel, by decide +kernel, by decide +kernel, by decide +kernel, ?_⟩
  rintro ⟨table, -, himmune⟩
  have hsame : ∀ s ∈ (sampleManifest "172.18.0.5").dicts, subjectIpv4 quoted s =
      some (.ofAddr ⟨.v4, 2886860805, by decide⟩) := by
    decide +kernel
  obtain ⟨a, ha, -, halone⟩ := himmune 0 _ rfl (by decide +kernel)
  refine halone 1 _ (by decide) rfl (by decide +kernel) ?_
  rw [hsame _ (List.mem_of_getElem? (i := 1) rfl), ← hsame _ (List.mem_of_getElem? (i := 0) rfl)]
  exact ha

end FwRouter.Docker
