import FwRouter.Protocols.Vless

/-!
# Accepted VLESS endpoints

What is accepted is a fixed point: normalizing it again changes nothing, and the native projection
drops the private fields and nothing else.  But the security of an endpoint is read in three places.
An endpoint with REALITY material that declares no security is accepted with `reality-opts` and
without `tls` (`Example.reality_without_tls`), and no other one is (`endpoint_kept_iff`).
-/

namespace FwRouter.Protocols

open Py Url

section Statement

variable (U : Unicode) (reprText : Text → Text) (netlocAccepted : Text → Bool)

/-- A URI or an outbound, from which an endpoint is read. -/
inductive EndpointSource
  | uri (text : Text)
  | xray (outbound : Dict)

/-- The query of a URI. -/
def queryOf (uri : Text) : Dict := ((urlsplit netlocAccepted uri).bind fun u => queryDict u.query).getD []

namespace EndpointSource

def parse : EndpointSource → Option NormalizationResult
  | uri text => parseUriProtocolProxy U reprText netlocAccepted text
  | xray outbound => parseXrayProtocolOutbound U reprText outbound

/-- The security that the source declares. -/
def declaredSecurity : EndpointSource → Text
  | uri text => uriSecurity U reprText (queryOf netlocAccepted text)
  | xray outbound => xraySecurity U reprText outbound

/-- The source has a public key or a short id, or settings for REALITY. -/
def hasMaterial : EndpointSource → Bool
  | uri text => uriMaterial (queryOf netlocAccepted text)
  | xray outbound => decide (realitySettings outbound ≠ [])

end EndpointSource

/-- **An endpoint is kept**: it has its transport security, it is a fixed point, and its native
projection drops the private fields, keeps all others, and is a fixed point. -/
structure EndpointKept (declared : Text) (proxy : Dict) : Prop where
  reality : proxy.has "reality-opts" = true → (proxy.get "tls").isTrue = true
  declared : declared = "tls".toList ∨ declared = "reality".toList → (proxy.get "tls").isTrue = true
  normalized : normalizeProtocolProxy U reprText proxy = ⟨proxy, [], true⟩
  native : ∃ native, projectNativeProxy U reprText proxy = some native ∧
    (∀ field ∈ native, isPrivate field.1 = false) ∧
    (∀ key, isPrivate key = false → native.lookup key = proxy.lookup key) ∧
    projectNativeProxy U reprText native = some native

end Statement

section Proof

variable {U : Unicode} {reprText : Text → Text} {netlocAccepted : Text → Bool} {proxy p : Dict}
  {security : Text}

lemma lower_security (h : security ∈ securities) : U.lower security = security := by
  have hascii : ∀ s ∈ securities, IsAscii s ∧ s.map Char.toLower = s := by decide +kernel
  rw [U.lower_ascii security (hascii security h).1, (hascii security h).2]

lemma lower_vless (U : Unicode) : U.lower (strip "vless".toList) = "vless".toList := by
  have hstrip : strip "vless".toList = "vless".toList := by decide +kernel
  rw [hstrip, U.lower_ascii _ (by decide +kernel)]
  decide +kernel

/-- What the hooks parse, before it is projected and normalized. -/
structure Parsed (U : Unicode) (reprText : Text → Text) (declared : Text) (material : Bool)
    (proxy : Dict) : Prop where
  type : proxy.get "type" = .str "vless".toList
  security : declared ∈ securities ∧ lowerOr U reprText (proxy.get "security") = declared
  tls : declared = [] → (proxy.get "tls").isTrue = false
  options : proxy.has "reality-opts" = true →
    (∃ options, proxy.get "reality-opts" = .dict options) ∧ (material = true ∨ declared = "reality".toList)
  material : material = true → proxy.has "reality-opts" = true

/-! ### A normalized proxy -/

lemma normalize_handled (U : Unicode) (reprText : Text → Text) (proxy : Dict) :
    ∃ p issues, normalize U reprText proxy = ⟨p, issues, true⟩ := by
  simp only [normalize]
  split
  · exact ⟨_, _, rfl⟩
  · split
    · exact ⟨_, _, rfl⟩
    · exact ⟨_, _, rfl⟩

lemma normalize_accepted (h : normalize U reprText proxy = ⟨p, [], true⟩) :
    ∃ capability attemptUdp,
      normalizeVlessUdpCapability U reprText proxy = some (capability, attemptUdp) ∧
      lowerOr U reprText (proxy.get "security") ∈ securities ∧
      p = normalizeFields (withTls (lowerOr U reprText (proxy.get "security"))
        (withUdp capability attemptUdp proxy)) ∧
      validate U reprText p = [] := by
  rw [normalize] at h
  by_cases hsecurity : lowerOr U reprText (proxy.get "security") ∈ securities
  · cases hcapability : normalizeVlessUdpCapability U reprText proxy with
    | none =>
        simp only [project, hsecurity, hcapability, not_true, if_false, refused] at h
        simp at h
    | some c =>
        rcases c with ⟨capability, attemptUdp⟩
        simp only [project, hsecurity, hcapability, not_true, if_false] at h
        obtain ⟨rfl, hissues, -⟩ := NormalizationResult.mk.inj h
        exact ⟨capability, attemptUdp, rfl, hsecurity, rfl, hissues⟩
  · simp only [project, hsecurity, not_false_eq_true, if_true, refused] at h
    simp at h

/-- The fields that normalizing leaves alone. -/
lemma get_normalized {capability : Text} {attemptUdp : Bool} {key : String}
    (hkey : key ∉ ["_fwrouter_udp_capability", "udp", "tls", "reality-opts"]) :
    (normalizeFields (withTls security (withUdp capability attemptUdp proxy))).get key =
      proxy.get key := by
  simp only [List.mem_cons, List.not_mem_nil, or_false, not_or] at hkey
  rw [get_normalizeFields hkey.2.2.2, get_withTls hkey.2.2.1, get_withUdp hkey.1 hkey.2.1]

/-- A proxy that all hooks leave as it is. -/
structure Normal (U : Unicode) (reprText : Text → Text) (p : Dict) : Prop where
  capability : ∃ capability ∈ capabilities,
    p.get "_fwrouter_udp_capability" = .str capability ∧ p.has "udp" = true ∧
      p.get "udp" = .bool (decide (capability ≠ "unsupported".toList ∧
        U.lower (strip (networkOf reprText p)) ∈ transports))
  security : lowerOr U reprText (p.get "security") ∈ securities
  tls : withTls (lowerOr U reprText (p.get "security")) p = p
  fields : normalizeFields p = p
  valid : validate U reprText p = []

/-- **What is accepted is normal.** -/
lemma normal_of_accepted (h : normalize U reprText proxy = ⟨p, [], true⟩) : Normal U reprText p := by
  rcases normalize_accepted h with ⟨capability, attemptUdp, hcapability, hsecurity, rfl, hvalid⟩
  rcases capability_spec hcapability with ⟨hmem, rfl⟩
  have hdeclared : ∀ flag, (normalizeFields (withTls (lowerOr U reprText (proxy.get "security"))
      (withUdp capability flag proxy))).get "security" = proxy.get "security" :=
    fun flag => get_normalized (by decide)
  have hnetwork : ∀ flag, networkOf reprText (normalizeFields (withTls
      (lowerOr U reprText (proxy.get "security")) (withUdp capability flag proxy))) =
        networkOf reprText proxy := fun flag => by
    rw [networkOf, get_normalized (by decide), networkOf]
  refine ⟨⟨capability, hmem, ?_, ?_, ?_⟩, ?_, ?_, normalizeFields_idem _, hvalid⟩
  · rw [get_normalizeFields (by decide), get_withTls (by decide), withUdp,
      Dict.get_set_of_ne (by decide), Dict.get_set_self]
  · rw [has_normalizeFields (by decide), has_withTls (by decide), withUdp, Dict.has_set_self]
  · rw [get_normalizeFields (by decide), get_withTls (by decide), hnetwork, withUdp, Dict.get_set_self]
  · rw [hdeclared]
    exact hsecurity
  · rw [hdeclared]
    generalize lowerOr U reprText (proxy.get "security") = security
    generalize withUdp capability _ proxy = withFlag
    have hhas : ∀ d : Dict, (normalizeFields d).has "tls" = d.has "tls" :=
      fun d => has_normalizeFields (by decide)
    have hget : ∀ d : Dict, (normalizeFields d).get "tls" = d.get "tls" :=
      fun d => get_normalizeFields (by decide)
    by_cases hsecure : security ∈ ["tls".toList, "reality".toList]
    · have htls : withTls security withFlag = withFlag.set "tls" (.bool true) := if_pos hsecure
      rw [htls, withTls, if_pos hsecure]
      exact Dict.set_eq_self (by rw [hhas, Dict.has_set_self]) (by rw [hget, Dict.get_set_self])
    · by_cases hnone : security = "none".toList
      · have htls : withTls security withFlag = withFlag.set "tls" (.bool false) := by
          rw [withTls, if_neg hsecure, if_pos hnone]
        rw [htls, withTls, if_neg hsecure, if_pos hnone]
        exact Dict.set_eq_self (by rw [hhas, Dict.has_set_self]) (by rw [hget, Dict.get_set_self])
      · rw [withTls, withTls, if_neg hsecure, if_neg hnone, if_neg hsecure, if_neg hnone]

lemma Normal.withUdp_eq (h : Normal U reprText p) : ∃ capability attemptUdp,
    normalizeVlessUdpCapability U reprText p = some (capability, attemptUdp) ∧
      p.get "udp" = .bool attemptUdp ∧ p.has "udp" = true ∧ withUdp capability attemptUdp p = p ∧
      (attemptUdp = true → U.lower (strip (networkOf reprText p)) ∈ transports) := by
  rcases h.capability with ⟨capability, hmem, hmarker, hudp, hflag⟩
  refine ⟨capability, _, capability_of_marker hmarker hmem, hflag, hudp, ?_, fun h => ?_⟩
  · rw [withUdp, Dict.set_eq_self (has_of_get hmarker rfl) hmarker, Dict.set_eq_self hudp hflag]
  · exact (of_decide_eq_true h).2

/-- **Normalizing again** changes nothing. -/
lemma Normal.normalize_eq (h : Normal U reprText p) : normalize U reprText p = ⟨p, [], true⟩ := by
  rcases h.withUdp_eq with ⟨capability, attemptUdp, hcapability, -, -, hself, -⟩
  have hproject : project U reprText p = ⟨true, some p, []⟩ := by
    rw [project, if_neg (not_not.mpr h.security), hcapability]
    dsimp only
    rw [hself, h.tls]
  rw [normalize, hproject]
  dsimp only
  rw [if_neg (by decide), h.fields, h.valid]

/-- **The native projection** drops the private fields, and nothing else. -/
lemma Normal.native (h : Normal U reprText p) (htype : p.get "type" = .str "vless".toList) :
    ∃ native, projectNativeProxy U reprText p = some native ∧
      (∀ field ∈ native, isPrivate field.1 = false) ∧
      (∀ key, isPrivate key = false → native.lookup key = p.lookup key) ∧
      projectNativeProxy U reprText native = some native := by
  rcases h.withUdp_eq with ⟨capability, attemptUdp, hcapability, hflag, hudp, hself, hattempt⟩
  have hvless : ∀ d : Dict, d.get "type" = .str "vless".toList →
      U.lower (strip ((d.get "type").textOr reprText)) = "vless".toList := by
    intro d hd
    rw [hd, Value.textOr_str, lower_vless]
  have hkeep : ∀ key, isPrivate key = false →
      (p.filter fun field => !isPrivate field.1).lookup key = p.lookup key :=
    fun key hkey => KeyedTable.lookup_filter (p := fun key => !isPrivate key) (by simp [hkey]) p
  have hpublic : ∀ key : String, isPrivate key.toList = false →
      Dict.get (p.filter fun field => !isPrivate field.1) key = p.get key := fun key hkey => by
    rw [Dict.get, hkeep _ hkey, Dict.get]
  refine ⟨p.filter fun field => !isPrivate field.1, ?_, fun field hfield => ?_, hkeep, ?_⟩
  · rw [projectNativeProxy]
    dsimp only
    rw [if_pos (hvless p htype), hcapability, Option.map_some]
    dsimp only
    rw [hself, Option.map_some]
  · simpa using (List.mem_filter.mp hfield).2
  · -- without its marker a native proxy declares the flag that it has
    obtain ⟨native, hnative⟩ : ∃ native : Dict, (p.filter fun field => !isPrivate field.1) = native :=
      ⟨_, rfl⟩
    rw [hnative] at hpublic ⊢
    have htype' : native.get "type" = .str "vless".toList :=
      (hpublic "type" (by decide +kernel)).trans htype
    have hflag' : native.get "udp" = .bool attemptUdp := (hpublic "udp" (by decide +kernel)).trans hflag
    have hudp' : native.has "udp" = true := has_of_get hflag' rfl
    have hnetwork : networkOf reprText native = networkOf reprText p := by
      rw [networkOf, hpublic "network" (by decide +kernel), networkOf]
    have hmissing : "_fwrouter_udp_capability".toList ∉ native.map Prod.fst := by
      intro hmem
      rcases List.mem_map.mp hmem with ⟨field, hfield, hkey⟩
      rw [← hnative] at hfield
      have hpriv := (List.mem_filter.mp hfield).2
      rw [hkey] at hpriv
      exact absurd hpriv (by decide +kernel)
    have hmarker : native.get "_fwrouter_udp_capability" = .none := by
      rw [Dict.get, List.lookup_eq_none_iff.mpr]
      · rfl
      · intro field hfield
        have hne : field.1 ≠ "_fwrouter_udp_capability".toList :=
          fun heq => hmissing (heq ▸ List.mem_map_of_mem hfield)
        simpa using Ne.symm hne
    have hread := capability_of_flag hmarker hudp' hflag' (hnetwork ▸ hattempt)
    generalize (if attemptUdp then "supported".toList else "unsupported".toList) = capability' at hread
    have hset : (withUdp capability' attemptUdp native).filter (fun field => !isPrivate field.1) =
        native := by
      have hgrown : native.set "_fwrouter_udp_capability" (.str capability') =
          native ++ [("_fwrouter_udp_capability".toList, .str capability')] :=
        KeyedTable.assign_of_not_mem hmissing
      have hudpgrown : (native.set "_fwrouter_udp_capability" (.str capability')).set "udp"
          (.bool attemptUdp) = native.set "_fwrouter_udp_capability" (.str capability') :=
        Dict.set_eq_self (by rw [Dict.has_set_of_ne (by decide), hudp'])
          (by rw [Dict.get_set_of_ne (by decide), hflag'])
      have hall : native.filter (fun field => !isPrivate field.1) = native := by
        rw [← hnative, List.filter_filter]
        simp
      have hprivate : isPrivate "_fwrouter_udp_capability".toList = true := by decide +kernel
      rw [withUdp, hudpgrown, hgrown, List.filter_append, hall,
        List.filter_cons_of_neg (by rw [hprivate]; decide), List.filter_nil, List.append_nil]
    rw [projectNativeProxy]
    dsimp only
    rw [if_pos (hvless native htype'), hread, Option.map_some]
    dsimp only
    rw [Option.map_some, hset]

/-! ### The parsed proxies -/

lemma dispatch_accepted {hookName : String} {result : Option HookResult}
    (h : dispatchFormatHook U reprText hookName result = some ⟨p, [], true⟩) :
    ∃ proxy, result = some ⟨true, some proxy, []⟩ ∧
      (normalizeProtocolProxy U reprText proxy).proxy = p ∧
      (normalizeProtocolProxy U reprText proxy).issues = [] := by
  cases result with
  | none => simp [dispatchFormatHook] at h
  | some result =>
      rcases result with ⟨handled, found, issues⟩
      simp only [dispatchFormatHook] at h
      split_ifs at h with hhandled hissues
      · obtain ⟨-, hissues', -⟩ := NormalizationResult.mk.inj (Option.some.inj h)
        exact absurd hissues' hissues
      · rw [Bool.not_eq_false] at hhandled
        cases found with
        | none => simp at h
        | some proxy =>
            obtain ⟨hp, hnone, -⟩ := NormalizationResult.mk.inj (Option.some.inj h)
            exact ⟨proxy, by rw [hhandled, not_not.mp hissues], hp, hnone⟩

lemma uriRefusal_issues {network : Text} {query : Dict} {refusal : HookResult}
    (h : uriRefusal security network query = some refusal) : refusal.issues ≠ [] := by
  simp only [uriRefusal] at h
  split_ifs at h
  all_goals
    rw [← Option.some.inj h, refused]
    exact List.cons_ne_nil _ _

lemma parseUri_ok {uri : Text}
    (h : parseUri U reprText netlocAccepted uri = some ⟨true, some proxy, []⟩) :
    uriSecurity U reprText (queryOf netlocAccepted uri) ∈ securities ∧
      ∃ network udp hostname port username fragment,
        proxy = uriProxy (uriSecurity U reprText (queryOf netlocAccepted uri)) network
          (queryOf netlocAccepted uri) udp hostname port username fragment := by
  rw [parseUri, Option.map_eq_some_iff] at h
  rcases h with ⟨parsed, hparsed, h⟩
  rw [queryOf, hparsed, Option.bind_some]
  split at h
  · simp at h
  cases hquery : queryDict parsed.query with
  | none => simp [hquery, refused] at h
  | some query =>
      rw [hquery] at h
      dsimp only at h
      rw [Option.getD_some]
      by_cases hsecurity : uriSecurity U reprText query ∈ securities
      · rw [if_neg (not_not.mpr hsecurity)] at h
        split at h
        · generalize (if strip ((((query.get "type").or (query.get "network")).or
            (.str "tcp".toList)).textOr reprText) = [] then "tcp".toList else _) = network at h
          split at h
          · simp [refused] at h
          split at h
          · rename_i refusal hrefusal
            rw [h] at hrefusal
            exact absurd rfl (uriRefusal_issues hrefusal)
          split at h
          · simp [refused] at h
          · obtain ⟨-, hproxy, -⟩ := HookResult.mk.inj h
            exact ⟨hsecurity, _, _, _, _, _, _, (Option.some.inj hproxy).symm⟩
        · simp [refused] at h
      · rw [if_pos hsecurity] at h
        simp [refused] at h

lemma lowerOr_str (h : security ∈ securities) : lowerOr U reprText (.str security) = security := by
  rw [lowerOr, Value.textOr_str, lower_security h]

lemma lowerOr_none : lowerOr U reprText .none = [] :=
  U.lower_ascii [] (by decide)

/-- A proxy with its security and its options, each if there is one. -/
lemma parsed_of_fields {material reality : Bool} (hsecurity : security ∈ securities)
    (htype : proxy.get "type" = .str "vless".toList)
    (hdeclared : proxy.get "security" = if decide (security ≠ []) then .str security else .none)
    (hhas : proxy.has "reality-opts" = if reality then true else false)
    (hget : reality = true → ∃ options, proxy.get "reality-opts" = .dict options)
    (hreality : reality = true → material = true ∨ security = "reality".toList)
    (hmaterial : material = true → reality = true)
    (htls : security = [] → (proxy.get "tls").isTrue = false) :
    Parsed U reprText security material proxy := by
  refine ⟨htype, ⟨hsecurity, ?_⟩, htls, fun hoptions => ?_, fun hfilled => ?_⟩
  · rw [hdeclared]
    by_cases hempty : security = []
    · rw [if_neg (by simpa using hempty), hempty]
      exact lowerOr_none
    · rw [if_pos (by simpa using hempty)]
      exact lowerOr_str hsecurity
  · cases reality with
    | true => exact ⟨hget rfl, hreality rfl⟩
    | false =>
        rw [hhas] at hoptions
        cases hoptions
  · rw [hhas, if_pos (hmaterial hfilled)]

/-- The proxy of a URI: it has no `tls` of its own. -/
lemma parsed_uriProxy {network hostname username fragment : Text} {query : Dict} {udp : Option Text}
    {port : ℕ} (h : security ∈ securities) :
    Parsed U reprText security (uriMaterial query)
      (uriProxy security network query udp hostname port username fragment) := by
  have hother : ∀ key ∈ ["type", "security", "reality-opts", "tls"],
      key ∉ optionKeys ++ ["flow", "encryption", "servername", "client-fingerprint",
        "_fwrouter_uri_query", "_fwrouter_provider_metadata"] := by decide
  have hsame : ∀ proxy, ∀ key ∈ ["type", "security", "reality-opts", "tls"], SameAt key proxy
      (setIf (query.has "seed") "_fwrouter_provider_metadata"
        (.dict [("vless_seed".toList, query.get "seed"),
          ("seed_semantics".toList, .str "opaque_compatibility_metadata".toList)])
        ((uriTransport network query (copyFilled "fp" "client-fingerprint" query
          (copyFilled "sni" "servername" query (copyFilled "encryption" "encryption" query
            (copyFilled "flow" "flow" query proxy))))).set "_fwrouter_uri_query" (.dict query))) := by
    intro proxy key hkey
    have hne := hother key hkey
    simp only [List.mem_append, List.mem_cons, List.not_mem_nil, or_false, not_or] at hne
    obtain ⟨hoptions, hflow, hencryption, hname, hfingerprint, hquery, hmetadata⟩ := hne
    exact (sameAt_setIf hflow).trans <| (sameAt_setIf hencryption).trans <| (sameAt_setIf hname).trans <|
      (sameAt_setIf hfingerprint).trans <| (sameAt_uriTransport hoptions).trans <|
      (sameAt_set hquery).trans <| sameAt_setIf hmetadata
  rw [uriProxy]
  refine @parsed_of_fields U reprText _ _ _ (decide (security = "reality".toList) || uriMaterial query)
    h ?_ ?_ ?_ (fun hreality => ?_) (fun hreality => ?_)
    (fun hmaterial => by rw [hmaterial, Bool.or_true]) fun _ => ?_
  · rw [(hsame _ "type" (by decide)).1, get_setIf_of_ne (by decide), get_setIf_of_ne (by decide)]
    rfl
  · rw [(hsame _ "security" (by decide)).1, get_setIf_of_ne (by decide), get_setIf_self]
    rfl
  · rw [(hsame _ "reality-opts" (by decide)).2, has_setIf_self, has_setIf_of_ne (by decide)]
    rfl
  · exact ⟨_, (hsame _ "reality-opts" (by decide)).1.trans (get_setIf_self.trans (if_pos hreality))⟩
  · rw [Bool.or_eq_true, decide_eq_true_eq] at hreality
    exact hreality.symm
  · rw [(hsame _ "tls" (by decide)).1, get_setIf_of_ne (by decide), get_setIf_of_ne (by decide)]
    rfl

/-- The proxy of an outbound: its `tls` is set with its security. -/
lemma parsed_parseXray {outbound : Dict} (h : parseXray U reprText outbound = ⟨true, some proxy, []⟩) :
    Parsed U reprText (xraySecurity U reprText outbound) (decide (realitySettings outbound ≠ [])) proxy := by
  rw [parseXray] at h
  split at h
  · simp at h
  by_cases hsecurity : xraySecurity U reprText outbound ∈ securities
  · dsimp only at h
    rw [if_neg (not_not.mpr hsecurity)] at h
    split at h
    · simp [refused] at h
    split at h
    · simp [refused] at h
    split at h
    · simp [refused] at h
    · rename_i secured htls
      obtain ⟨-, hproxy, -⟩ := HookResult.mk.inj h
      rw [← Option.some.inj hproxy]
      have hother : ∀ key ∈ ["type", "security", "reality-opts", "tls"],
          key ∉ ["servername", "skip-cert-verify", "alpn"] ∧ key ≠ "flow" ∧ key ≠ "encryption" ∧
            key ∉ optionKeys := by decide
      have hsame : ∀ key ∈ ["type", "security", "reality-opts", "tls"], SameAt key _ (xrayTransport
          (((streamSettings outbound).get "network").or (.str "tcp".toList) |>.textOr reprText)
          (streamSettings outbound) (copyFilled "encryption" "encryption"
            (firstDict ((firstDict ((outbound.get "settings").dictOr.get "vnext")).get "users"))
            (copyFilled "flow" "flow"
              (firstDict ((firstDict ((outbound.get "settings").dictOr.get "vnext")).get "users"))
              secured))) := fun key hkey => by
        obtain ⟨hsecured, hflow, hencryption, hoptions⟩ := hother key hkey
        exact (sameAt_xrayTls hsecured htls).trans <| (sameAt_setIf hflow).trans <|
          (sameAt_setIf hencryption).trans <| sameAt_xrayTransport hoptions
      refine @parsed_of_fields U reprText _ _ _ (decide (realitySettings outbound ≠ [])) hsecurity ?_ ?_ ?_
        (fun hreality => ?_) (fun hreality => Or.inl hreality) id fun hempty => ?_
      · rw [(hsame "type" (by decide)).1, get_setIf_of_ne (by decide), get_setIf_of_ne (by decide),
          get_setIf_of_ne (by decide)]
        rfl
      · rw [(hsame "security" (by decide)).1, get_setIf_of_ne (by decide), get_setIf_self,
          get_setIf_of_ne (by decide)]
        rfl
      · rw [(hsame "reality-opts" (by decide)).2, has_setIf_of_ne (by decide),
          has_setIf_of_ne (by decide), has_setIf_self]
        rfl
      · exact ⟨_, (hsame "reality-opts" (by decide)).1.trans <| (get_setIf_of_ne (by decide)).trans <|
          (get_setIf_of_ne (by decide)).trans <| get_setIf_self.trans <| if_pos hreality⟩
      · rw [(hsame "tls" (by decide)).1, get_setIf_self, if_neg (by simpa using hempty),
          get_setIf_of_ne (by decide), get_setIf_of_ne (by decide)]
        rfl
  · dsimp only at h
    rw [if_pos hsecurity] at h
    simp [refused] at h

/-! ### The accepted endpoint -/

lemma matches_vless (h : proxy.get "type" = .str "vless".toList) :
    matchesProxy U reprText proxy = true := by
  rw [matchesProxy, h]
  exact decide_eq_true (lower_vless U)

lemma tls_normalized {capability : Text} {attemptUdp : Bool} (hsecurity : security ∈ securities)
    (hplain : security = [] → (proxy.get "tls").isTrue = false) :
    ((normalizeFields (withTls security (withUdp capability attemptUdp proxy))).get "tls").isTrue =
      decide (security ∈ ["tls".toList, "reality".toList]) := by
  rw [get_normalizeFields (by decide), withTls]
  split_ifs with hsecure hnone
  · rw [Dict.get_set_self, decide_eq_true hsecure]
    rfl
  · rw [Dict.get_set_self, decide_eq_false hsecure]
    rfl
  · rw [get_withUdp (by decide) (by decide), decide_eq_false hsecure]
    simp only [securities, List.mem_cons, List.not_mem_nil, or_false, not_or] at hsecurity hsecure
    rcases hsecurity with hempty | hsecurity | hsecurity | hsecurity
    · exact hplain hempty
    · exact absurd hsecurity hnone
    · exact absurd hsecurity hsecure.1
    · exact absurd hsecurity hsecure.2

/-- A declared `none` does not come with options. -/
lemma security_of_options (hvalid : validate U reprText p = []) (hhas : p.has "reality-opts" = true)
    {options : Dict} (hoptions : p.get "reality-opts" = .dict options) :
    lowerOr U reprText (p.get "security") = [] ∨
      lowerOr U reprText (p.get "security") = "reality".toList := by
  simp only [validate, List.append_eq_nil_iff] at hvalid
  have hreality := hvalid.2
  rw [if_pos hhas, hoptions, realityIssues, List.append_eq_nil_iff] at hreality
  have hdeclared := hreality.2
  by_contra hne
  rw [if_pos (not_or.mp hne)] at hdeclared
  cases hdeclared

/-- **What is kept of a parsed endpoint**. -/
lemma Parsed.kept_iff {material : Bool} (h : Parsed U reprText security material proxy)
    (haccepted : normalize U reprText proxy = ⟨p, [], true⟩) :
    EndpointKept U reprText security p ↔ (security = [] → material = false) := by
  have hnormal := normal_of_accepted haccepted
  rcases normalize_accepted haccepted with ⟨capability, attemptUdp, -, -, hp, hvalid⟩
  rw [h.security.2] at hp
  have htype : p.get "type" = .str "vless".toList := by rw [hp, get_normalized (by decide), h.type]
  have hdeclared : lowerOr U reprText (p.get "security") = security := by
    rw [hp, get_normalized (by decide), h.security.2]
  have htls : (p.get "tls").isTrue = decide (security ∈ ["tls".toList, "reality".toList]) := by
    rw [hp, tls_normalized h.security.1 h.tls]
  have hhas : p.has "reality-opts" = proxy.has "reality-opts" := by
    rw [hp, has_reality_normalizeFields, has_withTls (by decide),
      has_withUdp (by decide) (by decide)]
  constructor
  · intro hkept hempty
    by_contra hmaterial
    have := hkept.reality (hhas.trans (h.material (by simpa using hmaterial)))
    rw [htls, hempty] at this
    exact absurd this (by decide)
  · intro hcondition
    refine ⟨fun hreality => ?_, fun hsecure => ?_, ?_, hnormal.native htype⟩
    · rcases h.options (hhas.symm.trans hreality) with ⟨⟨options, hoptions⟩, hwhy⟩
      have hpoptions : p.get "reality-opts" = .dict (withoutNullShortId options) := by
        have hkeep : (withTls security (withUdp capability attemptUdp proxy)).get "reality-opts" =
            .dict options := by
          rw [get_withTls (by decide), get_withUdp (by decide) (by decide), hoptions]
        rw [hp, normalizeFields, hkeep]
        exact Dict.get_set_self
      rcases security_of_options hvalid hreality hpoptions with hempty | hsecure
      · rw [hdeclared] at hempty
        rcases hwhy with hmaterial | hsecure
        · rw [hcondition hempty] at hmaterial
          cases hmaterial
        · rw [hempty] at hsecure
          exact absurd hsecure (by decide)
      · rw [htls, ← hdeclared, hsecure]
        decide +kernel
    · rw [htls]
      exact decide_eq_true (by simpa using hsecure)
    · rw [normalizeProtocolProxy, if_pos (matches_vless htype), hnormal.normalize_eq]

/-- **An accepted endpoint is kept** exactly if it declares its security, or has no material for
REALITY. -/
theorem endpoint_kept_iff (U : Unicode) (reprText : Text → Text) (netlocAccepted : Text → Bool)
    (s : EndpointSource) (p : Dict) (h : s.parse U reprText netlocAccepted = some ⟨p, [], true⟩) :
    EndpointKept U reprText (s.declaredSecurity U reprText netlocAccepted) p ↔
      (s.declaredSecurity U reprText netlocAccepted = [] → s.hasMaterial netlocAccepted = false) := by
  obtain ⟨proxy, hparsed, hp, hissues⟩ : ∃ proxy,
      Parsed U reprText (s.declaredSecurity U reprText netlocAccepted) (s.hasMaterial netlocAccepted)
        proxy ∧ (normalizeProtocolProxy U reprText proxy).proxy = p ∧
          (normalizeProtocolProxy U reprText proxy).issues = [] := by
    cases s with
    | uri text =>
        rcases dispatch_accepted h with ⟨proxy, hresult, hp, hissues⟩
        rcases parseUri_ok hresult with ⟨hsecurity, network, udp, hostname, port, username, fragment, rfl⟩
        exact ⟨_, parsed_uriProxy hsecurity, hp, hissues⟩
    | xray outbound =>
        rw [EndpointSource.parse, parseXrayProtocolOutbound] at h
        rcases dispatch_accepted h with ⟨proxy, hresult, hp, hissues⟩
        exact ⟨proxy, parsed_parseXray (Option.some.inj hresult), hp, hissues⟩
  refine hparsed.kept_iff ?_
  rw [normalizeProtocolProxy, if_pos (matches_vless hparsed.type)] at hp hissues
  rcases normalize_handled U reprText proxy with ⟨q, issues, hq⟩
  rw [hq] at hp hissues ⊢
  dsimp only at hp hissues
  rw [hp, hissues]

end Proof

/-! ## Examples -/

namespace Example

/-- What is read from a URI. -/
def read (uri : Text) : Option NormalizationResult :=
  (EndpointSource.uri uri).parse Unicode.ascii id fun _ => true

/-- The endpoint is accepted, and its proxy is as asked. -/
def acceptedWith (condition : Dict → Bool) (uri : Text) : Bool :=
  (read uri).any fun result => result.handled && result.issues.isEmpty && condition result.proxy

lemma accepted_of {condition : Dict → Bool} {uri : Text} (h : acceptedWith condition uri = true) :
    ∃ p, read uri = some ⟨p, [], true⟩ ∧ condition p = true := by
  rw [acceptedWith, Option.any_eq_true] at h
  rcases h with ⟨⟨p, issues, handled⟩, hread, hall⟩
  rw [Bool.and_eq_true, Bool.and_eq_true, List.isEmpty_iff] at hall
  obtain ⟨⟨rfl, rfl⟩, hcondition⟩ := hall
  exact ⟨p, hread, hcondition⟩

def declaredUri : Text := "vless://u@h.example:443?security=reality&pbk=K&sid=ab".toList

def inferredUri : Text := "vless://u@h.example:443?pbk=K".toList

/-- An endpoint that declares REALITY is kept, and has its options and `tls`. -/
theorem declared_reality_kept : ∃ p, read declaredUri = some ⟨p, [], true⟩ ∧
    p.has "reality-opts" = true ∧ EndpointKept Unicode.ascii id "reality".toList p := by
  obtain ⟨p, hread, hhas⟩ : ∃ p, read declaredUri = some ⟨p, [], true⟩ ∧ p.has "reality-opts" = true :=
    accepted_of (by decide +kernel)
  have hdeclared : (EndpointSource.uri declaredUri).declaredSecurity Unicode.ascii id (fun _ => true) =
      "reality".toList := by decide +kernel
  have hkept := (endpoint_kept_iff Unicode.ascii id (fun _ => true) (.uri declaredUri) p hread).mpr
    (fun hempty => absurd (hdeclared.symm.trans hempty) (by decide +kernel))
  rw [hdeclared] at hkept
  exact ⟨p, hread, hhas, hkept⟩

/-- **A public key alone** gives an endpoint with REALITY options and no `tls`. -/
theorem reality_without_tls : ¬ ∀ U reprText netlocAccepted (s : EndpointSource) p,
    s.parse U reprText netlocAccepted = some ⟨p, [], true⟩ →
      EndpointKept U reprText (s.declaredSecurity U reprText netlocAccepted) p := by
  intro h
  obtain ⟨p, hread, hp⟩ : ∃ p, read inferredUri = some ⟨p, [], true⟩ ∧
      (p.has "reality-opts" && !(p.get "tls").isTrue) = true := accepted_of (by decide +kernel)
  rw [Bool.and_eq_true, Bool.not_eq_true'] at hp
  have htls := (h _ _ _ _ _ hread).reality hp.1
  rw [hp.2] at htls
  cases htls

end Example

end FwRouter.Protocols
