import FwRouter.Python.Url
import FwRouter.Python.Value

/-!
# VLESS endpoints

`adapters/protocols/vless.py` under the dispatcher of `protocol_integration.py`: the hooks that parse
a URI or an Xray outbound, project the proxy for Mihomo, normalize and validate it.

The integrations of the other protocols are asked only about what is not VLESS, and are left out.
-/

namespace FwRouter.Protocols

open Py Url

/-! ## Results of hooks -/

/-- `ProtocolValidationIssue`. -/
structure Issue where
  code : String
  field : String
deriving DecidableEq

/-- `ProtocolHookResult`. -/
structure HookResult where
  handled : Bool
  proxy : Option Dict := none
  issues : List Issue := []

/-- A hook that refuses. -/
def refused (code field : String) : HookResult := ⟨true, none, [⟨code, field⟩]⟩

/-- `ProtocolNormalizationResult`. -/
structure NormalizationResult where
  proxy : Dict
  issues : List Issue := []
  handled : Bool := false

/-! ## The VLESS hooks -/

section Hooks

variable (U : Unicode) (reprText : Text → Text)

/-- `str(value or "").lower()`. -/
def lowerOr (value : Value) : Text := U.lower (value.textOr reprText)

def securities : List Text := [[], "none".toList, "tls".toList, "reality".toList]

/-- `_VLESS_UDP_TRANSPORTS`, the transports that are supported. -/
def transports : List Text :=
  ["tcp".toList, "ws".toList, "http".toList, "h2".toList, "grpc".toList, "xhttp".toList]

def capabilities : List Text := ["supported".toList, "unsupported".toList, "unknown".toList]

/-- `_matches`. -/
def matchesProxy (proxy : Dict) : Bool :=
  decide (U.lower (strip (((proxy.get "type").or (proxy.get "protocol")).textOr reprText)) =
    "vless".toList)

/-- `str(proxy.get("network") or "tcp")`. -/
def networkOf (proxy : Dict) : Text := ((proxy.get "network").or (.str "tcp".toList)).textOr reprText

/-- `normalize_vless_udp_capability`; `none` is an invalid declaration. -/
def normalizeVlessUdpCapability (proxy : Dict) : Option (Text × Bool) :=
  let declared :=
    match proxy.get "_fwrouter_udp_capability" with
    | .none =>
        if proxy.has "udp" then
          match proxy.get "udp" with
          | .bool true => some "supported".toList
          | .bool false => some "unsupported".toList
          | _ => none
        else some "unknown".toList
    | .str marker => if marker ∈ capabilities then some marker else none
    | _ => none
  declared.map fun declared =>
    (declared, decide (declared ≠ "unsupported".toList ∧
      U.lower (strip (networkOf reprText proxy)) ∈ transports))

/-- The capability, and the flag that enables an attempt. -/
def withUdp (capability : Text) (attemptUdp : Bool) (proxy : Dict) : Dict :=
  (proxy.set "_fwrouter_udp_capability" (.str capability)).set "udp" (.bool attemptUdp)

/-- The flag that a declared security sets. -/
def withTls (security : Text) (proxy : Dict) : Dict :=
  if security ∈ ["tls".toList, "reality".toList] then proxy.set "tls" (.bool true)
  else if security = "none".toList then proxy.set "tls" (.bool false)
  else proxy

/-- `_project`. -/
def project (proxy : Dict) : HookResult :=
  let security := lowerOr U reprText (proxy.get "security")
  if security ∉ securities then refused "unsupported_security" "security"
  else
    match normalizeVlessUdpCapability U reprText proxy with
    | none => refused "invalid_field" "udp-capability"
    | some (capability, attemptUdp) =>
        ⟨true, some (withTls security (withUdp capability attemptUdp proxy)), []⟩

/-- `value is None`. -/
def isNone : Value → Bool
  | .none => true
  | _ => false

/-- `normalized["reality-opts"]`: a short id that is null is left out. -/
def withoutNullShortId (options : Dict) : Dict :=
  if options.has "short-id" && isNone (options.get "short-id") then
    options.filter fun field => decide (field.1 ≠ "short-id".toList)
  else options

/-- `_normalize`. -/
def normalizeFields (proxy : Dict) : Dict :=
  match proxy.get "reality-opts" with
  | .dict options => proxy.set "reality-opts" (.dict (withoutNullShortId options))
  | _ => proxy

def isBool : Value → Bool
  | .bool _ => true
  | _ => false

/-- `isinstance(value, str) and value.strip()`. -/
def isFilledText : Value → Bool
  | .str s => decide (strip s ≠ [])
  | _ => false

def isPort : Value → Bool
  | .int n => decide (1 ≤ n ∧ n ≤ 65535)
  | _ => false

/-- Hexadecimal digits only. -/
def isHexText (s : Text) : Bool := s.all fun c => (hexDigit c).isSome

/-- The short id is a text, of an even number of at most 16 hexadecimal digits. -/
def isShortId : Value → Bool
  | .str s => decide (s = "present".toList) || (decide (s.length ≤ 16) && decide (s.length % 2 = 0) &&
      isHexText s)
  | _ => false

/-- The checks of `_validate` for `reality-opts`. -/
def realityIssues (security : Text) : Value → List Issue
  | .dict options =>
      (if Dict.has options "short-id" && !isShortId (Dict.get options "short-id") then
        [⟨"invalid_security_value", "reality-opts.short-id"⟩] else []) ++
      (if security ≠ [] ∧ security ≠ "reality".toList then
        [⟨"unsupported_security", "reality-opts"⟩] else [])
  | _ => [⟨"invalid_security_options", "reality-opts"⟩]

/-- `_validate`. -/
def validate (proxy : Dict) : List Issue :=
  let marker := proxy.get "_fwrouter_udp_capability"
  let security := lowerOr U reprText (proxy.get "security")
  (if !isNone marker && !(marker.asText.any fun m => decide (m ∈ capabilities)) then
    [⟨"invalid_field", "udp-capability"⟩] else []) ++
  (if proxy.has "udp" && !isBool (proxy.get "udp") then [⟨"invalid_field", "udp"⟩] else []) ++
  (if U.lower (networkOf reprText proxy) ∉ transports then
    [⟨"unsupported_transport", "network"⟩] else []) ++
  (if proxy.has "server" && !isFilledText (proxy.get "server") then
    [⟨"invalid_endpoint", "server"⟩] else []) ++
  (if !isNone (proxy.get "port") && !isPort (proxy.get "port") then
    [⟨"invalid_endpoint", "port"⟩] else []) ++
  (if proxy.has "uuid" && !isFilledText (proxy.get "uuid") then
    [⟨"missing_credential", "uuid"⟩] else []) ++
  (if security ∉ securities then [⟨"unsupported_security", "security"⟩] else []) ++
  (if proxy.has "reality-opts" then realityIssues security (proxy.get "reality-opts") else [])

/-- `ProtocolIntegration.normalize` of the VLESS integration. -/
def normalize (proxy : Dict) : NormalizationResult :=
  let projection := project U reprText proxy
  if projection.issues ≠ [] then ⟨proxy, projection.issues, true⟩
  else
    match projection.proxy with
    | none => ⟨proxy, [⟨"projection_unavailable", "mihomo_projection"⟩], true⟩
    | some projected =>
        let normalized := normalizeFields projected
        ⟨normalized, validate U reprText normalized, true⟩

/-- `normalize_protocol_proxy` with the VLESS integration, which is the first one to be asked. -/
def normalizeProtocolProxy (proxy : Dict) : NormalizationResult :=
  if matchesProxy U reprText proxy then normalize U reprText proxy else { proxy := proxy }

/-- `_dispatch_format_hook` at the VLESS integration, the first one; `none` is a value that it leaves
to the others.  A hook that raises a `ValueError` or a `TypeError` has no result. -/
def dispatchFormatHook (hookName : String) (result : Option HookResult) : Option NormalizationResult :=
  match result with
  | none => some ⟨[], [⟨"invalid_protocol_payload", hookName⟩], true⟩
  | some result =>
      if result.handled = false then none
      else if result.issues ≠ [] then some ⟨result.proxy.getD [], result.issues, true⟩
      else
        match result.proxy with
        | none => some ⟨[], [⟨"invalid_endpoint", hookName⟩], true⟩
        | some proxy =>
            let normalized := normalizeProtocolProxy U reprText proxy
            some ⟨normalized.proxy, normalized.issues, true⟩

/-! ### Parsing a URI -/

/-- `_udp_capability` of a text of the query; `none` is an invalid one. -/
def udpCapability (value : Text) : Option Text :=
  let normalized := U.lower (strip value)
  if normalized ∈ ["true".toList, "1".toList, "supported".toList] then some "supported".toList
  else if normalized ∈ ["false".toList, "0".toList, "unsupported".toList] then
    some "unsupported".toList
  else if normalized = "unknown".toList then some "unknown".toList
  else none

/-- The query as a dict; `none` if a parameter comes twice. -/
def queryDict (query : Text) : Option Dict :=
  (parseQsl query).foldlM (fun d field =>
    if (d.lookup field.1).isSome then none else some (d ++ [(field.1, Value.str field.2)])) []

/-- `if condition: proxy[key] = value`. -/
def setIf (condition : Bool) (key : String) (value : Value) (proxy : Dict) : Dict :=
  if condition then proxy.set key value else proxy

/-- `if query.get(source): proxy[target] = query[source]`. -/
def copyFilled (source target : String) (query proxy : Dict) : Dict :=
  setIf (query.get source).truthy target (query.get source) proxy

/-- The fields that are not null. -/
def present (fields : Dict) : Dict := fields.filter fun field => !isNone field.2

/-- The fields that are true. -/
def filled (fields : Dict) : Dict := fields.filter fun field => field.2.truthy

/-- `[value] if value else None`. -/
def listOfFilled (value : Value) : Value := if value.truthy then .list [value] else .none

/-- The options of the transport that a URI declares. -/
def uriTransport (network : Text) (query proxy : Dict) : Dict :=
  let host := query.get "host"
  if network = "grpc".toList then
    proxy.set "grpc-opts" (.dict [("grpc-service-name".toList,
      ((query.get "serviceName").or (query.get "grpc-service-name")).or (.str []))])
  else if network = "ws".toList then
    proxy.set "ws-opts" (.dict (filled [("path".toList, query.get "path"),
      ("headers".toList, if host.truthy then .dict [("Host".toList, host)] else .none)]))
  else if network = "xhttp".toList then
    proxy.set "xhttp-opts" (.dict (filled [("path".toList, query.get "path"),
      ("mode".toList, query.get "mode"), ("host".toList, host), ("extra".toList, query.get "extra")]))
  else if network = "http".toList then
    proxy.set "http-opts" (.dict (filled [("path".toList, listOfFilled (query.get "path")),
      ("headers".toList, if host.truthy then .dict [("Host".toList, .list [host])] else .none)]))
  else if network = "h2".toList then
    proxy.set "h2-opts" (.dict (filled [("path".toList, query.get "path"),
      ("host".toList, listOfFilled host)]))
  else proxy

/-- `str(query.get("security") or "").strip().lower()`. -/
def uriSecurity (query : Dict) : Text := U.lower (strip ((query.get "security").textOr reprText))

/-- `query.get("pbk") or query.get("sid")`. -/
def uriMaterial (query : Dict) : Bool := (query.get "pbk").truthy || (query.get "sid").truthy

/-- The checks of `spx` and `seed`. -/
def uriRefusal (security network : Text) (query : Dict) : Option HookResult :=
  let seed := ((query.get "seed").asText).getD []
  if query.has "spx" ∧ (query.get "spx").isText "/".toList = false then
    some (refused "unsupported_security_value" "reality-opts.spider-x")
  else if query.has "spx" ∧ security ≠ "reality".toList then
    some (refused "unsupported_security_value" "reality-opts.spider-x")
  else if query.has "seed" ∧ (security ≠ "reality".toList ∨ network ≠ "grpc".toList ∨
      (query.get "flow").truthy ∨ (query.get "encryption").truthy ∨
      ¬(seed.length = 16 ∧ isHexText seed)) then
    some (refused "unsupported_security_value" "reality-opts.seed")
  else none

/-- The proxy that `_parse_uri` builds, with its declaration of UDP. -/
def uriProxy (security network : Text) (query : Dict) (udp : Option Text) (hostname : Text) (port : ℕ)
    (username fragment : Text) : Dict :=
  let name := strip (unquote fragment)
  let proxy : Dict := [("name".toList, .str (if name = [] then hostname else name)),
    ("type".toList, .str "vless".toList), ("server".toList, .str hostname),
    ("port".toList, .int port), ("uuid".toList, .str (unquote username)),
    ("network".toList, .str network),
    ("_fwrouter_udp_capability".toList, .str (udp.getD "unknown".toList)),
    ("udp".toList, .bool (udp.elim true fun udp => decide (udp = "supported".toList)))]
  let proxy := setIf (decide (security ≠ [])) "security" (.str security) proxy
  let proxy := setIf (decide (security = "reality".toList) || uriMaterial query) "reality-opts"
    (.dict (present [("public-key".toList, query.get "pbk"), ("short-id".toList, query.get "sid")]))
    proxy
  let proxy := copyFilled "fp" "client-fingerprint" query (copyFilled "sni" "servername" query
    (copyFilled "encryption" "encryption" query (copyFilled "flow" "flow" query proxy)))
  let proxy := (uriTransport network query proxy).set "_fwrouter_uri_query" (.dict query)
  setIf (query.has "seed") "_fwrouter_provider_metadata"
    (.dict [("vless_seed".toList, query.get "seed"),
      ("seed_semantics".toList, .str "opaque_compatibility_metadata".toList)]) proxy

/-- `_parse_uri`; `none` is a `ValueError` of `urlparse`. -/
def parseUri (netlocAccepted : Text → Bool) (uri : Text) : Option HookResult :=
  (urlsplit netlocAccepted uri).map fun parsed =>
    if parsed.scheme ≠ "vless".toList then { handled := false }
    else
      match queryDict parsed.query with
      | none => refused "duplicate_parameter" "uri.query"
      | some query =>
          let security := uriSecurity U reprText query
          if security ∉ securities then refused "unsupported_security" "security"
          else
            match parsed.hostname U, parsed.port, parsed.username with
            | some hostname, some (some (port + 1)), some (u :: username) =>
                let network := strip ((((query.get "type").or (query.get "network")).or
                  (.str "tcp".toList)).textOr reprText)
                let network := if network = [] then "tcp".toList else network
                if network ∉ transports then refused "unsupported_transport" "network"
                else
                  match uriRefusal security network query with
                  | some refusal => refusal
                  | none =>
                      let declared := query.has "udp"
                      let udp := udpCapability U (((query.get "udp").asText).getD [])
                      if declared = true ∧ udp = none then refused "invalid_field" "udp"
                      else
                        ⟨true, some (uriProxy security network query (if declared then udp else none)
                          hostname (port + 1) (u :: username) parsed.fragment), []⟩
            | _, _, _ => refused "invalid_endpoint" "uri"

/-- `parse_uri_protocol_proxy` at the VLESS integration. -/
def parseUriProtocolProxy (netlocAccepted : Text → Bool) (uri : Text) : Option NormalizationResult :=
  dispatchFormatHook U reprText "parse_uri" (parseUri U reprText netlocAccepted uri)

/-! ### Parsing an Xray outbound -/

/-- `value[0] if value and isinstance(value[0], dict) else {}`. -/
def firstDict (value : Value) : Dict := ((value.listOr.head?).bind Value.asDict).getD []

/-- `streamSettings` and its `realitySettings`. -/
def streamSettings (outbound : Dict) : Dict := (outbound.get "streamSettings").dictOr

def realitySettings (outbound : Dict) : Dict := ((streamSettings outbound).get "realitySettings").dictOr

/-- `str(stream.get("security") or "").lower()`. -/
def xraySecurity (outbound : Dict) : Text :=
  lowerOr U reprText ((streamSettings outbound).get "security")

/-- The fields of `tlsSettings`; `none` if `allowInsecure` is not a boolean. -/
def xrayTls (tls proxy : Dict) : Option Dict :=
  let insecure := tls.get "allowInsecure"
  if tls = [] then some proxy
  else if isNone insecure = false ∧ isBool insecure = false then none
  else
    let proxy := setIf (!isNone insecure) "skip-cert-verify" insecure
      (proxy.set "servername" ((tls.get "serverName").or (proxy.get "servername")))
    match tls.get "alpn" with
    | .list alpn => some (proxy.set "alpn" (.list alpn))
    | _ => some proxy

/-- The options of the transport that an outbound declares. -/
def xrayTransport (network : Text) (stream proxy : Dict) : Dict :=
  let copy (source target : String) : Dict :=
    match stream.get source with
    | .dict settings => proxy.set target (.dict settings)
    | _ => proxy
  if network = "grpc".toList then copy "grpcSettings" "grpc-opts"
  else if network = "ws".toList then copy "wsSettings" "ws-opts"
  else if network = "http".toList then copy "httpSettings" "http-opts"
  else if network = "h2".toList then copy "httpSettings" "h2-opts"
  else if network = "xhttp".toList then copy "xhttpSettings" "xhttp-opts"
  else proxy

/-- `_parse_xray`. -/
def parseXray (outbound : Dict) : HookResult :=
  if lowerOr U reprText (outbound.get "protocol") ≠ "vless".toList then { handled := false }
  else
    let stream := streamSettings outbound
    let reality := realitySettings outbound
    let security := xraySecurity U reprText outbound
    let tlsSettings := stream.get "tlsSettings"
    if security ∉ securities then refused "unsupported_security" "streamSettings.security"
    else if security ∈ ["tls".toList, "none".toList] ∧ reality ≠ [] then
      refused "unsupported_security" "realitySettings"
    else if tlsSettings.truthy ∧ security ≠ "tls".toList then
      refused "unsupported_security" "tlsSettings"
    else
      let target := firstDict ((outbound.get "settings").dictOr.get "vnext")
      let user := firstDict (target.get "users")
      let network := ((stream.get "network").or (.str "tcp".toList)).textOr reprText
      let name := (((outbound.get "remarks").or (outbound.get "name")).or (outbound.get "tag")).or
        (target.get "address")
      let proxy : Dict := [("name".toList, .str (strip (name.textOr reprText))),
        ("type".toList, .str "vless".toList), ("server".toList, target.get "address"),
        ("port".toList, target.get "port"),
        ("uuid".toList, (user.get "id").or (user.get "uuid")), ("network".toList, .str network),
        ("servername".toList, reality.get "serverName"),
        ("client-fingerprint".toList, reality.get "fingerprint"),
        ("_fwrouter_json_tag".toList, outbound.get "tag"),
        ("_fwrouter_udp_capability".toList, .str "unknown".toList)]
      let proxy := setIf (decide (reality ≠ [])) "reality-opts"
        (.dict (present [("public-key".toList, reality.get "publicKey"),
          ("short-id".toList, reality.get "shortId")])) proxy
      let proxy := setIf (decide (security ≠ [])) "tls"
        (.bool (decide (security ∈ ["tls".toList, "reality".toList])))
        (setIf (decide (security ≠ [])) "security" (.str security) proxy)
      match xrayTls tlsSettings.dictOr proxy with
      | none => refused "invalid_field" "tlsSettings.allowInsecure"
      | some proxy =>
          let proxy := copyFilled "encryption" "encryption" user
            (copyFilled "flow" "flow" user proxy)
          ⟨true, some (xrayTransport network stream proxy), []⟩

/-- `parse_xray_protocol_outbound` at the VLESS integration. -/
def parseXrayProtocolOutbound (outbound : Dict) : Option NormalizationResult :=
  dispatchFormatHook U reprText "parse_xray_outbound" (some (parseXray U reprText outbound))

/-! ### The native proxy -/

/-- A key that is FWRouter's own. -/
def isPrivate (key : Text) : Bool := "_fwrouter".toList.isPrefixOf key

/-- `_project_native_proxy`; `none` is the `ValueError`. -/
def projectNativeProxy (proxy : Dict) : Option Dict :=
  let isVless := U.lower (strip ((proxy.get "type").textOr reprText)) = "vless".toList
  let native :=
    if isVless then
      (normalizeVlessUdpCapability U reprText proxy).map fun (capability, attemptUdp) =>
        withUdp capability attemptUdp proxy
    else some proxy
  native.map fun native => native.filter fun field => !isPrivate field.1

end Hooks

/-! ## What the parsers leave -/

section Parsers

variable {proxy query : Dict} {condition : Bool} {key target : String} {value : Value} {network : Text}

lemma get_setIf_of_ne (h : key ≠ target) : (setIf condition target value proxy).get key = proxy.get key := by
  rw [setIf]
  split_ifs
  · exact Dict.get_set_of_ne h
  · rfl

lemma has_setIf_of_ne (h : key ≠ target) : (setIf condition target value proxy).has key = proxy.has key := by
  rw [setIf]
  split_ifs
  · exact Dict.has_set_of_ne h
  · rfl

lemma get_setIf_self :
    (setIf condition key value proxy).get key = if condition then value else proxy.get key := by
  rw [setIf]
  split_ifs
  · exact Dict.get_set_self
  · rfl

lemma has_setIf_self :
    (setIf condition key value proxy).has key = if condition then true else proxy.has key := by
  rw [setIf]
  split_ifs
  · exact Dict.has_set_self
  · rfl

/-- The keys under which the options of a transport are stored. -/
def optionKeys : List String := ["grpc-opts", "ws-opts", "xhttp-opts", "http-opts", "h2-opts"]

/-- The key is none of the options, in reading and in asking for it. -/
def SameAt (key : String) (proxy proxy' : Dict) : Prop :=
  proxy'.get key = proxy.get key ∧ proxy'.has key = proxy.has key

lemma sameAt_set (h : key ≠ target) : SameAt key proxy (proxy.set target value) :=
  ⟨Dict.get_set_of_ne h, Dict.has_set_of_ne h⟩

lemma sameAt_setIf (h : key ≠ target) : SameAt key proxy (setIf condition target value proxy) :=
  ⟨get_setIf_of_ne h, has_setIf_of_ne h⟩

lemma SameAt.trans {proxy₁ proxy₂ : Dict} (h : SameAt key proxy proxy₁) (h' : SameAt key proxy₁ proxy₂) :
    SameAt key proxy proxy₂ := ⟨h'.1.trans h.1, h'.2.trans h.2⟩

lemma sameAt_uriTransport (h : key ∉ optionKeys) : SameAt key proxy (uriTransport network query proxy) := by
  simp only [optionKeys, List.mem_cons, List.not_mem_nil, or_false, not_or] at h
  simp only [uriTransport]
  split
  · exact sameAt_set h.1
  split
  · exact sameAt_set h.2.1
  split
  · exact sameAt_set h.2.2.1
  split
  · exact sameAt_set h.2.2.2.1
  split
  · exact sameAt_set h.2.2.2.2
  · exact ⟨rfl, rfl⟩

lemma sameAt_xrayTransport (h : key ∉ optionKeys) :
    SameAt key proxy (xrayTransport network query proxy) := by
  have hcopy : ∀ source target : String, key ≠ target → SameAt key proxy
      (match query.get source with
        | .dict settings => proxy.set target (.dict settings)
        | _ => proxy) := by
    intro source target hne
    split
    · exact sameAt_set hne
    · exact ⟨rfl, rfl⟩
  simp only [optionKeys, List.mem_cons, List.not_mem_nil, or_false, not_or] at h
  simp only [xrayTransport]
  split_ifs
  · exact hcopy _ _ h.1
  · exact hcopy _ _ h.2.1
  · exact hcopy _ _ h.2.2.2.1
  · exact hcopy _ _ h.2.2.2.2
  · exact hcopy _ _ h.2.2.1
  · exact ⟨rfl, rfl⟩

lemma sameAt_xrayTls {tls proxy' : Dict} (h : key ∉ ["servername", "skip-cert-verify", "alpn"])
    (hok : xrayTls tls proxy = some proxy') : SameAt key proxy proxy' := by
  simp only [List.mem_cons, List.not_mem_nil, or_false, not_or] at h
  have hnamed : ∀ insecure value, SameAt key proxy
      (setIf (!isNone insecure) "skip-cert-verify" insecure (proxy.set "servername" value)) :=
    fun insecure value => (sameAt_set h.1).trans (sameAt_setIf h.2.1)
  simp only [xrayTls] at hok
  split_ifs at hok
  · obtain rfl := Option.some.inj hok
    exact ⟨rfl, rfl⟩
  · split at hok
    · obtain rfl := Option.some.inj hok
      exact (hnamed _ _).trans (sameAt_set h.2.2)
    · obtain rfl := Option.some.inj hok
      exact hnamed _ _

end Parsers

/-! ## What the hooks leave -/

section Fields

variable {U : Unicode} {reprText : Text → Text} {proxy : Dict} {capability security : Text}
  {attemptUdp : Bool} {key : String}

lemma get_withUdp (hmarker : key ≠ "_fwrouter_udp_capability") (hudp : key ≠ "udp") :
    (withUdp capability attemptUdp proxy).get key = proxy.get key := by
  rw [withUdp, Dict.get_set_of_ne hudp, Dict.get_set_of_ne hmarker]

lemma has_withUdp (hmarker : key ≠ "_fwrouter_udp_capability") (hudp : key ≠ "udp") :
    (withUdp capability attemptUdp proxy).has key = proxy.has key := by
  rw [withUdp, Dict.has_set_of_ne hudp, Dict.has_set_of_ne hmarker]

lemma get_withTls (htls : key ≠ "tls") : (withTls security proxy).get key = proxy.get key := by
  rw [withTls]
  split_ifs
  · exact Dict.get_set_of_ne htls
  · exact Dict.get_set_of_ne htls
  · rfl

lemma has_withTls (htls : key ≠ "tls") : (withTls security proxy).has key = proxy.has key := by
  rw [withTls]
  split_ifs
  · exact Dict.has_set_of_ne htls
  · exact Dict.has_set_of_ne htls
  · rfl

lemma get_normalizeFields (hreality : key ≠ "reality-opts") :
    (normalizeFields proxy).get key = proxy.get key := by
  rw [normalizeFields]
  split
  · exact Dict.get_set_of_ne hreality
  · rfl

lemma has_normalizeFields (hreality : key ≠ "reality-opts") :
    (normalizeFields proxy).has key = proxy.has key := by
  rw [normalizeFields]
  split
  · exact Dict.has_set_of_ne hreality
  · rfl

/-- A key with a value that is not null is there. -/
lemma has_of_get {v : Value} (h : proxy.get key = v) (hv : isNone v = false) : proxy.has key = true := by
  rw [Dict.get] at h
  cases hlookup : proxy.lookup key.toList with
  | none =>
      rw [hlookup, Option.getD_none] at h
      rw [← h] at hv
      cases hv
  | some w =>
      rw [Dict.has, hlookup]
      rfl

lemma has_reality_normalizeFields :
    (normalizeFields proxy).has "reality-opts" = proxy.has "reality-opts" := by
  rw [normalizeFields]
  split
  · rename_i options hoptions
    rw [Dict.has_set_self, has_of_get hoptions rfl]
  · rfl

lemma withoutNullShortId_idem (options : Dict) :
    withoutNullShortId (withoutNullShortId options) = withoutNullShortId options := by
  by_cases hnull : (options.has "short-id" && isNone (options.get "short-id")) = true
  · have hout : withoutNullShortId options =
        options.filter fun field => decide (field.1 ≠ "short-id".toList) := by
      rw [withoutNullShortId, if_pos hnull]
    have hgone : Dict.has (options.filter fun field => decide (field.1 ≠ "short-id".toList))
        "short-id" = false := by
      rw [Dict.has]
      have hnone : (options.filter fun field => decide (field.1 ≠ "short-id".toList)).lookup
          "short-id".toList = none := by
        refine List.lookup_eq_none_iff.mpr fun field hfield => ?_
        have := of_decide_eq_true (List.mem_filter.mp hfield).2
        simpa using Ne.symm this
      rw [hnone]
      rfl
    rw [hout, withoutNullShortId, hgone, Bool.false_and, if_neg (by decide)]
  · have hout : withoutNullShortId options = options := by rw [withoutNullShortId, if_neg hnull]
    rw [hout, hout]

lemma normalizeFields_idem (proxy : Dict) :
    normalizeFields (normalizeFields proxy) = normalizeFields proxy := by
  cases hoptions : proxy.get "reality-opts" with
  | dict options =>
      have hfirst : normalizeFields proxy =
          proxy.set "reality-opts" (.dict (withoutNullShortId options)) := by
        rw [normalizeFields, hoptions]
      rw [hfirst, normalizeFields, Dict.get_set_self]
      dsimp only
      rw [withoutNullShortId_idem]
      exact Dict.set_eq_self Dict.has_set_self Dict.get_set_self
  | _ =>
      have hfirst : normalizeFields proxy = proxy := by rw [normalizeFields, hoptions]
      rw [hfirst, hfirst]

lemma capability_spec (h : normalizeVlessUdpCapability U reprText proxy = some (capability, attemptUdp)) :
    capability ∈ capabilities ∧ attemptUdp = decide (capability ≠ "unsupported".toList ∧
      U.lower (strip (networkOf reprText proxy)) ∈ transports) := by
  rw [normalizeVlessUdpCapability, Option.map_eq_some_iff] at h
  rcases h with ⟨declared, hdeclared, heq⟩
  obtain ⟨rfl, rfl⟩ := Prod.mk.inj heq
  refine ⟨?_, rfl⟩
  split at hdeclared
  · split_ifs at hdeclared
    · split at hdeclared
      · exact Option.some.inj hdeclared ▸ by decide
      · exact Option.some.inj hdeclared ▸ by decide
      · cases hdeclared
    · exact Option.some.inj hdeclared ▸ by decide
  · split_ifs at hdeclared with hmem
    exact Option.some.inj hdeclared ▸ hmem
  · cases hdeclared

lemma capability_of_marker (hmarker : proxy.get "_fwrouter_udp_capability" = .str capability)
    (hmem : capability ∈ capabilities) :
    normalizeVlessUdpCapability U reprText proxy =
      some (capability, decide (capability ≠ "unsupported".toList ∧
        U.lower (strip (networkOf reprText proxy)) ∈ transports)) := by
  rw [normalizeVlessUdpCapability, hmarker]
  dsimp only
  rw [if_pos hmem]
  rfl

/-- Without a stored capability the flag is the declaration. -/
lemma capability_of_flag (hmarker : proxy.get "_fwrouter_udp_capability" = .none)
    (hudp : proxy.has "udp" = true) (hflag : proxy.get "udp" = .bool attemptUdp)
    (hattempt : attemptUdp = true → U.lower (strip (networkOf reprText proxy)) ∈ transports) :
    normalizeVlessUdpCapability U reprText proxy =
      some (if attemptUdp then "supported".toList else "unsupported".toList, attemptUdp) := by
  rw [normalizeVlessUdpCapability, hmarker]
  dsimp only
  rw [if_pos hudp, hflag]
  cases attemptUdp with
  | true =>
      have hne : "supported".toList ≠ "unsupported".toList := by decide +kernel
      dsimp only
      rw [Option.map_some, if_pos rfl, decide_eq_true ⟨hne, hattempt rfl⟩]
  | false =>
      dsimp only
      rw [Option.map_some, if_neg (by decide), decide_eq_false fun h => h.1 rfl]

end Fields

end FwRouter.Protocols
