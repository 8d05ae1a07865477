import FwRouter.Library.FirstMatch
import FwRouter.Nft.Classify
import FwRouter.Python.Value

/-!
# Scoped steering

`render_owned_table_candidate` puts the rules of the active subjects between the first lines of the
classify chain and the lines of the global mode.  Each subject with a scoped matcher has a block: its
path is direct, vpn, blocked or selective, and each line of the block tests the source.  With disjoint
sources a block ends the evaluation for its own subject and is silent about all others
(`scoped_steering`).

The renderer asks the matcher for its family by its text.  `_ip_matcher` always writes it
(`family_of_ipMatcher`).  A matcher without it is accepted too: then a blocked subject is dropped and
not rejected (`Example.dropped_without_family`), and a selective one gets the default alone.

What nft makes of an expression with its value is a parameter.  The renderer has other reasons to
refuse a manifest (a docker conflict, ports, interfaces), which are left out: what is said here is said
of more manifests.
-/

namespace FwRouter.Steering

open Py Ipaddress

/-! ## Rules and packets -/

/-- A packet with its source; both addresses are of one version. -/
structure SentPacket extends Packet where
  saddr : Addr
  sameVersion : saddr.version = daddr.version

/-- How the evaluation of the chain ends. -/
inductive Outcome
  | direct
  | vpn
  | vpnFull
  | drop
  | reject (icmp : String)
  | ret
deriving DecidableEq

/-- The two VPN branches count as one. -/
def Outcome.branch : Outcome → Outcome
  | .vpnFull => .vpn
  | outcome => outcome

/-- A counter lets the evaluation go on. -/
def outcomeOf : Verdict → Option Outcome
  | .gotoDirect => some .direct
  | .gotoVpn => some .vpn
  | .gotoVpnFull => some .vpnFull
  | .drop => some .drop
  | .counter => none

def Outcome.text : Outcome → String
  | .direct => "goto fwrouter_direct"
  | .vpn => "goto fwrouter_vpn"
  | .vpnFull => "goto fwrouter_vpn_full"
  | .drop => "drop"
  | .reject icmp => "reject with " ++ icmp ++ " type admin-prohibited"
  | .ret => "counter return"

/-- A scoped steering rule: the source, and for some of them a destination set. -/
structure SteeringRule where
  expr : Text
  val : Text
  daddr : Option SetName
  outcome : Outcome
  comment : Text

/-- The rule as it stands in the nft file. -/
def SteeringRule.text (r : SteeringRule) : Text :=
  "        ".toList ++ r.expr ++ " ".toList ++ r.val ++ " ".toList ++
    ((r.daddr.elim "" fun set => (LineMatch.daddr set).text) ++ r.outcome.text).toList ++
    " comment \"".toList ++ r.comment ++ "\"".toList

inductive ClassifyRule
  | line (l : ChainLine)
  | steering (r : SteeringRule)
  | bypass

section Evaluate

variable (nft : Text → Text → Addr → Bool) (sets : SetName → List IpNetwork)

/-- What a rule does with a packet; `none` lets it go on. -/
def ClassifyRule.decides : ClassifyRule → SentPacket → Option Outcome
  | .line l, p => if l.on.holds sets p.toPacket then outcomeOf l.verdict else none
  | .steering r, p =>
      if nft r.expr r.val p.saddr && r.daddr.all fun set => (LineMatch.daddr set).holds sets p.toPacket
      then some r.outcome else none
  | .bypass, _ => some .ret

/-- First-match evaluation of the chain. -/
def evaluate (rules : List ClassifyRule) (p : SentPacket) : Option Outcome :=
  FirstMatch.eval (ClassifyRule.decides nft sets) rules p

end Evaluate

/-! ## The chain -/

/-- What the chain takes from the manifest besides the subjects. -/
structure Settings where
  mode : Text
  selectiveDefault : Text
  selectiveVpnPolicyReady : Bool
  selectiveDegraded : Bool

/-- The first lines of `_build_classify_chain_lines`. -/
def classifyHead : List ChainLine :=
  [⟨.fibDaddrLocal, .gotoDirect, "host-local destination always direct"⟩,
    ⟨.daddr .protectedIpv4, .gotoDirect, "protected IPv4 always direct"⟩,
    ⟨.daddr .protectedIpv6, .gotoDirect, "protected IPv6 always direct"⟩,
    ⟨.tcpDport22, .gotoDirect, "management tcp ingress direct"⟩]

/-- The line for a set of VPN destinations. -/
def vpnLine (ready : Bool) (set : SetName) (comment degraded : String) : ChainLine :=
  if ready then ⟨.daddr set, .gotoVpn, comment⟩ else ⟨.daddr set, .drop, degraded⟩

/-- Its last lines, those of the global mode.  Another mode has none. -/
def globalLines (s : Settings) : List ChainLine :=
  if s.mode = "direct".toList then [⟨.always, .gotoDirect, "global direct v1"⟩]
  else if s.mode = "vpn".toList then [⟨.always, .gotoVpnFull, "global vpn v1"⟩]
  else if s.mode = "selective".toList then
    [⟨.daddr .directIpv4, .gotoDirect, "selective direct IPv4"⟩,
      ⟨.daddr .dnsDirectIpv4, .gotoDirect, "selective dns direct IPv4"⟩,
      ⟨.daddr .directIpv6, .gotoDirect, "selective direct IPv6"⟩,
      vpnLine s.selectiveVpnPolicyReady .vpnIpv4 "selective vpn IPv4"
        "selective degraded block VPN IPv4",
      vpnLine s.selectiveVpnPolicyReady .dnsVpnIpv4 "selective dns vpn IPv4"
        "selective degraded block DNS VPN IPv4",
      vpnLine s.selectiveVpnPolicyReady .vpnIpv6 "selective vpn IPv6"
        "selective degraded block VPN IPv6"] ++
    if s.selectiveDefault = "vpn".toList then
      if s.selectiveVpnPolicyReady then [⟨.always, .gotoVpnFull, "selective default vpn"⟩]
      else [⟨.always, .counter, "selective degraded default vpn blocked"⟩,
        ⟨.always, .drop, "selective default vpn"⟩]
    else [⟨.always, .gotoDirect, if s.selectiveDegraded then "selective degraded default direct"
      else "selective default direct"⟩]
  else []

/-- `_build_classify_chain_lines` with the scoped rules. -/
def Settings.chain (s : Settings) (scopedSteeringRules : List SteeringRule) : List ClassifyRule :=
  classifyHead.map .line ++ scopedSteeringRules.map .steering ++ (globalLines s).map .line

/-! ## The blocks of the subjects -/

/-- What the renderer reads of a scoped matcher. -/
structure ScopedMatcher where
  expr : Text
  val : Text
  family : Text
deriving DecidableEq

/-- `MAX_DOCKER_IPV4_SOURCE_ADDRESSES`. -/
def maxDockerIpv4SourceAddresses : ℕ := 64

/-- The version that the family and the expression of an inventory agree on. -/
def expectedVersion (family expr : Value) : Option Version :=
  if family.isText "ipv4".toList && expr.isText "ip saddr".toList then some .v4
  else if family.isText "ipv6".toList && expr.isText "ip6 saddr".toList then some .v6
  else none

/-- The value of a complete inventory; `none` is a `DockerPolicyConflictError`. -/
def inventoryValue (expr val family : Value) (values : List Value) : Option Text := do
  let texts ← values.mapM Value.asText
  if texts = [] ∨ maxDockerIpv4SourceAddresses < texts.length then none
  else
    let parsed ← texts.mapM ipAddress
    let primaryText ← val.asText
    let primary ← ipAddress primaryText
    let version ← expectedVersion family expr
    if primary.addr.version ≠ version ∨ parsed.any (fun a => decide (a.addr.version ≠ version)) ∨
        parsed.map IpAddress.str ≠ texts ∨ primary.str ≠ primaryText ∨ primary ∉ parsed then none
    else
      match texts.dedup.mergeSort fun a b => decide (a ≤ b) with
      | [single] => some single
      | normalized => some ("\x7b ".toList ++ ", ".toList.intercalate normalized ++ " \x7d".toList)

section Subjects

variable (U : Unicode) (reprText : Text → Text)

/-- `str(value or "").strip().lower()`. -/
def pathText (value : Value) : Text := U.lower (strip (value.textOr reprText))

/-- `_resolved_subject_path`. -/
def resolvedSubjectPath (subject : Dict) : Text :=
  let explicitPath := pathText U reprText (subject.get "dataplane_path")
  if explicitPath ≠ [] then explicitPath
  else
    match subject.get "effective_state" with
    | .dict effectiveState =>
        let effectivePath := pathText U reprText (Dict.get effectiveState "dataplane_path")
        let effectiveMode := pathText U reprText (Dict.get effectiveState "effective_mode")
        if effectivePath ≠ [] then effectivePath
        else if effectiveMode ∈ ["direct".toList, "vpn".toList, "selective".toList] then effectiveMode
        else []
    | _ => []

/-- The dict that holds the matcher: the runtime state itself if it has none of its own. -/
def matcherDict (scopedRuntime : Dict) : Dict :=
  match scopedRuntime.get "matcher" with
  | .dict matcher => matcher
  | _ => scopedRuntime

/-- `_scoped_matcher`; the outer `none` is a `DockerPolicyConflictError`. -/
def scopedMatcher (subject : Dict) : Option (Option ScopedMatcher) :=
  match subject.get "scoped_runtime" with
  | .dict scopedRuntime =>
      let matcher := matcherDict scopedRuntime
      let expr := matcher.get "nft_expr"
      let val := matcher.get "value"
      let family := matcher.get "family"
      if expr.truthy = false ∨ val.truthy = false then some none
      else
        match matcher.get "values" with
        | .none => some (some ⟨expr.text reprText, val.text reprText, family.textOr reprText⟩)
        | .list values =>
            (inventoryValue expr val family values).map fun val =>
              some ⟨expr.text reprText, val, family.textOr reprText⟩
        | _ => none
  | _ => some none

/-- A selective subject's rule for a set of VPN destinations. -/
def vpnRule (s : Settings) (m : ScopedMatcher) (id : Text) (set : SetName) (comment degraded : String) :
    SteeringRule :=
  if s.selectiveVpnPolicyReady then ⟨m.expr, m.val, some set, .vpn, comment.toList ++ id⟩
  else ⟨m.expr, m.val, some set, .drop, degraded.toList ++ id⟩

/-- Its rule for all other destinations. -/
def defaultRule (s : Settings) (m : ScopedMatcher) (id : Text) : SteeringRule :=
  if s.selectiveDefault = "vpn".toList ∧ s.selectiveVpnPolicyReady = false then
    ⟨m.expr, m.val, none, .drop, "scoped selective degraded default vpn blocked: ".toList ++ id⟩
  else
    ⟨m.expr, m.val, none, if s.selectiveDefault = "vpn".toList then .vpn else .direct,
      (if s.selectiveDefault = "direct".toList ∧ s.selectiveDegraded then
        "scoped selective degraded default direct: ".toList
      else "scoped selective default ".toList ++ s.selectiveDefault ++ ": ".toList) ++ id⟩

/-- The rules of a selective subject. -/
def selectiveBlock (s : Settings) (m : ScopedMatcher) (id : Text) : List SteeringRule :=
  (if m.family = "ipv4".toList then
    [⟨m.expr, m.val, some .directIpv4, .direct, "scoped selective direct IPv4: ".toList ++ id⟩,
      ⟨m.expr, m.val, some .dnsDirectIpv4, .direct, "scoped selective dns direct IPv4: ".toList ++ id⟩,
      vpnRule s m id .vpnIpv4 "scoped selective vpn IPv4: "
        "scoped selective degraded block VPN IPv4: ",
      vpnRule s m id .dnsVpnIpv4 "scoped selective dns vpn IPv4: "
        "scoped selective degraded block DNS VPN IPv4: "]
  else if m.family = "ipv6".toList then
    [⟨m.expr, m.val, some .directIpv6, .direct, "scoped selective direct IPv6: ".toList ++ id⟩,
      vpnRule s m id .vpnIpv6 "scoped selective vpn IPv6: "
        "scoped selective degraded block VPN IPv6: "]
  else []) ++ [defaultRule s m id]

/-- The end of a blocked subject's packets. -/
def blockedOutcome (m : ScopedMatcher) : Outcome :=
  if m.family = "ipv6".toList then .reject "icmpv6"
  else if m.family = "ipv4".toList then .reject "icmpx"
  else .drop

/-- The rules of a subject with a scoped matcher. -/
def steeringBlock (s : Settings) (path : Text) (m : ScopedMatcher) (id : Text) : List SteeringRule :=
  if path = "selective".toList then selectiveBlock s m id
  else if path = "blocked".toList then
    [⟨m.expr, m.val, none, blockedOutcome m, "scoped disabled block: ".toList ++ id⟩]
  else if path ∈ ["vpn".toList, "direct".toList] then
    [⟨m.expr, m.val, none, if path = "vpn".toList then .vpnFull else .direct,
      "scoped ".toList ++ path ++ " override: ".toList ++ id⟩]
  else []

/-- The rules that the renderer adds for a subject. -/
def steeringRules (s : Settings) (subject : Dict) : Option (List SteeringRule) :=
  (scopedMatcher reprText subject).map fun matcher =>
    match matcher with
    | none => []
    | some m =>
        steeringBlock s (resolvedSubjectPath U reprText subject) m
          ((subject.get "subject_id").text reprText)

/-! ## The manifest -/

/-- `extra.core_bypass.enabled`. -/
def coreBypassEnabled (manifest : Dict) : Bool :=
  match ((manifest.get "extra").dictOr).get "core_bypass" with
  | .dict coreBypass => (Dict.get coreBypass "enabled").truthy
  | _ => false

def activeSubjects (manifest : Dict) : List Dict :=
  ((manifest.get "subjects").listOr.filterMap Value.asDict).filter fun subject =>
    (subject.get "is_active").truthy

/-- `none` is the `AttributeError` of a manifest without a summary or without a preflight. -/
def settingsOf (manifest : Dict) : Option Settings := do
  let summary ← (manifest.get "summary").asDict
  let preflight ← (manifest.get "global_preflight").asDict
  return ⟨(((summary.get "global_mode").or (.str "direct".toList)).text reprText),
    U.lower (((summary.get "selective_default").or (.str "direct".toList)).text reprText),
    (preflight.get "selective_vpn_policy_ready").truthy, (preflight.get "selective_degraded").truthy⟩

/-- The classify chain of `render_owned_table_candidate`. -/
def renderClassifyChain (manifest : Dict) : Option (List ClassifyRule) :=
  if coreBypassEnabled manifest then some [.bypass]
  else do
    let settings ← settingsOf U reprText manifest
    let blocks ← (activeSubjects manifest).mapM (steeringRules U reprText settings)
    return settings.chain blocks.flatten

end Subjects

end FwRouter.Steering
