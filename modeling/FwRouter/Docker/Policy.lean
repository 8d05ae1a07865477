import FwRouter.Python.Value
import FwRouter.Nft.RuleSets

/-!
# The Docker policy validator

`services/docker_policy.py`: the check that an active Docker subject on the VPN path does not have
an address that the nft table protects as infrastructure, and that the addresses of the Docker
subjects on the direct path are covered.  The subjects are dicts of a manifest that may be built by
hand, so that every field is read with its fallbacks.  A subject is told from the others by its
place in the list, as the code does by identity.
-/

namespace FwRouter.Docker

open Py Ipaddress

variable (U : Unicode) (reprText : Text → Text)

/-! ## The fields of a subject -/

def maxDockerIpv4SourceAddresses : Nat := 64

/-- `scoped_runtime`, or else that of `effective_state`. -/
def scopedRuntime (s : Dict) : Option Dict :=
  match (s.get "scoped_runtime").asDict with
  | some runtime => some runtime
  | none => (s.get "effective_state").asDict.bind fun e => (e.get "scoped_runtime").asDict

def matcherOf (s : Dict) : Option Dict :=
  (scopedRuntime s).bind fun runtime => (runtime.get "matcher").asDict

/-- A field of the scoped runtime; `None` without one. -/
def runtimeField (s : Dict) (key : String) : Value :=
  match scopedRuntime s with
  | some runtime => runtime.get key
  | none => .none

/-- The normalised `dataplane_path`, or else that of `effective_state`. -/
def dataplanePath (s : Dict) : Text :=
  let effective := match (s.get "effective_state").asDict with
    | some e => e.get "dataplane_path"
    | none => .str []
  U.lower (strip (((s.get "dataplane_path").or effective).textOr reprText))

def subjectType (s : Dict) : Text := (s.get "subject_type").textOr reprText

def isActive (s : Dict) : Bool := (s.get "is_active").truthy

def subjectId (s : Dict) : Text :=
  ((s.get "subject_id").or (.str "docker-subject".toList)).text reprText

/-- `detail["source"]`, or else `detail["source_json"]`, when it is a dict. -/
def dockerSource (s : Dict) : Option Dict :=
  (s.get "detail").asDict.bind fun detail =>
    ((detail.get "source").or (detail.get "source_json")).asDict

def hostNetworkMode (source : Dict) : Bool :=
  decide (U.lower (strip ((source.get "NetworkMode").textOr reprText)) = "host".toList)

/-! ## Addresses -/

/-- `_canonical_ipv4_values`. -/
def canonicalIpv4Values : Value → Option (Finset IpAddress)
  | .list values => do
      if values = [] ∨ maxDockerIpv4SourceAddresses < values.length then none
      let texts ← values.mapM Value.asText
      let parsed ← texts.mapM ipAddress
      if ∀ p ∈ texts.zip parsed, p.2.addr.version = .v4 ∧ p.2.str = p.1 then parsed.toFinset
      else none
  | _ => none

/-- `_subject_ipv4`: the address of the matcher. -/
def subjectIpv4 (s : Dict) : Option IpAddress :=
  (matcherOf s).bind fun matcher =>
    let value := matcher.get "value"
    if !value.truthy then none
    else (ipAddress (strip (value.text reprText))).filter fun a => decide (a.addr.version = .v4)

/-- What an inventory of addresses comes to: the addresses, the primary one, and whether the
container shares the network of the host. -/
structure Inventory where
  addresses : Finset IpAddress
  primary : IpAddress
  hostNetwork : Bool

def completeNoGlobalIpv6 : Text := "complete_no_global_ipv6".toList

/-- The inventory of `observed_docker_source`; `none` where `_docker_ipv4_addresses` gives up. -/
def readObserved (observed : Dict) : Option Inventory := do
  if !(observed.get "available").isTrue || !(observed.get "valid").isTrue then none
  let addresses ← canonicalIpv4Values (observed.get "ipv4_addresses")
  let primary ← (observed.get "primary_ipv4").asText.bind ipAddress
  if (observed.get "ipv4_inventory_complete").isTrue ∧
      (observed.get "ipv6_inventory_status").isText completeNoGlobalIpv6 ∧
      primary.addr.version = .v4 ∧ primary ∈ addresses then
    some ⟨addresses, primary, (observed.get "host_network").isTrue⟩
  else none

def noIpv6 (source : Dict) : Bool :=
  (source.get "IPv6InventoryComplete").isTrue &&
    match source.get "IPv6Addresses" with
    | .list [] => true
    | _ => false

/-- The inventory of `detail` and its source. -/
def readSource (detail source : Dict) : Option Inventory := do
  let addresses ← canonicalIpv4Values (source.get "IPv4Addresses")
  let primary ← (detail.get "ip_address").asText.bind ipAddress
  if (source.get "IPv4InventoryComplete").isTrue ∧ noIpv6 source ∧
      primary.addr.version = .v4 ∧ primary ∈ addresses then
    some ⟨addresses, primary, hostNetworkMode U reprText source⟩
  else none

/-- The observation and the source say the same.  The observation was complete, so that the fields
compared with its own are compared with `True`. -/
def agrees (observed detail source : Dict) (seen : Inventory) : Bool :=
  decide (canonicalIpv4Values (source.get "IPv4Addresses") = some seen.addresses) &&
    decide ((detail.get "ip_address").asText = (observed.get "primary_ipv4").asText) &&
    decide (hostNetworkMode U reprText source = seen.hostNetwork) &&
    (source.get "IPv4InventoryComplete").isTrue && noIpv6 source

/-- The inventory that the subject shows: the outer `none` where `_docker_ipv4_addresses` gives up,
the inner one where there is nothing to read. -/
def observedInventory (s : Dict) : Option (Option Inventory) :=
  match (s.get "observed_docker_source").asDict, (s.get "detail").asDict, dockerSource s with
  | some observed, some detail, some source =>
      (readObserved observed).bind fun seen =>
        if agrees U reprText observed detail source seen then some (some seen) else none
  | some observed, _, _ => (readObserved observed).map some
  | none, some detail, some source => (readSource U reprText detail source).map some
  | none, _, _ => some none

/-- `_docker_ipv4_addresses`: a complete inventory, held against the claimed coverage. -/
def dockerIpv4Addresses (s : Dict) : Option (Finset IpAddress) := do
  let seen ← observedInventory U reprText s
  match (runtimeField s "direct_source_coverage").asDict with
  | none => seen.map Inventory.addresses
  | some coverage =>
      if !(coverage.get "ipv4_inventory_complete").isTrue ||
          !(coverage.get "ipv6_inventory_status").isText completeNoGlobalIpv6 then none
      let addresses ← canonicalIpv4Values (coverage.get "ipv4_addresses")
      match seen with
      | some i => if addresses ≠ i.addresses ∨ i.primary ∉ addresses then none else some addresses
      | none => if addresses.card ≠ 1 then none else some addresses

/-- The inventory, or else the address of the matcher. -/
def sourceAddresses (s : Dict) : Finset IpAddress :=
  match dockerIpv4Addresses U reprText s with
  | some addresses => addresses
  | none => (subjectIpv4 reprText s).toFinset

/-! ## Conflicts -/

inductive Reason
  | directSourceCoverageIncomplete
  | matcherOverlapsInfrastructure
  | invalidInfrastructureIpv4
  | protectedRuntime
  | matcherNotResolved
  | runtimeNotReady
  deriving DecidableEq

def Reason.text : Reason → Text
  | .directSourceCoverageIncomplete => "docker_direct_source_coverage_incomplete".toList
  | .matcherOverlapsInfrastructure => "docker_vpn_matcher_overlaps_infrastructure".toList
  | .invalidInfrastructureIpv4 => "invalid_infrastructure_ipv4".toList
  | .protectedRuntime => "protected_runtime_cannot_use_scoped_vpn".toList
  | .matcherNotResolved => "docker_vpn_matcher_not_resolved_ipv4".toList
  | .runtimeNotReady => "docker_vpn_runtime_not_ready".toList

/-- A subject, by its id, and a reason. -/
abbrev Conflict := Text × Reason

def vpnText : Text := "vpn".toList
def directText : Text := "direct".toList
def dockerText : Text := "docker".toList

/-- `global_mode in {"vpn", "selective"}`. -/
def reachesVpn (globalMode : Option Text) : Bool :=
  decide (globalMode = some vpnText ∨ globalMode = some "selective".toList)

def infrastructureRole (s : Dict) : Bool := (runtimeField s "infrastructure_role").truthy

def applied (s : Dict) : Bool := (runtimeField s "applied").truthy

def hostNetwork (s : Dict) : Bool :=
  match dockerSource s, (s.get "observed_docker_source").asDict with
  | some source, _ => hostNetworkMode U reprText source
  | none, some observed => (observed.get "host_network").isTrue
  | none, none => false

/-- The subject is an active Docker subject on the direct path whose sources must be covered. -/
def needsCoverage (globalMode : Option Text) (s : Dict) : Bool :=
  (s.get "subject_type").isText dockerText && reachesVpn globalMode &&
    decide (dataplanePath U reprText s = directText) && !infrastructureRole s &&
    !hostNetwork U reprText s

/-- `ip_address(value) if type(value) is str else None`; the outer `none` is the `ValueError`. -/
def parseText : Value → Option (Option IpAddress)
  | .str t => (ipAddress t).map some
  | _ => some none

/-- The inventory of a subject on the direct path, if its matcher renders all of it. -/
def coveredInventory (s : Dict) : Option (Finset IpAddress) :=
  let matcher := (matcherOf s).getD []
  let observedPrimaryValue :=
    match (s.get "observed_docker_source").asDict, (s.get "detail").asDict with
    | some observed, _ => observed.get "primary_ipv4"
    | none, some detail => detail.get "ip_address"
    | none, none => .none
  match dockerIpv4Addresses U reprText s, parseText (matcher.get "value"),
      parseText observedPrimaryValue with
  | some inventory, some (some primary), some observedPrimary =>
      if primary.addr.version ≠ .v4 ∨
          canonicalIpv4Values (matcher.get "values") ≠ some inventory ∨ primary ∉ inventory ∨
          (observedPrimary ≠ none ∧ observedPrimary ≠ some primary) then none
      else some inventory
  | _, _, _ => none

/-- What the first loop says of one subject. -/
def coverageConflicts (globalMode : Option Text) (s : Dict) : List Conflict :=
  let incomplete : Conflict := (subjectId reprText s, .directSourceCoverageIncomplete)
  let needed := needsCoverage U reprText globalMode s
  (if ((matcherOf s).getD []).has "values" && !needed then [incomplete] else []) ++
    (if !isActive s || !needed then []
    else
      (if (runtimeField s "status").isText "pending_docker_direct_source_coverage".toList then
        [incomplete] else []) ++
      if coveredInventory U reprText s = none then [incomplete] else [])

/-- What the second loop says of one subject on the direct path. -/
def overlapConflicts (globalMode : Option Text) (others : List Dict) (s : Dict) : List Conflict :=
  if !isActive s || !needsCoverage U reprText globalMode s then []
  else
    match coveredInventory U reprText s with
    | none => []
    | some addresses =>
        (others.filter fun other => (other.get "subject_type").isText dockerText &&
          isActive other && decide (dataplanePath U reprText other ≠ directText) &&
          decide (addresses ∩ sourceAddresses U reprText other).Nonempty).map
          fun _ => (subjectId reprText s, .matcherOverlapsInfrastructure)

/-- An active Docker subject on the VPN path. -/
def isVpnSubject (s : Dict) : Bool :=
  decide (subjectType reprText s = dockerText) && isActive s &&
    decide (dataplanePath U reprText s = vpnText)

/-- A Docker subject whose source the renderer protects. -/
def dockerImmune (s : Dict) : Bool :=
  decide (subjectType reprText s = dockerText) &&
    (!isActive s ||
      decide (dataplanePath U reprText s ∉ [directText, vpnText, "blocked".toList]) ||
      (decide (dataplanePath U reprText s = vpnText) && !applied s))

def isProtected (s : Dict) : Bool :=
  decide (subjectType reprText s ∈ ["host".toList, "fwrouter".toList]) || infrastructureRole s ||
    dockerImmune U reprText s

/-- The protected addresses of one subject. -/
def protectedBy (s : Dict) : Finset IpAddress :=
  if !isProtected U reprText s then ∅
  else if subjectType reprText s = dockerText then sourceAddresses U reprText s
  else (subjectIpv4 reprText s).toFinset

def protectedAddresses (subjects : List Dict) : Finset IpAddress :=
  (subjects.map (protectedBy U reprText)).foldr (· ∪ ·) ∅

/-- The networks of `infrastructure_ipv4`; `none` if one of them is no IPv4 network. -/
def protectedNetworks (infrastructureIpv4 : List Text) : Option (List IpNetwork) :=
  infrastructureIpv4.mapM fun value =>
    (ipNetwork (strip value)).filter fun n => decide (n.version = .v4)

/-- What the last loop says of one subject on the VPN path. -/
def vpnConflict (subjects others : List Dict) (networks : List IpNetwork) (s : Dict) :
    Option Conflict :=
  let addresses := sourceAddresses U reprText s
  if infrastructureRole s then some (subjectId reprText s, .protectedRuntime)
  else
    match subjectIpv4 reprText s with
    | none => some (subjectId reprText s, .matcherNotResolved)
    | some address =>
        if address ∉ addresses then some (subjectId reprText s, .matcherNotResolved)
        else if !applied s then some (subjectId reprText s, .runtimeNotReady)
        else if ∃ other ∈ others, subjectType reprText other = dockerText ∧
            (addresses ∩ sourceAddresses U reprText other).Nonempty then
          some (subjectId reprText s, .matcherOverlapsInfrastructure)
        else if (addresses ∩ protectedAddresses U reprText subjects).Nonempty ∨
            ∃ n ∈ networks, ∃ a ∈ addresses, a.addr ∈ n then
          some (subjectId reprText s, .matcherOverlapsInfrastructure)
        else none

/-- `docker_vpn_immunity_conflicts`. -/
def dockerVpnImmunityConflicts (subjects : List Dict) (infrastructureIpv4 : List Text)
    (globalMode : Option Text) : List Conflict :=
  let direct := subjects.flatMap (coverageConflicts U reprText globalMode) ++
    subjects.zipIdx.flatMap fun p =>
      overlapConflicts U reprText globalMode (subjects.eraseIdx p.2) p.1
  if direct ≠ [] then direct
  else
    let vpnSubjects := subjects.zipIdx.filter fun p => isVpnSubject U reprText p.1
    match protectedNetworks infrastructureIpv4 with
    | none => vpnSubjects.map fun p => (subjectId reprText p.1, .invalidInfrastructureIpv4)
    | some networks => vpnSubjects.filterMap fun p =>
        vpnConflict U reprText subjects (subjects.eraseIdx p.2) networks p.1

/-! ## The infrastructure set of the rendered table -/

/-- What is read of a manifest here. -/
structure Manifest where
  subjects : List Value
  extra : Value
  globalMode : Value

/-- The subjects that are dicts. -/
def Manifest.dicts (m : Manifest) : List Dict := m.subjects.filterMap Value.asDict

def Manifest.coreBypassEnabled (m : Manifest) : Bool :=
  match m.extra.asDict.bind fun extra => (extra.get "core_bypass").asDict with
  | some bypass => (bypass.get "enabled").truthy
  | none => false

/-- `_read_manifest_extra_ipv4_list` without a default. -/
def readManifestExtraIpv4List (m : Manifest) (key : String) : List Text :=
  match m.extra.asDict with
  | none => []
  | some extra =>
      match extra.get key with
      | .list values =>
          sortedUnique ((values.map fun v => strip (v.text reprText)).filter fun t => !t.isEmpty)
      | _ => []

/-- What one subject adds to the set. -/
def infrastructureIp (s : Dict) : Option Text :=
  (s.get "scoped_runtime").asDict.bind fun runtime =>
    (runtime.get "matcher").asDict.bind fun matcher =>
      let value := (matcher.get "value").text reprText
      if !(matcher.get "family").isText "ipv4".toList || !(matcher.get "value").truthy then none
      else if subjectType reprText s ∈ ["host".toList, "fwrouter".toList] ∨
          (runtime.get "infrastructure_role").truthy then some value
      else if subjectType reprText s ≠ dockerText then none
      else if !isActive s ∨
          dataplanePath U reprText s ∉ [directText, vpnText, "blocked".toList] then some value
      else if dataplanePath U reprText s = vpnText ∧ !(runtime.get "applied").truthy then some value
      else none

def infrastructureIps (m : Manifest) : List Text :=
  sortedUnique (m.dicts.filterMap (infrastructureIp U reprText) ++
    readManifestExtraIpv4List reprText m "infrastructure_ipv4")

/-- The part of the owned table that is followed here. -/
structure OwnedTable where
  infrastructureIpv4 : List Text

/-- `render_owned_table_candidate`, up to the set; the table of the core bypass has none. -/
def renderOwnedTableCandidate (m : Manifest) : Except Conflict OwnedTable :=
  if m.coreBypassEnabled then .ok ⟨[]⟩
  else
    match dockerVpnImmunityConflicts U reprText m.dicts
        (readManifestExtraIpv4List reprText m "infrastructure_ipv4")
        (some ((m.globalMode.or (.str directText)).text reprText)) with
    | conflict :: _ => .error conflict
    | [] => .ok ⟨infrastructureIps U reprText m⟩

end FwRouter.Docker
