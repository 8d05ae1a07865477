import FwRouter.Python.Value

/-!
# The records of the subject inventory

What the seven sources of `sync_subject_inventory` list: the lease file of dnsmasq, the containers and the
host services of two probes, the peers of the external connections, the clients of Xray, and the structured
lists of the caller.  Each is read into `SubjectInventoryRecord`s.
-/

namespace FwRouter.SubjectInventory

open Py

/-! ## Types of subjects -/

/-- The types that are synchronised, in the order of `records_by_type`. -/
inductive Kind
  | lan
  | host
  | docker
  | explicitExternalClient
  | externalNetworkClient
  deriving DecidableEq

def Kind.name : Kind → Text
  | .lan => "lan".toList
  | .host => "host".toList
  | .docker => "docker".toList
  | .explicitExternalClient => "explicit_external_client".toList
  | .externalNetworkClient => "external_network_client".toList

/-- `subject_types` of `_mark_missing_subjects`: the type, and its names of old. -/
def Kind.subjectTypes : Kind → List Text
  | .externalNetworkClient => ["external_network_client".toList, "tailscale".toList, "tailscale_node".toList]
  | .explicitExternalClient => ["explicit_external_client".toList, "xray".toList]
  | kind => [kind.name]

/-- `DEFAULT_DESIRED_MODE_BY_TYPE`. -/
def Kind.defaultDesiredMode : Kind → Text
  | .lan => "global".toList
  | .externalNetworkClient => "global".toList
  | .explicitExternalClient => "enabled".toList
  | .docker => "direct".toList
  | .host => "direct".toList

/-- `INACTIVE_RUNTIME_BY_TYPE`. -/
def Kind.inactiveRuntime : Kind → Text
  | .lan => "inactive".toList
  | .externalNetworkClient => "inactive".toList
  | .explicitExternalClient => "inactive".toList
  | .docker => "missing".toList
  | .host => "missing".toList

/-- `SUBJECT_ROLE_BY_TYPE`. -/
def Kind.subjectRole : Kind → Text
  | .lan => "lan_client".toList
  | .externalNetworkClient => "external_network_source".toList
  | .explicitExternalClient => "vless_client".toList
  | .docker => "docker_runtime".toList
  | .host => "host_runtime".toList

/-- Whether the type has a table in `DETAIL_TABLE_BY_TYPE`. -/
def Kind.hasDetailTable : Kind → Bool
  | .lan => true
  | .host => true
  | .docker => true
  | .explicitExternalClient => false
  | .externalNetworkClient => false

/-- `SubjectInventoryRecord`. -/
structure Record where
  subjectId : Text
  kind : Kind
  stableKey : Text
  displayName : Text
  desiredMode : Text
  runtimeState : Text
  isActive : Bool
  subjectAlias : Option Text
  metadata : Dict
  detail : Dict
  implementationKind : Option Text := none

/-! ## Reading items -/

section Items

variable (U : Unicode) (reprText : Text → Text) (now : Text)

/-- `_safe_slug`. -/
def safeSlug (value : Text) : Text :=
  stripBy (fun c => decide (c = '-')) (value.flatMap fun c => if U.isAlnum c then U.lower [c] else ['-'])

/-- `text or None`. -/
def orNone (t : Text) : Option Text := if t = [] then none else some t

/-- `text or None`, as a value. -/
def orNull (t : Text) : Value := if t = [] then .none else .str t

/-- The first text that is not empty: `first or second`. -/
def firstText (first second : Text) : Text := if first = [] then second else first

/-- `str(item.get(a) or item.get(b) or … or "").strip()`. -/
def stripped (item : Dict) (keys : List String) : Text :=
  strip ((keys.foldr (fun key rest => (item.get key).or rest) (.str [])).textOr reprText)

def field (key : String) (value : Value) : Text × Value := (key.toList, value)

/-- The part of a text before the first `c`, and after it. -/
def partition (c : Char) (t : Text) : Text × Text := (t.takeWhile (· ≠ c), (t.dropWhile (· ≠ c)).tail)

/-- `_as_dict`. -/
def asLabels : Value → Dict
  | .dict fields => fields
  | .str text => (text.splitOn ',').foldl (fun parsed chunk =>
      let item := strip chunk
      if '=' ∈ item then
        KeyedTable.assign (strip (partition '=' item).1) (.str (strip (partition '=' item).2)) parsed
      else parsed) []
  | value => [field "value" value]

/-- `item.get("Labels") or item.get("Label") or {}`. -/
def labelsOf (item : Dict) : Dict := asLabels (((item.get "Labels").or (item.get "Label")).or (.dict []))

/-! ## Containers -/

/-- `_docker_subject_id`. -/
def dockerSubjectId (item : Dict) : Text :=
  let labels := labelsOf item
  let project := strip ((((labels.get "com.docker.compose.project").or (item.get "Project")).or
    (item.get "ComposeProject")).textOr reprText)
  let service := strip ((((labels.get "com.docker.compose.service").or (item.get "Service")).or
    (item.get "ComposeService")).textOr reprText)
  let containerName := stripped reprText item ["Names", "Name", "container_name"]
  if project ≠ [] ∧ service ≠ [] then
    "docker:".toList ++ safeSlug U project ++ ":".toList ++ safeSlug U service
  else
    let stable := firstText containerName
      ((((item.get "ID").or (item.get "Id")).or (.str "container".toList)).text reprText)
    "docker:".toList ++ safeSlug U stable

/-- A record of `_extract_docker_records`. -/
def dockerRecord (scriptId : Text) (item : Dict) : Record :=
  let labels := labelsOf item
  let project := strip (((labels.get "com.docker.compose.project").or (item.get "Project")).textOr reprText)
  let service := strip (((labels.get "com.docker.compose.service").or (item.get "Service")).textOr reprText)
  let containerName := stripped reprText item ["Names", "Name"]
  let containerId := stripped reprText item ["ID", "Id"]
  let imageName := stripped reprText item ["Image", "ImageName"]
  let stableKey := dockerSubjectId U reprText item
  { subjectId := stableKey
    kind := .docker
    stableKey := stableKey
    displayName := firstText service (firstText containerName (firstText imageName
      (firstText containerId "docker-service".toList)))
    desiredMode := Kind.docker.defaultDesiredMode
    runtimeState := "running".toList
    isActive := true
    subjectAlias := orNone containerName
    metadata := [field "source" (.str scriptId), field "status" ((item.get "State").or (item.get "Status")),
      field "network_mode" (item.get "NetworkMode"), field "collected_at" (.str now)]
    detail := [field "compose_project" (orNull project), field "compose_service" (orNull service),
      field "container_name" (orNull containerName), field "container_id" (orNull containerId),
      field "image_name" (orNull imageName), field "ip_address" ((item.get "IPAddress").or .none),
      field "network_name" ((item.get "NetworkName").or .none), field "source_json" (.dict item)] }

/-! ## LAN clients -/

/-- A line of the lease file: expiry, MAC, address, host name, client id. -/
def leaseRecord (line : Text) : Option Record :=
  match split line with
  | _ :: mac :: ip :: hostname :: _ =>
      let mac := U.lower mac
      let hostname := if hostname = "*".toList then [] else hostname
      let stable := firstText mac (firstText ip hostname)
      if stable = [] then none
      else
        let subjectId := "lan:".toList ++ safeSlug U stable
        some
          { subjectId := subjectId
            kind := .lan
            stableKey := subjectId
            displayName := firstText hostname (firstText ip mac)
            desiredMode := Kind.lan.defaultDesiredMode
            runtimeState := "active".toList
            isActive := true
            subjectAlias := orNone hostname
            metadata := [field "source" (.str "dnsmasq_leases".toList), field "collected_at" (.str now)]
            detail := [field "mac_address" (orNull mac), field "ip_address" (orNull ip),
              field "hostname" (orNull hostname), field "dhcp_hostname" (orNull hostname),
              field "source_json" (.dict [field "line" (.str line)])] }
  | _ => none

/-- The lease file: not there, not readable, or its text. -/
inductive LeaseFile
  | missing
  | unreadable
  | content (text : Text)

/-- `_discover_lan_records`. -/
def discoverLanRecords : LeaseFile → List Record
  | .missing => []
  | .unreadable => []
  | .content text => (splitlines text).filterMap (leaseRecord U now)

/-- `_structured_lan_records`. -/
def structuredLanRecords (items : List Value) : List Record :=
  (items.filterMap Value.asDict).filterMap fun item =>
    let mac := U.lower (stripped reprText item ["mac_address", "mac"])
    let ip := stripped reprText item ["ip_address", "ip"]
    let hostname := strip ((((item.get "hostname").or (item.get "display_name")).or
      (.str (firstText ip mac))).textOr reprText)
    let stable := firstText mac (firstText ip hostname)
    if stable = [] then none
    else
      let subjectId := "lan:".toList ++ safeSlug U stable
      some
        { subjectId := subjectId
          kind := .lan
          stableKey := subjectId
          displayName := firstText hostname stable
          desiredMode := Kind.lan.defaultDesiredMode
          runtimeState := "active".toList
          isActive := true
          subjectAlias := orNone hostname
          metadata := [field "source" (.str "structured_input".toList), field "collected_at" (.str now)]
          detail := [field "mac_address" (orNull mac), field "ip_address" (orNull ip),
            field "hostname" (orNull hostname), field "dhcp_hostname" (item.get "dhcp_hostname"),
            field "source_json" (.dict item)] }

/-! ## External peers -/

/-- `_external_ingress_records`, of the one provider that is registered. -/
def externalIngressRecords (provider : Text) (items : List Value) (connectionId : Text) : List Record :=
  (items.filterMap Value.asDict).filterMap fun item =>
    let itemConnectionId := strip (((item.get "connection_id").or (.str connectionId)).textOr reprText)
    if itemConnectionId = [] then none
    else
      let prefix_ := ((item.get "subject_id_prefix").or (.str (itemConnectionId ++ ":".toList))).text reprText
      let nodeId := stripped reprText item ["provider_node_id", "node_id", "id"]
      let providerIp := stripped reprText item ["ip_address", "tailscale_ip", "ip"]
      let hostname := stripped reprText item ["hostname", "display_name", "name"]
      let stable := strip (((item.get "stable_key").or
        (.str (firstText nodeId (firstText providerIp hostname)))).textOr reprText)
      if stable = [] then none
      else
        let subjectId := prefix_ ++ safeSlug U stable
        let online := if item.has "online" then (item.get "online").truthy else true
        some
          { subjectId := subjectId
            kind := .externalNetworkClient
            stableKey := subjectId
            displayName := firstText hostname (firstText providerIp nodeId)
            desiredMode := Kind.externalNetworkClient.defaultDesiredMode
            runtimeState := if online then "active".toList else "inactive".toList
            isActive := online
            subjectAlias := orNone hostname
            metadata := [field "source" ((item.get "source").or (.str provider)), field "provider" (.str provider),
              field "connection_id" (.str itemConnectionId),
              field "routing_hint" (.bool (item.get "routing_hint").truthy),
              field "import_reason" (item.get "import_reason"), field "collected_at" (.str now)]
            detail := [field "node_id" (orNull nodeId), field "provider_node_id" (orNull nodeId),
              field "provider_ip" (orNull providerIp), field "ip_address" (orNull providerIp),
              field "hostname" (orNull hostname), field "user_name" (item.get "user_name"),
              field "online" (.bool online), field "source" ((item.get "source_json").or (.dict item))]
            implementationKind := some "tailscale".toList }

/-- `item[field] not in (None, "")`, for a field that is there. -/
def present : Value → Bool
  | .none => false
  | .str [] => false
  | _ => true

/-- `_first_mapping_value`. -/
def firstMappingValue (item : Dict) (fields : List String) : Value :=
  ((fields.map item.get).find? present).getD .none

/-- `_first_string`. -/
def firstString (item : Dict) (fields : List String) : Text :=
  match firstMappingValue item fields with
  | .list values => strip ((values.headD (.str [])).textOr reprText)
  | value => strip (value.textOr reprText)

/-- `_first_list`. -/
def firstList (item : Dict) (fields : List String) : List Value :=
  match firstMappingValue item fields with
  | .list values => values
  | value => if present value then [value] else []

/-- The text of a probe that is read as one JSON document. -/
inductive Payload
  | blank
  | malformed
  | json (value : Value)

/-- `_payload_dict`. -/
def Payload.dict : Payload → Dict
  | .json (.dict fields) => fields
  | _ => []

/-- The values of the first field of `peer_collection_fields` that is a dict or a list. -/
def peerValues (payload : Dict) : List Value :=
  match payload.get "Peer", payload.get "Peers" with
  | .dict fields, _ => fields.map Prod.snd
  | .list values, _ => values
  | _, .dict fields => fields.map Prod.snd
  | _, .list values => values
  | _, _ => []

/-- `external_ingress_clients_from_payload`. -/
def externalIngressClients (provider : Text) (payload : Dict) (connectionId : Text) (includeAllPeers : Bool) :
    List Value :=
  if connectionId = [] then []
  else ((peerValues payload).filterMap Value.asDict).filterMap fun item =>
    let address := strip (((firstList item ["TailscaleIPs", "Addresses"]).head?.elim [] (Value.text reprText)))
    let routingHint := ["through_fwrouter", "fwrouter_routed", "routed_via_server", "UsesExitNode", "ExitNode",
      "UsesThisServerAsExit"].any fun key => (item.get key).truthy
    let online := (item.get "Online").truthy
    let importable := routingHint || (online && !address.isEmpty)
    if includeAllPeers = false ∧ importable = false then none
    else
      let nodeId := firstString reprText item ["ID", "NodeID", "IDShort"]
      let displayName := firstString reprText item ["HostName", "DNSName", "Name"]
      let stableKey := firstText nodeId (firstText address displayName)
      if stableKey = [] then none
      else some (.dict [field "provider" (.str provider), field "connection_id" (.str connectionId),
        field "provider_node_id" (.str nodeId),
        field "subject_type" (.str Kind.externalNetworkClient.name),
        field "subject_id_prefix" (.str (connectionId ++ ":".toList)), field "stable_key" (.str stableKey),
        field "display_name" (.str (firstText displayName (firstText address nodeId))),
        field "ip_address" (.str address),
        field "user_name" (orNull (firstString reprText item ["User", "UserName"])),
        field "online" (.bool online), field "routing_hint" (.bool routingHint),
        field "import_reason" (.str (if routingHint then "routing_hint".toList else "online_provider_ip".toList)),
        field "source_json" (.dict item)])

/-! ## Host services -/

/-- `_structured_host_records`. -/
def structuredHostRecords (items : List Value) : List Record :=
  (items.filterMap Value.asDict).filterMap fun item =>
    let unit := stripped reprText item ["systemd_unit"]
    let processName := stripped reprText item ["process_name", "display_name"]
    let stable := firstText unit processName
    if stable = [] then none
    else
      let subjectId :=
        if unit = "ssh.service".toList then "host:ssh".toList else "host:".toList ++ safeSlug U stable
      some
        { subjectId := subjectId
          kind := .host
          stableKey := subjectId
          displayName := firstText processName unit
          desiredMode := Kind.host.defaultDesiredMode
          runtimeState := ((item.get "runtime_state").or (.str "running".toList)).text reprText
          isActive := if item.has "is_active" then (item.get "is_active").truthy else true
          subjectAlias := orNone processName
          metadata := [field "source" (.str "structured_input".toList), field "collected_at" (.str now)]
          detail := [field "systemd_unit" (orNull unit), field "listen_proto" (item.get "listen_proto"),
            field "listen_port" (item.get "listen_port"), field "executable" (item.get "executable"),
            field "process_name" (orNull processName), field "source_json" (.dict item)] }

/-- The items of `_extract_host_records`. -/
def Payload.items : Payload → List Value
  | .json (.list values) => values
  | .json (.dict fields) => [.dict fields]
  | _ => []

/-! ## Xray clients -/

/-- `XrayClient`. -/
structure XrayClient where
  clientId : Text
  clientUuid : Text
  email : Option Text
  subjectAlias : Option Text
  enabled : Bool
  raw : Dict

/-- `text or other`, for a text that may be `None`. -/
def orText (t : Option Text) (other : Text) : Text := firstText (t.getD []) other

/-- A record of `_xray_records`. -/
def xrayRecord (client : XrayClient) : Record :=
  let stable := firstText client.clientUuid client.clientId
  let subjectId := "xray:".toList ++ safeSlug U stable
  { subjectId := subjectId
    kind := .explicitExternalClient
    stableKey := subjectId
    displayName := orText client.subjectAlias (orText client.email stable)
    desiredMode := Kind.explicitExternalClient.defaultDesiredMode
    runtimeState := if client.enabled then "active".toList else "inactive".toList
    isActive := client.enabled
    subjectAlias := client.subjectAlias
    metadata := [field "source" (.str "xray_adapter".toList), field "provider" (.str "xray".toList),
      field "collected_at" (.str now)]
    detail := [field "client_id" (.str client.clientId), field "client_uuid" (.str client.clientUuid),
      field "email" (client.email.elim .none .str),
      field "subscription_path"
        (.str ("/api/v2/xray/clients/".toList ++ client.clientId ++ "/subscription".toList)),
      field "last_subscription_at" .none, field "enabled" (.bool client.enabled), field "source" (.dict client.raw)]
    implementationKind := some "xray".toList }

end Items

end FwRouter.SubjectInventory
