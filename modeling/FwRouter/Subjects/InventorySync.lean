import FwRouter.Subjects.InventoryRecords

/-!
# The synchronisation of the subject inventory

`sync_subject_inventory`: the records of all sources are written, type by type, and after each type that
has been refreshed the subjects that have not been seen are swept.  A call is a list of statements that
its arguments and the answers of the sources determine; each is a transaction, and the call may raise at
any of them.

A sweep deactivates what its source no longer lists only if the source has been read.  The LAN clients are
swept also where there is no lease file, the external clients of every connection where only some nodes
have been handed in, and a probe whose output is malformed counts as one that lists nothing.
-/

namespace FwRouter.SubjectInventory

open Py

/-! ## The database -/

/-- A row of `subjects`; times are in seconds. -/
structure SubjectRow where
  subjectType : Text
  subjectRole : Text
  implementationKind : Text
  stableKey : Text
  displayName : Option Text
  subjectAlias : Option Text
  desiredMode : Text
  appliedMode : Option Text
  applyState : Text
  runtimeState : Text
  isActive : Bool
  isDeleted : Bool
  inactiveSince : Option ℤ
  deletedAt : Option ℤ
  metadata : Option Dict

structure World where
  subjects : Text → Option SubjectRow
  /-- The tables of `DETAIL_TABLE_BY_TYPE`. -/
  details : Kind → Text → Option Dict
  userOverrides : Text → Option Dict
  serverOverrides : Text → Option Dict

/-! ## Statements -/

inductive Statement
  | upsert (record : Record)
  /-- An empty `connectionId` is no scope. -/
  | markMissing (kind : Kind) (seen : List Text) (connectionId : Text)
  | tombstoneLegacyDocker (legacyIds : List Text)
  | tombstoneLegacyHost
  | tombstoneMissing (kind : Kind) (graceSeconds : ℤ)

/-- What is written to `metadata_json`. -/
def Record.metadataJson (r : Record) : Dict :=
  if r.kind.hasDetailTable then r.metadata else r.metadata.set "detail" (.dict r.detail)

/-- The row of a new subject. -/
def Record.insert (r : Record) : SubjectRow where
  subjectType := r.kind.name
  subjectRole := r.kind.subjectRole
  implementationKind := r.implementationKind.getD r.kind.name
  stableKey := r.stableKey
  displayName := some r.displayName
  subjectAlias := r.subjectAlias
  desiredMode := r.desiredMode
  appliedMode := none
  applyState := "clean".toList
  runtimeState := r.runtimeState
  isActive := r.isActive
  isDeleted := false
  inactiveSince := none
  deletedAt := none
  metadata := some r.metadataJson

/-- `DO UPDATE SET`. -/
def Record.update (r : Record) (now : ℤ) (row : SubjectRow) : SubjectRow :=
  { row with
    subjectType := r.kind.name
    subjectRole := r.kind.subjectRole
    implementationKind := r.implementationKind.getD r.kind.name
    stableKey := r.stableKey
    displayName := some r.displayName
    subjectAlias := row.subjectAlias.orElse fun _ => r.subjectAlias
    runtimeState := r.runtimeState
    isActive := r.isActive
    isDeleted := false
    deletedAt := none
    inactiveSince := if r.isActive then none else some (row.inactiveSince.getD now)
    metadata := some r.metadataJson }

/-- `_upsert_subject`. -/
def upsertSubject (r : Record) (now : ℤ) (w : World) : World :=
  { w with
    subjects := Function.update w.subjects r.subjectId
      (some ((w.subjects r.subjectId).elim r.insert (r.update now)))
    details := if r.kind.hasDetailTable then
        Function.update w.details r.kind (Function.update (w.details r.kind) r.subjectId
          (some (r.detail.foldl (fun detail column => KeyedTable.assign column.1 column.2 detail)
            ((w.details r.kind r.subjectId).getD []))))
      else w.details }

/-- An `UPDATE` of the subjects where `p` holds. -/
def updateWhere (p : Text → SubjectRow → Bool) (f : SubjectRow → SubjectRow) (w : World) : World :=
  { w with subjects := fun id => (w.subjects id).map fun row => if p id row then f row else row }

/-- The `WHERE` of `_mark_missing_subjects`. -/
def sweeps (kind : Kind) (seen : List Text) (connectionId : Text) (id : Text) (row : SubjectRow) : Bool :=
  decide (row.subjectType ∈ kind.subjectTypes) && !row.isDeleted && decide (id ≠ "host:ssh".toList) &&
    decide (id ∉ seen) &&
    (decide (connectionId = []) || ((row.metadata.getD []).get "connection_id").isText connectionId)

/-- A subject that is tombstoned. -/
def SubjectRow.tombstone (row : SubjectRow) (now : ℤ) : SubjectRow :=
  { row with isDeleted := true, deletedAt := some now }

def Statement.run (now : ℤ) (w : World) : Statement → World
  | .upsert r => upsertSubject r now w
  | .markMissing kind seen connectionId => updateWhere (sweeps kind seen connectionId)
      (fun row => { row with
        isActive := false
        runtimeState := kind.inactiveRuntime
        inactiveSince := some (row.inactiveSince.getD now) }) w
  | .tombstoneLegacyDocker legacyIds => updateWhere
      (fun id row => decide (row.subjectType = Kind.docker.name) && !row.isDeleted && !row.isActive &&
        decide (id ∈ legacyIds))
      (fun row => { row.tombstone now with isActive := false, runtimeState := "missing".toList }) w
  | .tombstoneLegacyHost => updateWhere
      (fun id row => decide (row.subjectType = Kind.host.name) && decide (id = "host:ssh-service".toList) &&
        !row.isDeleted && !row.isActive)
      (fun row => { row.tombstone now with isActive := false, runtimeState := "missing".toList }) w
  | .tombstoneMissing kind graceSeconds => updateWhere
      (fun id row => decide (row.subjectType = kind.name) && !row.isDeleted && !row.isActive &&
        decide (row.runtimeState = "missing".toList) && decide (id ≠ "host:ssh".toList) &&
        row.inactiveSince.any fun since => decide (since ≤ now - graceSeconds))
      (fun row => row.tombstone now) w

/-! ## Calls -/

/-- The answer of a script: it cannot be run, or it has run. -/
inductive ScriptAnswer (σ : Type)
  | raised
  | result (ok : Bool) (stdout : σ)

/-- The output of a script that is ok. -/
def ScriptAnswer.output {σ : Type} : ScriptAnswer σ → Option σ
  | .result true stdout => some stdout
  | _ => none

/-- An external connection; a registered one has an id. -/
structure ExternalConnection where
  connectionId : Text
  connectionId_ne : strip connectionId ≠ []
  connectionType : Text
  runtimeType : Text
  collectorConfig : Dict

/-- A call: its arguments, what the sources answer, and the settings. -/
structure Call where
  discoverDocker : Bool
  discoverHost : Bool
  discoverTailscale : Bool
  discoverExternalIngressProviders : List Text
  discoverXray : Bool
  includeAllExternalIngressPeers : Bool
  includeAllTailscalePeers : Bool
  lanClients : List Value
  tailscaleNodes : List Value
  hostServices : List Value
  leases : LeaseFile
  /-- The lines that are not blank, each as `json.loads` reads it. -/
  dockerInventory : ScriptAnswer (List (Option Value))
  dockerPs : ScriptAnswer (List (Option Value))
  hostScript : ScriptAnswer Payload
  /-- `list_external_connections(enabled_only=True)`. -/
  connections : List ExternalConnection
  probe : Text → List Text → ScriptAnswer Payload
  /-- The clients of the adapter, unless it raises. -/
  xrayClients : Option (List XrayClient)
  tombstoneMissingSystemSubjects : Bool
  graceSeconds : ℤ
  now : ℤ
  collectedAt : Text
  /-- The statement that raises, if one does. -/
  failsAt : Option ℕ

namespace Call

variable (U : Unicode) (reprText : Text → Text) (call : Call)

/-- The container probe that counts, and its lines. -/
def dockerLines : Option (Text × List (Option Value)) :=
  if call.discoverDocker = false then none
  else match call.dockerInventory.output with
    | some lines => some ("docker_inventory".toList, lines)
    | none => call.dockerPs.output.map fun lines => ("docker_ps".toList, lines)

def hostPayload : Option Payload := if call.discoverHost then call.hostScript.output else none

/-- `requested_external_ingress_providers`. -/
def requestedProviders : List Text :=
  (call.discoverExternalIngressProviders.map fun provider => U.lower (strip provider)).filter (· ≠ []) ++
    if call.discoverTailscale then ["tailscale".toList] else []

/-- `_external_ingress_connections_for_requested_providers`. -/
def requestedConnections : List ExternalConnection :=
  (call.connections.filter fun c => decide (c.connectionType = "external_network_source".toList) &&
    decide (U.lower (strip c.runtimeType) ∈ call.requestedProviders U)).insertionSort
      fun a b => a.connectionId ≤ b.connectionId

/-- The script of a connection, of the one provider that is registered. -/
def collectorScript (c : ExternalConnection) : Text :=
  strip (((c.collectorConfig.get "script_id").or (.str "tailscale_status".toList)).textOr reprText)

/-- A connection whose probe has been ok: its id, and the output. -/
def refreshConnection (c : ExternalConnection) : Option (Text × Payload) :=
  if U.lower (strip c.runtimeType) ≠ "tailscale".toList ∨ collectorScript reprText c = [] then none
  else (call.probe (collectorScript reprText c)
    ((c.collectorConfig.get "extra_args").listOr.map (Value.text reprText))).output.map fun payload =>
      (strip c.connectionId, payload)

/-- `refreshed_external_connections_by_type`, with the outputs. -/
def refreshed : List (Text × Payload) :=
  (call.requestedConnections U).filterMap (call.refreshConnection U reprText)

def includeAllPeers : Bool := call.includeAllExternalIngressPeers || call.includeAllTailscalePeers

/-- The connection that a node names. -/
def nodeConnection (node : Dict) : Text := strip ((node.get "connection_id").textOr reprText)

/-- `scoped_tailscale_nodes`. -/
def nodes : List Dict :=
  (call.tailscaleNodes.filterMap Value.asDict).filter fun node => decide (nodeConnection reprText node ≠ [])

def xray : Option (List XrayClient) := if call.discoverXray then call.xrayClients else none

/-- The records of the peers of a connection. -/
def peerRecords (connection : Text × Payload) : List Record :=
  externalIngressRecords U reprText call.collectedAt "tailscale".toList
    (externalIngressClients reprText "tailscale".toList connection.2.dict connection.1 call.includeAllPeers)
    connection.1

/-- `records_by_type`. -/
def records : Kind → List Record
  | .lan => structuredLanRecords U reprText call.collectedAt call.lanClients ++
      discoverLanRecords U call.collectedAt call.leases
  | .host => structuredHostRecords U reprText call.collectedAt call.hostServices ++
      structuredHostRecords U reprText call.collectedAt (call.hostPayload.elim [] Payload.items)
  | .docker => call.dockerLines.elim [] fun lines =>
      (lines.2.filterMap fun line => line.bind Value.asDict).map
        (dockerRecord U reprText call.collectedAt lines.1)
  | .explicitExternalClient => (call.xray.getD []).map (xrayRecord U call.collectedAt)
  | .externalNetworkClient =>
      externalIngressRecords U reprText call.collectedAt "tailscale".toList
        ((call.nodes reprText).map .dict) [] ++
      (call.refreshed U reprText).flatMap (call.peerRecords U reprText)

/-- `subject_type in refreshed_subject_types`. -/
def refreshes : Kind → Bool
  | .lan => true
  | .host => call.hostPayload.isSome || !call.hostServices.isEmpty
  | .docker => call.dockerLines.isSome
  | .explicitExternalClient => call.xray.isSome
  | .externalNetworkClient => !(call.refreshed U reprText).isEmpty || !(call.nodes reprText).isEmpty

/-- `str(record.metadata.get("connection_id") or "").strip()`. -/
def recordConnection (r : Record) : Text := strip ((r.metadata.get "connection_id").textOr reprText)

/-- The sweep of one connection. -/
def sweepConnection (connectionId : Text) : Statement :=
  .markMissing .externalNetworkClient
    (((call.records U reprText .externalNetworkClient).filter fun r =>
      decide (recordConnection reprText r = connectionId)).map Record.subjectId) connectionId

/-- The sweeps of a type: of its refreshed connections, or of all its subjects. -/
def sweepsOf (kind : Kind) : List Statement :=
  if kind = .externalNetworkClient ∧ call.refreshed U reprText ≠ [] then
    ((call.refreshed U reprText).map Prod.fst).eraseDups.map (call.sweepConnection U reprText)
  else [.markMissing kind ((call.records U reprText kind).map Record.subjectId) []]

/-- The ids of `_tombstone_legacy_docker_subjects`. -/
def legacyDockerIds : List Text :=
  let records := call.records U reprText .docker
  records.filterMap fun r =>
    let project := strip ((r.detail.get "compose_project").textOr reprText)
    let service := strip ((r.detail.get "compose_service").textOr reprText)
    let legacyId := "docker:".toList ++ safeSlug U project ++ "-".toList ++ safeSlug U service
    if project = [] ∨ service = [] ∨ legacyId ∈ records.map Record.subjectId then none else some legacyId

/-- The tombstones of a type. -/
def tombstonesOf (kind : Kind) : List Statement :=
  (if kind = .docker ∧ call.legacyDockerIds U reprText ≠ [] then
    [.tombstoneLegacyDocker (call.legacyDockerIds U reprText)] else []) ++
  (if kind = .host ∧ "host:ssh".toList ∈ (call.records U reprText .host).map Record.subjectId then
    [.tombstoneLegacyHost] else []) ++
  if call.tombstoneMissingSystemSubjects ∧ (kind = .docker ∨ kind = .host) then
    [.tombstoneMissing kind call.graceSeconds] else []

/-- The statements of a type. -/
def pass (kind : Kind) : List Statement :=
  (call.records U reprText kind).map .upsert ++
    if call.refreshes U reprText kind then call.sweepsOf U reprText kind ++ call.tombstonesOf U reprText kind
    else []

/-- The statements of a call. -/
def plan : List Statement :=
  [.lan, .host, .docker, .explicitExternalClient, .externalNetworkClient].flatMap (call.pass U reprText)

/-- The statements that are executed. -/
def statements : List Statement :=
  call.failsAt.elim (call.plan U reprText) fun n => (call.plan U reprText).take n

/-- `sync_subject_inventory`. -/
def syncSubjectInventory (w : World) : World :=
  (call.statements U reprText).foldl (Statement.run call.now) w

end Call

end FwRouter.SubjectInventory
