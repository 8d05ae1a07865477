import FwRouter.Python.Value
import FwRouter.Ipaddress.Text

/-!
# Server overrides of subjects

A user may send one subject through a server of their choice for a day.  The row of
`subject_server_overrides` is read by the policy (`_load_active_server_override`), by the API
(`get_subject_server_override`) and by the renderer of the Mihomo configuration
(`_load_subject_server_override_routes`), each with a query of its own.  The first two ask for a row
that has not expired; the renderer does not.

The JSON columns are kept as the values they hold, and the joins follow primary keys.
-/

namespace FwRouter.Subjects

open Py Ipaddress

/-! ## Tables -/

structure SubjectRow where
  subjectId : Text
  isActive : Bool
  isDeleted : Bool
  metadataJson : Option Value

structure ServerRow where
  serverId : Text
  serverName : Text
  rawJson : Option Value

inductive TargetKind
  | server
  | vpnAuto
  deriving DecidableEq

/-- A row of `subject_server_overrides`, with the check of the schema. -/
structure OverrideRow where
  subjectId : Text
  selectedServerId : Option Text
  selectedTargetKind : TargetKind
  selectedUntil : Option Text
  check : selectedTargetKind = .server ∨ selectedServerId = none
  deriving DecidableEq

/-- The tables that the queries read; the addresses are those of `subject_lan` and
`subject_docker`. -/
structure Database where
  subjects : List SubjectRow
  servers : List ServerRow
  overrides : List OverrideRow
  lanAddress : Text → Option Text
  dockerAddress : Text → Option Text
  subjects_key : (subjects.map SubjectRow.subjectId).Nodup
  servers_key : (servers.map ServerRow.serverId).Nodup
  overrides_key : (overrides.map OverrideRow.subjectId).Nodup

def Database.subject (db : Database) (subjectId : Text) : Option SubjectRow :=
  db.subjects.find? fun s => decide (s.subjectId = subjectId)

def Database.server (db : Database) (serverId : Text) : Option ServerRow :=
  db.servers.find? fun s => decide (s.serverId = serverId)

/-! ## Targets -/

def virtualXrayVpnAutoServerId : Text := "virtual:xray:vpn-auto".toList

/-- `encode_target`. -/
def encodeTarget (serverId : Text) : TargetKind × Option Text :=
  if strip serverId = virtualXrayVpnAutoServerId then (.vpnAuto, none)
  else if strip serverId = [] then (.server, none)
  else (.server, some (strip serverId))

/-- `decode_target` of a row's discriminator and foreign key. -/
def decodeTarget : TargetKind → Option Text → Option Text
  | .vpnAuto, some _ => none
  | .vpnAuto, none => some virtualXrayVpnAutoServerId
  | .server, some serverId => if serverId = [] then none else some serverId
  | .server, none => none

/-- What is written reads back as the trimmed id, and as nothing if that is empty. -/
lemma decodeTarget_encodeTarget (serverId : Text) :
    decodeTarget (encodeTarget serverId).1 (encodeTarget serverId).2 =
      if strip serverId = [] then none else some (strip serverId) := by
  rw [encodeTarget]
  split_ifs with hvirtual hempty hempty
  · rw [hvirtual] at hempty
    exact absurd hempty (by decide)
  · rw [hvirtual, decodeTarget]
  · rw [decodeTarget]
  · simp [decodeTarget, hempty]

/-! ## The live override -/

/-- `selected_until > CURRENT_TIMESTAMP`. -/
def OverrideRow.Unexpired (now : Text) (o : OverrideRow) : Prop :=
  ∃ moment ∈ o.selectedUntil, now < moment

instance (now : Text) (o : OverrideRow) : Decidable (o.Unexpired now) :=
  inferInstanceAs (Decidable (∃ moment ∈ o.selectedUntil, now < moment))

/-- `project_row`: the public id of the target. -/
structure ActiveOverride where
  subjectId : Text
  selectedServerId : Option Text
  selectedTargetKind : TargetKind
  deriving DecidableEq

def projectRow (o : OverrideRow) : ActiveOverride :=
  let target := decodeTarget o.selectedTargetKind o.selectedServerId
  ⟨o.subjectId, target, if target = some virtualXrayVpnAutoServerId then .vpnAuto else .server⟩

/-- `_load_active_server_override`, and `get_subject_server_override`. -/
def loadActiveServerOverride (db : Database) (now subjectId : Text) : Option ActiveOverride :=
  (db.overrides.find? fun o => decide (o.subjectId = subjectId ∧
    (o.selectedTargetKind = .vpnAuto ∨ o.selectedServerId ≠ none) ∧ o.Unexpired now)).map projectRow

/-- The concrete server of the live override, if it is one of the inventory. -/
def liveServer (db : Database) (now subjectId : Text) : Option ServerRow :=
  (loadActiveServerOverride db now subjectId).bind fun o =>
    o.selectedServerId.bind fun serverId =>
      if serverId = virtualXrayVpnAutoServerId then none else db.server serverId

/-! ## The rendered routes -/

section Render

variable (jsonText : Value → Text) (selectorName : Text → Text)

/-- A JSON value as an SQL value; `jsonText` is the text of an array or an object. -/
def sqlValue : Value → Value
  | .bool b => .int (if b then 1 else 0)
  | .list values => .str (jsonText (.list values))
  | .dict fields => .str (jsonText (.dict fields))
  | v => v

/-- `json_extract(doc, '$.a.b')`. -/
def jsonExtract (doc : Option Value) (path : List String) : Value :=
  match doc with
  | none => .none
  | some v => sqlValue jsonText (path.foldl (fun v key => match v.asDict with
      | some fields => fields.get key
      | none => .none) v)

/-- `COALESCE`. -/
def coalesce : List Value → Value
  | [] => .none
  | .none :: values => coalesce values
  | v :: _ => v

def textColumn : Option Text → Value
  | some t => .str t
  | none => .none

/-- `str(value or "").strip()`; an SQL value is no list and no dict. -/
def sqlText (v : Value) : Text := strip (v.textOr id)

/-- The source address of a subject, with the fallbacks of the query. -/
def sourceValue (db : Database) (s : SubjectRow) : Value :=
  coalesce [textColumn (db.lanAddress s.subjectId),
    jsonExtract jsonText s.metadataJson ["detail", "provider_ip"],
    jsonExtract jsonText s.metadataJson ["detail", "ip_address"],
    jsonExtract jsonText s.metadataJson ["detail", "tailscale_ip"],
    textColumn (db.dockerAddress s.subjectId)]

/-- `_format_source_ip_cidr_rule_value` of that value. -/
def sourceCidr (db : Database) (s : SubjectRow) : Option Text :=
  let raw := sqlText (sourceValue jsonText db s)
  if raw = [] then none
  else (ipAddress raw).map fun a => a.str ++ '/' :: dec a.addr.version.maxPrefixlen

/-- The name of a server at run time. -/
def runtimeName (srv : ServerRow) : Text :=
  sqlText (coalesce [jsonExtract jsonText srv.rawJson ["_fwrouter_runtime_name"],
    jsonExtract jsonText srv.rawJson ["name"], .str srv.serverName])

structure Route where
  subjectId : Text
  sourceCidr : Text
  serverName : Text
  selectorName : Text
  deriving DecidableEq

/-- The route of one override row, with the subject it is for. -/
def routeRow (db : Database) (o : OverrideRow) : Option (Text × Route) := do
  let s ← db.subject o.subjectId
  let serverId ← o.selectedServerId
  let srv ← db.server serverId
  if !s.isActive || s.isDeleted then none
  let source ← sourceCidr jsonText db s
  let subjectId := strip s.subjectId
  let serverName := runtimeName jsonText srv
  if subjectId = [] ∨ serverName = [] then none
  else some (s.subjectId, ⟨subjectId, source, serverName, selectorName subjectId⟩)

/-- The routes with the subjects they are for. -/
def subjectRoutes (db : Database) : List (Text × Route) :=
  db.overrides.filterMap (routeRow jsonText selectorName db)

/-- `_load_subject_server_override_routes`. -/
def loadSubjectServerOverrideRoutes (db : Database) : List Route :=
  (subjectRoutes jsonText selectorName db).map Prod.snd

end Render

end FwRouter.Subjects
