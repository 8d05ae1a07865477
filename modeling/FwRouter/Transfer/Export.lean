import FwRouter.Transfer.Import

/-!
# Exporting a snapshot

`export_control_plane_snapshot`: the rows of each table as objects, in the order of its query, with the
columns that its query selects.  The subjects come from `list_subjects` and `get_subject`, with the row
of the detail table of their type; the JSON columns of subjects, settings, the subscription state and
the metadata of the rules are decoded.  Without secrets, the address of the subscription and the
credentials of the custom servers are blanked.

The texts of the rules files, the time, and the order of cells in SQLite are parameters.
-/

namespace FwRouter.Transfer

open Py Relational Subjects.Manifest

/-- What an export reads beside the tables: the time, the version, and what the files of the rules hold. -/
structure Outside where
  exportedAt : Text
  appVersion : Text
  content : Dict
  /-- The order of SQLite. -/
  cellLe : Cell → Cell → Bool

/-! ## Queries -/

inductive Direction
  | asc
  | desc
  deriving DecidableEq

/-- The order of `ORDER BY`, one column after the other. -/
def rowLe (cellLe : Cell → Cell → Bool) : List (String × Direction) → Row → Row → Bool
  | [], _, _ => true
  | (c, direction) :: keys, r, s =>
      let ab := if direction = .asc then cellLe (r c) (s c) else cellLe (s c) (r c)
      let ba := if direction = .asc then cellLe (s c) (r c) else cellLe (r c) (s c)
      ab && (!ba || rowLe cellLe keys r s)

def orderBy (cellLe : Cell → Cell → Bool) (keys : List (String × Direction)) (rows : List Row) : List Row :=
  rows.mergeSort (rowLe cellLe keys)

/-- The columns of the queries, in their order. -/
def selectedColumns : Table → List String
  | .modules => ["module_name", "desired_state", "lifecycle_mode", "runtime_state", "apply_state",
      "status_text", "error_code", "error_message", "updated_at"]
  | .subjectUserOverrides => ["subject_id", "override_mode", "override_until", "created_by", "updated_at"]
  | .subjectServerOverrides => ["subject_id", "selected_server_id", "selected_target_kind", "selected_until",
      "apply_state", "error_code", "error_message", "updated_at"]
  | .servers => ["server_id", "server_name", "provider_name", "country_code", "region", "raw_json",
      "inventory_state", "first_seen_at", "last_seen_at", "missing_since", "updated_at"]
  | .serverCustomHttpsProxy => ["server_id", "proxy_type", "host", "port", "username", "password", "tls",
      "sni", "skip_cert_verify", "path", "updated_at"]
  | .serverPreferences => ["server_id", "vpn_auto", "vpn_auto_priority", "vpn_auto_priority_origin",
      "global_list", "remembered_until", "manually_deleted_at", "updated_at"]
  | .serverPingState => ["server_id", "status", "last_ping_ms", "checked_at", "checked_by", "error_code",
      "error_message", "metadata_json", "manual_status", "manual_ping_ms", "manual_checked_at",
      "manual_checked_by", "manual_error_code", "manual_error_message", "manual_metadata_json"]
  -- `SELECT *`
  | .subjectLan => ["subject_id", "mac_address", "ip_address", "hostname", "dhcp_hostname", "source_json",
      "updated_at"]
  | .subjectDocker => ["subject_id", "compose_project", "compose_service", "container_name", "container_id",
      "image_name", "ip_address", "network_name", "source_json", "updated_at"]
  | .subjectHost => ["subject_id", "systemd_unit", "listen_proto", "listen_port", "executable",
      "process_name", "source_json", "updated_at"]
  | .subjectFwrouter => ["subject_id", "component_name", "source_json", "updated_at"]
  | _ => []

/-- The keys of the `ORDER BY` clauses. -/
def orderKeys : Table → List (String × Direction)
  | .settings => [("key", .asc)]
  | .modules => [("module_name", .asc)]
  | .subjects => [("is_active", .desc), ("last_seen_at", .desc), ("created_at", .desc)]
  | .subjectUserOverrides | .subjectServerOverrides => [("subject_id", .asc)]
  | .servers => [("server_name", .asc), ("server_id", .asc)]
  | .serverCustomHttpsProxy | .serverPreferences | .serverPingState => [("server_id", .asc)]
  | .rulesMetadata => [("ruleset_type", .asc), ("ruleset_id", .asc)]
  | _ => []

def ordered (out : Outside) (t : Table) (rows : List Row) : List Row := orderBy out.cellLe (orderKeys t) rows

/-- `_fetch_rows` of the query on a table. -/
def fetchRows (out : Outside) (db : Database) (t : Table) : List Dict :=
  (ordered out t (db t)).map (rowDict (selectedColumns t))

/-! ## JSON columns -/

variable (env : Env)

/-- `json.loads(value)` of a column that is not empty, else `None`. -/
def jsonLoadsOrNone (cell : Cell) : Except Error Value :=
  if cell.value.truthy = false then .ok .none
  else match cell with
    | .text s => match env.codec.loads s with
        | some v => .ok v
        | none => .error .json
    | _ => .error .typeError

/-- What is no object is wrapped in one. -/
def wrapObject : Value → Value
  | .dict fields => .dict fields
  | v => .dict (object [("value", v)])

/-- `_json_loads` of `subjects.py` and `subscription.py`. -/
def jsonObjectOrNone (cell : Cell) : Except Error Value :=
  if cell.value.truthy = false then .ok .none else (jsonLoadsOrNone env cell).map wrapObject

/-- `_json_loads` of `rules_state_store.py`. -/
def jsonObjectOrEmpty (cell : Cell) : Except Error Value :=
  if cell.value.truthy = false then .ok (.dict []) else (jsonLoadsOrNone env cell).map wrapObject

/-! ## Subjects -/

/-- `canonical_subject_type(raw) or raw`. -/
def shownSubjectType (raw : Text) : Text :=
  match canonicalSubjectType env.unicode raw with
  | some [] => raw
  | some t => t
  | none => raw

/-- `_row_to_subject`. -/
def rowToSubject (r : Row) : Except Error Dict := do
  let raw := (r "subject_type").value.text env.reprText
  let field (c : String) : String × Value := (c, (r c).value)
  let metadata ← jsonObjectOrNone env (r "metadata_json")
  return object ([field "subject_id", ("subject_type", .str (shownSubjectType env raw)),
    ("stored_subject_type", .str raw)] ++
    ["subject_role", "implementation_kind", "stable_key", "display_name", "alias", "desired_mode",
      "applied_mode", "apply_state", "runtime_state"].map field ++
    [("is_active", .bool (r "is_active").value.truthy), ("is_deleted", .bool (r "is_deleted").value.truthy)] ++
    ["first_seen_at", "last_seen_at", "last_traffic_at", "inactive_since", "deleted_at"].map field ++
    [("metadata", metadata)] ++ ["created_at", "updated_at"].map field)

/-- `DETAIL_TABLE_BY_TYPE`. -/
def detailTable (subjectType : Text) : Option Table :=
  if subjectType = "lan".toList then some .subjectLan
  else if subjectType = "docker".toList then some .subjectDocker
  else if subjectType = "host".toList then some .subjectHost
  else if subjectType = "fwrouter".toList then some .subjectFwrouter
  else none

def detailTables : List Table := [.subjectLan, .subjectDocker, .subjectHost, .subjectFwrouter]

lemma mem_detailTables {subjectType : Text} {t : Table} (h : detailTable subjectType = some t) :
    t ∈ detailTables := by
  unfold detailTable at h
  split_ifs at h <;> obtain rfl := Option.some.inj h <;> decide

/-- `_row_to_detail`. -/
def rowToDetail (t : Table) (r : Row) : Except Error Dict := do
  let source ← jsonObjectOrNone env (r "source_json")
  return object ((selectedColumns t).map fun c =>
    if c = "source_json" then ("source", source) else (c, (r c).value))

/-- `_metadata_detail`. -/
def metadataDetail (subject : Dict) : Value :=
  match ((subject.get "metadata").dictOr.get "detail").asDict with
  | some (field :: fields) => .dict (field :: fields)
  | _ => .none

/-- The row under an id; a null is no id. -/
def rowById (rows : List Row) (id : Cell) : Option Row :=
  rows.find? fun r => decide (id ≠ .null ∧ r "subject_id" = id)

/-- `get_subject_detail`. -/
def getSubjectDetail (db : Database) (r : Row) (subject : Dict) : Except Error Value :=
  let subjectType := shownSubjectType env ((r "subject_type").value.text env.reprText)
  match detailTable (shownSubjectType env subjectType) with
  | some t => match rowById (db t) (r "subject_id") with
      | some detail => (rowToDetail env t detail).map .dict
      | none => .ok .none
  | none => .ok (if (rowById (db .subjects) (r "subject_id")).isSome then metadataDetail subject else .none)

/-- `get_subject(str(subject_id)) or summary`: the row under the text of the id, with its detail.  Where
there is none, the listing has found no detail either. -/
def exportSubject (db : Database) (summary : Row) : Except Error Value := do
  let listed ← rowToSubject env summary
  match rowById (db .subjects) (.text ((summary "subject_id").value.text env.reprText)) with
  | some r =>
      let subject ← rowToSubject env r
      let detail ← getSubjectDetail env db r subject
      return .dict (subject.set "detail" detail)
  | none => return .dict (listed.set "detail" .none)

/-- `list_subjects(include_deleted=True, limit=limit)`. -/
def listSubjects (out : Outside) (limit : ℕ) (db : Database) : List Row :=
  (ordered out .subjects (db .subjects)).take (max 1 (min limit 500))

/-- `_export_subjects`. -/
def exportSubjects (out : Outside) (db : Database) : Except Error (List Value) :=
  (listSubjects out 1000 db).mapM (exportSubject env db)

/-! ## Settings -/

/-- `key NOT IN ('core.intent_revision', …) AND key NOT GLOB 'maintenance.import.receipt.*'`. -/
def exportsSetting (r : Row) : Bool :=
  match r "key" with
  | .text key => !([coreIntentRevisionKey, nativeGenerationKey].contains key) && !isReceipt key
  | .null => false
  | _ => true

/-- A row of the settings, decoded; the contract of the display settings is left out. -/
def exportSetting (r : Row) : Except Error Value := do
  let value ← jsonLoadsOrNone env (r "value_json")
  let shown := match value with
    | .dict fields => if r "key" = .text displaySettingsKey then .dict (Dict.without fields contractKey)
        else value
    | _ => value
  return .dict (object [("key", (r "key").value), ("value", shown), ("updated_at", (r "updated_at").value)])

/-- `_export_settings_rows`. -/
def exportSettingsRows (out : Outside) (db : Database) : Except Error (List Value) :=
  (ordered out .settings ((db .settings).filter exportsSetting)).mapM (exportSetting env)

/-! ## Subscription -/

/-- `re.fullmatch(r"src:[0-9a-f]{64}", source_ref)`. -/
def validSourceRef (sourceRef : Text) : Bool :=
  decide (sourceRef.length = 68 ∧ sourceRef.take 4 = "src:".toList ∧
    ∀ c ∈ sourceRef.drop 4, c ∈ "0123456789abcdef".toList)

/-- `get_vpn_auto_exclusive_source_ref`. -/
def exclusiveSourceRef (db : Database) : Value :=
  match settingRow db exclusiveSettingKey with
  | none => .none
  | some row => match row "value_json" with
      | .text s => match (env.codec.loads s).bind Value.asDict with
          | some fields =>
              let sourceRef := strip (fieldText env.reprText fields "source_ref")
              if validSourceRef sourceRef then .str sourceRef else .none
          | none => .none
      | _ => .none

/-- `get_subscription_state`. -/
def getSubscriptionState (db : Database) : Except Error Dict := do
  let exclusive : Value := .dict (object [("source_ref", exclusiveSourceRef env db)])
  let columns := ["last_refresh_at", "last_success_at", "server_inventory_updated_at", "error_code",
    "error_message"]
  match (db .subscriptionState).find? fun r => decide (r "id" = .int 1) with
  | none => return object ([("url", .none), ("status", .str "not_configured".toList)] ++
      columns.map (fun c => (c, .none)) ++
      [("metadata", .none), ("updated_at", .none), ("vpn_auto_exclusive", exclusive)])
  | some r =>
      let metadata ← jsonObjectOrNone env (r "metadata_json")
      return object ([("url", (r "url").value), ("status", (r "status").value)] ++
        columns.map (fun c => (c, (r c).value)) ++
        [("metadata", metadata), ("updated_at", (r "updated_at").value),
          ("vpn_auto_exclusive", exclusive)])

/-! ## Redaction -/

/-- `_redact_subscription_state`. -/
def redactSubscriptionState (includeSecrets : Bool) (state : Dict) : Dict × List String :=
  if includeSecrets = false ∧ (state.get "url").truthy then
    ((state.set "url" .none).set "url_redacted" (.bool true), ["subscription_url_redacted"])
  else (state.set "url_redacted" (.bool false), [])

/-- One row of `_redact_custom_https_proxy_rows`. -/
def redactProxyRow (includeSecrets : Bool) (row : Dict) : Dict :=
  if includeSecrets then row.set "credentials_redacted" (.bool false)
  else ((row.set "username" .none).set "password" .none).set "credentials_redacted" (.bool true)

/-- `_redact_custom_https_proxy_rows`. -/
def redactCustomHttpsProxyRows (includeSecrets : Bool) (rows : List Dict) : List Dict × List String :=
  (rows.map (redactProxyRow includeSecrets),
    if includeSecrets = false ∧ rows.any fun row =>
        (row.get "username").truthy || (row.get "password").truthy then
      ["custom_server_credentials_redacted"]
    else [])

/-! ## The snapshot -/

/-- A row of `list_rules_metadata`. -/
def exportRulesMetadata (r : Row) : Except Error Value := do
  let columns := ["ruleset_id", "ruleset_type", "version_name", "source_url", "active_path",
    "downloaded_at", "activated_at", "status", "last_success_at", "last_failed_at", "last_error_code",
    "last_error_message", "last_job_id"]
  let metadata ← jsonObjectOrEmpty env (r "metadata_json")
  return .dict (object (columns.map (fun c => (c, (r c).value)) ++ [("metadata_json", metadata)]))

/-- `_export_rules_bundle`. -/
def exportRulesBundle (out : Outside) (db : Database) : Except Error Dict := do
  let metadataRows ← (ordered out .rulesMetadata (db .rulesMetadata)).mapM (exportRulesMetadata env)
  return object [("state", .dict (getRulesState env db)), ("metadata_rows", .list metadataRows),
    ("content", .dict out.content)]

/-- The names in `CONTROL_PLANE_TABLES`. -/
def controlPlaneTableNames : List String :=
  ["settings", "modules", "subjects", "subject_lan", "subject_docker", "subject_host", "subject_fwrouter",
    "servers", "server_custom_https_proxy", "server_preferences", "server_ping_state",
    "routing_global_state", "subject_server_overrides", "subject_user_overrides", "subscription_state",
    "rules_state", "rules_metadata"]

def textList (texts : List String) : Value := .list (texts.map fun s => .str s.toList)

/-- The section of a table that is exported as it is. -/
def plainSection (out : Outside) (db : Database) (name : String) (t : Table) : String × Value :=
  (name, .list ((fetchRows out db t).map .dict))

/-- The section `state` of a snapshot. -/
def exportedState (out : Outside) (db : Database) (settings subjects : List Value) (proxies : List Dict)
    (subscription rules : Dict) : Dict :=
  let routing : Value := ((routingRow db).map (rowDict routingFields)).elim .none .dict
  object [("settings", .list settings), plainSection out db "modules" .modules,
    ("routing_global_state", routing), ("subjects", .list subjects),
    plainSection out db "subject_user_overrides" .subjectUserOverrides,
    plainSection out db "subject_server_overrides" .subjectServerOverrides,
    plainSection out db "servers" .servers,
    ("server_custom_https_proxy", .list (proxies.map .dict)),
    plainSection out db "server_preferences" .serverPreferences,
    plainSection out db "server_ping_state" .serverPingState,
    ("subscription_state", .dict subscription), ("rules", .dict rules)]

/-- The snapshot, of what was read and decoded. -/
def snapshotOf (out : Outside) (includeSecrets : Bool) (db : Database) (state : Dict)
    (settings subjects : List Value) (rules : Dict) : Dict :=
  let subscription := redactSubscriptionState includeSecrets state
  let proxies := redactCustomHttpsProxyRows includeSecrets (fetchRows out db .serverCustomHttpsProxy)
  object [("snapshot_version", .str controlPlaneSnapshotVersion),
    ("exported_at", .str out.exportedAt), ("app_version", .str out.appVersion),
    ("export_options", .dict (object [("include_secrets", .bool includeSecrets)])),
    ("tables", textList controlPlaneTableNames),
    ("state", .dict (exportedState out db settings subjects proxies.1 subscription.1 rules)),
    ("warnings", textList (subscription.2 ++ proxies.2 ++
      ["inventory_rows_are_cached_snapshot_only", "runtime_apply_required_after_import"]))]

/-- `export_control_plane_snapshot`. -/
def exportControlPlaneSnapshot (out : Outside) (includeSecrets : Bool) (db : Database) :
    Except Error Dict := do
  let state ← getSubscriptionState env db
  let settings ← exportSettingsRows env out db
  let subjects ← exportSubjects env out db
  let rules ← exportRulesBundle env out db
  return snapshotOf out includeSecrets db state settings subjects rules

lemma exportControlPlaneSnapshot_ok {env : Env} {out : Outside} {includeSecrets : Bool} {db : Database}
    {snapshot : Dict} : exportControlPlaneSnapshot env out includeSecrets db = .ok snapshot ↔
      ∃ state settings subjects rules, getSubscriptionState env db = .ok state ∧
        exportSettingsRows env out db = .ok settings ∧ exportSubjects env out db = .ok subjects ∧
        exportRulesBundle env out db = .ok rules ∧
        snapshotOf out includeSecrets db state settings subjects rules = snapshot := by
  constructor
  · intro h
    obtain ⟨state, hstate, h⟩ := Run.exists_of_bind_eq_ok h
    obtain ⟨settings, hsettings, h⟩ := Run.exists_of_bind_eq_ok h
    obtain ⟨subjects, hsubjects, h⟩ := Run.exists_of_bind_eq_ok h
    obtain ⟨rules, hrules, h⟩ := Run.exists_of_bind_eq_ok h
    exact ⟨state, settings, subjects, rules, hstate, hsettings, hsubjects, hrules, Except.ok.inj h⟩
  · rintro ⟨state, settings, subjects, rules, hstate, hsettings, hsubjects, hrules, rfl⟩
    rw [exportControlPlaneSnapshot, hstate, hsettings, hsubjects, hrules]
    rfl

end FwRouter.Transfer
