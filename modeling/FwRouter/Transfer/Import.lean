import FwRouter.Transfer.Normalize
import FwRouter.Selection.Fence
import FwRouter.Library.Run

/-!
# Importing a snapshot

`import_control_plane_snapshot`: the checks before the transaction, the receipt of the operation, the
checks inside the transaction, and the statements.  The statements empty fifteen tables and the
settings that are not kept, insert the rows of the snapshot, restore the selected server, advance the
revisions and write the receipt.  A call returns or raises; a call that raises is rolled back, and may
do so at any statement (`failAt`).

What the pool signature and the eligibility query compute is a parameter; what they read is
`PoolInputs`.  So are the digest of the request, the text of a receipt, the marker of the subscription
generation, and the files that `prepare_rules_files` wrote.
-/

namespace FwRouter.Transfer

open Py Relational

/-! ## Parameters -/

/-- What the pool signature and the eligibility query read. -/
structure PoolInputs where
  servers : List Row
  preferences : List Row
  memberships : List Row
  logicalMembers : List Row
  providerBindings : List Row
  providerMembers : List Row
  exclusive : Option Cell
  serverMode : Option Cell

/-- The result of an import that was persisted. -/
structure ImportResult where
  operationId : Text
  normalizeRuntimeState : Bool
  subjectsCount : ℕ
  serversCount : ℕ
  modulesCount : ℕ
  settingsCount : ℕ
  rulesFiles : List (String × Text)
  selectionReconcileRequired : Bool
  selectionRevision : ℤ
  deriving DecidableEq

structure Env where
  unicode : Unicode
  reprText : Text → Text
  sqlite : Sqlite
  codec : Codec
  /-- The digest of the snapshot and the option; `none` where `json.dumps` raises. -/
  fingerprint : Dict → Bool → Option Text
  encodeReceipt : Text → ImportResult → Text
  decodeReceipt : Text → Option (Text × ImportResult)
  poolSignature : PoolInputs → Text
  autoEligible : PoolInputs → Text → Bool
  generationMarker : Database → Text
  /-- `_normalize_path` of a column of `rules_state`. -/
  rulesPath : String → Cell → Text

/-- A call of `import_control_plane_snapshot`, with what it finds outside the database: the admission,
the state of the schema, the files of the rules (`none` if they could not be prepared), a fresh
incarnation, the time, and the statement that fails. -/
structure Call where
  snapshot : Dict
  normalizeRuntimeState : Bool
  operationId : Option Text
  admitted : Bool
  databaseOk : Bool
  rulesFiles : Option (List (String × Text))
  incarnation : Text
  now : Text
  failAt : Option ℕ

/-- What a call answers. -/
inductive Reply
  | invalid (errors : List String)
  | refused (code : String)
  | imported (result : ImportResult)
  | replayed (result : ImportResult)
  | raised (error : Error)

/-- `result["ok"]`. -/
def Reply.ok : Reply → Bool
  | .imported _ => true
  | .replayed _ => true
  | _ => false

/-! ## Reading -/

def receiptPrefix : Text := "maintenance.import.receipt.".toList
def coreIntentRevisionKey : Text := "core.intent_revision".toList
def nativeGenerationKey : Text := "subscriptions.native_generation.v1".toList
def exclusiveSettingKey : Text := "vpn_auto_exclusive_source_ref".toList

/-- The settings that an import keeps. -/
def keptSettings : List Text :=
  [Selection.selectionProvenanceKey, Selection.selectionRevisionKey, coreIntentRevisionKey,
    nativeGenerationKey]

def isReceipt (key : Text) : Bool := receiptPrefix.isPrefixOf key

def settingRow (db : Database) (key : Text) : Option Row :=
  (db .settings).find? fun r => decide (r "key" = .text key)

/-- `routing_global_state WHERE id = 1`. -/
def routingRow (db : Database) : Option Row :=
  (db .routingGlobalState).find? fun r => decide (r "id" = .int 1)

/-- `json.loads` of a column. -/
def cellJson (codec : Codec) : Cell → Option Value
  | .text s => codec.loads s
  | cell => some cell.value

/-- `str(cell or "").strip() or None`. -/
def strippedId (reprText : Text → Text) (cell : Cell) : Option Text :=
  Selection.orNone (strip (cell.value.textOr reprText))

def activeAutoServerId (db : Database) : Option Cell := (routingRow db).map fun r => r "active_auto_server_id"

def poolInputs (db : Database) : PoolInputs where
  servers := db .servers
  preferences := db .serverPreferences
  memberships := db .subscriptionServerMemberships
  logicalMembers := db .logicalServerMembers
  providerBindings := db .providerBindings
  providerMembers := db .providerMembers
  exclusive := (settingRow db exclusiveSettingKey).map fun r => r "value_json"
  serverMode := (routingRow db).map fun r => r "server_mode"

variable (env : Env)

/-- `selection_pool_signature`. -/
def selectionPoolSignature (db : Database) : Text := env.poolSignature (poolInputs db)

/-- `read_selection_revision`. -/
def readSelectionRevision (db : Database) : Except Error ℤ :=
  match settingRow db Selection.selectionRevisionKey with
  | none => .ok 0
  | some r => (Selection.readJsonInt (cellJson env.codec (r "value_json"))).mapError
      fun _ => .selectionRevisionMalformed

/-- The selected server, as the import compares it. -/
def localActiveId (db : Database) : Option Text :=
  (activeAutoServerId db).bind (strippedId env.reprText)

/-- `get_rules_state`. -/
def getRulesState (db : Database) : Dict :=
  let row : Row := (db .rulesState).head?.getD fun _ => .null
  let path (column : String) : Text × Value := (column.toList, .str (env.rulesPath column (row column)))
  let default (column value : String) : Text × Value :=
    (column.toList, if (db .rulesState).isEmpty then .str value.toList else (row column).value)
  let field (column : String) : Text × Value := (column.toList, (row column).value)
  ["manual_draft_path", "manual_active_path", "static_direct_path", "big_direct_path", "big_vpn_path",
    "effective_json_path", "effective_text_path", "metadata_path"].map path ++
  [("effective_path".toList, .str (env.rulesPath "effective_json_path" (row "effective_json_path"))),
    default "selective_default" "direct", field "last_apply_job_id", field "last_update_job_id",
    default "status" "not_configured", field "last_success_at", field "last_failed_at",
    field "error_code", field "error_message", field "updated_at"]

/-- A server that vpn-auto selected and that the imported eligibility excludes. -/
def reconcileRequired (db : Database) : Bool :=
  match routingRow db with
  | none => false
  | some r =>
      let mode := ((r "server_mode").value.or (.str "auto".toList)).text env.reprText
      let active := strip ((r "active_auto_server_id").value.textOr env.reprText)
      decide (env.unicode.lower mode = "auto".toList ∧ active ≠ []) &&
        !env.autoEligible (poolInputs db) active

/-! ## Statements -/

abbrev Statement := Database → Except Error Database

/-- The schema of the database. -/
abbrev Env.schema (env : Env) : Schema Table String Cell := Transfer.schema env.sqlite

def liftViolation {α : Type} (x : Except Violation α) : Except Error α := x.mapError .statement

/-- `INSERT INTO settings … ON CONFLICT(key) DO UPDATE SET value_json, updated_at`. -/
def writeSetting (now : Text) (key : Text) (value : Text) : Statement := fun db =>
  let cells : List (String × Cell) :=
    [("key", .text key), ("value_json", .text value), ("updated_at", .text now)]
  liftViolation (env.schema.upsert .settings (rowOfCells cells)
    (fun r c => (cells.lookup c).getD (r c)) db)

/-- `advance_core_intent_revision`. -/
def advanceCoreIntentRevision (now : Text) : Statement := fun db =>
  match settingRow db coreIntentRevisionKey with
  | none => .error .coreIntentMissing
  | some row =>
      match cellJson env.codec (row "value_json") with
      | some (.int current) =>
          let matched (r : Row) : Bool := decide (r "key" = .text coreIntentRevisionKey ∧
            r "value_json" = .text (Value.intText current))
          let cells : List (String × Cell) :=
            [("value_json", .text (Value.intText (current + 1))), ("updated_at", .text now)]
          if current < 0 then .error .coreIntentInvalid
          else if (db .settings).countP matched ≠ 1 then .error .coreIntentConflict
          else liftViolation (env.schema.updateWhere .settings matched
            (fun r c => (cells.lookup c).getD (r c)) db)
      | _ => .error .coreIntentInvalid

/-- The tables that an import empties, in its order. -/
def clearedTables : List Table :=
  [.subjectServerOverrides, .subjectUserOverrides, .subjectLan, .subjectDocker, .subjectHost,
    .subjectFwrouter, .serverPingState, .serverPreferences, .serverCustomHttpsProxy, .subjects, .servers,
    .subscriptionState, .rulesMetadata, .rulesState, .modules]

/-- `DELETE FROM table`. -/
def clear (t : Table) : Statement := fun db => .ok (env.schema.delete t (fun _ => true) db)

/-- `key NOT IN (…) AND key NOT GLOB 'maintenance.import.receipt.*'`; a null key is not matched. -/
def dropsSetting (r : Row) : Bool :=
  match r "key" with
  | .text key => !(keptSettings.contains key) && !isReceipt key
  | .null => false
  | _ => true

def deleteSettings : Statement := fun db => .ok (env.schema.delete .settings dropsSetting db)

/-- One `executemany`. -/
def insertRows (now : Text) (t : Table) (rows : List Dict) : Statement := fun db => do
  let rows ← rows.mapM (buildRow env.sqlite env.codec now (insertColumns t))
  liftViolation (env.schema.insertAll t rows db)

/-- `rebase_imported_display_settings`. -/
def rebaseDisplaySettings (now incarnation : Text) (value : Dict) : Statement :=
  let contract : Dict := [("version".toList, .int 1), ("incarnation".toList, .str incarnation),
    ("revision".toList, .int 1)]
  writeSetting env now displaySettingsKey
    (env.codec.dumpsCompact (.dict (value.set contractKey (.dict contract))))

/-- The row that `update_imported_routing_intent` starts from if there is none. -/
def initialRouting (now : Text) : Row := rowOfCells
  [("id", .int 1), ("desired_mode", textCell "direct"), ("applied_mode", textCell "direct"),
    ("selective_default", textCell "direct"), ("server_mode", textCell "auto"),
    ("apply_state", textCell "pending"), ("updated_at", .text now)]

/-- The columns of `routing_global_state`. -/
def routingFields : List String :=
  ["id", "desired_mode", "applied_mode", "selective_default", "server_mode", "desired_fixed_server_id",
    "applied_fixed_server_id", "fixed_server_until", "active_auto_server_id", "apply_state",
    "error_code", "error_message", "updated_at"]

/-- A row as `dict(row)`. -/
def rowDict (columns : List String) (r : Row) : Dict := object (columns.map fun c => (c, (r c).value))

lemma get_rowDict {columns : List String} {c : String} (hc : c ∈ columns) (r : Row) :
    (rowDict columns r).get c = (r c).value := by
  rw [rowDict, get_object, lookup_map_column _ hc, Option.getD_some]

/-- The first statement of `update_imported_routing_intent`. -/
def ensureRouting (now : Text) : Statement := fun db =>
  if (routingRow db).isSome then .ok db
  else liftViolation (env.schema.insert .routingGlobalState db (initialRouting now))

/-- `update_imported_routing_intent`; the preserved server wins over the column as it is. -/
def updateRouting (now : Text) (routing : Dict) (preserved : Option Text) : Statement := fun db => do
  let db ← ensureRouting env now db
  let missing := preserved.any fun id => !(db .servers).any fun r => decide (r "server_id" = .text id)
  let cells ← routingColumns.mapM (Column.cell env.sqlite env.codec now routing)
  let active : Cell := preserved.elim ((activeAutoServerId db).getD .null) .text
  let set (r : Row) : Row := fun c =>
    if c = "active_auto_server_id" then active else (cells.lookup c).getD (r c)
  if missing then .error .selectionOmitted
  else liftViolation (env.schema.updateWhere .routingGlobalState (fun r => decide (r "id" = .int 1)) set db)

/-- The imported routing, or the local row if the snapshot has none. -/
def importRouting (now : Text) (routing : Option Dict) (localRow : Option Row) : Statement := fun db =>
  match routing.filter fun d => !d.isEmpty, localRow with
  | some routing, _ => updateRouting env now routing
      (localRow.bind fun r => strippedId env.reprText (r "active_auto_server_id")) db
  | none, some row => updateRouting env now (rowDict routingFields row)
      (strippedId env.reprText (row "active_auto_server_id")) db
  | none, none => .ok db

/-- `advance_selection_revision`, if the pool is not the one it was. -/
def advanceSelectionRevision (now : Text) (before : Text) (expected : ℤ) : Statement := fun db =>
  if selectionPoolSignature env db = before then .ok db
  else do
    let current ← readSelectionRevision env db
    if current ≠ expected then .error .selectionRevisionConflict
    else writeSetting env now Selection.selectionRevisionKey (Value.intText (current + 1)) db

/-- What is written to the routing of a selected server that is not eligible. -/
def reconcileCells (now : Text) : List (String × Cell) :=
  [("apply_state", textCell "pending"), ("error_code", textCell "VPN_AUTO_SELECTION_RECONCILE_REQUIRED"),
    ("error_message", textCell "Imported eligibility excludes the retained last-good vpn-auto target."),
    ("updated_at", .text now)]

/-- The routing of a selected server that is not eligible is pending. -/
def markReconcile (now : Text) : Statement := fun db =>
  if reconcileRequired env db then
    liftViolation (env.schema.updateWhere .routingGlobalState (fun r => decide (r "id" = .int 1))
      (fun r c => ((reconcileCells now).lookup c).getD (r c)) db)
  else .ok db

/-- `_write_subscription_inventory_candidate`. -/
def writeGenerationMarker (now : Text) : Statement := fun db =>
  writeSetting env now nativeGenerationKey (env.generationMarker db) db

/-! ## The transaction -/

/-- What the import writes. -/
structure Plan where
  settings : List Dict
  display : Dict
  modules : List Dict
  routing : Option Dict
  subjects : List Dict
  userOverrides : List Dict
  serverOverrides : List Dict
  servers : List Dict
  customHttpsProxy : List Dict
  preferences : List Dict
  pingState : List Dict
  subscription : Dict
  rulesState : Dict
  rulesMetadata : List Dict
  files : List (String × Text)

/-- The settings of a snapshot that are imported. -/
def importsSetting (row : Dict) : Bool :=
  let key := fieldText env.reprText row "key"
  !isReceipt key && !(keptSettings.contains key)

/-- The rows of the snapshot, rewritten. -/
def planRows (call : Call) (settings servers : List Dict) (display : Dict)
    (files : List (String × Text)) (db : Database) : Except Error Plan := do
  let state := stateFromSnapshot call.snapshot
  let rules := (state.get "rules").dictOr
  let normalize := call.normalizeRuntimeState
  let modules ← dictRows (state.get "modules")
  let subjects ← dictRows (state.get "subjects")
  let subjects ← mergeLegacyProviderDetailRows env.reprText state
    (subjects.map (normalizedSubjectRow env.unicode env.reprText normalize))
  let userOverrides ← dictRows (state.get "subject_user_overrides")
  let serverOverrides ← dictRows (state.get "subject_server_overrides")
  let customHttpsProxy ← dictRows (state.get "server_custom_https_proxy")
  let preferences ← dictRows (state.get "server_preferences")
  let pingState ← dictRows (state.get "server_ping_state")
  let subscription ← dictOf (state.get "subscription_state")
  let rulesMetadata ← dictRows (rules.get "metadata_rows")
  return {
    settings := settings.filter (importsSetting env)
    display := display
    modules := modules.map (normalizedModuleRow env.reprText normalize)
    routing := (state.get "routing_global_state").asDict.map (normalizedRoutingRow normalize)
    subjects := subjects
    userOverrides := userOverrides
    serverOverrides := (serverOverrides.map
      (normalizedSubjectServerOverride env.reprText normalize)).filter fun row =>
        strip (fieldText env.reprText row "subject_id") ≠ []
    servers := servers
    customHttpsProxy := customHttpsProxy
    preferences := preferences
    pingState := pingState
    subscription := normalizedSubscriptionState env.reprText normalize subscription
    rulesState := normalizedRulesState normalize files
      ((rules.get "state").asDict.getD (getRulesState env db))
    rulesMetadata := rulesMetadata.map (rebasedRulesMetadata env.reprText files)
    files := files }

/-- The first half of `_import_in_transaction`, which only reads: the plan, or the code of a refusal. -/
def preparePlan (call : Call) (db : Database) : Except Error (Except String Plan) := do
  let state := stateFromSnapshot call.snapshot
  let settings ← dictRows (state.get "settings")
  let servers ← dictRows (state.get "servers")
  match validateImportedDisplaySettings env.reprText settings, readSelectionRevision env db with
  | .error code, _ => return .error code
  | .ok _, .error _ => return .error "VPN_AUTO_SELECTION_FENCE_INVALID"
  | .ok (settings, display), .ok _ =>
      let imported := servers.map fun row => strip (fieldText env.reprText row "server_id")
      if (localActiveId env db).any fun id => !imported.contains id then
        return .error "VPN_AUTO_SELECTION_IMPORT_REQUIRES_RECONCILE"
      else match call.rulesFiles with
        | none => .error .rulesFiles
        | some files => return .ok (← planRows env call settings servers display files db)

/-- The statements that write, after the tables have been emptied.  What they are given of `db` was read
before. -/
def writeStatements (call : Call) (plan : Plan) (revision : ℤ) (db : Database) : List Statement :=
  let now := call.now
  let detailRows (t : Table) := plan.subjects.filterMap (detailRow t)
  [insertRows env now .settings plan.settings,
    rebaseDisplaySettings env now call.incarnation plan.display,
    insertRows env now .modules plan.modules,
    insertRows env now .subjects plan.subjects,
    insertRows env now .subjectLan (detailRows .subjectLan),
    insertRows env now .subjectDocker (detailRows .subjectDocker),
    insertRows env now .subjectHost (detailRows .subjectHost),
    insertRows env now .subjectFwrouter (detailRows .subjectFwrouter),
    insertRows env now .servers plan.servers,
    insertRows env now .serverCustomHttpsProxy plan.customHttpsProxy,
    importRouting env now plan.routing (routingRow db),
    insertRows env now .serverPreferences plan.preferences,
    insertRows env now .serverPingState plan.pingState,
    insertRows env now .subjectUserOverrides plan.userOverrides,
    insertRows env now .subjectServerOverrides plan.serverOverrides,
    insertRows env now .subscriptionState (if plan.subscription.isEmpty then [] else [plan.subscription]),
    insertRows env now .rulesState [plan.rulesState],
    insertRows env now .rulesMetadata plan.rulesMetadata,
    advanceSelectionRevision env now (selectionPoolSignature env db) revision,
    markReconcile env now,
    writeGenerationMarker env now]

/-- The statements of `_import_in_transaction`.  What it reads before it writes is read of `db`: the
core intent revision, which it advances first, is not among that. -/
def importStatements (call : Call) (plan : Plan) (revision : ℤ) (db : Database) : List Statement :=
  advanceCoreIntentRevision env call.now :: clearedTables.map (clear env) ++
    deleteSettings env :: writeStatements env call plan revision db

/-- Executes statements; the one at `failAt` raises. -/
def runStatements : Option ℕ → List Statement → Statement
  | _, [], db => .ok db
  | some 0, _ :: _, _ => .error .interrupted
  | some (n + 1), s :: statements, db => s db >>= runStatements (some n) statements
  | none, s :: statements, db => s db >>= runStatements none statements

/-- `INSERT INTO settings(key, value_json)` of the receipt. -/
def writeReceipt (now operationId fingerprint : Text) (result : ImportResult) : Statement := fun db =>
  liftViolation (env.schema.insert .settings db (rowOfCells
    [("key", .text (receiptPrefix ++ operationId)),
      ("value_json", .text (env.encodeReceipt fingerprint result)), ("updated_at", .text now)]))

/-- `_import_in_transaction` and the receipt. -/
def importPlan (call : Call) (operationId fingerprint : Text) (plan : Plan) (db : Database) :
    Except Error (ImportResult × Database) := do
  let revision ← readSelectionRevision env db
  let statements := importStatements env call plan revision db
  let db₁ ← runStatements call.failAt statements db
  let selectionRevision ← readSelectionRevision env db₁
  let result : ImportResult := {
    operationId := operationId
    normalizeRuntimeState := call.normalizeRuntimeState
    subjectsCount := plan.subjects.length
    serversCount := plan.servers.length
    modulesCount := plan.modules.length
    settingsCount := plan.settings.length
    rulesFiles := plan.files
    selectionReconcileRequired := reconcileRequired env db₁
    selectionRevision := selectionRevision }
  let receipt := writeReceipt env call.now operationId fingerprint result
  let db₂ ← (if call.failAt = some statements.length then .error .interrupted else receipt db₁)
  return (result, db₂)

def hasRunningJob (db : Database) : Bool := (db .jobs).any fun r => decide (r "status" = textCell "running")

def receiptCount (db : Database) : ℕ := (db .settings).countP fun r => match r "key" with
  | .text key => isReceipt key
  | _ => false

/-- The transaction of `_import_control_plane_snapshot_validated`. -/
def importTransaction (call : Call) (operationId fingerprint : Text) (db : Database) :
    Except Error (Reply × Database) :=
  match settingRow db (receiptPrefix ++ operationId) with
  | some row =>
      match row "value_json" with
      | .text s => match env.decodeReceipt s with
          | none => .error .json
          | some (stored, result) =>
              if stored ≠ fingerprint then .ok (.refused "IMPORT_OPERATION_ID_CONFLICT", db)
              else .ok (.replayed result, db)
      | _ => .error .json
  | none =>
      if hasRunningJob db then .ok (.refused "IMPORT_ACTIVE_JOB_CONFLICT", db)
      else if 4096 ≤ receiptCount db then .ok (.refused "IMPORT_RECEIPT_CAPACITY_REACHED", db)
      else do
        match ← preparePlan env call db with
        | .error code => return (.refused code, db)
        | .ok plan =>
            let (result, db') ← importPlan env call operationId fingerprint plan db
            return (.imported result, db')

/-- `re.fullmatch(r"(?:[0-9a-f]{32}|[0-9a-f]{64})", operation_id)`. -/
def validOperationId (operationId : Text) : Bool :=
  decide ((operationId.length = 32 ∨ operationId.length = 64) ∧
    ∀ c ∈ operationId, c ∈ "0123456789abcdef".toList)

/-- `import_control_plane_snapshot` after the validation. -/
def importValidated (call : Call) (db : Database) : Except Error (Reply × Database) :=
  if call.databaseOk = false then .ok (.refused "CONTROL_PLANE_IMPORT_DATABASE_UNAVAILABLE", db)
  else match env.fingerprint call.snapshot call.normalizeRuntimeState with
    | none => .error .json
    | some fingerprint =>
        let operationId := call.operationId.getD fingerprint
        if validOperationId operationId = false then .ok (.refused "IMPORT_OPERATION_ID_INVALID", db)
        else importTransaction env call operationId fingerprint db

/-- `import_control_plane_snapshot`, where a call that raises is rolled back. -/
def importControlPlaneSnapshot (call : Call) (db : Database) : Reply × Database :=
  let state := stateFromSnapshot call.snapshot
  let errors := validationErrors env.unicode env.reprText call.snapshot
  let sized := (iterate (state.get "modules") >>= fun _ => iterate (state.get "settings"))
  if call.admitted = false then
    (.refused "CONTROL_PLANE_IMPORT_MAINTENANCE_ADMISSION_REQUIRED", db)
  else match sized with
    | .error e => (.raised e, db)
    | .ok _ =>
        if errors ≠ [] then (.invalid errors, db)
        else match importValidated env call db with
          | .error e => (.raised e, db)
          | .ok done => done

end FwRouter.Transfer
