import FwRouter.Transfer.Rows
import FwRouter.Subjects.Manifest

/-!
# Reading a snapshot

The first half of an import, before any statement writes: the validation of the snapshot
(`validate_control_plane_snapshot`), the imported display settings, and the rows of the snapshot as
`_import_in_transaction` rewrites them.  A snapshot is any JSON object; a section that is missing or
null counts as empty, and one that cannot be iterated raises.
-/

namespace FwRouter.Transfer

open Py Subjects.Manifest

variable (U : Unicode) (reprText : Text → Text)

/-! ## Sections -/

/-- `_state_from_snapshot`. -/
def stateFromSnapshot (snapshot : Dict) : Dict := (snapshot.get "state").dictOr

/-- The elements of `value or []`. -/
def iterate (value : Value) : Except Error (List Value) :=
  if value.truthy = false then .ok []
  else match value with
    | .list values => .ok values
    | .dict fields => .ok (fields.map fun field => .str field.1)
    | .str s => .ok (s.map fun c => .str [c])
    | _ => .error .typeError

/-- `[dict(row) for row in (value or []) if isinstance(row, dict)]`. -/
def dictRows (value : Value) : Except Error (List Dict) :=
  (iterate value).map fun values => values.filterMap Value.asDict

/-- An item of the argument of `dict`: a key and a value.  A key that is no text is never read. -/
def pairOf : Value → Except Error (Option Text × Value)
  | .list [.str k, v] => .ok (some k, v)
  | .list [.list _, _] => .error .typeError
  | .list [.dict _, _] => .error .typeError
  | .list [_, v] => .ok (none, v)
  | .str [a, b] => .ok (some [a], .str [b])
  | .dict [(a, _), (b, _)] => .ok (some a, .str b)
  | _ => .error .typeError

/-- `dict(value or {})`. -/
def dictOf (value : Value) : Except Error Dict :=
  if value.truthy = false then .ok []
  else match value with
    | .dict fields => .ok fields
    | .list values => (values.mapM pairOf).map fun pairs =>
        pairs.foldl (fun d pair => pair.1.elim d fun k => KeyedTable.assign k pair.2 d) []
    | _ => .error .typeError

/-- `str(row.get(key) or "")`. -/
def fieldText (row : Dict) (key : String) : Text := (row.get key).textOr reprText

/-- `str(row.get(key) or default)`. -/
def fieldTextOr (row : Dict) (key : String) (default : Text) : Text :=
  ((row.get key).or (.str default)).text reprText

/-- `value is None`. -/
def isNone : Value → Bool
  | .none => true
  | _ => false

/-! ## Validation -/

def controlPlaneSnapshotVersion : Text := "2026-05-14.control-plane-transfer.v2".toList

/-- `explicit_external_client_subject_allows_virtual_vpn_auto`: Xray is the one registered contract. -/
def allowsVirtualVpnAuto (subjectType implementationKind : Text) : Bool :=
  decide (normalizeSubjectType U subjectType = "explicit_external_client".toList ∧
    U.lower (strip implementationKind) = "xray".toList)

/-- The last subject under an id; a blank id names none. -/
def subjectById (subjects : List Dict) (subjectId : Text) : Option Dict :=
  subjects.reverse.find? fun s => decide (fieldText reprText s "subject_id" = subjectId ∧
    strip (fieldText reprText s "subject_id") ≠ [])

/-- The error of one entry of `subject_server_overrides`. -/
def overrideError (subjects : List Dict) (entry : Value) : Option String :=
  match entry.asDict with
  | none => some "SNAPSHOT_SUBJECT_SERVER_OVERRIDE_INVALID"
  | some override =>
      let kind := fieldTextOr reprText override "selected_target_kind" "server".toList
      if kind ∉ ["server".toList, "vpn_auto".toList] then
        some "SNAPSHOT_SUBJECT_SERVER_OVERRIDE_KIND_INVALID"
      else if kind ≠ "vpn_auto".toList then none
      else
        let compatible := (subjectById reprText subjects (fieldText reprText override "subject_id")).any
          fun s => allowsVirtualVpnAuto U (fieldText reprText s "subject_type")
            (fieldText reprText s "implementation_kind")
        if !isNone (override.get "selected_server_id") || !compatible then
          some "SNAPSHOT_SUBJECT_SERVER_OVERRIDE_VPN_AUTO_INVALID"
        else none

def isList : Value → Bool
  | .list _ => true
  | _ => false

/-- `value is not None and not isinstance(value, list)`. -/
def badSection (value : Value) (code : String) : List String :=
  if isNone value || isList value then [] else [code]

/-- The codes of the errors of `validate_control_plane_snapshot`. -/
def validationErrors (snapshot : Dict) : List String :=
  let state := stateFromSnapshot snapshot
  let subjects := (state.get "subjects").listOr.filterMap Value.asDict
  let overrides := (state.get "subject_server_overrides").listOr
  (if (snapshot.get "snapshot_version").isText controlPlaneSnapshotVersion then []
    else ["SNAPSHOT_VERSION_UNSUPPORTED"]) ++
  (if isList (state.get "subjects") then [] else ["SNAPSHOT_SUBJECTS_INVALID"]) ++
  badSection (state.get "subject_server_overrides") "SNAPSHOT_SUBJECT_SERVER_OVERRIDES_INVALID" ++
  overrides.filterMap (overrideError U reprText subjects) ++
  (if isList (state.get "servers") then [] else ["SNAPSHOT_SERVERS_INVALID"]) ++
  badSection (state.get "server_custom_https_proxy") "SNAPSHOT_CUSTOM_SERVERS_INVALID" ++
  match (state.get "rules").asDict with
  | none => ["SNAPSHOT_RULES_INVALID"]
  | some rules => if (rules.get "content").asDict.isSome then [] else ["SNAPSHOT_RULES_CONTENT_INVALID"]

/-! ## Display settings -/

def displaySettingsKey : Text := "ui.admin_client_display.v1".toList

/-- `CONTRACT_KEY`. -/
def contractKey : String := "_show_inactive_contract"

/-- `_validated_contract` of an object. -/
def validContract (value : Value) : Bool :=
  match value with
  | .dict fields =>
      let revisionOk := match Dict.get fields "revision" with
        | .int n => decide (1 ≤ n ∧ n ≤ 2 ^ 63 - 1)
        | _ => false
      let versionOk := match Dict.get fields "version" with
        | .int n => decide (n = 1)
        | _ => false
      let incarnationOk := match Dict.get fields "incarnation" with
        | .str s => decide (s.length = 32 ∧ ∀ c ∈ s, c ∈ "0123456789abcdef".toList)
        | _ => false
      decide (fields.length = 3) && versionOk && incarnationOk && revisionOk
  | _ => false

def isBool : Value → Bool
  | .bool _ => true
  | _ => false

/-- `d.pop(key)`, the dict. -/
def Dict.without (d : Dict) (key : String) : Dict := d.filter fun field => field.1 ≠ key.toList

/-- The imported value of the display settings, without the contract. -/
def displayValue (row : Dict) : Except String Dict :=
  match (row.get "value").asDict with
  | none => .error "CLIENT_LIST_IMPORT_SETTINGS_INVALID"
  | some value =>
      let selected := Dict.without value contractKey
      let shown := if selected.has "show_inactive" then selected.get "show_inactive" else .bool false
      if value.has contractKey ∧ isNone (value.get contractKey) then
        .error "CLIENT_LIST_IMPORT_METADATA_INVALID"
      else if value.has contractKey ∧ validContract (value.get contractKey) = false then
        .error "CLIENT_LIST_CONFIGURATION_CONFLICT"
      else if isBool shown = false then .error "CLIENT_LIST_IMPORT_BOOLEAN_INVALID"
      else .ok selected

/-- One round of the loop of `validate_imported_display_settings`. -/
def displayStep (done : List Dict × Option Dict) (row : Dict) : Except String (List Dict × Option Dict) :=
  if fieldText reprText row "key" ≠ displaySettingsKey then .ok (done.1 ++ [row], done.2)
  else if done.2.isSome then .error "CLIENT_LIST_IMPORT_SETTINGS_DUPLICATE"
  else (displayValue row).map fun value => (done.1 ++ [row.set "value" (.dict value)], some value)

/-- `validate_imported_display_settings`: the rows and the selected value. -/
def validateImportedDisplaySettings (rows : List Dict) : Except String (List Dict × Dict) :=
  (rows.foldlM (displayStep reprText) ([], none)).map fun done =>
    (done.1, done.2.getD [("show_inactive".toList, .bool false)])

/-! ## Rewriting -/

/-- `_normalized_module_row`, with the core module pending. -/
def normalizedModuleRow (normalize : Bool) (row : Dict) : Dict :=
  let desired := fieldTextOr reprText row "desired_state" "disabled".toList
  let row := if normalize then
      ((((((row.set "lifecycle_mode" (.str (fieldTextOr reprText row "lifecycle_mode" "none".toList))).set
        "runtime_state" (.str "not_configured".toList)).set
        "apply_state" (.str (if desired = "enabled".toList then "pending".toList else "clean".toList))).set
        "status_text" (.str
          "Imported from control-plane snapshot. Runtime apply/verify is required.".toList)).set
        "error_code" .none).set "error_message" .none)
    else row
  if (row.get "module_name").isText "core".toList && (row.get "desired_state").isText "enabled".toList then
    row.set "apply_state" (.str "pending".toList)
  else row

/-- `_normalized_routing_row`. -/
def normalizedRoutingRow (normalize : Bool) (row : Dict) : Dict :=
  if normalize then
    ((((row.set "applied_mode" .none).set "applied_fixed_server_id" .none).set
      "apply_state" (.str "pending".toList)).set "error_code" .none).set "error_message" .none
  else row

def fwrouterGlobal : Text := "fwrouter:global".toList

/-- `_normalized_subject_row`. -/
def normalizedSubjectRow (normalize : Bool) (row : Dict) : Dict :=
  let subjectId := fieldText reprText row "subject_id"
  let raw := ((row.get "stored_subject_type").or (row.get "subject_type")).textOr reprText
  let subjectType := normalizeSubjectType U raw
  let row := row.set "subject_type" (.str subjectType)
  let row := if raw ∈ ["tailscale".toList, "tailscale_node".toList] then
      (row.set "subject_role" (.str "external_network_source".toList)).set
        "implementation_kind" (.str "tailscale".toList)
    else if raw = "xray".toList then
      (row.set "subject_role" (.str "vless_client".toList)).set "implementation_kind" (.str "xray".toList)
    else row
  if subjectId = fwrouterGlobal ∨ subjectType = "fwrouter".toList then
    ((row.set "desired_mode" (.str "direct".toList)).set
      "applied_mode" (if normalize then .none else .str "direct".toList)).set
      "apply_state" (.str (if normalize then "pending".toList else "clean".toList))
  else if normalize then (row.set "applied_mode" .none).set "apply_state" (.str "pending".toList)
  else row

/-- `_merge_metadata_detail`. -/
def mergeMetadataDetail (detail : Dict) (subject : Dict) : Dict :=
  let metadata := (subject.get "metadata").dictOr
  let merged := (detail.filter fun field => !isNone field.2).foldl
    (fun d field => KeyedTable.assign field.1 field.2 d) (metadata.get "detail").dictOr
  subject.set "metadata" (.dict (metadata.set "detail" (.dict merged)))

/-- Changes the first row that matches. -/
def modifyFirst (p : Dict → Bool) (f : Dict → Dict) : List Dict → List Dict
  | [] => []
  | row :: rows => if p row then f row :: rows else row :: modifyFirst p f rows

/-- Merges one legacy row into the last subject of its id. -/
def mergeLegacyRow (detail : Dict → Dict) (subjects : List Dict) (row : Dict) : List Dict :=
  (modifyFirst (fun s => decide (fieldText reprText s "subject_id" = fieldText reprText row "subject_id"))
    (mergeMetadataDetail (detail row)) subjects.reverse).reverse

def tailscaleDetail (row : Dict) : Dict :=
  [("node_id".toList, row.get "node_id"), ("provider_node_id".toList, row.get "node_id"),
    ("tailscale_ip".toList, row.get "tailscale_ip"), ("ip_address".toList, row.get "tailscale_ip"),
    ("hostname".toList, row.get "hostname"), ("user_name".toList, row.get "user_name"),
    ("online".toList, .bool (row.get "online").truthy), ("source".toList, row.get "source")]

def xrayDetail (row : Dict) : Dict :=
  [("client_id".toList, row.get "client_id"), ("client_uuid".toList, row.get "client_uuid"),
    ("email".toList, row.get "email"), ("subscription_path".toList, row.get "subscription_path"),
    ("last_subscription_at".toList, row.get "last_subscription_at"),
    ("enabled".toList, .bool (if row.has "enabled" then (row.get "enabled").truthy else true)),
    ("source".toList, row.get "source")]

/-- `_merge_legacy_provider_detail_rows`. -/
def mergeLegacyProviderDetailRows (state : Dict) (subjects : List Dict) : Except Error (List Dict) := do
  let tailscale ← dictRows (state.get "subject_tailscale")
  let xray ← dictRows (state.get "subject_xray")
  return xray.foldl (mergeLegacyRow reprText xrayDetail)
    (tailscale.foldl (mergeLegacyRow reprText tailscaleDetail) subjects)

/-- `_normalized_subject_server_override`; the row of the core is dropped. -/
def normalizedSubjectServerOverride (normalize : Bool) (row : Dict) : Dict :=
  if fieldText reprText row "subject_id" = fwrouterGlobal then []
  else if normalize then
    ((row.set "apply_state" (.str "pending".toList)).set "error_code" .none).set "error_message" .none
  else row

/-- The items of the registry with the address that it lacks. -/
def registryWithUrl (row : Dict) (url : Text) (metadata : Dict) : Dict :=
  let subscriptions := (metadata.get "subscriptions").dictOr
  let kept := (subscriptions.get "items").listOr.filter fun item =>
    item.asDict.any fun item => strip (fieldText reprText item "url") ≠ []
  let item : Dict := [("url".toList, .str url), ("enabled".toList, .bool true),
    ("status".toList, (row.get "status").or (.str "idle".toList)),
    ("last_refresh_at".toList, row.get "last_refresh_at"),
    ("last_success_at".toList, row.get "last_success_at"), ("servers_count".toList, .int 0)]
  metadata.set "subscriptions" (.dict ((subscriptions.set "version"
    ((subscriptions.get "version").or (.int 1))).set "items" (.list (kept ++ [.dict item]))))

/-- `_normalized_subscription_state`. -/
def normalizedSubscriptionState (normalize : Bool) (row : Dict) : Dict :=
  let row := if normalize then
      ((row.set "status" (.str (if (row.get "url").truthy then "idle".toList
        else "not_configured".toList))).set "error_code" .none).set "error_message" .none
    else row
  let url := strip (fieldText reprText row "url")
  if url = [] then row
  else
    let metadata := (row.get "metadata").dictOr
    let items := ((metadata.get "subscriptions").dictOr.get "items").listOr.filterMap Value.asDict
    if url ∈ items.map fun item => strip (fieldText reprText item "url") then
      row.set "metadata" (.dict metadata)
    else row.set "metadata" (.dict (registryWithUrl reprText row url metadata))

/-- `_normalized_rules_state`. -/
def normalizedRulesState (normalize : Bool) (files : List (String × Text)) (row : Dict) : Dict :=
  let row := files.foldl (fun d file => d.set file.1 (.str file.2)) row
  if normalize then
    ((((row.set "last_apply_job_id" .none).set "last_update_job_id" .none).set
      "status" (.str "pending".toList)).set "error_code" .none).set "error_message" .none
  else row

/-- The path of the file of a rule set. -/
def metadataPathField (rulesetType : Text) : Option String :=
  if rulesetType = "manual".toList then some "manual_active_path"
  else if rulesetType = "static_direct".toList then some "static_direct_path"
  else if rulesetType = "big_direct".toList then some "big_direct_path"
  else if rulesetType = "big_vpn".toList then some "big_vpn_path"
  else if rulesetType = "effective".toList then some "effective_json_path"
  else none

/-- A row of `metadata_rows` with the path of the imported file. -/
def rebasedRulesMetadata (files : List (String × Text)) (row : Dict) : Dict :=
  let path := (metadataPathField (fieldText reprText row "ruleset_type")).bind fun field =>
    files.lookup field
  row.set "active_path" (path.elim .none .str)

/-- The detail of a subject as a row of the table of its type. -/
def detailRow (table : Table) (subject : Dict) : Option Dict :=
  let tableOf := match subject.get "subject_type" with
    | .str t =>
        if t = "lan".toList then some Table.subjectLan
        else if t = "docker".toList then some .subjectDocker
        else if t = "host".toList then some .subjectHost
        else if t = "fwrouter".toList then some .subjectFwrouter
        else none
    | _ => none
  match (subject.get "detail").asDict with
  | some detail =>
      if tableOf = some table then
        some (detail.foldl (fun d field => KeyedTable.assign field.1 field.2 d)
          [("subject_id".toList, subject.get "subject_id")])
      else none
  | none => none

/-! ## What the rewriting keeps -/

section Kept

variable {U : Unicode} {reprText : Text → Text}

/-- The columns of a subject that no rewriting of its row touches. -/
def keptBySubjectRow (key : String) : Prop :=
  key ∉ ["subject_type", "subject_role", "implementation_kind", "desired_mode", "applied_mode",
    "apply_state", "metadata"]

lemma lookup_normalizedSubjectRow {key : String} (hkey : keptBySubjectRow key) (normalize : Bool) (row : Dict) :
    (normalizedSubjectRow U reprText normalize row).lookup key.toList = row.lookup key.toList := by
  simp only [keptBySubjectRow, List.mem_cons, List.not_mem_nil, or_false, not_or] at hkey
  obtain ⟨htype, hrole, hkind, hdesired, happlied, hstate, -⟩ := hkey
  simp only [normalizedSubjectRow]
  split_ifs <;> simp only [Dict.lookup_set_of_ne htype, Dict.lookup_set_of_ne hrole,
    Dict.lookup_set_of_ne hkind, Dict.lookup_set_of_ne hdesired, Dict.lookup_set_of_ne happlied,
    Dict.lookup_set_of_ne hstate]

lemma map_modifyFirst {β : Type} {p : Dict → Bool} {f : Dict → Dict} {g : Dict → β}
    (h : ∀ row, g (f row) = g row) (rows : List Dict) : (modifyFirst p f rows).map g = rows.map g := by
  induction rows with
  | nil => rfl
  | cons row rows ih =>
      rw [modifyFirst]
      split_ifs
      · rw [List.map_cons, List.map_cons, h]
      · rw [List.map_cons, List.map_cons, ih]

/-- The legacy rows change the metadata of the subjects alone. -/
lemma lookup_mergeLegacyProviderDetailRows {key : String} (hkey : keptBySubjectRow key) {state : Dict}
    {subjects merged : List Dict} (h : mergeLegacyProviderDetailRows reprText state subjects = .ok merged) :
    merged.map (·.lookup key.toList) = subjects.map (·.lookup key.toList) := by
  have hne : key ≠ "metadata" := by
    rintro rfl
    simp [keptBySubjectRow] at hkey
  have hrow : ∀ (detail : Dict → Dict) (subjects : List Dict) (row : Dict),
      (mergeLegacyRow reprText detail subjects row).map (·.lookup key.toList) =
        subjects.map (·.lookup key.toList) := by
    intro detail subjects row
    rw [mergeLegacyRow, List.map_reverse, map_modifyFirst, List.map_reverse, List.reverse_reverse]
    intro subject
    exact Dict.lookup_set_of_ne hne
  have hrows : ∀ (detail : Dict → Dict) (rows subjects : List Dict),
      (rows.foldl (mergeLegacyRow reprText detail) subjects).map (·.lookup key.toList) =
        subjects.map (·.lookup key.toList) := by
    intro detail rows
    induction rows with
    | nil => exact fun _ => rfl
    | cons row rows ih => exact fun subjects => (ih _).trans (hrow detail subjects row)
  obtain ⟨tailscale, -, h⟩ := Run.exists_of_bind_eq_ok h
  obtain ⟨xray, -, h⟩ := Run.exists_of_bind_eq_ok h
  obtain rfl := Except.ok.inj h
  rw [hrows, hrows]

end Kept

end FwRouter.Transfer
