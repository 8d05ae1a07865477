import FwRouter.Transfer.Schema
import FwRouter.Library.Run

/-!
# Rows of a snapshot

An import turns the objects of a snapshot into rows.  Each of its `INSERT` statements has a list of
columns, and for each column an expression over the object: `row["c"]`, `row.get("c")`, a default, the
JSON text of a field.  The lists are data here (`insertColumns`), the expressions are `Source`s.

JSON texts are written and read by `json.dumps` and `json.loads`, which are parameters; `loads` is
`none` where it raises.
-/

namespace FwRouter.Transfer

open Py Relational

/-- Why a call raises. -/
inductive Error
  | typeError
  | keyError (key : String)
  | binding
  | json
  | statement (violation : Violation)
  | coreIntentMissing
  | coreIntentInvalid
  | coreIntentConflict
  | selectionRevisionMalformed
  | selectionRevisionConflict
  | selectionOmitted
  | rulesFiles
  | interrupted
  deriving DecidableEq

/-- `json`: `loads`, `dumps` with sorted keys, and `dumps` with sorted keys and compact separators. -/
structure Codec where
  loads : Text → Option Value
  dumps : Value → Text
  dumpsCompact : Value → Text

/-- A parameter of a statement; a list or a dict has no SQL type, and an integer has 64 bits. -/
def bindValue : Value → Except Error Cell
  | .none => .ok .null
  | .bool b => .ok (.int (if b then 1 else 0))
  | .int n => if -2 ^ 63 ≤ n ∧ n < 2 ^ 63 then .ok (.int n) else .error .binding
  | .float repr => .ok (.real repr)
  | .str s => .ok (.text s)
  | .list _ => .error .binding
  | .dict _ => .error .binding

/-- An object with the given fields. -/
def object (fields : List (String × Value)) : Dict := fields.map fun field => (field.1.toList, field.2)

lemma lookup_object (fields : List (String × Value)) (key : String) :
    (object fields).lookup key.toList = fields.lookup key := by
  induction fields with
  | nil => rfl
  | cons field fields ih =>
      rw [object, List.map_cons, List.lookup_cons, List.lookup_cons]
      by_cases h : key = field.1
      · rw [beq_iff_eq.mpr h, beq_iff_eq.mpr (congrArg String.toList h)]
      · rw [beq_false_of_ne h, beq_false_of_ne fun hkeys => h (String.toList_inj.mp hkeys)]
        exact ih

lemma get_object (fields : List (String × Value)) (key : String) :
    (object fields).get key = (fields.lookup key).getD .none := by
  rw [Dict.get, lookup_object]

lemma lookup_map_column {columns : List String} (f : String → Value) {c : String} (hc : c ∈ columns) :
    (columns.map fun c => (c, f c)).lookup c = some (f c) := by
  induction columns with
  | nil => cases hc
  | cons d columns ih =>
      rw [List.map_cons, List.lookup_cons]
      by_cases h : c = d
      · rw [beq_iff_eq.mpr h, h]
      · rw [beq_false_of_ne h]
        exact ih ((List.mem_cons.mp hc).resolve_left h)

/-- `row[key]`. -/
def required (row : Dict) (key : String) : Except Error Value :=
  match row.lookup key.toList with
  | some v => .ok v
  | none => .error (.keyError key)

/-! ## Columns -/

/-- The expression for a column. -/
inductive Source
  /-- `row["c"]` -/
  | required
  /-- `row.get("c")` -/
  | optional
  /-- `row.get("c", default)` -/
  | getOr (default : Value)
  /-- `row.get("c") or default` -/
  | orElse (default : Value)
  /-- `COALESCE(row.get("c"), CURRENT_TIMESTAMP)` -/
  | orNow
  /-- `1 if row.get("c") else 0` -/
  | flag
  /-- `json.dumps(row.get(key)) if row.get(key) is not None else None` -/
  | json (key : String)
  /-- `json.dumps(row.get(key))` -/
  | jsonValue (key : String)
  /-- `row.get("implementation_kind") or row.get("stored_subject_type") or row["subject_type"]` -/
  | implementationKind
  | const (value : Value)

structure Column where
  name : String
  affinity : Affinity
  source : Source

variable (sqlite : Sqlite) (codec : Codec) (now : Text)

/-- The bound value of a column; `now` is `CURRENT_TIMESTAMP`. -/
def Column.value (row : Dict) (c : Column) : Except Error Value :=
  match c.source with
  | .required => Transfer.required row c.name
  | .optional => .ok (row.get c.name)
  | .getOr default => .ok (if row.has c.name then row.get c.name else default)
  | .orElse default => .ok ((row.get c.name).or default)
  | .orNow => .ok (match row.get c.name with
      | .none => .str now
      | v => v)
  | .flag => .ok (.int (if (row.get c.name).truthy then 1 else 0))
  | .json key => .ok (match row.get key with
      | .none => .none
      | v => .str (codec.dumps v))
  | .jsonValue key => .ok (.str (codec.dumps (row.get key)))
  | .implementationKind =>
      let kind := (row.get "implementation_kind").or (row.get "stored_subject_type")
      if kind.truthy then .ok kind else Transfer.required row "subject_type"
  | .const value => .ok value

/-- The stored cell of a column. -/
def Column.cell (row : Dict) (c : Column) : Except Error (String × Cell) := do
  let v ← c.value codec now row
  let cell ← bindValue v
  return (c.name, sqlite.store c.affinity cell)

/-- The row of the named cells; the other columns are null. -/
def rowOfCells (cells : List (String × Cell)) : Row := fun c => (cells.lookup c).getD .null

/-- The row that an `INSERT` makes of an object. -/
def buildRow (columns : List Column) (row : Dict) : Except Error Row := do
  let cells ← columns.mapM (Column.cell sqlite codec now row)
  return rowOfCells cells

section Cells

variable {sqlite : Sqlite} {codec : Codec} {now : Text} {columns : List Column} {row : Dict} {r : Row}

lemma cell_fst {c : Column} {cell : String × Cell} (h : c.cell sqlite codec now row = .ok cell) :
    cell.1 = c.name := by
  obtain ⟨v, -, h⟩ := Run.exists_of_bind_eq_ok h
  obtain ⟨bound, -, h⟩ := Run.exists_of_bind_eq_ok h
  rw [← Except.ok.inj h]

lemma rowOfCells_apply {cells : List (String × Cell)}
    (h : List.Forall₂ (fun c cell => c.cell sqlite codec now row = .ok cell) columns cells)
    (hnodup : (columns.map Column.name).Nodup) {c : Column} (hc : c ∈ columns) :
    c.cell sqlite codec now row = .ok (c.name, rowOfCells cells c.name) := by
  induction h with
  | nil => cases hc
  | @cons d cell columns cells hd _ ih =>
      rw [List.map_cons, List.nodup_cons] at hnodup
      have hname := cell_fst hd
      obtain ⟨name, value⟩ := cell
      obtain rfl : name = d.name := hname
      rcases List.mem_cons.mp hc with rfl | hc
      · rw [hd, rowOfCells, List.lookup_cons_self]
        rfl
      · have hne : c.name ≠ d.name := fun heq => hnodup.1 (heq ▸ List.mem_map_of_mem hc)
        rw [ih hnodup.2 hc, rowOfCells, rowOfCells, List.lookup_cons, beq_false_of_ne hne]

/-- A built row has the cell of each column. -/
lemma buildRow_apply (h : buildRow sqlite codec now columns row = .ok r)
    (hnodup : (columns.map Column.name).Nodup) {c : Column} (hc : c ∈ columns) :
    c.cell sqlite codec now row = .ok (c.name, r c.name) := by
  obtain ⟨cells, hcells, h⟩ := Run.exists_of_bind_eq_ok h
  obtain rfl := Except.ok.inj h
  exact rowOfCells_apply (Run.mapM_eq_ok.mp hcells) hnodup hc

end Cells

/-! ## The statements -/

/-- Text columns with one source. -/
def texts (source : Source) (names : List String) : List Column := names.map fun c => ⟨c, .text, source⟩

/-- Integer columns with one source. -/
def integers (source : Source) (names : List String) : List Column :=
  names.map fun c => ⟨c, .integer, source⟩

/-- `COALESCE(row.get("updated_at"), CURRENT_TIMESTAMP)`. -/
def updatedAt : List Column := texts .orNow ["updated_at"]

/-- The columns of the `INSERT` statements of an import. -/
def insertColumns : Table → List Column
  | .settings => texts .required ["key"] ++ texts (.jsonValue "value") ["value_json"] ++ updatedAt
  | .modules => texts .required ["module_name", "desired_state"] ++
      texts (.orElse (.str "none".toList)) ["lifecycle_mode"] ++
      texts .required ["runtime_state", "apply_state"] ++
      texts .optional ["status_text", "error_code", "error_message"] ++ updatedAt
  | .subjects => texts .required ["subject_id", "subject_type"] ++
      texts (.orElse (.str "unknown".toList)) ["subject_role"] ++
      texts .implementationKind ["implementation_kind"] ++ texts .required ["stable_key"] ++
      texts .optional ["display_name", "alias"] ++ texts .required ["desired_mode"] ++
      texts .optional ["applied_mode"] ++ texts .required ["apply_state", "runtime_state"] ++
      integers .flag ["is_active", "is_deleted"] ++
      texts .optional ["first_seen_at", "last_seen_at", "last_traffic_at", "inactive_since", "deleted_at"] ++
      texts (.json "metadata") ["metadata_json"] ++ texts .optional ["created_at"] ++ updatedAt
  | .subjectLan => texts .required ["subject_id"] ++
      texts .optional ["mac_address", "ip_address", "hostname", "dhcp_hostname"] ++
      texts (.json "source") ["source_json"] ++ updatedAt
  | .subjectDocker => texts .required ["subject_id"] ++
      texts .optional ["compose_project", "compose_service", "container_name", "container_id",
        "image_name", "ip_address", "network_name"] ++
      texts (.json "source") ["source_json"] ++ updatedAt
  | .subjectHost => texts .required ["subject_id"] ++
      texts .optional ["systemd_unit", "listen_proto"] ++ integers .optional ["listen_port"] ++
      texts .optional ["executable", "process_name"] ++ texts (.json "source") ["source_json"] ++ updatedAt
  | .subjectFwrouter => texts .required ["subject_id"] ++ texts .optional ["component_name"] ++
      texts (.json "source") ["source_json"] ++ updatedAt
  | .servers => texts .required ["server_id", "server_name"] ++
      texts .optional ["provider_name", "country_code", "region", "raw_json"] ++
      texts .required ["inventory_state"] ++
      texts .optional ["first_seen_at", "last_seen_at", "missing_since"] ++ updatedAt
  | .serverCustomHttpsProxy => texts .required ["server_id"] ++
      texts (.getOr (.str "http".toList)) ["proxy_type"] ++ texts .required ["host"] ++
      integers .required ["port"] ++ texts .optional ["username", "password"] ++
      integers (.getOr (.int 1)) ["tls"] ++ texts .optional ["sni"] ++
      integers (.getOr (.int 0)) ["skip_cert_verify"] ++ texts .optional ["path"] ++ updatedAt
  | .serverPreferences => texts .required ["server_id"] ++
      integers (.getOr (.int 0)) ["vpn_auto", "vpn_auto_priority"] ++
      texts (.orElse (.str "legacy".toList)) ["vpn_auto_priority_origin"] ++
      integers (.getOr (.int 1)) ["global_list"] ++
      texts .optional ["remembered_until", "manually_deleted_at"] ++ updatedAt
  | .serverPingState => texts .required ["server_id"] ++
      texts (.getOr (.str "unknown".toList)) ["status"] ++ integers .optional ["last_ping_ms"] ++
      texts .optional ["checked_at", "checked_by", "error_code", "error_message", "metadata_json",
        "manual_status"] ++
      integers .optional ["manual_ping_ms"] ++
      texts .optional ["manual_checked_at", "manual_checked_by", "manual_error_code",
        "manual_error_message", "manual_metadata_json"]
  | .subjectUserOverrides => texts .required ["subject_id"] ++
      texts .optional ["override_mode", "override_until", "created_by"] ++ updatedAt
  | .subjectServerOverrides => texts .required ["subject_id"] ++ texts .optional ["selected_server_id"] ++
      texts (.orElse (.str "server".toList)) ["selected_target_kind"] ++ texts .optional ["selected_until"] ++
      texts (.getOr (.str "clean".toList)) ["apply_state"] ++
      texts .optional ["error_code", "error_message"] ++ updatedAt
  | .subscriptionState => integers (.const (.int 1)) ["id"] ++ texts .optional ["url"] ++
      texts (.getOr (.str "not_configured".toList)) ["status"] ++
      texts .optional ["last_refresh_at", "last_success_at", "server_inventory_updated_at", "error_code",
        "error_message"] ++
      texts (.json "metadata") ["metadata_json"] ++ updatedAt
  | .rulesState => integers (.const (.int 1)) ["id"] ++
      texts .required ["manual_draft_path", "manual_active_path", "static_direct_path", "big_direct_path",
        "big_vpn_path", "effective_json_path", "effective_text_path", "metadata_path",
        "selective_default"] ++
      texts .optional ["last_apply_job_id", "last_update_job_id"] ++ texts .required ["status"] ++
      texts .optional ["last_success_at", "last_failed_at", "error_code", "error_message"] ++ updatedAt
  | .rulesMetadata => texts .required ["ruleset_id", "ruleset_type"] ++
      texts .optional ["version_name", "source_url", "active_path", "downloaded_at", "activated_at",
        "status", "last_success_at", "last_failed_at", "last_error_code", "last_error_message",
        "last_job_id"] ++
      texts (.json "metadata_json") ["metadata_json"]
  | _ => []

/-- The columns that `update_imported_routing_intent` sets from the imported row. -/
def routingColumns : List Column :=
  texts .optional ["desired_mode", "applied_mode", "selective_default", "server_mode",
    "desired_fixed_server_id", "applied_fixed_server_id", "fixed_server_until", "apply_state",
    "error_code", "error_message"] ++ updatedAt

end FwRouter.Transfer
