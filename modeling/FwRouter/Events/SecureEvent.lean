import FwRouter.ApiClients.Policy
import FwRouter.Python.Datetime
import FwRouter.Python.Hashlib
import FwRouter.Python.JsonSize

/-!
# What an authorized reader sees of an event

`_project` of `services/secure_events.py` makes the event that is shown from a row of
`operational_logs`, field by field from an allow-list.  `project_hidden` says that nothing but the
listed fields of the details has any influence, and `project_wellFormed` what an event looks like that
is shown.
-/

namespace FwRouter.Events

open Py ApiClients

/-- What the code takes from its surroundings: the tables of the Unicode database, `strftime("%Y")`
of a year (which pads a year before 1000 or not), and the hash. -/
structure Host where
  tables : Tables
  strftimeYear : ℕ → Text
  sha256 : Sha256

/-! ## Codes -/

inductive EventCategory
  | audit
  | operational
  | diagnostic
deriving DecidableEq

/-- `CORE_EVENT_CODE_CATALOG`. -/
def coreEventCodeCatalog : List (Text × EventCategory) :=
  [("job.terminal_outcome", .audit), ("provider_operation_verified", .operational),
    ("provider_operation_unconfirmed", .operational), ("provider_emergency_direct", .operational),
    ("provider_vpn_reentry", .operational), ("user_action", .audit), ("config_change", .audit),
    ("manual_apply", .audit), ("client.alias_changed", .audit), ("client.created", .audit),
    ("client.deleted", .audit), ("client.mode_changed", .audit),
    ("server.preferences_changed", .audit), ("client_list.show_inactive_changed", .audit),
    ("client_list.mutation_denied", .operational), ("client_list.mutation_conflict", .operational),
    ("server.vpn_auto_membership_changed", .audit), ("server.assignment_changed", .audit),
    ("module.desired_state_changed", .audit), ("module.lifecycle_changed", .audit),
    ("subscription.source_added", .audit), ("subscription.source_delete_requested", .audit),
    ("subscription.configuration_changed", .audit),
    ("subscription.provider_configuration_changed", .audit),
    ("subscription.identity_disabled", .audit), ("core.bypass_enabled", .audit),
    ("core.bypass_disabled", .audit), ("rules.manual_draft_changed", .audit),
    ("rules.manual_set_activated", .audit), ("routing.global_mode_changed", .audit),
    ("routing.selective_default_changed", .audit), ("routing.server_mode_changed", .audit),
    ("routing.global_fixed_server_changed", .audit), ("client.create_failed", .operational),
    ("client.delete_failed", .operational), ("client.alias_update_failed", .operational),
    ("admin.audit_event_missing", .operational), ("client.mode_apply_failed", .operational),
    ("server.assignment_apply_failed", .operational), ("apply_started", .operational),
    ("apply_finished", .operational), ("apply_completed", .operational),
    ("apply_failed", .operational), ("apply_dry_run_completed", .operational),
    ("subscription_refresh_applied", .operational), ("subscription_refresh_partial", .operational),
    ("subscription_refresh_failed", .operational),
    ("subscription_refresh_unconfirmed", .operational),
    ("subscription_refresh_apply_failed", .operational), ("server_selection_noop", .operational),
    ("subscription_source_delete_applied", .operational),
    ("subscription_source_delete_apply_failed", .operational),
    ("manual_rules_apply_completed", .operational), ("manual_rules_apply_failed", .operational),
    ("runtime_failed", .operational), ("reconcile_drift", .operational), ("failover", .operational),
    ("HEALTH_MEMBER_STATE_CHANGED", .diagnostic), ("HEALTH_MEMBER_RECOVERED", .diagnostic),
    ("HEALTH_GROUP_PROBE_TRANSITION", .diagnostic),
    ("HEALTH_EFFECTIVE_MEMBER_CHANGED", .diagnostic), ("probe_result", .diagnostic),
    ("debug_dump", .diagnostic), ("materialization_details", .diagnostic),
    ("mihomo.stage_input_context_changed", .diagnostic), ("vpn_watchdog_healthy", .diagnostic),
    ("vpn_watchdog_no_traffic", .diagnostic), ("xray_binding_materialized", .diagnostic),
    ("mihomo_candidate_config_written", .diagnostic),
    ("mihomo_candidate_config_validated", .diagnostic), ("mihomo_candidate_promoted", .diagnostic),
    ("mihomo_selective_default_fast_reconciled", .diagnostic)].map fun p => (p.1.toList, p.2)

def auditEventTypes : List Text :=
  ["user_action".toList, "config_change".toList, "manual_apply".toList]

def securityCodes : List Text :=
  ["client_list.mutation_denied".toList, "client_list.mutation_conflict".toList]

def legacyUnknown : Text := "legacy.unknown".toList

def jobTerminalOutcome : Text := "job.terminal_outcome".toList

/-- `code in CORE_EVENT_CODE_CATALOG`. -/
def inCatalog (code : Text) : Bool := (coreEventCodeCatalog.lookup code).isSome

/-- `_OUTCOMES`. -/
def outcomes : List Text :=
  ["success".toList, "failed".toList, "cancelled".toList, "skipped".toList,
    "intent_committed".toList, "denied".toList, "conflict".toList]

/-! ## Shapes -/

/-- A shape has an `x` for a lower-case hexadecimal digit, a `d` for a decimal digit, and stands for
itself elsewhere. -/
def fits (s c : Char) : Bool :=
  if s = 'x' then c.isDigit || (decide ('a' ≤ c) && decide (c ≤ 'f'))
  else if s = 'd' then c.isDigit
  else decide (c = s)

def shaped (shape t : Text) : Bool :=
  decide (t.length = shape.length) && (shape.zip t).all fun p => fits p.1 p.2

/-- `_canonical_uuid` of a text. -/
def canonicalUuid (t : Text) : Bool := shaped "xxxxxxxx-xxxx-xxxx-xxxx-xxxxxxxxxxxx".toList t

/-- The number in some of the characters. -/
def number (t : Text) (start width : ℕ) : ℕ := decValue ((t.drop start).take width)

section Host

variable (H : Host)

/-- `strptime` reads the date and the clock, and `strftime` writes the same text. -/
def validInstant (t : Text) : Bool :=
  let year := number t 0 4
  let month := number t 5 2
  let day := number t 8 2
  decide (1 ≤ year ∧ H.strftimeYear year = t.take 4 ∧ 1 ≤ month ∧ month ≤ 12 ∧ 1 ≤ day ∧
    day ≤ daysBeforeMonth (isLeap year) (month + 1) - daysBeforeMonth (isLeap year) month ∧
    number t 11 2 < 24 ∧ number t 14 2 < 60 ∧ number t 17 2 < 60)

/-- `_canonical_timestamp(value) is not None` of a text, which is what it returns. -/
def canonicalTimestamp (t : Text) : Bool := shaped "dddd-dd-dd dd:dd:dd".toList t && validInstant H t

def maxEventCodeChars : ℕ := 128

/-- `[a-z0-9]`. -/
def isCodeChar (c : Char) : Bool := c.isLower || c.isDigit

/-- `_CODE_RE`. -/
def codeRe (t : Text) : Bool :=
  let words := t.splitOnP fun c => decide (c = '.' ∨ c = '_')
  decide (2 ≤ words.length ∧ words.length ≤ 5) &&
    words.all (fun w => !w.isEmpty && w.all isCodeChar) &&
    decide (∃ c ∈ t.head?, c.isLower = true)

structure Filters where
  category : Option Text
  eventCode : Option Text
  since : Option Text

/-- `_filters`. -/
def checkFilters (f : Filters) : Bool :=
  f.category.all (fun c => decide (c = "audit".toList ∨ c = "security".toList)) &&
    f.eventCode.all (fun code => decide (code.length ≤ maxEventCodeChars) && codeRe code) &&
    f.since.all fun since => shaped "dddd-dd-ddTdd:dd:ddZ".toList since && validInstant H since

/-! ## Rows -/

/-- A row of `operational_logs`. -/
structure Row where
  rowid : ℕ
  eventId : Option Text
  eventType : Text
  detailsJson : Option Text
  createdAt : Text
deriving DecidableEq

/-- The largest rowid there can be. -/
def maxRowid : ℕ := 2 ^ 63 - 1

def maxDetailsBytes : ℕ := 64 * 1024

/-- `_details`; what is not a dict counts as the empty one. -/
def details (raw : Option Text) : Dict :=
  match raw with
  | some raw => if maxDetailsBytes < utf8Size raw then [] else ((Json.loads raw).getD .none).dictOr
  | none => []

/-- What the queries select of a row, with its details. -/
structure Selected where
  eventId : Option Text
  eventType : Text
  createdAt : Text
  details : Dict

def Row.selected (row : Row) : Selected where
  eventId := row.eventId.map (List.take 64)
  eventType := row.eventType.take 257
  createdAt := row.createdAt.take 20
  details := details row.detailsJson

/-- `_canonical_timestamp(row["created_at"])`. -/
def Selected.timestamp (row : Selected) : Option Text :=
  if canonicalTimestamp H row.createdAt then some row.createdAt else none

/-! ## The projection -/

/-- `html.escape(value, quote=True)`, and the brackets. -/
def escapeTag (value : Text) : Text :=
  value.flatMap fun c =>
    if c = '&' then "&amp;".toList
    else if c = '<' then "&lt;".toList
    else if c = '>' then "&gt;".toList
    else if c = '"' then "&quot;".toList
    else if c = '\'' then "&#x27;".toList
    else if c = '[' then "&#91;".toList
    else if c = ']' then "&#93;".toList
    else [c]

/-- `safe_display_tag`. -/
def safeDisplayTag (value kind : Value) : Option Text := do
  let value ← tag H.tables (← value.asText)
  let kind ← kind.asText
  if kind = "web_ui".toList then some "[WEB_UI]".toList
  else if kind = "cli".toList then some "[CLI]".toList
  else if kind = "integration".toList then some ("[API:".toList ++ escapeTag value ++ "]".toList)
  else none

structure VerifiedIdentity where
  clientId : Text
  kind : Text
  tagSnapshot : Text
  display : Text
  apiRequestId : Text

/-- The last fields of an event about a job. -/
structure Terminal where
  jobId : Text
  executionStatus : Text
  executionClassification : Text
  snapshotAssurance : Text
  finishedAtUtc : Text

/-- What is shown of a row.  Without an identity the assurance is `unverified`. -/
structure SecureEvent where
  eventId : Option Text
  timestamp : Text
  category : Text
  eventCode : Text
  action : Text
  outcome : Text
  identity : Option VerifiedIdentity
  terminal : Option Terminal

/-- `_event_category`. -/
def eventCategory (eventType : Text) (details : Dict) (code : Text) : Option Text :=
  if code ∈ securityCodes then some "security".toList
  else if (details.get "event_category").isText "audit".toList then some "audit".toList
  else if eventType ∈ auditEventTypes then some "audit".toList
  else if coreEventCodeCatalog.lookup code = some .audit then some "audit".toList
  else none

/-- The code that the details name, the type, or a stand-in. -/
def eventCode (eventType : Text) (details : Dict) : Option Text :=
  match (details.get "event_code").asText.filter inCatalog with
  | some code => some code
  | none =>
      if eventType ∈ auditEventTypes then some eventType
      else if (details.get "event_category").isText "audit".toList then some legacyUnknown
      else none

def verifiedIdentity (eventId : Option Text) (details : Dict) : Option VerifiedIdentity := do
  let identity ← (details.get "api_identity").asDict
  let clientId ← (identity.get "api_client_id").asText
  let credentialId ← (identity.get "api_credential_id").asText
  let kind ← (identity.get "kind").asText
  let tagSnapshot ← (identity.get "tag_snapshot").asText
  let apiRequestId ← (identity.get "api_request_id").asText
  let display ← safeDisplayTag H (identity.get "tag_snapshot") (identity.get "kind")
  match identity.get "policy_revision" with
  | .int policyRevision =>
      if eventId ≠ none ∧ (identity.get "assurance").isText "credential_bound".toList ∧
          (identity.get "verified").isTrue ∧ idRe clientId ∧ idRe credentialId ∧
          kind ∈ ["web_ui".toList, "cli".toList, "integration".toList] ∧ 1 ≤ policyRevision ∧
          canonicalUuid apiRequestId then
        some ⟨clientId, kind, tagSnapshot, display, apiRequestId⟩
      else none
  | _ => none

/-- `classification_matches`. -/
def classificationMatches (assurance status classification : Text) : Bool :=
  if assurance = "terminal_commit".toList then
    decide ((status = "success".toList ∧ classification = "handler_completed".toList) ∨
      (status = "failed".toList ∧ classification ∈ ["handler_failed".toList,
        "stale_queue_timeout".toList, "stale_running_timeout".toList]) ∨
      (status = "cancelled".toList ∧ classification = "handler_cancelled".toList))
  else if assurance = "retention_observation".toList then
    decide (status ∈ ["success".toList, "failed".toList, "cancelled".toList] ∧
      classification = "legacy_terminal_observed".toList)
  else false

def allowedClassifications : List Text :=
  ["handler_completed".toList, "handler_failed".toList, "handler_cancelled".toList,
    "stale_queue_timeout".toList, "stale_running_timeout".toList,
    "legacy_terminal_observed".toList]

def terminal (details : Dict) : Option Terminal := do
  let context ← (details.get "event_context").asDict
  let jobId ← (details.get "entity_id").asText
  let status ← (details.get "execution_status").asText
  let classification ← (details.get "execution_classification").asText
  let assurance ← (details.get "snapshot_assurance").asText
  let finishedAt ← (details.get "finished_at_utc").asText
  if (details.get "action").isText jobTerminalOutcome ∧ (details.get "entity_type").isText "job".toList ∧
      canonicalUuid jobId ∧ (context.get "job_id").isText jobId ∧
      status ∈ ["success".toList, "failed".toList, "cancelled".toList] ∧
      classification ∈ allowedClassifications ∧
      assurance ∈ ["terminal_commit".toList, "retention_observation".toList] ∧
      canonicalTimestamp H finishedAt ∧ (details.get "result").isText status ∧
      (details.get "outcome").isText status ∧ classificationMatches assurance status classification then
    some ⟨jobId, status, classification, assurance, finishedAt⟩
  else none

/-- The outcome of an event that is not about the end of a job. -/
def plainOutcome (details : Dict) : Text :=
  let outcome := if details.has "outcome" then details.get "outcome" else details.get "result"
  match outcome.asText with
  | some outcome => if outcome ∈ outcomes then outcome else "unknown".toList
  | none => "unknown".toList

/-- The least timestamp that the filter lets through. -/
def sinceText (since : Text) : Text :=
  let t := replaceChar 'T' ' ' since
  if t.getLast? = some 'Z' then t.dropLast else t

/-- The id that is shown: none for a row from before there were ids; other ids hide the row. -/
def shownId : Option Text → Option (Option Text)
  | some id => if id = [] then some none else if canonicalUuid id then some (some id) else none
  | none => some none

/-- `_project`. -/
def project (f : Filters) (row : Selected) : Option SecureEvent := do
  let eventId ← shownId row.eventId
  let code ← eventCode row.eventType row.details
  let category ← eventCategory row.eventType row.details code
  if f.category.all (fun c => decide (c = category)) ∧ f.eventCode.all (fun c => decide (c = code)) ∧
      canonicalTimestamp H row.createdAt ∧
      f.since.all (fun since => !decide (row.createdAt < sinceText since)) then
    let identity := verifiedIdentity H eventId row.details
    if code = jobTerminalOutcome then
      let terminal := terminal H row.details
      some ⟨eventId, row.createdAt, category, code, code,
        (terminal.map Terminal.executionStatus).getD "unknown".toList, identity, terminal⟩
    else
      some ⟨eventId, row.createdAt, category, code, code, plainOutcome row.details, identity, none⟩
  else none

/-! ## What has no influence -/

/-- The fields of the details that are looked at, but for two that hold a dict. -/
def plainFields : List String :=
  ["event_code", "event_category", "outcome", "result", "entity_id", "execution_status",
    "execution_classification", "snapshot_assurance", "finished_at_utc", "action", "entity_type"]

/-- The fields of `api_identity` that are looked at. -/
def identityFields : List String :=
  ["assurance", "verified", "api_client_id", "api_credential_id", "kind", "tag_snapshot",
    "policy_revision", "api_request_id"]

/-- What is left of a dict when only some fields stay. -/
def keep (fields : List String) (d : Dict) : Dict :=
  d.filter fun p => decide (p.1 ∈ fields.map String.toList)

/-- What is left of a nested dict. -/
def nested (fields : List String) (v : Value) : Value :=
  ((v.asDict.map (keep fields)).map Value.dict).getD .none

/-- What is left of the value of a listed field. -/
def listedValue (name : Text) (v : Value) : Value :=
  if name = "api_identity".toList then nested identityFields v
  else if name = "event_context".toList then nested ["job_id"] v
  else v

/-- The details without what is not listed. -/
def listed (d : Dict) : Dict :=
  (keep ("api_identity" :: "event_context" :: plainFields) d).map fun p => (p.1, listedValue p.1 p.2)

lemma lookup_keep {fields : List String} {k : String} (h : k ∈ fields) (d : Dict) :
    (keep fields d).lookup k.toList = d.lookup k.toList := by
  have hk : k.toList ∈ fields.map String.toList := List.mem_map_of_mem h
  unfold keep
  induction d with
  | nil => rfl
  | cons p d ih =>
      obtain ⟨name, v⟩ := p
      by_cases heq : k.toList = name
      · subst heq
        rw [List.filter_cons_of_pos (by simpa using hk)]
        simp
      · have hne : (k.toList == name) = false := by simpa using heq
        by_cases hname : name ∈ fields.map String.toList
        · rw [List.filter_cons_of_pos (by simpa using hname)]
          simp only [List.lookup_cons, hne, ih]
        · rw [List.filter_cons_of_neg (by simpa using hname), ih]
          simp only [List.lookup_cons, hne]

lemma lookup_map (g : Text → Value → Value) (k : Text) (d : Dict) :
    List.lookup k (d.map fun p => (p.1, g p.1 p.2)) = (d.lookup k).map (g k) := by
  induction d with
  | nil => rfl
  | cons p d ih =>
      obtain ⟨name, v⟩ := p
      by_cases heq : k = name
      · subst heq
        simp
      · have hne : (k == name) = false := by simpa using heq
        simp only [List.map_cons, List.lookup_cons, hne, ih]

lemma get_keep {fields : List String} {k : String} (h : k ∈ fields) (d : Dict) :
    (keep fields d).get k = d.get k := by
  rw [Dict.get, Dict.get, lookup_keep h]

lemma lookup_listed {k : String} (h : k ∈ "api_identity" :: "event_context" :: plainFields)
    (d : Dict) : (listed d).lookup k.toList = (d.lookup k.toList).map (listedValue k.toList) := by
  rw [listed, lookup_map, lookup_keep h]

lemma not_nested : ∀ k ∈ plainFields,
    k.toList ≠ "api_identity".toList ∧ k.toList ≠ "event_context".toList := by decide

/-- A listed field that holds no dict is there as it was. -/
lemma lookup_listed_of_plain {k : String} (h : k ∈ plainFields) (d : Dict) :
    (listed d).lookup k.toList = d.lookup k.toList := by
  obtain ⟨hi, hc⟩ := not_nested k h
  have hid : listedValue k.toList = id := by
    funext v
    rw [listedValue, if_neg hi, if_neg hc, id]
  rw [lookup_listed (List.mem_cons_of_mem _ (List.mem_cons_of_mem _ h)), hid, Option.map_id, id]

lemma get_listed {k : String} (h : k ∈ plainFields) (d : Dict) : (listed d).get k = d.get k := by
  rw [Dict.get, Dict.get, lookup_listed_of_plain h]

lemma has_listed {k : String} (h : k ∈ plainFields) (d : Dict) : (listed d).has k = d.has k := by
  rw [Dict.has, Dict.has, lookup_listed_of_plain h]

lemma asDict_nested (fields : List String) (v : Option Value) :
    ((v.map (nested fields)).getD .none).asDict =
      (v.getD .none).asDict.map (keep fields) := by
  cases v with
  | none => rfl
  | some v => cases v <;> rfl

lemma get_listed_identity (d : Dict) : ((listed d).get "api_identity").asDict =
    (d.get "api_identity").asDict.map (keep identityFields) := by
  rw [Dict.get, lookup_listed List.mem_cons_self]
  exact asDict_nested identityFields _

lemma get_listed_context (d : Dict) : ((listed d).get "event_context").asDict =
    (d.get "event_context").asDict.map (keep ["job_id"]) := by
  rw [Dict.get, lookup_listed (List.mem_cons_of_mem _ List.mem_cons_self)]
  exact asDict_nested ["job_id"] _

lemma eventCategory_listed (eventType code : Text) (d : Dict) :
    eventCategory eventType (listed d) code = eventCategory eventType d code := by
  rw [eventCategory, eventCategory, get_listed (by simp [plainFields])]

lemma eventCode_listed (eventType : Text) (d : Dict) :
    eventCode eventType (listed d) = eventCode eventType d := by
  rw [eventCode, eventCode, get_listed (by simp [plainFields]), get_listed (by simp [plainFields])]

lemma plainOutcome_listed (d : Dict) : plainOutcome (listed d) = plainOutcome d := by
  rw [plainOutcome, plainOutcome, has_listed (by simp [plainFields]),
    get_listed (by simp [plainFields]), get_listed (by simp [plainFields])]

lemma verifiedIdentity_listed (eventId : Option Text) (d : Dict) :
    verifiedIdentity H eventId (listed d) = verifiedIdentity H eventId d := by
  have hget : ∀ k ∈ identityFields, ∀ identity : Dict,
      (keep identityFields identity).get k = identity.get k := fun k hk => get_keep hk
  rw [verifiedIdentity, verifiedIdentity, get_listed_identity]
  cases (d.get "api_identity").asDict with
  | none => rfl
  | some identity =>
      rw [Option.map_some]
      simp only [Option.bind_eq_bind, Option.bind_some]
      rw [hget "api_client_id" (by simp [identityFields]),
        hget "api_credential_id" (by simp [identityFields]), hget "kind" (by simp [identityFields]),
        hget "tag_snapshot" (by simp [identityFields]),
        hget "api_request_id" (by simp [identityFields]),
        hget "policy_revision" (by simp [identityFields]),
        hget "assurance" (by simp [identityFields]), hget "verified" (by simp [identityFields])]

lemma terminal_listed (d : Dict) : terminal H (listed d) = terminal H d := by
  have hget : ∀ k ∈ plainFields, (listed d).get k = d.get k := fun k hk => get_listed hk d
  have hjob : ∀ context : Dict, (keep ["job_id"] context).get "job_id" = context.get "job_id" :=
    get_keep List.mem_cons_self
  rw [terminal, terminal, get_listed_context, hget "entity_id" (by simp [plainFields]),
    hget "execution_status" (by simp [plainFields]),
    hget "execution_classification" (by simp [plainFields]),
    hget "snapshot_assurance" (by simp [plainFields]),
    hget "finished_at_utc" (by simp [plainFields]), hget "action" (by simp [plainFields]),
    hget "entity_type" (by simp [plainFields]), hget "result" (by simp [plainFields]),
    hget "outcome" (by simp [plainFields])]
  cases (d.get "event_context").asDict with
  | none => rfl
  | some context => simp only [Option.map_some, Option.bind_eq_bind, Option.bind_some, hjob]

/-- What is selected, without what is not listed. -/
def Selected.listed (row : Selected) : Selected := { row with details := Events.listed row.details }

/-- **The allow-list.**  What is not listed has no influence on what is shown of a row. -/
theorem project_listed (f : Filters) (row : Selected) : project H f row.listed = project H f row := by
  obtain ⟨eventId, eventType, createdAt, d⟩ := row
  simp only [project, Selected.listed, eventCode_listed, eventCategory_listed,
    verifiedIdentity_listed, terminal_listed, plainOutcome_listed]
  rfl

/-! ## What is shown -/

/-- The markup of a page and of a label. -/
def markup : List Char := ['<', '>', '"', '\'', '[', ']']

/-- A label is in brackets, and has no markup inside. -/
def SafeLabel (label : Text) : Prop :=
  ∃ body : Text, label = '[' :: (body ++ [']']) ∧ ∀ c ∈ body, c ∉ markup

structure VerifiedIdentity.WellFormed (identity : VerifiedIdentity) : Prop where
  clientId : idRe identity.clientId = true
  kind : identity.kind ∈ ["web_ui".toList, "cli".toList, "integration".toList]
  apiRequestId : canonicalUuid identity.apiRequestId = true
  display : SafeLabel identity.display

structure Terminal.WellFormed (t : Terminal) : Prop where
  jobId : canonicalUuid t.jobId = true
  classification : classificationMatches t.snapshotAssurance t.executionStatus t.executionClassification
  finishedAtUtc : canonicalTimestamp H t.finishedAtUtc = true

/-- An event as it may be shown. -/
structure SecureEvent.WellFormed (e : SecureEvent) : Prop where
  eventId : ∀ id ∈ e.eventId, canonicalUuid id = true
  timestamp : canonicalTimestamp H e.timestamp = true
  eventCode : inCatalog e.eventCode = true ∨ e.eventCode = legacyUnknown
  action : e.action = e.eventCode
  category : e.category = if e.eventCode ∈ securityCodes then "security".toList else "audit".toList
  outcome : e.outcome ∈ "unknown".toList :: outcomes
  identity : ∀ i ∈ e.identity, e.eventId.isSome ∧ i.WellFormed
  terminal : ∀ t ∈ e.terminal, e.eventCode = jobTerminalOutcome ∧ e.outcome = t.executionStatus ∧
    t.WellFormed H

lemma not_markup_of_all {t : Text} (h : (t.all fun c => !markup.contains c) = true) :
    ∀ c ∈ t, c ∉ markup := by
  simpa using h

lemma not_markup_of_mem_escapeTag {value : Text} {c : Char} (h : c ∈ escapeTag value) :
    c ∉ markup := by
  obtain ⟨x, -, hc⟩ := List.mem_flatMap.mp h
  split_ifs at hc with hamp hlt hgt hquot hapos hopen hclose
  · exact not_markup_of_all rfl c hc
  · exact not_markup_of_all rfl c hc
  · exact not_markup_of_all rfl c hc
  · exact not_markup_of_all rfl c hc
  · exact not_markup_of_all rfl c hc
  · exact not_markup_of_all rfl c hc
  · exact not_markup_of_all rfl c hc
  · obtain rfl := List.mem_singleton.mp hc
    simp [markup, hlt, hgt, hquot, hapos, hopen, hclose]

lemma safeLabel_of_safeDisplayTag {value kind : Value} {label : Text}
    (h : safeDisplayTag H value kind = some label) : SafeLabel label := by
  simp only [safeDisplayTag, Option.bind_eq_bind, Option.bind_eq_some_iff] at h
  obtain ⟨text, -, normalized, -, kind, -, h⟩ := h
  split_ifs at h
  · exact ⟨"WEB_UI".toList, (Option.some.inj h).symm, not_markup_of_all rfl⟩
  · exact ⟨"CLI".toList, (Option.some.inj h).symm, not_markup_of_all rfl⟩
  · refine ⟨"API:".toList ++ escapeTag normalized, (Option.some.inj h).symm, ?_⟩
    intro c hc
    rcases List.mem_append.mp hc with hc | hc
    · exact not_markup_of_all rfl c hc
    · exact not_markup_of_mem_escapeTag hc

lemma verifiedIdentity_wellFormed {eventId : Option Text} {d : Dict} {i : VerifiedIdentity}
    (h : verifiedIdentity H eventId d = some i) : eventId.isSome ∧ i.WellFormed := by
  simp only [verifiedIdentity, Option.bind_eq_bind, Option.bind_eq_some_iff] at h
  obtain ⟨identity, -, clientId, -, credentialId, -, kind, -, tagSnapshot, -, apiRequestId, -,
    display, hdisplay, h⟩ := h
  cases hrevision : identity.get "policy_revision" with
  | int policyRevision =>
      simp only [hrevision, Option.ite_none_right_eq_some] at h
      obtain ⟨⟨hid, -, -, hclient, -, hkind, -, hrequest⟩, heq⟩ := h
      obtain rfl := Option.some.inj heq
      exact ⟨Option.isSome_iff_ne_none.mpr hid,
        ⟨hclient, hkind, hrequest, safeLabel_of_safeDisplayTag H hdisplay⟩⟩
  | none => simp [hrevision] at h
  | bool b => simp [hrevision] at h
  | float repr => simp [hrevision] at h
  | str t => simp [hrevision] at h
  | list values => simp [hrevision] at h
  | dict fields => simp [hrevision] at h

lemma terminal_wellFormed {d : Dict} {t : Terminal} (h : terminal H d = some t) :
    t.WellFormed H ∧ t.executionStatus ∈ outcomes := by
  simp only [terminal, Option.bind_eq_bind, Option.bind_eq_some_iff,
    Option.ite_none_right_eq_some] at h
  obtain ⟨context, -, jobId, -, status, -, classification, -, assurance, -, finishedAt, -,
    ⟨-, -, hjob, -, hstatus, -, -, hfinished, -, -, hmatches⟩, heq⟩ := h
  obtain rfl := Option.some.inj heq
  refine ⟨⟨hjob, hmatches, hfinished⟩, ?_⟩
  have hsub : ∀ s ∈ ["success".toList, "failed".toList, "cancelled".toList], s ∈ outcomes := by
    decide
  exact hsub status hstatus

lemma plainOutcome_mem (d : Dict) : plainOutcome d ∈ "unknown".toList :: outcomes := by
  unfold plainOutcome
  dsimp only
  cases (if d.has "outcome" then d.get "outcome" else d.get "result").asText with
  | none => exact List.mem_cons_self
  | some outcome =>
      show (if outcome ∈ outcomes then outcome else "unknown".toList) ∈ _
      split_ifs with hmem
      · exact List.mem_cons_of_mem _ hmem
      · exact List.mem_cons_self

lemma auditEventTypes_inCatalog : ∀ code ∈ auditEventTypes, inCatalog code = true := by decide

lemma eventCode_wellFormed {eventType code : Text} {d : Dict} (h : eventCode eventType d = some code) :
    inCatalog code = true ∨ code = legacyUnknown := by
  unfold eventCode at h
  split at h
  · rename_i named hnamed
    obtain rfl := Option.some.inj h
    exact Or.inl (Option.filter_eq_some_iff.mp hnamed).2
  · split_ifs at h with htype
    · obtain rfl := Option.some.inj h
      exact Or.inl (auditEventTypes_inCatalog _ htype)
    · exact Or.inr (Option.some.inj h).symm

lemma eventCategory_eq {eventType code category : Text} {d : Dict}
    (h : eventCategory eventType d code = some category) :
    category = if code ∈ securityCodes then "security".toList else "audit".toList := by
  unfold eventCategory at h
  split_ifs at h with hsecurity
  · rw [if_pos hsecurity, ← Option.some.inj h]
  · rw [if_neg hsecurity, ← Option.some.inj h]
  · rw [if_neg hsecurity, ← Option.some.inj h]
  · rw [if_neg hsecurity, ← Option.some.inj h]

lemma shownId_canonical {id : Option Text} {shown : Option Text} (h : shownId id = some shown) :
    ∀ id ∈ shown, canonicalUuid id = true := by
  unfold shownId at h
  split at h
  · split_ifs at h with hempty hcanonical
    · obtain rfl := Option.some.inj h
      simp
    · obtain rfl := Option.some.inj h
      rintro id ⟨⟩
      exact hcanonical
  · obtain rfl := Option.some.inj h
    simp

/-- **What is shown is well formed**, whatever stands in the row. -/
theorem project_wellFormed {f : Filters} {row : Selected} {e : SecureEvent}
    (h : project H f row = some e) : e.WellFormed H := by
  simp only [project, Option.bind_eq_bind, Option.bind_eq_some_iff,
    Option.ite_none_right_eq_some] at h
  obtain ⟨id, hid, code, hcode, category, hcategory, ⟨-, -, htimestamp, -⟩, h⟩ := h
  have hidentity : ∀ i ∈ verifiedIdentity H id row.details, id.isSome ∧ i.WellFormed := fun i hi =>
    verifiedIdentity_wellFormed H hi
  split_ifs at h with hterminal
  · obtain rfl := Option.some.inj h
    refine ⟨shownId_canonical hid, htimestamp, eventCode_wellFormed hcode, rfl,
      eventCategory_eq hcategory, ?_, hidentity, ?_⟩
    · cases ht : terminal H row.details with
      | none => exact List.mem_cons_self
      | some t => exact List.mem_cons_of_mem _ (terminal_wellFormed H ht).2
    · intro t ht
      have ht : terminal H row.details = some t := ht
      exact ⟨hterminal, by rw [ht]; rfl, (terminal_wellFormed H ht).1⟩
  · obtain rfl := Option.some.inj h
    exact ⟨shownId_canonical hid, htimestamp, eventCode_wellFormed hcode, rfl,
      eventCategory_eq hcategory, plainOutcome_mem _, hidentity, by simp⟩

end Host

end FwRouter.Events
