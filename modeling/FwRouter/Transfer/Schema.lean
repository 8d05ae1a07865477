import FwRouter.Library.Relational
import FwRouter.Python.Value

/-!
# The tables of the control plane

The tables of `db/schema.sql`, with their primary keys, their foreign keys and the checks of the tables
that an import writes.  The foreign keys of `subscription_node_*` have no action: their parents are
not deleted by any statement modelled here.

A cell is what SQLite stores.  Its conversions of reals and of texts that look like numbers are
parameters (`Sqlite`).
-/

namespace FwRouter.Transfer

open Py Relational

/-! ## Cells -/

inductive Cell
  | null
  | int (n : ℤ)
  | real (repr : Text)
  | text (s : Text)
  deriving DecidableEq

/-- A cell as `sqlite3` hands it out. -/
def Cell.value : Cell → Value
  | .null => .none
  | .int n => .int n
  | .real repr => .float repr
  | .text s => .str s

/-- A text cell, written as in the source. -/
def textCell (s : String) : Cell := .text s.toList

inductive Affinity
  | text
  | integer
  deriving DecidableEq

/-- The characters that the text of a number can start with. -/
def numberHeads : List Char := ['-', '0', '1', '2', '3', '4', '5', '6', '7', '8', '9', 'I', 'N']

lemma zero_numberHead (t : Text) : ∃ c ∈ numberHeads, ('0' :: t).head? = some c := ⟨'0', by decide, rfl⟩

/-- How SQLite converts and compares: the text of a real, what a column of integers stores for a text or
a real, and whether a real is between two integers.  The text of a real starts like a number. -/
structure Sqlite where
  realText : Text → Text
  integerOfText : Text → Cell
  integerOfReal : Text → Cell
  realBetween : Text → ℤ → ℤ → Bool
  realText_head : ∀ repr, ∃ c ∈ numberHeads, (realText repr).head? = some c

/-- What a column stores for a bound value. -/
def Sqlite.store (sqlite : Sqlite) : Affinity → Cell → Cell
  | .text, .int n => .text (Value.intText n)
  | .text, .real repr => .text (sqlite.realText repr)
  | .integer, .text s => sqlite.integerOfText s
  | .integer, .real repr => sqlite.integerOfReal repr
  | _, cell => cell

/-! ## Tables -/

inductive Table
  | schemaMeta
  | settings
  | externalConnections
  | externalConnectionGeneratedState
  | externalConnectionMigrations
  | modules
  | watchdogState
  | subjects
  | subjectLan
  | subjectDocker
  | subjectHost
  | subjectFwrouter
  | trafficMonthly
  | trafficCounterSnapshots
  | servers
  | subscriptionServerMemberships
  | logicalServerTopology
  | logicalServerMembers
  | logicalServerMemberHealth
  | logicalServerGroupProbeOutcome
  | logicalServerProbeState
  | serverPreferences
  | serverPingState
  | serverCustomHttpsProxy
  | routingGlobalState
  | subjectServerOverrides
  | subjectUserOverrides
  | subscriptionState
  | subscriptionAccounts
  | subscriptionClients
  | subscriptionProfileSnapshots
  | subscriptionNodeIdentities
  | subscriptionNodeAliases
  | subscriptionNodeCredentials
  | subscriptionNodeIdentityTransitions
  | subscriptionNodeCredentialHistory
  | rulesState
  | rulesMetadata
  | applyVersions
  | jobs
  | operationalLogs
  | providerBindings
  | providerCredentials
  | providerLocations
  | providerMembers
  | providerEvidence
  deriving DecidableEq

abbrev Row := Relational.Row String Cell

abbrev Database := Relational.Database Table String Cell

/-- `CONTROL_PLANE_TABLES`. -/
def controlPlaneTables : List Table :=
  [.settings, .modules, .subjects, .subjectLan, .subjectDocker, .subjectHost, .subjectFwrouter, .servers,
    .serverCustomHttpsProxy, .serverPreferences, .serverPingState, .routingGlobalState,
    .subjectServerOverrides, .subjectUserOverrides, .subscriptionState, .rulesState, .rulesMetadata]

/-- The columns of the primary keys. -/
def primaryKey : Table → List String
  | .schemaMeta | .settings => ["key"]
  | .externalConnections | .externalConnectionGeneratedState => ["connection_id"]
  | .externalConnectionMigrations => ["migration_key"]
  | .modules => ["module_name"]
  | .watchdogState | .logicalServerProbeState | .routingGlobalState | .subscriptionState | .rulesState =>
      ["id"]
  | .subjects | .subjectLan | .subjectDocker | .subjectHost | .subjectFwrouter
  | .subjectServerOverrides | .subjectUserOverrides => ["subject_id"]
  | .trafficMonthly => ["subject_id", "period_month"]
  | .trafficCounterSnapshots => ["counter_key"]
  | .servers | .serverPreferences | .serverPingState | .serverCustomHttpsProxy
  | .subscriptionNodeAliases => ["server_id"]
  | .subscriptionServerMemberships => ["source_id", "server_id"]
  | .logicalServerTopology => ["logical_server_id"]
  | .logicalServerMembers => ["logical_server_id", "member_id"]
  | .logicalServerMemberHealth => ["logical_server_id", "member_id", "provider_role"]
  | .logicalServerGroupProbeOutcome => ["logical_server_id", "provider_role"]
  | .subscriptionAccounts => ["account_id"]
  | .subscriptionClients => ["client_id"]
  | .subscriptionProfileSnapshots => ["token"]
  | .subscriptionNodeIdentities => ["identity_id"]
  | .subscriptionNodeCredentials => ["scope", "identity_id"]
  | .subscriptionNodeIdentityTransitions => ["identity_id", "from_revision"]
  | .subscriptionNodeCredentialHistory => ["client_uuid"]
  | .rulesMetadata => ["ruleset_id"]
  | .applyVersions => ["apply_id"]
  | .jobs => ["job_id"]
  | .operationalLogs => ["event_id"]
  | .providerBindings | .providerCredentials => ["source_ref"]
  | .providerLocations => ["source_ref", "location_id"]
  | .providerMembers => ["source_ref", "provider_member_id", "location_id", "protocol"]
  | .providerEvidence => ["source_ref", "evidence_kind", "scope_key", "observed_at"]

/-- A foreign key on one column. -/
def foreignKey (child : Table) (column : String) (parent : Table) (parentColumn : String)
    (onDelete : OnDelete) : Reference Table String := ⟨child, parent, [(column, parentColumn)], onDelete⟩

/-- The foreign keys with an action. -/
def foreignKeys : List (Reference Table String) :=
  [foreignKey .externalConnectionGeneratedState "connection_id" .externalConnections "connection_id" .cascade,
    foreignKey .subjectLan "subject_id" .subjects "subject_id" .cascade,
    foreignKey .subjectDocker "subject_id" .subjects "subject_id" .cascade,
    foreignKey .subjectHost "subject_id" .subjects "subject_id" .cascade,
    foreignKey .subjectFwrouter "subject_id" .subjects "subject_id" .cascade,
    foreignKey .trafficMonthly "subject_id" .subjects "subject_id" .cascade,
    foreignKey .trafficCounterSnapshots "subject_id" .subjects "subject_id" .setNull,
    foreignKey .subscriptionServerMemberships "server_id" .servers "server_id" .cascade,
    foreignKey .logicalServerTopology "logical_server_id" .servers "server_id" .cascade,
    foreignKey .logicalServerMembers "logical_server_id" .logicalServerTopology "logical_server_id" .cascade,
    ⟨.logicalServerMemberHealth, .logicalServerMembers,
      [("logical_server_id", "logical_server_id"), ("member_id", "member_id")], .cascade⟩,
    foreignKey .logicalServerGroupProbeOutcome "logical_server_id" .logicalServerTopology
      "logical_server_id" .cascade,
    foreignKey .serverPreferences "server_id" .servers "server_id" .cascade,
    foreignKey .serverPingState "server_id" .servers "server_id" .cascade,
    foreignKey .serverCustomHttpsProxy "server_id" .servers "server_id" .cascade,
    foreignKey .routingGlobalState "desired_fixed_server_id" .servers "server_id" .setNull,
    foreignKey .routingGlobalState "applied_fixed_server_id" .servers "server_id" .setNull,
    foreignKey .routingGlobalState "active_auto_server_id" .servers "server_id" .setNull,
    foreignKey .subjectServerOverrides "subject_id" .subjects "subject_id" .cascade,
    foreignKey .subjectServerOverrides "selected_server_id" .servers "server_id" .setNull,
    foreignKey .subjectUserOverrides "subject_id" .subjects "subject_id" .cascade,
    foreignKey .subscriptionClients "account_id" .subscriptionAccounts "account_id" .cascade,
    foreignKey .subscriptionProfileSnapshots "token" .subscriptionClients "token" .cascade,
    foreignKey .rulesState "last_apply_job_id" .jobs "job_id" .setNull,
    foreignKey .rulesState "last_update_job_id" .jobs "job_id" .setNull,
    foreignKey .applyVersions "job_id" .jobs "job_id" .setNull,
    foreignKey .providerCredentials "source_ref" .providerBindings "source_ref" .cascade,
    foreignKey .providerLocations "source_ref" .providerBindings "source_ref" .cascade,
    foreignKey .providerMembers "source_ref" .providerBindings "source_ref" .cascade,
    foreignKey .providerEvidence "source_ref" .providerBindings "source_ref" .cascade]

/-! ## Checks -/

/-- A `NOT NULL` or a `CHECK` of the schema.  A `CHECK` lets a null pass. -/
inductive Check
  | notNull (column : String)
  | oneOf (column : String) (values : List String)
  | flag (column : String)
  | between (column : String) (low high : ℤ)
  | target

def Check.holds (sqlite : Sqlite) (r : Row) : Check → Bool
  | .notNull c => decide (r c ≠ .null)
  | .oneOf c values => match r c with
      | .null => true
      | .text s => decide (s ∈ values.map String.toList)
      | _ => false
  | .flag c => decide (r c ∈ [.null, .int 0, .int 1])
  | .between c low high => match r c with
      | .null => true
      | .int n => decide (low ≤ n ∧ n ≤ high)
      | .real repr => sqlite.realBetween repr low high
      | .text _ => false
  | .target => decide (r "selected_target_kind" = textCell "server" ∨ r "selected_server_id" = .null)

def subjectModes : List String := ["global", "direct", "selective", "vpn", "disabled", "enabled", "forced_vpn"]

def applyStates : List String := ["clean", "pending", "applying", "failed"]

def pingStates : List String := ["unknown", "success", "failed", "skipped"]

/-- The checks of the tables that an import writes, and of the columns that refer to their rows. -/
def checks : Table → List Check
  | .settings => [.notNull "value_json", .notNull "updated_at"]
  | .modules => [.notNull "desired_state", .notNull "lifecycle_mode", .notNull "runtime_state",
      .notNull "apply_state", .notNull "updated_at", .oneOf "desired_state" ["enabled", "disabled"],
      .oneOf "lifecycle_mode" ["none", "managed", "external"],
      .oneOf "runtime_state" ["not_configured", "running", "stopped", "failed", "degraded", "paused"],
      .oneOf "apply_state" applyStates]
  | .subjects => [.notNull "subject_type", .notNull "subject_role", .notNull "implementation_kind",
      .notNull "stable_key", .notNull "desired_mode", .notNull "apply_state", .notNull "runtime_state",
      .notNull "is_active", .notNull "is_deleted", .notNull "first_seen_at", .notNull "created_at",
      .notNull "updated_at",
      .oneOf "subject_role" ["unknown", "lan_client", "external_network_source", "vless_client",
        "docker_runtime", "host_runtime", "router_core"],
      .oneOf "desired_mode" subjectModes, .oneOf "applied_mode" subjectModes,
      .oneOf "apply_state" applyStates,
      .oneOf "runtime_state" ["not_configured", "active", "inactive", "missing", "running", "stopped",
        "failed", "degraded", "paused"],
      .flag "is_active", .flag "is_deleted"]
  | .subjectLan | .subjectDocker | .subjectHost => [.notNull "updated_at"]
  | .subjectFwrouter => [.notNull "component_name", .notNull "updated_at"]
  | .servers => [.notNull "server_name", .notNull "inventory_state", .notNull "first_seen_at",
      .notNull "last_seen_at", .notNull "updated_at",
      .oneOf "inventory_state" ["active", "missing", "deleted"]]
  | .serverPreferences => [.notNull "vpn_auto", .notNull "vpn_auto_priority",
      .notNull "vpn_auto_priority_origin", .notNull "global_list", .notNull "updated_at",
      .flag "vpn_auto", .between "vpn_auto_priority" (-1) 5,
      .oneOf "vpn_auto_priority_origin" ["auto", "manual", "legacy"], .flag "global_list"]
  | .serverPingState => [.notNull "status", .oneOf "status" pingStates, .oneOf "manual_status" pingStates]
  | .serverCustomHttpsProxy => [.notNull "proxy_type", .notNull "host", .notNull "port", .notNull "tls",
      .notNull "skip_cert_verify", .notNull "updated_at", .oneOf "proxy_type" ["http", "socks5"],
      .between "port" 1 65535, .flag "tls", .flag "skip_cert_verify"]
  | .routingGlobalState => [.notNull "desired_mode", .notNull "selective_default", .notNull "server_mode",
      .notNull "apply_state", .notNull "updated_at", .between "id" 1 1,
      .oneOf "desired_mode" ["direct", "selective", "vpn"],
      .oneOf "applied_mode" ["direct", "selective", "vpn"], .oneOf "selective_default" ["direct", "vpn"],
      .oneOf "server_mode" ["auto", "fixed"], .oneOf "apply_state" applyStates]
  | .subjectServerOverrides => [.notNull "selected_target_kind", .notNull "apply_state",
      .notNull "updated_at", .oneOf "selected_target_kind" ["server", "vpn_auto"], .target,
      .oneOf "apply_state" applyStates]
  | .subjectUserOverrides => [.notNull "updated_at",
      .oneOf "override_mode" ["direct", "selective", "vpn"]]
  | .subscriptionState => [.notNull "status", .notNull "updated_at", .between "id" 1 1,
      .oneOf "status" ["not_configured", "idle", "running", "success", "failed"]]
  | .rulesState => [.notNull "selective_default", .notNull "status", .notNull "updated_at",
      .between "id" 1 1, .oneOf "selective_default" ["direct", "vpn"],
      .oneOf "status" ["not_configured", "idle", "running", "clean", "pending", "applying", "success",
        "failed"]]
  | .rulesMetadata => [.notNull "ruleset_type", .notNull "status",
      .oneOf "ruleset_type" ["manual", "static_direct", "big_direct", "big_vpn", "effective"],
      .oneOf "status" ["not_configured", "idle", "running", "active", "inactive", "success", "failed"]]
  | .trafficMonthly => [.notNull "subject_id", .notNull "period_month"]
  | .subscriptionServerMemberships => [.notNull "source_id", .notNull "server_id"]
  | .logicalServerMembers => [.notNull "logical_server_id", .notNull "member_id"]
  | .logicalServerMemberHealth =>
      [.notNull "logical_server_id", .notNull "member_id", .notNull "provider_role"]
  | .logicalServerGroupProbeOutcome => [.notNull "logical_server_id", .notNull "provider_role"]
  | _ => []

/-- `idx_subjects_active_stable_key`: the subjects that are not deleted have different stable keys. -/
def activeStableKeyClash (r s : Row) : Bool :=
  decide (r "is_deleted" = .int 0 ∧ s "is_deleted" = .int 0 ∧ r "subject_type" = s "subject_type" ∧
    r "stable_key" = s "stable_key")

/-- `db/schema.sql`. -/
def schema (sqlite : Sqlite) : Schema Table String Cell where
  null := .null
  references := foreignKeys
  depth := 4
  key := primaryKey
  admits t r := (checks t).all fun c => c.holds sqlite r
  clash t r s := decide (t = .subjects) && activeStableKeyClash r s

end FwRouter.Transfer
