import FwRouter.Python.Text

/-!
# The rollout checkpoint

`pending.json`, the one durable record of a controlled rollout, as the lifecycle commands write it
(schema 4).  Texts that the validation pins down to a fixed form are values of a type of that size: a
digest, an image id and a container id are 256 bits written as 64 hexadecimal digits, an operation id
is a UUID.  A manifest carries the checks of `_validate_manifest` as a field.

`_read_checkpoint` is `Host.accepts`.  The functions of the admission module that read or advance the
checkpoint are here too: `startupAllowed`, `offlineOperation` and the two `record` functions.
-/

namespace FwRouter.Lifecycle

open Py

/-- A digest, written as 64 lowercase hexadecimal digits. -/
abbrev Sha256 := BitVec 256

/-- A UUID. -/
abbrev OperationId := BitVec 128

/-- `uuid.UUID(operation_id).hex`. -/
def OperationId.hex (op : OperationId) : Text :=
  (List.range 32).reverse.map fun i => Nat.digitChar (op.toNat / 16 ^ i % 16)

/-! ## Manifests -/

def maxManifestFiles : ℕ := 10000

def maxManifestBytes : ℕ := 512 * 1024 * 1024

/-- An entry of a backend manifest. -/
structure FileEntry where
  path : Text
  size : ℕ
  sha256 : Sha256
  deriving DecidableEq

/-- The names that `_excluded` leaves out. -/
def excludedPart (part : Text) : Bool :=
  [".env", ".venv", ".pytest_cache", "__pycache__", ".git"].any (fun n => n.toList == part)
    || ".env.".toList.isPrefixOf part
    || [".pyc", ".pyo", ".db", ".sqlite", ".sqlite3", ".bak", ".tar.zst"].any
        (fun e => e.toList.isSuffixOf part)
    || decide (".bak-".toList <:+: part)

/-- A relative path in normal form without excluded parts. -/
def safePath (name : Text) : Bool :=
  (name.splitOn '/').all fun part =>
    !part.isEmpty && part != ['.'] && part != ['.', '.'] && !excludedPart part

/-- `_validate_manifest`. -/
def validateManifest (entries : List FileEntry) : Bool :=
  !entries.isEmpty
    && decide (entries.length ≤ maxManifestFiles)
    && decide ((entries.map FileEntry.path).Pairwise (· < ·))
    && entries.all (fun e => safePath e.path && decide (e.size ≤ maxManifestBytes))
    && decide ((entries.map FileEntry.size).sum ≤ maxManifestBytes)

lemma validateManifest_singleton : validateManifest [⟨['a'], 0, 0⟩] = true := by decide +kernel

/-- A manifest: what `_backend_manifest` reads off a tree and `_validate_manifest` lets pass. -/
structure Manifest where
  entries : List FileEntry
  valid : validateManifest entries = true
  deriving DecidableEq

def Manifest.paths (m : Manifest) : List Text := m.entries.map FileEntry.path

/-! ## Units -/

/-- The units that a rollout stops and restores. -/
inductive RolloutUnit
  | xraySubGateway
  | dockerSubjectEvents
  | jobsRetentionDryRunTimer
  | maintenanceTimer
  | subscriptionRefreshTimer
  | trafficCollectTimer
  | jobsRetentionDryRun
  | maintenance
  | subscriptionRefresh
  | trafficCollect
  | api
  deriving DecidableEq

namespace RolloutUnit

def longRunningDependents : List RolloutUnit := [xraySubGateway, dockerSubjectEvents]

def persistentTimers : List RolloutUnit :=
  [jobsRetentionDryRunTimer, maintenanceTimer, subscriptionRefreshTimer, trafficCollectTimer]

def transientJobs : List RolloutUnit :=
  [jobsRetentionDryRun, maintenance, subscriptionRefresh, trafficCollect]

def restoreOrder : List RolloutUnit := longRunningDependents ++ persistentTimers

def stopOrder : List RolloutUnit := persistentTimers.reverse ++ longRunningDependents.reverse

/-- `(*RESTORE_ORDER, *TRANSIENT_JOBS, API_UNIT)`. -/
def all : List RolloutUnit := restoreOrder ++ transientJobs ++ [api]

/-- A unit is restored, a one-shot job, or the API. -/
lemma mem_restoreOrder_or (u : RolloutUnit) : u ∈ restoreOrder ∨ u ∈ transientJobs ∨ u = api := by
  cases u <;> decide

lemma mem_stopOrder {u : RolloutUnit} : u ∈ stopOrder ↔ u ∈ restoreOrder := by cases u <;> decide

end RolloutUnit

/-! ## The records of a checkpoint -/

/-- `REBUILD_PHASES`. -/
inductive RebuildPhase
  | pending
  | candidateReady
  | sourceQuiesced
  | published
  | verified
  deriving DecidableEq

/-- The place of a phase in `REBUILD_PHASES`. -/
def RebuildPhase.index : RebuildPhase → ℕ
  | pending => 0
  | candidateReady => 1
  | sourceQuiesced => 2
  | published => 3
  | verified => 4

/-- The backup that a rebuild starts from. -/
structure BackupPin where
  filename : Text
  sha256 : Sha256
  deriving DecidableEq

/-- `maintenance_operation`; its kind is always `database_rebuild`. -/
structure MaintenanceOperation where
  status : RebuildPhase
  backup : Option BackupPin
  deriving DecidableEq

/-- The state of the Mihomo unit: active and exited, or inactive and dead; enabled or disabled. -/
structure MihomoUnitState where
  active : Bool
  enabled : Bool
  deriving DecidableEq

/-- The identity of the Mihomo container. -/
structure ContainerIdentity where
  containerId : Sha256
  imageId : Sha256
  composeConfigHash : Sha256
  deriving DecidableEq

def maxCacheBytes : ℕ := 64 * 1024 * 1024

/-- The identity of the Mihomo cache file; `_mihomo_cache_state` reads no larger one. -/
structure CacheState where
  sha256 : Sha256
  size : ℕ
  bounded : size ≤ maxCacheBytes
  deriving DecidableEq

inductive QuiescencePhase
  | stopPending
  | quiesced
  | releasePending
  | released
  deriving DecidableEq

/-- `runtime_quiescence`. -/
structure RuntimeQuiescence where
  phase : QuiescencePhase
  operationId : OperationId
  sourceManifestSha256 : Sha256
  unit : MihomoUnitState
  container : ContainerIdentity
  composeFileSha256 : Sha256
  cacheBefore : CacheState
  cacheAfter : Option CacheState
  deriving DecidableEq

/-- What `time.strftime` gives; never the empty text. -/
structure Timestamp where
  text : Text
  ne_nil : text ≠ []
  deriving DecidableEq

/-- An entry of `source_transitions`. -/
structure SourceTransition where
  operationId : OperationId
  fromManifestSha256 : Sha256
  toManifestSha256 : Sha256
  createdAt : Text
  deriving DecidableEq

inductive RolloutStatus
  | pending
  | complete
  deriving DecidableEq

structure Checkpoint where
  operationId : OperationId
  status : RolloutStatus
  backendManifest : Manifest
  backendManifestSha256 : Sha256
  initialBackendManifestSha256 : Sha256
  sourceTransitions : List SourceTransition
  maintenanceOperation : Option MaintenanceOperation
  runtimeQuiescence : Option RuntimeQuiescence
  activeUnits : RolloutUnit → Bool
  pendingUnits : List RolloutUnit

/-! ## Validation -/

def maxSourceTransitions : ℕ := 16

/-- The prefix of the file name of a backup of the operation. -/
def backupPrefix (op : OperationId) : Text := "fwrouter.db.rebuild-".toList ++ op.hex ++ ['.']

/-- `_valid_backup_pin`. -/
def validBackupPin (op : OperationId) (pin : BackupPin) : Bool :=
  decide ('/' ∉ pin.filename)
    && (backupPrefix op).isPrefixOf pin.filename
    && ".bak".toList.isSuffixOf pin.filename

/-- `_validate_maintenance_operation`: a pinned backup is one of the operation, and only the first
phase does without. -/
def validateMaintenanceOperation (op : OperationId) (m : MaintenanceOperation) : Bool :=
  match m.backup with
  | none => m.status = .pending
  | some pin => validBackupPin op pin

/-- `_validate_runtime_quiescence`. -/
def validateRuntimeQuiescence (op : OperationId) (q : RuntimeQuiescence) : Bool :=
  q.operationId = op && (q.phase = .stopPending || q.cacheAfter.isSome)

/-- The digest that a history of source transitions leads to; `none` where it is inconsistent. -/
def followTransitions (op : OperationId) : Sha256 → List SourceTransition → Option Sha256
  | previous, [] => some previous
  | previous, t :: ts =>
      if t.operationId = op ∧ t.fromManifestSha256 = previous
          ∧ t.toManifestSha256 ≠ t.fromManifestSha256 ∧ t.createdAt ≠ [] then
        followTransitions op t.toManifestSha256 ts
      else none

/-- What the commands find on the host and none of them changes: the digest of a manifest, which
checkpoints are within `MAX_CHECKPOINT_BYTES` when they are written, the state of the Mihomo unit, the
identity of its container, and the digest of its Compose file. -/
structure Host where
  digest : Manifest → Sha256
  fits : Checkpoint → Bool
  unit : MihomoUnitState
  container : ContainerIdentity
  composeFileSha256 : Sha256

/-- `_read_checkpoint`: which checkpoints it accepts. -/
def Host.accepts (h : Host) (c : Checkpoint) : Bool :=
  h.fits c
    && c.backendManifestSha256 = h.digest c.backendManifest
    && decide (c.sourceTransitions.length ≤ maxSourceTransitions)
    && followTransitions c.operationId c.initialBackendManifestSha256 c.sourceTransitions
        = some c.backendManifestSha256
    && c.maintenanceOperation.all (validateMaintenanceOperation c.operationId)
    && c.runtimeQuiescence.all (validateRuntimeQuiescence c.operationId)
    && decide c.pendingUnits.Nodup

/-- A history that ends in one more transition. -/
lemma followTransitions_snoc {op : OperationId} {ts : List SourceTransition} {first last : Sha256}
    {t : SourceTransition} (hts : followTransitions op first ts = some last)
    (hop : t.operationId = op) (hfrom : t.fromManifestSha256 = last)
    (hto : t.toManifestSha256 ≠ t.fromManifestSha256) (hat : t.createdAt ≠ []) :
    followTransitions op first (ts ++ [t]) = some t.toManifestSha256 := by
  induction ts generalizing first with
  | nil =>
      obtain rfl := Option.some.inj hts
      simp only [List.nil_append, followTransitions]
      rw [if_pos ⟨hop, hfrom, hto, hat⟩]
  | cons u ts ih =>
      simp only [List.cons_append, followTransitions] at hts ⊢
      split_ifs at hts with hu
      rw [if_pos hu]
      exact ih hts

/-! ## Admission -/

/-- `_startup_runtime_quiescence_valid`. -/
def startupRuntimeQuiescenceValid (op : OperationId) (q : RuntimeQuiescence) : Bool :=
  q.operationId = op && (q.phase = .quiesced || q.phase = .released) && q.cacheAfter.isSome

/-- `startup_allowed`, for the package tree that is installed. -/
def startupAllowed (h : Host) (installed : Manifest) : Option Checkpoint → Bool
  | none => true
  | some c =>
      h.fits c &&
        match c.maintenanceOperation with
        | none =>
            c.runtimeQuiescence.all (startupRuntimeQuiescenceValid c.operationId)
              && h.digest installed = c.backendManifestSha256
        | some m => m.status = .verified && m.backup.any (validBackupPin c.operationId)

/-- `_offline_operation`: the rebuild that the checkpoint authorizes. -/
def offlineOperation (h : Host) (c : Checkpoint) : Option OperationId :=
  match c.maintenanceOperation with
  | none => none
  | some m =>
      if h.fits c = true ∧ c.status = .pending ∧ m.status ≠ .verified
          ∧ validateMaintenanceOperation c.operationId m = true then
        some c.operationId
      else none

/-- `record_offline_rebuild_backup_pin` in a process that holds the lease for the operation `op`. -/
def recordOfflineRebuildBackupPin (h : Host) (op : OperationId) (pin : BackupPin)
    (c : Checkpoint) : Option Checkpoint :=
  match c.maintenanceOperation with
  | none => none
  | some m =>
      if offlineOperation h c = some op ∧ m.status = .pending ∧ validBackupPin op pin = true then
        match m.backup with
        | none => some { c with maintenanceOperation := some { m with backup := some pin } }
        | some existing => if existing = pin then some c else none
      else none

/-- `record_offline_rebuild_phase` in a process that holds the lease for the operation `op`. -/
def recordOfflineRebuildPhase (h : Host) (op : OperationId) (phase : RebuildPhase)
    (c : Checkpoint) : Option Checkpoint :=
  match c.maintenanceOperation with
  | none => none
  | some m =>
      if phase ≠ .pending ∧ phase ≠ .verified ∧ offlineOperation h c = some op
          ∧ m.backup.any (validBackupPin op) = true ∧ m.status.index ≤ phase.index then
        some { c with maintenanceOperation := some { m with status := phase } }
      else none

end FwRouter.Lifecycle
