import FwRouter.Library.Interruptible
import FwRouter.Lifecycle.Checkpoint

/-!
# The lifecycle commands

The six commands of `controlled_backend_lifecycle.py` as interruptible programs on the world they act
on.  The effects of a command are the publications of the checkpoint, which are atomic, and the unit
and container actions.  A command may be killed after any of them; an external check or action that
fails makes the command stop where it stands, which leaves what a kill there leaves.

Between the commands the recorded manifest may be installed, the API started if `startup_allowed` lets
it, a one-shot job started, and a unit exit.
-/

namespace FwRouter.Lifecycle

open Interruptible Interruptible.Prog

/-! ## The world -/

structure World where
  checkpoint : Option Checkpoint
  /-- The active rollout units. -/
  active : RolloutUnit → Bool
  /-- The manifest of the installed tree. -/
  installed : Manifest
  /-- Whether the Mihomo container runs. -/
  running : Bool
  cache : CacheState

namespace World

def publish (c : Checkpoint) (w : World) : World := { w with checkpoint := some c }

def setUnit (u : RolloutUnit) (on : Bool) (w : World) : World :=
  { w with active := Function.update w.active u on }

/-- `docker stop` or `docker start`, with the cache that the container leaves. -/
def setContainer (on : Bool) (cache : CacheState) (w : World) : World :=
  { w with running := on, cache := cache }

def install (m : Manifest) (w : World) : World := { w with installed := m }

/-- Every rollout unit is inactive. -/
def UnitsStopped (w : World) : Prop := ∀ u ∈ RolloutUnit.all, w.active u = false

instance (w : World) : Decidable w.UnitsStopped :=
  inferInstanceAs (Decidable (∀ u ∈ RolloutUnit.all, w.active u = false))

/-- No one-shot job is running. -/
def NoJobs (w : World) : Prop := ∀ u ∈ RolloutUnit.transientJobs, w.active u = false

instance (w : World) : Decidable w.NoJobs :=
  inferInstanceAs (Decidable (∀ u ∈ RolloutUnit.transientJobs, w.active u = false))

end World

/-! ## Reading and writing the checkpoint -/

/-- `_read_checkpoint`. -/
def readCheckpoint (h : Host) : Prog World Checkpoint := do
  let w ← get
  let c ← ofOption w.checkpoint
  require (h.accepts c = true)
  pure c

/-- `_atomic_write`. -/
def atomicWrite (h : Host) (c : Checkpoint) : Prog World Unit := do
  require (h.fits c = true)
  effect (World.publish c)

/-! ## Checks that several commands share -/

/-- `_require_units_stopped()`. -/
def requireUnitsStopped : Prog World Unit := do
  let w ← get
  require w.UnitsStopped

/-- The runtime part of `_require_units_stopped(checkpoint)`. -/
def requireHeldQuiescent (h : Host) (c : Checkpoint) : Prog World Unit :=
  match c.runtimeQuiescence with
  | none => pure ()
  | some q =>
      match q.phase with
      | .released => pure ()
      | .releasePending => require False
      | _ => do
          let w ← get
          require (q.phase = .quiesced → some w.cache = q.cacheAfter)
          require (h.container = q.container ∧ w.running = false
            ∧ h.composeFileSha256 = q.composeFileSha256 ∧ h.unit = q.unit)

/-- `_require_units_stopped(checkpoint)`. -/
def requireUnitsStoppedOf (h : Host) (c : Checkpoint) : Prog World Unit := do
  requireUnitsStopped
  requireHeldQuiescent h c

/-- `_api_health`: the API unit is active and answers that it is healthy. -/
def requireApiHealth : Prog World Unit := do
  let w ← get
  require (w.active .api = true)

/-- `_systemctl(action, unit)`, for a unit that is not yet in the state asked for. -/
def switchUnit (u : RolloutUnit) (on : Bool) : Prog World Unit := do
  let w ← get
  runIf (w.active u ≠ on) (effect (World.setUnit u on))

/-! ## stop -/

/-- What `_stop` is given: the manifest of the source tree and the id of a new operation. -/
structure StopArgs where
  source : Manifest
  newId : OperationId

/-- The pending checkpoint that `_stop` goes on with, if there is one. -/
def pendingStop (h : Host) (args : StopArgs) (maintenance : Option MaintenanceOperation) :
    Prog World (Option Checkpoint) := do
  let w ← get
  match w.checkpoint with
  | none => pure none
  | some _ => do
      let old ← readCheckpoint h
      if old.status = .pending then do
        require (h.digest args.source = old.backendManifestSha256)
        require (old.maintenanceOperation = maintenance)
        pure (some old)
      else pure none

/-- The checkpoint of a new operation. -/
def newCheckpoint (h : Host) (args : StopArgs) (maintenance : Option MaintenanceOperation)
    (active : RolloutUnit → Bool) : Checkpoint where
  operationId := args.newId
  status := .pending
  backendManifest := args.source
  backendManifestSha256 := h.digest args.source
  initialBackendManifestSha256 := h.digest args.source
  sourceTransitions := []
  maintenanceOperation := maintenance
  runtimeQuiescence := none
  activeUnits := active
  pendingUnits := []

/-- The part of `_stop` that begins a new operation. -/
def beginOperation (h : Host) (args : StopArgs) (maintenance : Option MaintenanceOperation) :
    Prog World Checkpoint := do
  let w ← get
  require (w.active .api = true)
  require w.NoJobs
  atomicWrite h (newCheckpoint h args maintenance w.active)
  pure (newCheckpoint h args maintenance w.active)

/-- The checkpoint that `_stop` goes on with: the pending one, or that of a new operation. -/
def pendingOrNew (h : Host) (args : StopArgs) (maintenance : Option MaintenanceOperation) :
    Option Checkpoint → Prog World Checkpoint
  | some c => pure c
  | none => beginOperation h args maintenance

/-- The part of `_stop` that stops the units that were active. -/
def stopUnits (c : Checkpoint) : Prog World Unit := do
  forEach (fun u => runIf (c.activeUnits u = true) (switchUnit u false))
    RolloutUnit.stopOrder
  let w ← get
  require w.NoJobs
  switchUnit .api false

/-- `_stop`. -/
def stop (h : Host) (args : StopArgs) (maintenance : Option MaintenanceOperation) :
    Prog World OperationId := do
  let w ← get
  -- `_preflight_export`
  require (∀ p ∈ w.installed.paths, p ∈ args.source.paths)
  let pending ← pendingStop h args maintenance
  let c ← pendingOrNew h args maintenance pending
  stopUnits c
  pure c.operationId

/-! ## quiesce-mihomo -/

/-- The identities that a Mihomo command is told to expect. -/
structure RuntimeArgs where
  expectedOperationId : OperationId
  expectedCurrentManifestSha256 : Sha256
  expectedContainer : ContainerIdentity
  expectedComposeFileSha256 : Sha256

/-- `_check_expected_lifecycle_identity`. -/
def ExpectedLifecycleIdentity (c : Checkpoint) (args : RuntimeArgs) : Prop :=
  c.status = .pending ∧ c.operationId = args.expectedOperationId
    ∧ c.backendManifestSha256 = args.expectedCurrentManifestSha256
    ∧ c.initialBackendManifestSha256 = args.expectedCurrentManifestSha256
    ∧ c.sourceTransitions = [] ∧ c.maintenanceOperation = none

instance (c : Checkpoint) (args : RuntimeArgs) : Decidable (ExpectedLifecycleIdentity c args) :=
  inferInstanceAs (Decidable (_ ∧ _))

/-- The record of a stop that is about to be made. -/
def stopIntent (h : Host) (args : RuntimeArgs) (c : Checkpoint) (w : World) : RuntimeQuiescence where
  phase := .stopPending
  operationId := c.operationId
  sourceManifestSha256 := args.expectedCurrentManifestSha256
  unit := h.unit
  container := h.container
  composeFileSha256 := h.composeFileSha256
  cacheBefore := w.cache
  cacheAfter := none

def Checkpoint.withQuiescence (c : Checkpoint) (q : RuntimeQuiescence) : Checkpoint :=
  { c with runtimeQuiescence := some q }

/-- The runtime of the host is the recorded one. -/
def SameRuntime (h : Host) (q : RuntimeQuiescence) : Prop :=
  h.container = q.container ∧ h.composeFileSha256 = q.composeFileSha256 ∧ h.unit = q.unit

instance (h : Host) (q : RuntimeQuiescence) : Decidable (SameRuntime h q) :=
  inferInstanceAs (Decidable (_ ∧ _))

/-- The end of `_quiesce_mihomo`: the pinned container is stopped and the cache it leaves recorded.
`cacheLeft` is the cache after a `docker stop`. -/
def stopContainer (h : Host) (c : Checkpoint) (q : RuntimeQuiescence) (cacheLeft : CacheState) :
    Prog World Unit := do
  let w ← get
  require (SameRuntime h q)
  require (w.cache = q.cacheBefore)
  runIf (w.running = true) (effect (World.setContainer false cacheLeft))
  let stopped ← get
  require (stopped.running = false)
  atomicWrite h
    (c.withQuiescence { q with cacheAfter := some stopped.cache, phase := .quiesced })

/-- `_quiesce_mihomo`. -/
def quiesceMihomo (h : Host) (args : RuntimeArgs) (cacheLeft : CacheState) : Prog World Unit := do
  let c ← readCheckpoint h
  require (ExpectedLifecycleIdentity c args)
  let w ← get
  require (h.digest w.installed = args.expectedCurrentManifestSha256)
  requireUnitsStopped
  match c.runtimeQuiescence with
  | none => do
      require (h.container = args.expectedContainer
        ∧ h.composeFileSha256 = args.expectedComposeFileSha256 ∧ w.running = h.unit.active)
      atomicWrite h (c.withQuiescence (stopIntent h args c w))
      stopContainer h (c.withQuiescence (stopIntent h args c w)) (stopIntent h args c w) cacheLeft
  | some q => do
      require (q.operationId = args.expectedOperationId
        ∧ q.sourceManifestSha256 = args.expectedCurrentManifestSha256
        ∧ q.container = args.expectedContainer
        ∧ q.composeFileSha256 = args.expectedComposeFileSha256)
      match q.phase with
      | .quiesced =>
          require (h.container = q.container ∧ w.running = false ∧ h.unit = q.unit
            ∧ some w.cache = q.cacheAfter)
      | .stopPending => stopContainer h c q cacheLeft
      | _ => require False

/-! ## release-mihomo -/

/-- `_runtime_checkpoint`. -/
def runtimeCheckpoint (c : Checkpoint) (args : RuntimeArgs) : Option RuntimeQuiescence :=
  match c.runtimeQuiescence with
  | none => none
  | some q =>
      if q.operationId = args.expectedOperationId ∧ q.container = args.expectedContainer
          ∧ q.composeFileSha256 = args.expectedComposeFileSha256
          ∧ args.expectedCurrentManifestSha256 = c.backendManifestSha256 then
        if c.backendManifestSha256 = q.sourceManifestSha256 then
          if c.sourceTransitions = [] then some q else none
        else
          match c.sourceTransitions with
          | [t] =>
              if t.operationId = args.expectedOperationId
                  ∧ t.fromManifestSha256 = q.sourceManifestSha256
                  ∧ t.toManifestSha256 = c.backendManifestSha256 then some q else none
          | _ => none
      else none

/-- What a release with `--jit-owner-quiescence` demands of the container and its cache. -/
def requireJitRuntime (h : Host) (c : Checkpoint) (q : RuntimeQuiescence) : Prog World Unit := do
  let w ← get
  if q.phase = .quiesced then do
    requireUnitsStoppedOf h c
    require (some w.cache = q.cacheAfter)
  else do
    require (h.container = q.container)
    require (w.running = true ∨ some w.cache = q.cacheAfter)

/-- What a release demands before it looks at the container: a healthy API, or with
`--jit-owner-quiescence` that all units are still stopped and the recorded backend is installed. -/
def requireReleaseGate (h : Host) (c : Checkpoint) (q : RuntimeQuiescence)
    (jitOwnerQuiescence : Bool) : Prog World Unit :=
  if jitOwnerQuiescence = true then do
    requireUnitsStopped
    requireJitRuntime h c q
    let w ← get
    require (h.digest w.installed = c.backendManifestSha256)
  else requireApiHealth

/-- The end of `_release_mihomo`: the pinned container is started again if its unit was active.
`cacheLeft` is the cache after a `docker start`. -/
def startContainer (h : Host) (c : Checkpoint) (q : RuntimeQuiescence) (cacheLeft : CacheState) :
    Prog World Unit := do
  runIf (q.phase = .quiesced) (atomicWrite h (c.withQuiescence { q with phase := .releasePending }))
  let w ← get
  runIf (q.unit.active = true ∧ w.running = false) (effect (World.setContainer true cacheLeft))
  let started ← get
  require (started.running = q.unit.active)
  atomicWrite h (c.withQuiescence { q with phase := .released })

/-- `_release_mihomo`. -/
def releaseMihomo (h : Host) (args : RuntimeArgs) (jitOwnerQuiescence : Bool)
    (cacheLeft : CacheState) : Prog World Unit := do
  let c ← readCheckpoint h
  require (c.status = .pending)
  let q ← ofOption (runtimeCheckpoint c args)
  match q.phase with
  | .released => do
      let w ← get
      require (SameRuntime h q ∧ w.running = q.unit.active)
  | .stopPending => require False
  | _ => do
      requireReleaseGate h c q jitOwnerQuiescence
      let w ← get
      require (SameRuntime h q ∧ (q.phase = .quiesced → w.running = false))
      startContainer h c q cacheLeft

/-! ## transfer -/

structure TransferArgs where
  source : Manifest
  expectedOperationId : OperationId
  expectedCurrentManifestSha256 : Sha256
  expectedNewManifestSha256 : Sha256
  now : Timestamp

/-- The checkpoint after a transfer of the source. -/
def transferred (h : Host) (args : TransferArgs) (c : Checkpoint) : Checkpoint :=
  { c with
    backendManifest := args.source
    backendManifestSha256 := h.digest args.source
    sourceTransitions := c.sourceTransitions ++
      [{ operationId := args.expectedOperationId
         fromManifestSha256 := args.expectedCurrentManifestSha256
         toManifestSha256 := h.digest args.source
         createdAt := args.now.text }] }

/-- The transition that a replay of the last transfer must find. -/
def replayOf (args : TransferArgs) (t : SourceTransition) : Prop :=
  t.fromManifestSha256 = args.expectedCurrentManifestSha256
    ∧ t.toManifestSha256 = args.expectedNewManifestSha256
    ∧ t.operationId = args.expectedOperationId

instance (args : TransferArgs) (t : SourceTransition) : Decidable (replayOf args t) :=
  inferInstanceAs (Decidable (_ ∧ _))

/-- `_transfer`. -/
def transfer (h : Host) (args : TransferArgs) : Prog World Unit := do
  let c ← readCheckpoint h
  require (c.status = .pending)
  require (c.maintenanceOperation = none)
  require (c.operationId = args.expectedOperationId)
  require (h.digest args.source = args.expectedNewManifestSha256)
  require (∀ q ∈ c.runtimeQuiescence, q.phase = .quiesced)
  if c.backendManifestSha256 = args.expectedNewManifestSha256 then do
    require (∃ t ∈ c.sourceTransitions.getLast?, replayOf args t)
    requireUnitsStoppedOf h c
    let w ← get
    require (h.digest w.installed = args.expectedCurrentManifestSha256
      ∨ h.digest w.installed = args.expectedNewManifestSha256)
  else do
    require (c.backendManifestSha256 = args.expectedCurrentManifestSha256)
    require (c.sourceTransitions.length < maxSourceTransitions)
    requireUnitsStoppedOf h c
    let w ← get
    -- `_verify_export`
    require (w.installed = c.backendManifest)
    atomicWrite h (transferred h args c)

/-! ## rebuild-db -/

/-- What the child process of a rebuild writes to the checkpoint. -/
inductive ChildCall
  | recordBackupPin (pin : BackupPin)
  | recordPhase (phase : RebuildPhase)

/-- The checkpoint after a call of the child; `none` where the call raises. -/
def ChildCall.record (h : Host) (op : OperationId) : ChildCall → Checkpoint → Option Checkpoint
  | recordBackupPin pin, c => recordOfflineRebuildBackupPin h op pin c
  | recordPhase phase, c => recordOfflineRebuildPhase h op phase c

/-- A call of the child; a call that raises leaves the checkpoint as it is. -/
def childCall (h : Host) (op : OperationId) (call : ChildCall) : Prog World Unit := do
  let w ← get
  match w.checkpoint.bind (call.record h op) with
  | some c => effect (World.publish c)
  | none => pure ()

structure RebuildArgs where
  stop : StopArgs
  /-- The calls of the child, in their order. -/
  child : List ChildCall

/-- The operation of a rebuild: the pending one, or a new one. -/
def rebuildOperation (h : Host) (args : RebuildArgs) : Prog World OperationId := do
  let w ← get
  match w.checkpoint with
  | none => stop h args.stop (some { status := .pending, backup := none })
  | some _ => do
      let c ← readCheckpoint h
      require (c.status = .pending)
      let m ← ofOption c.maintenanceOperation
      require (m.status ≠ .verified)
      require (c.backendManifestSha256 = h.digest args.stop.source)
      -- `_verify_operation_backup_pin`
      require (∀ pin ∈ m.backup, validBackupPin c.operationId pin = true)
      pure c.operationId

/-- `_exclusive_rebuild_lease`, as far as it depends on the world. -/
def rebuildLease (h : Host) (op : OperationId) : Prog World Unit := do
  let w ← get
  require (w.checkpoint.bind (offlineOperation h) = some op)
  requireUnitsStopped

/-- The end of `_run_database_rebuild`, once the child has reported success. -/
def verifyRebuild (h : Host) (op : OperationId) : Prog World Unit := do
  let c ← readCheckpoint h
  require (c.status = .pending ∧ c.operationId = op)
  let m ← ofOption c.maintenanceOperation
  require (m.status = .published)
  require (m.backup.any (validBackupPin op) = true)
  atomicWrite h { c with maintenanceOperation := some { m with status := .verified } }

/-- `_run_database_rebuild`. -/
def runDatabaseRebuild (h : Host) (args : RebuildArgs) : Prog World Unit := do
  let w ← get
  -- `_verify_export`
  require (w.installed = args.stop.source)
  let op ← rebuildOperation h args
  requireUnitsStopped
  let w ← get
  require (w.installed = args.stop.source)
  rebuildLease h op
  forEach (childCall h op) args.child
  verifyRebuild h op

/-! ## resume -/

structure ResumeArgs where
  source : Manifest
  allowTimerCatchup : Bool

/-- The loop of `_resume`: the units that stay pending. -/
def restoreUnits (active : RolloutUnit → Bool) (allowTimerCatchup : Bool) :
    List RolloutUnit → List RolloutUnit → Prog World (List RolloutUnit)
  | [], pending => pure pending
  | u :: us, pending =>
      if active u = true then
        if u ∈ RolloutUnit.persistentTimers ∧ allowTimerCatchup = false then do
          let w ← get
          restoreUnits active allowTimerCatchup us
            (if w.active u = false ∧ u ∉ pending then pending ++ [u] else pending)
        else do
          switchUnit u true
          restoreUnits active allowTimerCatchup us (pending.erase u)
      else restoreUnits active allowTimerCatchup us pending

/-- The checkpoint at the end of a resume. -/
def resumed (c : Checkpoint) (pending : List RolloutUnit) : Checkpoint :=
  { c with
    pendingUnits := pending
    status := if pending = [] then .complete else .pending }

/-- `_resume`. -/
def resume (h : Host) (args : ResumeArgs) : Prog World Unit := do
  let c ← readCheckpoint h
  if c.status = .complete then pure ()
  else do
    require (∀ m ∈ c.maintenanceOperation, m.status = .verified)
    require (∀ q ∈ c.runtimeQuiescence, q.phase = .released)
    requireApiHealth
    require (h.digest args.source = c.backendManifestSha256)
    let w ← get
    require (w.installed = c.backendManifest)
    let pending ← restoreUnits c.activeUnits args.allowTimerCatchup RolloutUnit.restoreOrder
      c.pendingUnits
    atomicWrite h (resumed c pending)

/-! ## Runs -/

inductive Command
  | stop (args : StopArgs)
  | quiesceMihomo (args : RuntimeArgs) (cacheLeft : CacheState)
  | releaseMihomo (args : RuntimeArgs) (jitOwnerQuiescence : Bool) (cacheLeft : CacheState)
  | transfer (args : TransferArgs)
  | rebuildDb (args : RebuildArgs)
  | resume (args : ResumeArgs)

/-- `run_command`, once its arguments are accepted and the lifecycle lock is held. -/
def runCommand (h : Host) : Command → Prog World Unit
  | .stop args => do
      let _ ← stop h args none
      pure ()
  | .quiesceMihomo args cacheLeft => quiesceMihomo h args cacheLeft
  | .releaseMihomo args jit cacheLeft => releaseMihomo h args jit cacheLeft
  | .transfer args => transfer h args
  | .rebuildDb args => runDatabaseRebuild h args
  | .resume args => resume h args

/-- What may happen between the commands of a rollout. -/
inductive Meanwhile (h : Host) (w : World) : World → Prop
  /-- The manifest recorded in the checkpoint is installed. -/
  | install {c : Checkpoint} (hc : w.checkpoint = some c) : Meanwhile h w (w.install c.backendManifest)
  | startApi (hstart : startupAllowed h w.installed w.checkpoint = true) :
      Meanwhile h w (w.setUnit .api true)
  | jobEnds {u : RolloutUnit} (hu : u ∈ RolloutUnit.transientJobs) : Meanwhile h w (w.setUnit u false)

/-- A step of the world under commands that may be killed.  `visited` holds the states in which the
command may be cut off. -/
inductive Step (h : Host) (w : World) : World → Prop
  | command {w' : World} (cmd : Command) (hw : w' ∈ (runCommand h cmd w).visited) : Step h w w'
  | meanwhile {w' : World} (hw : Meanwhile h w w') : Step h w w'
  | jobStarts {u : RolloutUnit} (hu : u ∈ RolloutUnit.transientJobs) : Step h w (w.setUnit u true)
  | unitExits (u : RolloutUnit) : Step h w (w.setUnit u false)

/-- The worlds that are reached from one without a checkpoint. -/
inductive Reachable (h : Host) : World → Prop
  | start {w : World} (hw : w.checkpoint = none) : Reachable h w
  | step {w w' : World} (hw : Reachable h w) (hstep : Step h w w') : Reachable h w'

/-- A step on the way forward: a command that is not cut off and succeeds, or what happens between
the commands. -/
inductive ForwardStep (h : Host) (w : World) : World → Prop
  | command {w' : World} (cmd : Command) (hw : (runCommand h cmd w).result = some ((), w')) :
      ForwardStep h w w'
  | meanwhile {w' : World} (hw : Meanwhile h w w') : ForwardStep h w w'

/-- The rollout of the checkpoint is complete, and its active units run. -/
def Restored (c : Checkpoint) (w : World) : Prop :=
  ∃ c', w.checkpoint = some c' ∧ c'.operationId = c.operationId ∧ c'.status = .complete
    ∧ c'.activeUnits = c.activeUnits ∧ ∀ u, c.activeUnits u = true → w.active u = true

/-- There is a way forward. -/
def WayForward (h : Host) (c : Checkpoint) (w : World) : Prop :=
  ∃ w', Relation.ReflTransGen (ForwardStep h) w w' ∧ Restored c w'

end FwRouter.Lifecycle
