import FwRouter.Apply.CoreBypass
import FwRouter.Xray.Pending

/-!
# The workflow of a fixed server

`services/server_global_selection.py` sets a fixed server for all traffic and then brings Mihomo, Core
and Xray to it.  How far it has come stands in the row of the pending Xray convergence, under
`workflow`; the row is advanced by separate transactions, and each of them checks again that the
intent it belongs to is the current one.

This file has the rows and the transactions.  A transaction is a function that gives the database it
leaves, and `none` where it changes nothing.  The workflow is kept as a record beside the row of
`Xray.Pending`, as no other kind of workflow is ever written; instants of SQLite are seconds.
-/

namespace FwRouter.FixedServer

open Py
open CoreBypass (DesiredState LifecycleMode ApplyState)

/-! ## Rows -/

inductive Mode
  | direct
  | selective
  | vpn
  deriving DecidableEq

inductive ServerMode
  | auto
  | fixed
  deriving DecidableEq

/-- The row of `routing_global_state`, as far as these transactions read and write it. -/
structure Route where
  desiredMode : Mode
  appliedMode : Option Mode
  serverMode : ServerMode
  desiredFixedServerId : Option Text
  appliedFixedServerId : Option Text
  fixedServerUntil : Option ℤ
  applyState : ApplyState
  errorCode : Option Text
  errorMessage : Option Text
  deriving DecidableEq

/-- The columns of the row of core that are fenced together. -/
structure CoreSnapshot where
  desiredState : DesiredState
  lifecycleMode : LifecycleMode
  applyState : ApplyState
  deriving DecidableEq

def CoreSnapshot.enabledManaged (c : CoreSnapshot) : Bool :=
  decide (c.desiredState = .enabled) && decide (c.lifecycleMode = .managed)

inductive Phase
  | intent
  | mihomoReserved
  | mihomoGenerationVerified
  | mihomoVerified
  | coreVerified
  | xrayVerified
  deriving DecidableEq

/-- `mihomo-fixed-generation-reservation/v1`. -/
structure Reservation where
  operationId : Text
  jobId : Text
  beforeRevision : ℕ
  selectionRevision : ℕ
  inputFingerprintHash : Text
  candidateConfigHash : Text
  beforeActiveConfigHash : Text
  beforeRuntimeIncarnation : Text
  checkpointRef : Text
  deriving DecidableEq

/-- `mihomo-fixed-generation-receipt/v1`. -/
structure Receipt where
  operationId : Text
  jobId : Text
  beforeRevision : ℕ
  selectionRevision : ℕ
  inputFingerprintHash : Text
  candidateConfigHash : Text
  activeConfigHash : Text
  runtimeIncarnation : Text
  nativeUdpPolicyVerified : Bool
  nativeTopLevelRulesMatch : Bool
  nativeSelectorMembershipMatches : Bool
  guardedRulesMatch : Bool
  publicationVerified : Bool
  deriving DecidableEq

/-- What the native proof of core says of the applied manifest. -/
structure CoreProof where
  applyId : Text
  manifestHash : Text
  enforcementLevel : Text
  liveMode : Text
  deriving DecidableEq

inductive XrayState
  | verified
  | notApplicable
  | drift
  | unknown
  deriving DecidableEq

/-- What `_fixed_xray_readback` says of Xray. -/
structure XrayProof where
  state : XrayState
  runtimeIncarnation : Option Text
  configSha256 : Option Text
  artifactSha256 : Option Text
  deriving DecidableEq

/-- The receipt of an Xray generation: the operation, and what Mihomo runs after it. -/
structure XrayGeneration where
  operationId : Text
  mihomoInputSha256 : Text
  mihomoConfigSha256 : Text
  mihomoRuntimeIncarnation : Text
  deriving DecidableEq

structure Workflow where
  phase : Phase
  serverId : Text
  fixedUntil : Option ℤ
  selectionRevision : ℕ
  coreRevision : ℕ
  coreSnapshot : CoreSnapshot
  mihomoGenerationReservation : Option Reservation
  mihomoGenerationReceipt : Option Receipt
  /-- `mihomo_generation_mode` is `unchanged`. -/
  generationUnchanged : Bool
  core : Option CoreProof
  xray : Option XrayProof
  xrayGeneration : Option XrayGeneration
  deriving DecidableEq

/-- The row `xray.vpn_auto_pending`; its key `workflow` is the second field. -/
structure PendingRow where
  state : Xray.Pending
  workflow : Option Workflow

structure Db where
  route : Option Route
  selectionRevision : ℕ
  core : Option CoreSnapshot
  /-- `core.intent_revision`; `none` where it cannot be read. -/
  coreRevision : Option ℕ
  /-- `core.bypass`: no row, or its flag, if that can be read. -/
  bypass : Option (Option Bool)
  pending : Option PendingRow
  /-- `CURRENT_TIMESTAMP`. -/
  now : ℤ

/-! ## Reads -/

/-- `datetime(fixed_server_until) > CURRENT_TIMESTAMP`. -/
def Db.ttlLive (db : Db) (r : Route) : Bool := r.fixedServerUntil.any fun until' => decide (db.now < until')

/-- The pending row with its workflow, if a fixed server is pending. -/
def Db.fixedWorkflow (db : Db) : Option (PendingRow × Workflow) := do
  let row ← db.pending
  let workflow ← row.workflow
  if row.state.pending then some (row, workflow) else none

/-- `assert_core_intent_snapshot_current`; `false` also stands for its exception. -/
def Db.coreCurrent (db : Db) (revision : ℕ) (snapshot : CoreSnapshot) : Bool :=
  decide (db.coreRevision = some revision) && decide (db.core = some snapshot)

def Db.bypassOff (db : Db) : Bool := decide (db.bypass = none ∨ db.bypass = some (some false))

/-- `_enabled_managed_core_intent`. -/
def Db.enabledManagedCoreIntent (db : Db) : Option (ℕ × CoreSnapshot) := do
  let snapshot ← db.core
  let revision ← db.coreRevision
  if snapshot.enabledManaged && db.bypassOff then some (revision, snapshot) else none

/-! ## The token of a run -/

/-- What a run has captured of its intent and of the runtime.  `serverId` and `fixedUntil` are those
of the routing state that the run works for. -/
structure Token where
  serverId : Text
  fixedUntil : Option ℤ
  selectionRevision : ℕ
  pendingRevision : ℤ
  coreRevision : ℕ
  coreSnapshot : CoreSnapshot
  runtimeIncarnation : Text
  inputHash : Text
  activeConfigHash : Text
  phase : Phase
  mihomoGenerationReservation : Option Reservation
  mihomoGenerationReceipt : Option Receipt
  sourceSelectionRevision : Option ℕ
  deriving DecidableEq

/-- `token.get("source_selection_revision", token["selection_revision"])`. -/
def Token.sourceRevision (t : Token) : ℕ := t.sourceSelectionRevision.getD t.selectionRevision

/-- The text is a SHA-256 digest in hexadecimal. -/
def isDigest (t : Text) : Bool :=
  t.length == 64 && t.all fun c => "0123456789abcdef".toList.contains c

/-- `_fixed_generation_receipt_valid`; `checkpoint` is the answer of
`_fixed_generation_checkpoint_matches`. -/
def receiptValid (checkpoint : Bool) (reservation : Option Reservation) (receipt : Option Receipt) :
    Bool :=
  match reservation, receipt with
  | some v, some r =>
      decide (v.beforeRevision + 1 = v.selectionRevision) && checkpoint &&
        decide (r.operationId = v.operationId) && decide (r.beforeRevision = v.beforeRevision) &&
        decide (r.selectionRevision = v.selectionRevision) &&
        decide (r.inputFingerprintHash = v.inputFingerprintHash) &&
        decide (r.candidateConfigHash = v.candidateConfigHash) && isDigest v.candidateConfigHash &&
        isDigest r.activeConfigHash &&
        decide (r.activeConfigHash = v.candidateConfigHash ∨
          r.activeConfigHash = v.beforeActiveConfigHash) &&
        decide (r.runtimeIncarnation ≠ []) && r.nativeUdpPolicyVerified &&
        r.nativeTopLevelRulesMatch && r.nativeSelectorMembershipMatches && r.guardedRulesMatch &&
        r.publicationVerified
  | _, _ => false

/-- What the phase of a workflow says of its reservation and receipt, as a run checks it at its
start. -/
def Workflow.consistent (checkpoint : Bool) (w : Workflow) : Bool :=
  match w.phase with
  | .intent => true
  | .mihomoReserved =>
      w.mihomoGenerationReservation.any fun v =>
        decide (v.selectionRevision ≤ w.selectionRevision) &&
          decide (v.beforeRevision + 1 = v.selectionRevision)
  | phase =>
      match w.mihomoGenerationReservation with
      | some v =>
          decide (v.selectionRevision ≤ w.selectionRevision) &&
            receiptValid checkpoint (some v) w.mihomoGenerationReceipt
      | none => decide (phase ≠ .mihomoGenerationVerified) && w.generationUnchanged

/-- What a run reads of the runtime for its token. -/
structure RuntimeFacts where
  runtimeIncarnation : Text
  inputHash : Text
  activeConfigHash : Text
  checkpoint : Bool

/-- `_capture_fixed_apply_context` for a route with this server and end. -/
def captureFixedApplyContext (serverId : Option Text) (fixedUntil : Option ℤ) (facts : RuntimeFacts)
    (db : Db) : Option Token := do
  let coreRevision ← db.coreRevision
  let coreSnapshot ← db.core
  let (row, workflow) ← db.fixedWorkflow
  if coreSnapshot.enabledManaged && decide (workflow.selectionRevision = db.selectionRevision) &&
      decide (some workflow.serverId = serverId) && decide (workflow.fixedUntil = fixedUntil) &&
      workflow.consistent facts.checkpoint then
    some {
      serverId := workflow.serverId
      fixedUntil := fixedUntil
      selectionRevision := db.selectionRevision
      pendingRevision := row.state.revision
      coreRevision := coreRevision
      coreSnapshot := coreSnapshot
      runtimeIncarnation := facts.runtimeIncarnation
      inputHash := facts.inputHash
      activeConfigHash := facts.activeConfigHash
      phase := workflow.phase
      mihomoGenerationReservation := workflow.mihomoGenerationReservation
      mihomoGenerationReceipt := workflow.mihomoGenerationReceipt
      sourceSelectionRevision := workflow.mihomoGenerationReservation.map (·.beforeRevision) }
  else none

/-! ## The intent -/

def globalFixedServerTtlSeconds : ℤ := 24 * 3600

/-- `mark_xray_vpn_auto_pending`, for a mark of another writer or one that supersedes. -/
def markPending (m : Xray.Mark) (workflow : Option Workflow) (db : Db) : Db :=
  if db.fixedWorkflow.isSome && !m.supersedeFixedWorkflow then db
  else { db with pending := some ⟨m.value (db.pending.map (·.state)), workflow⟩ }

def supersedingMark (trigger : String) (now : ℤ) : Xray.Mark where
  trigger := trigger.toList
  now := Xray.seconds now
  immediate := true
  workflow := none
  supersedeFixedWorkflow := true

/-- The row that `INSERT OR IGNORE` creates. -/
def defaultRoute : Route where
  desiredMode := .direct
  appliedMode := none
  serverMode := .auto
  desiredFixedServerId := none
  appliedFixedServerId := none
  fixedServerUntil := none
  applyState := .clean
  errorCode := none
  errorMessage := none

/-- The insertion of `ensure_routing_global_state`. -/
def ensureRoute (db : Db) : Db := { db with route := some (db.route.getD defaultRoute) }

def Route.fix (serverId : Text) (until' : ℤ) (r : Route) : Route :=
  { r with
    serverMode := .fixed
    desiredFixedServerId := some serverId
    fixedServerUntil := some until'
    applyState := .pending
    errorCode := none
    errorMessage := none }

def Route.unfix (r : Route) : Route :=
  { r with
    serverMode := .auto
    desiredFixedServerId := none
    appliedFixedServerId := none
    fixedServerUntil := none
    applyState := .pending
    errorCode := none
    errorMessage := none }

/-- `set_global_fixed_server` for a server that may be selected. -/
def setGlobalFixedServer (serverId : Text) (db : Db) : Option Db := do
  let (coreRevision, coreSnapshot) ← db.enabledManagedCoreIntent
  let until' := db.now + globalFixedServerTtlSeconds
  return markPending (supersedingMark "global_fixed_server" db.now)
    (some {
      phase := .intent
      serverId := serverId
      fixedUntil := some until'
      selectionRevision := db.selectionRevision + 1
      coreRevision := coreRevision
      coreSnapshot := coreSnapshot
      mihomoGenerationReservation := none
      mihomoGenerationReceipt := none
      generationUnchanged := false
      core := none
      xray := none
      xrayGeneration := none })
    { db with
      route := some ((db.route.getD defaultRoute).fix serverId until')
      selectionRevision := db.selectionRevision + 1 }

/-- The transaction of `clear_global_fixed_server`. -/
def clearGlobalFixedServer (db : Db) : Db :=
  markPending (supersedingMark "global_fixed_server_cleared" db.now) none
    { db with
      route := some (db.route.getD defaultRoute).unfix
      selectionRevision := db.selectionRevision + 1 }

/-- `_clear_expired_global_fixed_server_state`. -/
def clearExpired (db : Db) : Option Db := do
  let r ← db.route
  if r.serverMode = .fixed ∧ r.fixedServerUntil.any (fun until' => decide (until' ≤ db.now)) then
    some (markPending (supersedingMark "global_fixed_server_ttl_expired" db.now) none
      { db with route := some r.unfix, selectionRevision := db.selectionRevision + 1 })
  else none

/-! ## The pending row -/

/-- `_begin_attempt`, `_defer_revision` and `_finish_revision`. -/
def attempt (op : Xray.Op) (revision : ℤ) (db : Db) : Option Db := do
  let row ← db.pending
  if row.state.pending ∧ row.state.revision = revision then
    some { db with pending := some { row with state := op.update revision (Xray.seconds db.now) row.state } }
  else none

/-- `_save_if_revision` of the row with a changed workflow. -/
def saveWorkflow (workflow : Workflow) (revision : ℤ) (db : Db) : Option Db := do
  let row ← db.pending
  if row.state.pending ∧ row.state.revision = revision then
    some { db with pending := some { row with workflow := some workflow } }
  else none

/-- `_update_fixed_workflow`. -/
def updateFixedWorkflow (revision : ℤ) (changes : Workflow → Workflow) (db : Db) : Option Db := do
  let (_, workflow) ← db.fixedWorkflow
  saveWorkflow (changes workflow) revision db

/-! ## The generation of Mihomo -/

/-- The fences of `_owned_row` and of `_fixed_apply_token_matches` on the route. -/
def Db.routeOwned (db : Db) (serverId : Text) (fixedUntil : Option ℤ) : Bool :=
  db.route.any fun r =>
    decide (r.serverMode = .fixed) && decide (r.desiredFixedServerId = some serverId) &&
      decide (r.fixedServerUntil = fixedUntil) && decide (r.applyState ≠ .failed) &&
      decide (r.errorCode = none) && decide (r.errorMessage = none) && db.ttlLive r

/-- `_owned_row`. -/
def ownedRow (t : Token) (selectionRevision : ℕ) (db : Db) : Option Workflow := do
  let (row, workflow) ← db.fixedWorkflow
  if row.state.revision = t.pendingRevision ∧ workflow.serverId = t.serverId ∧
      workflow.fixedUntil = t.fixedUntil ∧ workflow.coreRevision = t.coreRevision ∧
      workflow.coreSnapshot = t.coreSnapshot ∧ db.coreCurrent t.coreRevision t.coreSnapshot ∧
      db.routeOwned t.serverId t.fixedUntil ∧ db.selectionRevision = selectionRevision then
    some workflow
  else none

/-- `reserve_or_validate` in mode `reserve`. -/
def reserve (t : Token) (reservation : Reservation) (db : Db) : Option Db := do
  if reservation.beforeRevision = t.sourceRevision ∧
      reservation.selectionRevision = t.sourceRevision + 1 ∧
      reservation.beforeActiveConfigHash = t.activeConfigHash ∧
      reservation.beforeRuntimeIncarnation = t.runtimeIncarnation then
    let workflow ← ownedRow t t.sourceRevision db
    if workflow.phase = .intent ∧ workflow.selectionRevision = t.sourceRevision ∧
        workflow.mihomoGenerationReservation = none then
      saveWorkflow
        { workflow with
          phase := .mihomoReserved
          selectionRevision := t.sourceRevision + 1
          mihomoGenerationReservation := some reservation }
        t.pendingRevision { db with selectionRevision := t.sourceRevision + 1 }
    else none
  else none

/-- The token after the reservation. -/
def Token.reserved (reservation : Reservation) (t : Token) : Token :=
  { t with
    sourceSelectionRevision := some t.sourceRevision
    selectionRevision := t.sourceRevision + 1
    mihomoGenerationReservation := some reservation
    phase := .mihomoReserved }

/-- `reserve_or_validate` in mode `validate`. -/
def validateReservation (t : Token) (reservation : Reservation) (db : Db) : Bool :=
  decide (reservation.beforeRevision = t.sourceRevision) &&
    (ownedRow t reservation.selectionRevision db).any fun workflow =>
      decide (workflow.phase = .mihomoReserved) &&
        decide (workflow.selectionRevision = reservation.selectionRevision) &&
        decide (workflow.mihomoGenerationReservation = some reservation)

/-- What `publish_verified_receipt` checks of the receipt against the reservation of the token. -/
def Receipt.answers (receipt : Receipt) (v : Reservation) : Bool :=
  decide (receipt.operationId = v.operationId) && decide (receipt.beforeRevision = v.beforeRevision) &&
    decide (receipt.selectionRevision = v.selectionRevision) &&
    decide (receipt.inputFingerprintHash = v.inputFingerprintHash) &&
    decide (receipt.candidateConfigHash = v.candidateConfigHash) &&
    decide (receipt.activeConfigHash = v.candidateConfigHash ∨
      receipt.activeConfigHash = v.beforeActiveConfigHash) &&
    decide (receipt.runtimeIncarnation ≠ []) && receipt.nativeUdpPolicyVerified &&
    receipt.nativeTopLevelRulesMatch && receipt.nativeSelectorMembershipMatches &&
    receipt.guardedRulesMatch && receipt.publicationVerified

/-- `publish_verified_receipt`. -/
def publishVerifiedReceipt (t : Token) (receipt : Receipt) (db : Db) : Option Db := do
  let reservation ← t.mihomoGenerationReservation
  if receipt.answers reservation then
    let workflow ← ownedRow t reservation.selectionRevision db
    if workflow.phase = .mihomoReserved ∧ workflow.selectionRevision = reservation.selectionRevision ∧
        workflow.mihomoGenerationReservation = some reservation ∧
        workflow.mihomoGenerationReceipt = none then
      saveWorkflow
        { workflow with phase := .mihomoGenerationVerified, mihomoGenerationReceipt := some receipt }
        t.pendingRevision db
    else none
  else none

/-- The token after the receipt. -/
def Token.published (receipt : Receipt) (t : Token) : Token :=
  { t with mihomoGenerationReceipt := some receipt, phase := .mihomoGenerationVerified }

/-! ## The selection of Mihomo -/

/-- The route with the applied server, and whether it is written. -/
def applyFixedServer (t : Token) (r : Route) : Option (Route × Bool) :=
  if r.appliedFixedServerId = some t.serverId ∧ r.applyState = .clean then some (r, false)
  else if r.serverMode = .fixed ∧ r.desiredFixedServerId = some t.serverId ∧
      r.fixedServerUntil = t.fixedUntil ∧ t.fixedUntil.isSome ∧ r.applyState ≠ .failed then
    some ({ r with
      appliedFixedServerId := some t.serverId
      applyState := .clean
      errorCode := none
      errorMessage := none }, true)
  else none

/-- The transaction of `_commit_fixed_mihomo_stage`.  The token is matched before it. -/
def commitFixedMihomoStage (t : Token) (db : Db) : Option Db := do
  let r ← db.route
  let (r', written) ← applyFixedServer t r
  let next := if written then db.selectionRevision + 1 else db.selectionRevision
  let (row, workflow) ← db.fixedWorkflow
  if row.state.revision = t.pendingRevision ∧ workflow.phase = t.phase ∧
      (t.phase = .intent ∨ t.phase = .mihomoGenerationVerified) ∧
      workflow.selectionRevision = db.selectionRevision ∧
      workflow.mihomoGenerationReservation = t.mihomoGenerationReservation ∧
      workflow.mihomoGenerationReceipt = t.mihomoGenerationReceipt then
    saveWorkflow
      { workflow with
        phase := .mihomoVerified
        selectionRevision := next
        generationUnchanged :=
          workflow.generationUnchanged || t.mihomoGenerationReservation.isNone }
      t.pendingRevision { db with route := some r', selectionRevision := next }
  else none

/-! ## The apply of core -/

/-- What the run asks of the apply of core. -/
structure CoreApply where
  mode : Mode
  expectedSelectionRevision : ℕ
  expectedCoreRevision : ℕ
  expectedCoreSnapshot : CoreSnapshot
  deriving DecidableEq

/-- The first fence of `_execute_set_global_mode`: a pending fixed server lets only its own apply
pass. -/
def CoreApply.ownsFixedStage (a : CoreApply) (db : Db) : Bool :=
  match db.fixedWorkflow with
  | none => true
  | some (_, w) =>
      decide (w.phase = .mihomoVerified) &&
        db.route.any (fun r => decide (r.desiredMode = a.mode)) &&
        decide (a.expectedSelectionRevision = w.selectionRevision) &&
        decide (a.expectedCoreRevision = w.coreRevision) &&
        decide (a.expectedCoreSnapshot = w.coreSnapshot)

/-- The row of core is enabled and managed, and not clean. -/
def CoreSnapshot.enablePending (c : CoreSnapshot) : Bool :=
  c.enabledManaged && decide (c.applyState ≠ .clean)

/-- The second fence of `_execute_set_global_mode`: core and the selection are the expected ones. -/
def CoreApply.fence (a : CoreApply) (db : Db) : Bool :=
  db.core.all (fun c =>
    decide (db.coreRevision = some a.expectedCoreRevision) && decide (c = a.expectedCoreSnapshot) &&
      decide (db.bypass ≠ some none) &&
      !(decide (db.bypass = some (some true)) && c.enablePending)) &&
    decide (db.selectionRevision = a.expectedSelectionRevision)

/-- Core as the second fence has found it; `none` without a row of core. -/
def Db.fencedCore (db : Db) : Option (ℕ × CoreSnapshot) := do
  let c ← db.core
  let revision ← db.coreRevision
  return (revision, c)

/-- The fence after the pipeline; without a row of core there is none. -/
def CoreApply.stillFenced (a : CoreApply) (core : Option (ℕ × CoreSnapshot)) (db : Db) : Bool :=
  core.all fun (revision, c) =>
    db.coreCurrent revision c && decide (db.selectionRevision = a.expectedSelectionRevision)

/-- The transaction of `_commit_global_mode`; the applied version is the latest one. -/
def commitGlobalMode (mode : Mode) (core : Option (ℕ × CoreSnapshot)) (db : Db) : Option Db := do
  let r ← db.route
  if core.all fun (revision, c) => db.coreCurrent revision c then
    some { db with route := some { r with
      desiredMode := mode
      appliedMode := some mode
      applyState := .clean
      errorCode := none
      errorMessage := none } }
  else none

/-- The transaction of `_persist_global_error`. -/
def persistGlobalError (code message : Text) (db : Db) : Option Db := do
  let r ← db.route
  return { db with route := some { r with
    applyState := .failed, errorCode := some code, errorMessage := some message } }

/-- `settle_core_enable_after_proof` for a proof of the apply. -/
def settleCoreEnable (expectedRevision : ℕ) (db : Db) : Option Db := do
  let c ← db.core
  let r ← db.route
  if db.coreRevision = some expectedRevision ∧ c.enabledManaged ∧ c.applyState = .pending ∧
      db.bypassOff ∧ r.applyState = .clean ∧ r.appliedMode = some r.desiredMode then
    some { db with core := some { c with applyState := .clean } }
  else none

/-! ## The generation of Xray -/

/-- `_assert_xray_generation_authorized` for the owner of a workflow. -/
def generationAuthorized (revision : ℤ) (db : Db) : Bool :=
  db.fixedWorkflow.any fun (row, w) =>
    decide (row.state.revision = revision) && decide (w.phase = .coreVerified ∨ w.phase = .xrayVerified)

/-- The transaction of `_fixed_xray_generation_callback`. -/
def recordXrayGeneration (t : Token) (generation : XrayGeneration) (expected : ℕ) (db : Db) :
    Option Db := do
  let (row, workflow) ← db.fixedWorkflow
  if db.selectionRevision = expected ∧ db.coreCurrent t.coreRevision t.coreSnapshot ∧
      row.state.revision = t.pendingRevision ∧ workflow.phase = .coreVerified ∧
      workflow.serverId = t.serverId ∧ workflow.fixedUntil = t.fixedUntil ∧
      (workflow.selectionRevision = t.selectionRevision ∨
        workflow.xrayGeneration.map (·.operationId) = some generation.operationId ∧
          workflow.selectionRevision = expected) ∧
      t.selectionRevision ≤ expected then
    saveWorkflow
      { workflow with selectionRevision := expected, xrayGeneration := some generation }
      t.pendingRevision db
  else none

/-- The token after the Xray generation. -/
def Token.generated (generation : XrayGeneration) (expected : ℕ) (t : Token) : Token :=
  { t with
    selectionRevision := expected
    inputHash := generation.mihomoInputSha256
    activeConfigHash := generation.mihomoConfigSha256
    runtimeIncarnation := generation.mihomoRuntimeIncarnation }

/-! ## Completion -/

/-- `_complete_revision_in_connection`. -/
def completeRevision (revision : ℤ) (db : Db) : Option Db := do
  let row ← db.pending
  if row.state.pending ∧ row.state.revision = revision then
    let state := Xray.Op.completeRevision.update revision (Xray.seconds db.now) row.state
    some { db with pending := some ⟨state, none⟩ }
  else none

/-- The last transaction of `apply_global_fixed_server`.  `core` and `xray` are the proofs read before
it.  After a failed post-check it would store the apply state `degraded`, which the table refuses. -/
def complete (t : Token) (core : CoreProof) (xray : XrayProof) (postCheckFailed : Bool) (db : Db) :
    Option Db := do
  let r ← db.route
  let (row, workflow) ← db.fixedWorkflow
  if r.serverMode = .fixed ∧ r.desiredFixedServerId = some t.serverId ∧
      r.appliedFixedServerId = some t.serverId ∧ r.fixedServerUntil = t.fixedUntil ∧
      r.applyState = .clean ∧ r.errorCode = none ∧ r.errorMessage = none ∧ db.ttlLive r ∧
      db.selectionRevision = t.selectionRevision ∧ db.coreCurrent t.coreRevision t.coreSnapshot ∧
      t.coreSnapshot.enabledManaged ∧ row.state.revision = t.pendingRevision ∧
      workflow.phase = .xrayVerified ∧ workflow.serverId = t.serverId ∧
      workflow.fixedUntil = t.fixedUntil ∧ workflow.selectionRevision = t.selectionRevision ∧
      workflow.coreRevision = t.coreRevision ∧ workflow.coreSnapshot = t.coreSnapshot ∧
      workflow.core.map (·.applyId) = some core.applyId ∧
      workflow.core.map (·.manifestHash) = some core.manifestHash ∧ workflow.xray = some xray ∧
      postCheckFailed = false then
    completeRevision t.pendingRevision db
  else none

/-! ## What the transactions do -/

section Transactions

variable {db db' : Db} {row : PendingRow} {w : Workflow} {t : Token} {revision : ℤ}

lemma fixedWorkflow_eq_some :
    db.fixedWorkflow = some (row, w) ↔
      db.pending = some row ∧ row.workflow = some w ∧ row.state.pending := by
  unfold Db.fixedWorkflow
  cases hpending : db.pending with
  | none => simp
  | some stored =>
      cases hworkflow : stored.workflow with
      | none =>
          constructor
          · intro h
            simp [hworkflow] at h
          · rintro ⟨hrow, hw, -⟩
            obtain rfl := Option.some.inj hrow
            rw [hworkflow] at hw
            cases hw
      | some stored' =>
          simp only [Option.bind_eq_bind, Option.bind_some, hworkflow, Option.ite_none_right_eq_some,
            Option.some.injEq, Prod.mk.injEq]
          constructor
          · rintro ⟨hp, rfl, rfl⟩
            exact ⟨rfl, hworkflow, hp⟩
          · rintro ⟨rfl, hw, hp⟩
            exact ⟨hp, rfl, Option.some.inj (hworkflow.symm.trans hw)⟩

lemma saveWorkflow_eq_some :
    saveWorkflow w revision db = some db' ↔
      ∃ row, db.pending = some row ∧ row.state.pending ∧ row.state.revision = revision ∧
        db' = { db with pending := some { row with workflow := some w } } := by
  unfold saveWorkflow
  cases hpending : db.pending with
  | none => simp
  | some row =>
      simp only [Option.bind_eq_bind, Option.bind_some, Option.ite_none_right_eq_some,
        Option.some.injEq]
      constructor
      · rintro ⟨⟨hp, hr⟩, rfl⟩
        exact ⟨row, rfl, hp, hr, rfl⟩
      · rintro ⟨_, rfl, hp, hr, rfl⟩
        exact ⟨⟨hp, hr⟩, rfl⟩

/-- The server mode and the server that the route asks for. -/
def Route.target (r : Route) : ServerMode × Option Text := (r.serverMode, r.desiredFixedServerId)

/-- The transaction finds the workflow `w` pending under the revision and leaves `w'` there, for the
same server; what the route asks for stays, and the selection revision is not taken back. -/
structure Rewrites (revision : ℤ) (w w' : Workflow) (db db' : Db) : Prop where
  row : ∃ row, db.fixedWorkflow = some (row, w) ∧ row.state.revision = revision ∧
    db'.pending = some { row with workflow := some w' }
  server : w'.serverId = w.serverId
  target : db'.route.map Route.target = db.route.map Route.target
  selection : db.selectionRevision ≤ db'.selectionRevision

/-- A workflow is saved after a change of the route and of the selection revision. -/
lemma Rewrites.of_saveWorkflow {w' : Workflow} {mid : Db}
    (hsave : saveWorkflow w' revision mid = some db') (hrow : db.fixedWorkflow = some (row, w))
    (hpending : mid.pending = db.pending) (hserver : w'.serverId = w.serverId)
    (htarget : mid.route.map Route.target = db.route.map Route.target)
    (hselection : db.selectionRevision ≤ mid.selectionRevision) :
    Rewrites revision w w' db db' ∧ db'.selectionRevision = mid.selectionRevision := by
  obtain ⟨row', hrow', -, hrevision, rfl⟩ := saveWorkflow_eq_some.mp hsave
  have hstored := (fixedWorkflow_eq_some.mp hrow).1
  obtain rfl : row' = row := Option.some.inj (hrow'.symm.trans (hpending.trans hstored))
  exact ⟨⟨⟨row', hrow, hrevision, rfl⟩, hserver, htarget, hselection⟩, rfl⟩

lemma ownedRow_eq_some {n : ℕ} (h : ownedRow t n db = some w) :
    ∃ row, db.fixedWorkflow = some (row, w) ∧ row.state.revision = t.pendingRevision ∧
      db.selectionRevision = n := by
  unfold ownedRow at h
  cases hfixed : db.fixedWorkflow with
  | none =>
      rw [hfixed] at h
      cases h
  | some stored =>
      simp only [hfixed, Option.bind_eq_bind, Option.bind_some, Option.ite_none_right_eq_some,
        Option.some.injEq] at h
      obtain ⟨⟨hrevision, -, -, -, -, -, -, hselection⟩, rfl⟩ := h
      exact ⟨stored.1, rfl, hrevision, hselection⟩

lemma reserve_rewrites {v : Reservation} (h : reserve t v db = some db') :
    ∃ w w', Rewrites t.pendingRevision w w' db db' ∧ w.phase = .intent ∧
      w'.phase = .mihomoReserved ∧ db'.selectionRevision = t.sourceRevision + 1 := by
  unfold reserve at h
  split_ifs at h
  obtain ⟨w, howned, h⟩ := Option.bind_eq_some_iff.mp h
  split_ifs at h with hw
  obtain ⟨row, hrow, -, hselection⟩ := ownedRow_eq_some howned
  obtain ⟨hrewrites, hnext⟩ := Rewrites.of_saveWorkflow h hrow rfl rfl rfl (by dsimp only; omega)
  exact ⟨w, _, hrewrites, hw.1, rfl, hnext⟩

lemma publish_rewrites {receipt : Receipt} (h : publishVerifiedReceipt t receipt db = some db') :
    ∃ w w', Rewrites t.pendingRevision w w' db db' ∧ w.phase = .mihomoReserved ∧
      w'.phase = .mihomoGenerationVerified := by
  unfold publishVerifiedReceipt at h
  obtain ⟨v, -, h⟩ := Option.bind_eq_some_iff.mp h
  split_ifs at h
  obtain ⟨w, howned, h⟩ := Option.bind_eq_some_iff.mp h
  split_ifs at h with hw
  obtain ⟨row, hrow, -, -⟩ := ownedRow_eq_some howned
  exact ⟨w, _, (Rewrites.of_saveWorkflow h hrow rfl rfl rfl le_rfl).1, hw.1, rfl⟩

lemma applyFixedServer_target {r r' : Route} {written : Bool}
    (h : applyFixedServer t r = some (r', written)) : r'.target = r.target := by
  unfold applyFixedServer at h
  split_ifs at h
  · obtain ⟨rfl, -⟩ := Prod.mk.inj (Option.some.inj h)
    rfl
  · obtain ⟨rfl, -⟩ := Prod.mk.inj (Option.some.inj h)
    rfl

lemma commit_rewrites (h : commitFixedMihomoStage t db = some db') :
    ∃ w w', Rewrites t.pendingRevision w w' db db' ∧ w'.phase = .mihomoVerified := by
  unfold commitFixedMihomoStage at h
  obtain ⟨r, hroute, h⟩ := Option.bind_eq_some_iff.mp h
  obtain ⟨⟨r', written⟩, happly, h⟩ := Option.bind_eq_some_iff.mp h
  obtain ⟨⟨row, w⟩, hrow, h⟩ := Option.bind_eq_some_iff.mp h
  have htarget : (some r').map Route.target = db.route.map Route.target := by
    rw [hroute]
    exact congrArg some (applyFixedServer_target happly)
  dsimp only at h
  split_ifs at h
  all_goals
    refine ⟨w, _, (Rewrites.of_saveWorkflow h hrow rfl rfl htarget ?_).1, rfl⟩
    dsimp only
    omega

lemma update_rewrites {changes : Workflow → Workflow}
    (h : updateFixedWorkflow revision changes db = some db')
    (hserver : ∀ w, (changes w).serverId = w.serverId) :
    ∃ w, Rewrites revision w (changes w) db db' ∧ db'.selectionRevision = db.selectionRevision := by
  unfold updateFixedWorkflow at h
  obtain ⟨⟨row, w⟩, hrow, h⟩ := Option.bind_eq_some_iff.mp h
  exact ⟨w, Rewrites.of_saveWorkflow h hrow rfl (hserver w) rfl le_rfl⟩

lemma record_rewrites {generation : XrayGeneration} {expected : ℕ}
    (h : recordXrayGeneration t generation expected db = some db') :
    ∃ w w', Rewrites t.pendingRevision w w' db db' ∧ w.phase = .coreVerified ∧
      w'.phase = .coreVerified ∧ db'.selectionRevision = expected := by
  unfold recordXrayGeneration at h
  obtain ⟨⟨row, w⟩, hrow, h⟩ := Option.bind_eq_some_iff.mp h
  dsimp only at h
  split_ifs at h with hw
  obtain ⟨hrewrites, hnext⟩ := Rewrites.of_saveWorkflow h hrow rfl rfl rfl le_rfl
  exact ⟨w, _, hrewrites, hw.2.2.2.1, hw.2.2.2.1, hnext.trans hw.1⟩

lemma generationAuthorized_iff :
    generationAuthorized revision db ↔
      ∃ row w, db.fixedWorkflow = some (row, w) ∧ row.state.revision = revision ∧
        (w.phase = .coreVerified ∨ w.phase = .xrayVerified) := by
  unfold generationAuthorized
  cases db.fixedWorkflow with
  | none => simp
  | some stored => simp [Prod.ext_iff]

lemma completeRevision_eq_some :
    completeRevision revision db = some db' ↔
      ∃ row, db.pending = some row ∧ row.state.pending ∧ row.state.revision = revision ∧
        db' = { db with
          pending := some
            ⟨Xray.Op.completeRevision.update revision (Xray.seconds db.now) row.state, none⟩ } := by
  unfold completeRevision
  cases hpending : db.pending with
  | none => simp
  | some row =>
      simp only [Option.bind_eq_bind, Option.bind_some, Option.ite_none_right_eq_some,
        Option.some.injEq]
      constructor
      · rintro ⟨⟨hp, hr⟩, rfl⟩
        exact ⟨row, rfl, hp, hr, rfl⟩
      · rintro ⟨_, rfl, hp, hr, rfl⟩
        exact ⟨⟨hp, hr⟩, rfl⟩

lemma attempt_eq_some {op : Xray.Op} :
    attempt op revision db = some db' ↔
      ∃ row, db.pending = some row ∧ row.state.pending ∧ row.state.revision = revision ∧
        db' = { db with
          pending := some
            { row with state := op.update revision (Xray.seconds db.now) row.state } } := by
  unfold attempt
  cases hpending : db.pending with
  | none => simp
  | some row =>
      simp only [Option.bind_eq_bind, Option.bind_some, Option.ite_none_right_eq_some,
        Option.some.injEq]
      constructor
      · rintro ⟨⟨hp, hr⟩, rfl⟩
        exact ⟨row, rfl, hp, hr, rfl⟩
      · rintro ⟨_, rfl, hp, hr, rfl⟩
        exact ⟨⟨hp, hr⟩, rfl⟩

/-- **A mark raises the revision**, or leaves the row of a pending fixed server alone. -/
lemma markPending_cases (m : Xray.Mark) (workflow : Option Workflow) (db : Db) :
    (m.supersedeFixedWorkflow = false ∧ db.fixedWorkflow.isSome ∧ markPending m workflow db = db) ∨
      ∃ row, row.state.revision = max 0 (Xray.storedRevision (db.pending.map (·.state))) + 1 ∧
        row.workflow = workflow ∧ row.state.pending ∧
        markPending m workflow db = { db with pending := some row } := by
  unfold markPending
  by_cases h : (db.fixedWorkflow.isSome && !m.supersedeFixedWorkflow) = true
  · rw [if_pos h]
    simp only [Bool.and_eq_true, Bool.not_eq_true'] at h
    exact Or.inl ⟨h.2, h.1, rfl⟩
  · rw [if_neg h]
    exact Or.inr ⟨_, rfl, rfl, rfl, rfl⟩

end Transactions

end FwRouter.FixedServer
