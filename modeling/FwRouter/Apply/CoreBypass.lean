import FwRouter.Library.Run
import FwRouter.Library.KeyedTable
import FwRouter.Python.Text

/-!
# Core bypass

`enable_core_bypass` and `disable_core_bypass`.  A call fences the Core intent by advancing its revision,
runs an apply, and publishes the stored flag in one transaction that checks the fence again.  Other
writers may commit between the steps of a call; the calls themselves exclude each other.

`foreign` is a history variable: how often another writer has changed the revision or the row of core.
-/

namespace FwRouter.CoreBypass

open Py

/-! ## State -/

inductive DesiredState
  | enabled
  | disabled
  deriving DecidableEq

inductive LifecycleMode
  | none
  | managed
  | external
  deriving DecidableEq

inductive RuntimeState
  | notConfigured
  | running
  | stopped
  | failed
  | degraded
  | paused
  deriving DecidableEq

inductive ApplyState
  | clean
  | pending
  | applying
  | failed
  deriving DecidableEq

/-- A row of `modules`. -/
structure ModuleRow where
  desiredState : DesiredState
  lifecycleMode : LifecycleMode
  runtimeState : RuntimeState
  applyState : ApplyState
  statusText : Option String
  errorCode : Option String
  errorMessage : Option String
  deriving DecidableEq

/-- `DEPENDENT_MODULES`. -/
inductive Dependent
  | vpn
  | xray
  | watchdog
  | selector
  deriving DecidableEq

def Dependent.name : Dependent → String
  | .vpn => "vpn"
  | .xray => "xray"
  | .watchdog => "watchdog"
  | .selector => "selector"

/-- What `fetch_modules` answers for the dependent modules. -/
abbrev Modules := Dependent → Option ModuleRow

/-- The modules of a snapshot: `desired_state`, `runtime_state` and `status_text`. -/
structure ModuleSnapshot where
  desiredState : Option DesiredState := none
  runtimeState : Option RuntimeState := none
  statusText : Option String := none

/-- The value of the setting `core.bypass`. -/
structure BypassState where
  enabled : Bool := false
  updatedBy : Option Text := none
  reason : Option Text := none
  previousRuntime : Option (Dependent → ModuleSnapshot) := none

/-- `apply_versions.status`. -/
inductive ApplyStatus
  | generated
  | applied
  | rolledBack
  | failed
  deriving DecidableEq

structure ApplyVersion where
  status : ApplyStatus
  coreIntentRevision : Option ℕ
  deriving DecidableEq

/-- An audit event of the entity `core.bypass`. -/
structure AuditEvent where
  actor : Text
  jobId : Text
  action : String
  eventCode : String
  previousEnabled : Bool
  newEnabled : Bool
  deriving DecidableEq

structure World where
  /-- The setting `core.intent_revision`; `none` where it is missing or is no revision. -/
  revision : Option ℕ
  /-- The setting `core.bypass`. -/
  setting : Option BypassState
  core : Option ModuleRow
  dependents : Modules
  applyVersions : List (Text × ApplyVersion)
  audit : List AuditEvent
  /-- Whether the live table is a bypass. -/
  live : Bool
  foreign : ℕ

/-- `get_core_bypass_state`. -/
def World.bypass (w : World) : BypassState := w.setting.getD {}

/-- `is_core_bypass_enabled`. -/
def World.enabled (w : World) : Bool := w.bypass.enabled

/-! ## Transactions -/

/-- `desired_state = 'enabled' AND lifecycle_mode = 'managed'`. -/
def ModuleRow.owned (row : ModuleRow) : Bool :=
  decide (row.desiredState = .enabled) && decide (row.lifecycleMode = .managed)

/-- `_begin_core_bypass_apply`; `none` where it raises. -/
def beginCoreBypassApply (w : World) : Option (ℕ × World) :=
  match w.core.filter ModuleRow.owned, w.revision with
  | some row, some revision => some (revision + 1, { w with
      revision := some (revision + 1)
      core := some { row with
        applyState := .pending
        errorCode := none
        errorMessage := none
        statusText := some "Core bypass apply is in progress." } })
  | _, _ => none

/-- The row of core after a publication. -/
def publishedRow (enabled : Bool) (row : ModuleRow) : ModuleRow :=
  if enabled then { row with
    runtimeState := .paused
    applyState := .clean
    statusText := some "FWRouter core is in intentional bypass mode; dataplane is direct-safe."
    errorCode := none
    errorMessage := none }
  else { row with
    runtimeState := .running
    applyState := .pending
    statusText := some "Core bypass disabled; waiting for fresh native Core proof."
    errorCode := none
    errorMessage := none }

def auditEvent (requestedBy jobId : Text) (previousEnabled enabled : Bool) : AuditEvent where
  actor := requestedBy
  jobId := jobId
  action := if enabled then "core_bypass_enabled" else "core_bypass_disabled"
  eventCode := if enabled then "core.bypass_enabled" else "core.bypass_disabled"
  previousEnabled := previousEnabled
  newEnabled := enabled

/-- The guards of `_save_bypass_setting`, once the revision has been read. -/
def publishable (revision expectedRevision : ℕ) (expectedPreviousEnabled : Bool) (applyId : Text)
    (w : World) : Bool :=
  decide (revision = expectedRevision) &&
    w.core.any (fun row => row.owned && decide (row.applyState = .pending)) &&
    decide (w.enabled = expectedPreviousEnabled) &&
    (w.applyVersions.lookup applyId).any fun version =>
      decide (version.status = .applied) && decide (version.coreIntentRevision = some expectedRevision)

/-- `_save_bypass_setting`: whether the flag has changed; `none` where it raises. -/
def saveBypassSetting (state : BypassState) (requestedBy jobId : Text) (expectedRevision : ℕ)
    (expectedPreviousEnabled : Bool) (applyId : Text) (w : World) : Option (Bool × World) :=
  w.revision.map fun revision =>
    if publishable revision expectedRevision expectedPreviousEnabled applyId w = false then (false, w)
    else
      let changed := decide (w.enabled ≠ state.enabled)
      (changed, { w with
        setting := some state
        core := w.core.map (publishedRow state.enabled)
        audit := if changed then w.audit ++ [auditEvent requestedBy jobId w.enabled state.enabled] else w.audit })

/-- `_mark_core_failure`; `none` where it raises. -/
def markCoreFailure (errorCode errorMessage : String) (expectedRevision : ℕ) (w : World) : Option World :=
  w.revision.map fun revision =>
    match w.core.filter ModuleRow.owned with
    | none => w
    | some row =>
        if revision ≠ expectedRevision then w
        else { w with
          revision := some (revision + 1)
          core := some { row with
            runtimeState := if w.enabled then .paused else .failed
            applyState := .failed
            statusText := some errorMessage
            errorCode := some errorCode
            errorMessage := some errorMessage } }

/-- `settle_core_enable_after_proof`: what it asks of the proof and the runtime context is `proven`, what it
asks of the latest apply, the routing and the applied manifest is `confirmed`.  `none` where it raises. -/
def settleCoreEnableAfterProof (expectedRevision : ℕ) (proven confirmed : Bool) (w : World) :
    Option (Bool × World) :=
  if proven = false then some (false, w)
  else w.revision.map fun revision =>
    match w.core.filter (fun row => row.owned && decide (row.applyState = .pending)) with
    | none => (false, w)
    | some row =>
        if revision ≠ expectedRevision ∨ w.enabled = true ∨ confirmed = false then (false, w)
        else (true, { w with core := some { row with
          applyState := .clean
          errorCode := none
          errorMessage := none
          statusText := some "Core apply verified against current runtime." } })

/-! ## The dependent modules -/

/-- `_dependent_bypass_runtime`. -/
def dependentBypassRuntime (desiredState : Option DesiredState) : RuntimeState :=
  if desiredState = some .enabled then .paused else .stopped

/-- The part of `_snapshot_previous_runtime` that is read again. -/
def snapshotPreviousRuntime (modules : Modules) (name : Dependent) : ModuleSnapshot :=
  match modules name with
  | none => {}
  | some row => ⟨some row.desiredState, some row.runtimeState, row.statusText⟩

/-- `_update_module_runtime` for a dependent module, where `expected` holds of its row. -/
def updateModuleRuntime (runtimeState : RuntimeState) (statusText : String) (expected : ModuleRow → Bool)
    (row : ModuleRow) : ModuleRow :=
  if expected row then { row with
    runtimeState := runtimeState
    applyState := .clean
    statusText := some statusText
    errorCode := none
    errorMessage := none }
  else row

/-- `_set_bypass_module_runtime`. -/
def setBypassModuleRuntime (modules : Modules) (w : World) : World :=
  { w with dependents := fun name =>
      let runtimeState := dependentBypassRuntime ((modules name).map ModuleRow.desiredState)
      let statusText :=
        if runtimeState = .paused then "Module " ++ name.name ++ " is paused by FWRouter core bypass."
        else "Module " ++ name.name ++ " stays stopped while FWRouter core bypass is active."
      (w.dependents name).map (updateModuleRuntime runtimeState statusText fun _ => true) }

/-- The columns that `_update_module_runtime` compares. -/
def ModuleRow.sameState (current row : ModuleRow) : Bool :=
  decide (row.desiredState = current.desiredState) && decide (row.lifecycleMode = current.lifecycleMode) &&
    decide (row.runtimeState = current.runtimeState) && decide (row.applyState = current.applyState) &&
    decide (row.statusText = current.statusText)

/-- `_restore_module_runtime`; a module whose intent is newer than the snapshot is left alone. -/
def restoreModuleRuntime (previousRuntime : Option (Dependent → ModuleSnapshot)) (modules : Modules)
    (w : World) : World :=
  { w with dependents := fun name =>
      let snapshot : ModuleSnapshot := previousRuntime.elim {} fun snapshots => snapshots name
      match modules name with
      | none => w.dependents name
      | some current =>
          if snapshot.desiredState ≠ some current.desiredState then w.dependents name
          else
            let runtimeState := snapshot.runtimeState.getD (dependentBypassRuntime (some current.desiredState))
            let statusText := (snapshot.statusText.filter fun text => !text.isEmpty).getD
              ("Module " ++ name.name ++ " runtime restored after FWRouter core bypass.")
            (w.dependents name).map (updateModuleRuntime runtimeState statusText current.sameState) }

/-! ## Calls -/

inductive Action
  | enable
  | disable
  deriving DecidableEq

/-- Where other writers may commit in a call. -/
inductive Gap
  | beforeFence
  | beforeApply
  | beforePublish
  | beforeSettle
  | beforeMark
  deriving DecidableEq

/-- What the other writers leave. -/
structure Commit where
  revision : Option ℕ
  core : Option ModuleRow
  dependents : Modules

/-- How the apply ends: an ok apply has an id, a failed one the texts of its dataplane. -/
inductive ApplyOutcome
  | ok (applyId : Text)
  | failed (errorMessage message : Option String)
  | raised

/-- A call, with what its steps answer. -/
structure Call where
  action : Action
  jobId : Text
  requestedBy : Text
  reason : Text
  /-- Whether `nft list chain` succeeds. -/
  listed : Bool
  apply : ApplyOutcome
  /-- Whether `read_core_runtime_context` answers. -/
  runtimeContext : Bool
  proven : Bool
  confirmed : Bool
  /-- `fetch_modules`, before the apply and at the end. -/
  modulesBefore : Modules
  modulesAfter : Modules
  commits : Gap → Option Commit

inductive Outcome
  | already
  | failed (errorCode errorMessage : String)
  | done
  deriving DecidableEq

structure Reply where
  outcome : Outcome
  /-- `"apply" in reply`. -/
  ranApply : Bool
  bypass : BypassState

namespace Call

variable (call : Call)

/-- The value that the call requests. -/
def requested : Bool := decide (call.action = .enable)

/-- The world where the call goes on after a gap. -/
def arrive (gap : Gap) (w : World) : World :=
  match call.commits gap with
  | none => w
  | some commit => { w with
      revision := commit.revision
      core := commit.core
      dependents := commit.dependents
      foreign := if commit.revision = w.revision ∧ commit.core = w.core then w.foreign else w.foreign + 1 }

/-- `_run_core_bypass_apply`: an ok apply makes the live table as requested, and records itself. -/
def runCoreBypassApply (applyId : Text) (revision : ℕ) (w : World) : World :=
  { w with
    live := call.requested
    applyVersions := KeyedTable.assign applyId ⟨.applied, some revision⟩ w.applyVersions }

/-- `error_message or message or default`. -/
def failureMessage (errorMessage message : Option String) (default : String) : String :=
  (((errorMessage.filter fun text => !text.isEmpty).orElse fun _ =>
    message.filter fun text => !text.isEmpty)).getD default

/-- A failure that is recorded; the call raises where that raises. -/
def fail (errorCode errorMessage : String) (revision : ℕ) (bypass : World → BypassState) (w : World) :
    Option Reply × World :=
  match markCoreFailure errorCode errorMessage revision w with
  | none => (none, w)
  | some w' => (some ⟨.failed errorCode errorMessage, true, bypass w'⟩, w')

def unavailable (bypass : BypassState) : Reply :=
  ⟨.failed "CORE_INTENT_UNAVAILABLE" "Core intent could not be fenced for bypass apply.", false, bypass⟩

def stale (bypass : BypassState) : Reply :=
  ⟨.failed "CORE_INTENT_STALE" "Core intent changed during bypass apply; bypass publication was refused.", true,
    bypass⟩

def enabledState (previousRuntime : Dependent → ModuleSnapshot) : BypassState :=
  ⟨true, some call.requestedBy, some call.reason, some previousRuntime⟩

def clearedState : BypassState := ⟨false, some call.requestedBy, some call.reason, none⟩

/-- The end of `enable_core_bypass`, after the publication. -/
def afterEnable (w : World) : Option Reply × World :=
  let w := setBypassModuleRuntime call.modulesAfter (call.arrive .beforeSettle w)
  (some ⟨.done, true, w.bypass⟩, w)

/-- The end of `disable_core_bypass`, after the publication. -/
def afterDisable (previousRuntime : Option (Dependent → ModuleSnapshot)) (revision : ℕ) (w : World) :
    Option Reply × World :=
  if call.runtimeContext = false then
    fail "CORE_NATIVE_PROOF_UNVERIFIED" "Core runtime context could not be fenced after bypass disable."
      revision World.bypass (call.arrive .beforeMark w)
  else
    let w := call.arrive .beforeSettle w
    match settleCoreEnableAfterProof revision call.proven call.confirmed w with
    | none => (none, w)
    | some (false, w) =>
        fail "CORE_NATIVE_PROOF_UNVERIFIED" "Fresh Core native proof did not match the bypass-disable apply."
          revision World.bypass (call.arrive .beforeMark w)
    | some (true, w) =>
        let w := restoreModuleRuntime previousRuntime call.modulesAfter (call.arrive .beforeMark w)
        (some ⟨.done, true, w.bypass⟩, w)

/-- The publication of a call, and what follows it. -/
def publish (state : BypassState) (revision : ℕ) (expectedPreviousEnabled : Bool) (applyId : Text)
    (published : World → Option Reply × World) (w : World) : Option Reply × World :=
  match saveBypassSetting state call.requestedBy call.jobId revision expectedPreviousEnabled applyId w with
  | none => (none, w)
  | some (false, w) => (some (stale w.bypass), w)
  | some (true, w) => published w

/-- The fence and the apply, and what follows a failed one or an ok one. -/
def fenceAndApply (state : BypassState)
    (failing : Option String → Option String → ℕ → World → Option Reply × World)
    (publishing : Text → ℕ → World → Option Reply × World) (w : World) : Option Reply × World :=
  match beginCoreBypassApply (call.arrive .beforeFence w) with
  | none => (some (unavailable state), call.arrive .beforeFence w)
  | some (revision, w) =>
      let w := call.arrive .beforeApply w
      match call.apply with
      | .raised => (none, w)
      | .failed errorMessage message => failing errorMessage message revision w
      | .ok applyId =>
          publishing applyId revision (call.arrive .beforePublish (call.runCoreBypassApply applyId revision w))

/-- `enable_core_bypass`. -/
def enableCoreBypass (w : World) : Option Reply × World :=
  let state := w.bypass
  if state.enabled then (some ⟨.already, false, state⟩, w)
  else call.fenceAndApply state
    (fun errorMessage message revision w =>
      fail "CORE_BYPASS_ENABLE_FAILED" (failureMessage errorMessage message "Failed to enable core bypass.")
        revision (fun _ => state) (call.arrive .beforeMark w))
    (fun applyId revision =>
      call.publish (call.enabledState (snapshotPreviousRuntime call.modulesBefore)) revision false applyId
        call.afterEnable) w

/-- `_live_core_bypass_active`. -/
def liveCoreBypassActive (w : World) : Bool := call.listed && w.live

/-- `disable_core_bypass`. -/
def disableCoreBypass (w : World) : Option Reply × World :=
  let state := w.bypass
  if state.enabled = false ∧ call.liveCoreBypassActive w = false then (some ⟨.already, false, state⟩, w)
  else call.fenceAndApply state
    (fun errorMessage message revision w =>
      fail "CORE_BYPASS_DISABLE_FAILED" (failureMessage errorMessage message "Failed to disable core bypass.")
        revision (fun _ => state) (call.arrive .beforeMark (setBypassModuleRuntime call.modulesAfter w)))
    (fun applyId revision =>
      call.publish call.clearedState revision state.enabled applyId
        (call.afterDisable state.previousRuntime revision)) w

/-- A call from beginning to end. -/
def run (w : World) : Option Reply × World :=
  match call.action with
  | .enable => call.enableCoreBypass w
  | .disable => call.disableCoreBypass w

end Call

/-! ## What the steps keep -/

section Steps

variable {w w' : World} {call : Call} {gap : Gap} {revision : ℕ}

/-- Neither the flag, nor the live table, nor the audit log has moved, and no other writer has committed. -/
structure Still (w w' : World) : Prop where
  setting : w'.setting = w.setting
  live : w'.live = w.live
  audit : w'.audit = w.audit
  foreign : w'.foreign = w.foreign

/-- The flag, the live table and the audit log have not moved. -/
structure Kept (w w' : World) : Prop where
  setting : w'.setting = w.setting
  live : w'.live = w.live
  audit : w'.audit = w.audit
  foreign : w.foreign ≤ w'.foreign

lemma Still.kept (h : Still w w') : Kept w w' := ⟨h.setting, h.live, h.audit, h.foreign.ge⟩

lemma Kept.refl : Kept w w := ⟨rfl, rfl, rfl, le_rfl⟩

lemma Kept.trans {w'' : World} (h : Kept w w') (h' : Kept w' w'') : Kept w w'' :=
  ⟨h'.setting.trans h.setting, h'.live.trans h.live, h'.audit.trans h.audit, h.foreign.trans h'.foreign⟩

lemma Kept.enabled (h : Kept w w') : w'.enabled = w.enabled := by
  rw [World.enabled, World.enabled, World.bypass, World.bypass, h.setting]

/-- Other writers keep the flag, and are counted where they change the revision or the row of core. -/
lemma kept_arrive : Kept w (call.arrive gap w) := by
  rw [Call.arrive]
  cases call.commits gap with
  | none => exact Kept.refl
  | some commit =>
      refine ⟨rfl, rfl, rfl, ?_⟩
      show w.foreign ≤ if _ then w.foreign else w.foreign + 1
      split_ifs
      · exact le_rfl
      · exact Nat.le_succ _

/-- A gap in which nobody is counted leaves the fence as it is. -/
lemma arrive_of_foreign_eq (h : (call.arrive gap w).foreign = w.foreign) :
    (call.arrive gap w).revision = w.revision ∧ (call.arrive gap w).core = w.core := by
  revert h
  rw [Call.arrive]
  cases call.commits gap with
  | none => exact fun _ => ⟨rfl, rfl⟩
  | some commit =>
      show (if _ then w.foreign else w.foreign + 1) = w.foreign → commit.revision = w.revision ∧ _
      split_ifs with hsame
      · exact fun _ => hsame
      · exact fun h => absurd h (Nat.succ_ne_self _)

lemma arrive_applyVersions : (call.arrive gap w).applyVersions = w.applyVersions := by
  rw [Call.arrive]
  cases call.commits gap <;> rfl

lemma beginCoreBypassApply_cases (h : beginCoreBypassApply w = some (revision, w')) :
    Still w w' ∧ w'.revision = some revision ∧ ∃ row, w'.core = some row ∧ row.owned = true ∧
      row.applyState = .pending := by
  rw [beginCoreBypassApply] at h
  cases hcore : w.core.filter ModuleRow.owned with
  | none => simp [hcore] at h
  | some row =>
      cases hrevision : w.revision with
      | none => simp [hcore, hrevision] at h
      | some current =>
          simp only [hcore, hrevision, Option.some.injEq, Prod.mk.injEq] at h
          obtain ⟨rfl, rfl⟩ := h
          exact ⟨⟨rfl, rfl, rfl, rfl⟩, rfl, _, rfl, (Option.filter_eq_some_iff.mp hcore).2, rfl⟩

lemma still_markCoreFailure {errorCode errorMessage : String}
    (h : markCoreFailure errorCode errorMessage revision w = some w') : Still w w' := by
  obtain ⟨current, -, rfl⟩ := Option.map_eq_some_iff.mp h
  cases w.core.filter ModuleRow.owned with
  | none => exact ⟨rfl, rfl, rfl, rfl⟩
  | some row =>
      dsimp only
      split_ifs <;> exact ⟨rfl, rfl, rfl, rfl⟩

lemma still_settle {proven confirmed settled : Bool}
    (h : settleCoreEnableAfterProof revision proven confirmed w = some (settled, w')) : Still w w' := by
  rw [settleCoreEnableAfterProof] at h
  split_ifs at h
  · obtain ⟨-, rfl⟩ := Prod.mk.inj (Option.some.inj h)
    exact ⟨rfl, rfl, rfl, rfl⟩
  · obtain ⟨current, -, h⟩ := Option.map_eq_some_iff.mp h
    cases hcore : w.core.filter (fun row => row.owned && decide (row.applyState = .pending)) with
    | none =>
        rw [hcore] at h
        obtain ⟨-, rfl⟩ := Prod.mk.inj h
        exact ⟨rfl, rfl, rfl, rfl⟩
    | some row =>
        rw [hcore] at h
        dsimp only at h
        split_ifs at h <;> obtain ⟨-, rfl⟩ := Prod.mk.inj h <;> exact ⟨rfl, rfl, rfl, rfl⟩

end Steps

/-! ## The course of a call -/

section Course

variable {w w' : World} {call : Call} {revision : ℕ} {applyId : Text} {reply : Option Reply}

/-- The call answers that its publication has been refused. -/
def Stale (reply : Option Reply) : Prop :=
  ∃ r ∈ reply, ∃ message, r.outcome = .failed "CORE_INTENT_STALE" message

/-- The call has run an apply and returns without `job_status` failed. -/
def Succeeded (reply : Option Reply) : Prop :=
  ∃ r ∈ reply, r.ranApply = true ∧ ∀ errorCode message, r.outcome ≠ .failed errorCode message

namespace Call

/-- The call does not find everything as it requests. -/
def Acts (call : Call) (w : World) : Prop :=
  match call.action with
  | .enable => w.enabled = false
  | .disable => ¬(w.enabled = false ∧ call.liveCoreBypassActive w = false)

/-- The call acts, its fence stands, and its apply is ok. -/
def Applies (call : Call) (w : World) : Prop :=
  call.Acts w ∧ (∃ fence, beginCoreBypassApply (call.arrive .beforeFence w) = some fence) ∧
    ∃ applyId, call.apply = .ok applyId

/-- The world that the publication finds, from the fence on. -/
def reach (call : Call) (applyId : Text) (revision : ℕ) (w : World) : World :=
  call.arrive .beforePublish (call.runCoreBypassApply applyId revision (call.arrive .beforeApply w))

end Call

/-- What an apply and its publication do, from the fence on. -/
inductive Publication (call : Call) (w : World) : Option Reply × World → Prop
  | refused {reply : Option Reply} {w' : World} (hreply : ¬Succeeded reply) (setting : w'.setting = w.setting)
      (live : w'.live = call.requested) (audit : w'.audit = w.audit) (foreign : w.foreign < w'.foreign) :
      Publication call w (reply, w')
  | published {reply : Option Reply} {w' : World} (hreply : ¬Stale reply) (hchanged : w.enabled ≠ call.requested)
      (enabled : w'.enabled = call.requested) (live : w'.live = call.requested)
      (audit : w'.audit = w.audit ++ [auditEvent call.requestedBy call.jobId w.enabled call.requested]) :
      Publication call w (reply, w')
  /-- The flag was as requested: it is published, and the call answers that it was refused. -/
  | unseen {reply : Option Reply} {w' : World} (hreply : Stale reply) (hsame : w.enabled = call.requested)
      (enabled : w'.enabled = call.requested) (live : w'.live = call.requested) (audit : w'.audit = w.audit) :
      Publication call w (reply, w')

/-- What a call does. -/
inductive Course (call : Call) (w : World) : Option Reply × World → Prop
  | unapplied {reply : Option Reply} {w' : World} (happlies : ¬call.Applies w) (hstale : ¬Stale reply)
      (hsucceeded : ¬Succeeded reply) (hkept : Kept w w') : Course call w (reply, w')
  | applied {w' : World} {result : Option Reply × World} (happlies : call.Applies w)
      (hfence : Still (call.arrive .beforeFence w) w') (h : Publication call w' result) : Course call w result

lemma not_stale_none : ¬Stale none := by
  rintro ⟨r, hr, -⟩
  cases hr

lemma not_succeeded_none : ¬Succeeded none := by
  rintro ⟨r, hr, -⟩
  cases hr

lemma not_succeeded_failed {errorCode message : String} {ranApply : Bool} {bypass : BypassState} :
    ¬Succeeded (some ⟨.failed errorCode message, ranApply, bypass⟩) := by
  rintro ⟨r, hr, -, hfailed⟩
  obtain rfl := Option.some.inj hr
  exact hfailed _ _ rfl

lemma not_succeeded_unapplied {outcome : Outcome} {bypass : BypassState} :
    ¬Succeeded (some ⟨outcome, false, bypass⟩) := by
  rintro ⟨r, hr, hran, -⟩
  obtain rfl := Option.some.inj hr
  cases hran

lemma not_stale_some {outcome : Outcome} {ranApply : Bool} {bypass : BypassState}
    (h : ∀ message, outcome ≠ .failed "CORE_INTENT_STALE" message) : ¬Stale (some ⟨outcome, ranApply, bypass⟩) := by
  rintro ⟨r, hr, message, hfailed⟩
  obtain rfl := Option.some.inj hr
  exact h message hfailed

/-- A failure other than a refused publication. -/
lemma fail_keeps {errorCode errorMessage : String} {bypass : World → BypassState}
    (h : errorCode ≠ "CORE_INTENT_STALE") :
    ¬Stale (Call.fail errorCode errorMessage revision bypass w).1 ∧
      ¬Succeeded (Call.fail errorCode errorMessage revision bypass w).1 ∧
      Kept w (Call.fail errorCode errorMessage revision bypass w).2 := by
  rw [Call.fail]
  cases hmark : markCoreFailure errorCode errorMessage revision w with
  | none => exact ⟨not_stale_none, not_succeeded_none, Kept.refl⟩
  | some w' =>
      refine ⟨not_stale_some ?_, not_succeeded_failed, (still_markCoreFailure hmark).kept⟩
      rintro message heq
      exact h (Outcome.failed.inj heq).1

lemma afterEnable_keeps : ¬Stale (call.afterEnable w).1 ∧ Kept w (call.afterEnable w).2 := by
  have hlast : Kept (call.arrive .beforeSettle w) (call.afterEnable w).2 := ⟨rfl, rfl, rfl, le_rfl⟩
  exact ⟨not_stale_some fun _ => nofun, kept_arrive.trans hlast⟩

lemma afterDisable_keeps {previousRuntime : Option (Dependent → ModuleSnapshot)} :
    ¬Stale (call.afterDisable previousRuntime revision w).1 ∧
      Kept w (call.afterDisable previousRuntime revision w).2 := by
  have hfail : ∀ (message : String) (v : World), Kept w v →
      ¬Stale (Call.fail "CORE_NATIVE_PROOF_UNVERIFIED" message revision World.bypass (call.arrive .beforeMark v)).1 ∧
        Kept w (Call.fail "CORE_NATIVE_PROOF_UNVERIFIED" message revision World.bypass
          (call.arrive .beforeMark v)).2 := by
    intro message v hv
    obtain ⟨hstale, -, hkept⟩ := @fail_keeps (call.arrive .beforeMark v) revision "CORE_NATIVE_PROOF_UNVERIFIED"
      message World.bypass (by decide)
    exact ⟨hstale, (hv.trans kept_arrive).trans hkept⟩
  rw [Call.afterDisable]
  split_ifs with hcontext
  · exact hfail _ w Kept.refl
  · dsimp only
    cases hsettle : settleCoreEnableAfterProof revision call.proven call.confirmed (call.arrive .beforeSettle w) with
    | none => exact ⟨not_stale_none, kept_arrive⟩
    | some done =>
        have hdone : Kept w done.2 := kept_arrive.trans (still_settle hsettle).kept
        match done with
        | (false, v) => exact hfail _ v hdone
        | (true, v) => exact ⟨not_stale_some fun _ => nofun, hdone.trans (kept_arrive.trans ⟨rfl, rfl, rfl, le_rfl⟩)⟩

/-- From the fence to the publication only the live table moves. -/
lemma reach_keeps : (call.reach applyId revision w).setting = w.setting ∧
    (call.reach applyId revision w).live = call.requested ∧ (call.reach applyId revision w).audit = w.audit ∧
      w.foreign ≤ (call.reach applyId revision w).foreign := by
  have hbefore := @kept_arrive w call .beforeApply
  have hafter := @kept_arrive (call.runCoreBypassApply applyId revision (call.arrive .beforeApply w)) call .beforePublish
  exact ⟨hafter.setting.trans hbefore.setting, hafter.live, hafter.audit.trans hbefore.audit,
    hbefore.foreign.trans hafter.foreign⟩

/-- A publication that nobody disturbs is admitted. -/
lemma publishable_reach {row : ModuleRow} (hrevision : w.revision = some revision) (hcore : w.core = some row)
    (howned : row.owned = true) (hpending : row.applyState = .pending)
    (hforeign : (call.reach applyId revision w).foreign = w.foreign) :
    (call.reach applyId revision w).revision = some revision ∧
      publishable revision revision w.enabled applyId (call.reach applyId revision w) = true := by
  have hbefore := @kept_arrive w call .beforeApply
  have hafter := @kept_arrive (call.runCoreBypassApply applyId revision (call.arrive .beforeApply w)) call .beforePublish
  obtain ⟨hrevision₁, hcore₁⟩ := @arrive_of_foreign_eq w call .beforeApply
    (le_antisymm (hafter.foreign.trans hforeign.le) hbefore.foreign)
  obtain ⟨hrevision₂, hcore₂⟩ := @arrive_of_foreign_eq _ call .beforePublish
    (le_antisymm (hforeign.le.trans hbefore.foreign) hafter.foreign)
  have henabled : (call.reach applyId revision w).enabled = w.enabled := hafter.enabled.trans hbefore.enabled
  have hversion : (call.reach applyId revision w).applyVersions.lookup applyId =
      some ⟨.applied, some revision⟩ := by
    rw [Call.reach, arrive_applyVersions]
    exact KeyedTable.lookup_assign_self _ _ _
  have hrow : (call.reach applyId revision w).core = some row := (hcore₂.trans hcore₁).trans hcore
  refine ⟨(hrevision₂.trans hrevision₁).trans hrevision, ?_⟩
  simp [publishable, henabled, hversion, hrow, howned, hpending]

lemma publish_publication {row : ModuleRow} {state : BypassState} {published : World → Option Reply × World}
    (hrevision : w.revision = some revision) (hcore : w.core = some row) (howned : row.owned = true)
    (hpending : row.applyState = .pending) (hstate : state.enabled = call.requested)
    (hpublished : ∀ v, ¬Stale (published v).1 ∧ Kept v (published v).2) :
    Publication call w
      (call.publish state revision w.enabled applyId published (call.reach applyId revision w)) := by
  obtain ⟨hsetting, hlive, haudit, hforeign⟩ := @reach_keeps w call revision applyId
  have hadmitted := @publishable_reach w call revision applyId row hrevision hcore howned hpending
  rw [Call.publish, saveBypassSetting]
  cases hread : (call.reach applyId revision w).revision with
  | none =>
      refine .refused not_succeeded_none hsetting hlive haudit (lt_of_le_of_ne hforeign fun heq => ?_)
      rw [(hadmitted heq.symm).1] at hread
      cases hread
  | some current =>
      simp only [Option.map_some]
      by_cases hguards : publishable current revision w.enabled applyId (call.reach applyId revision w) = false
      · rw [if_pos hguards]
        refine .refused not_succeeded_failed hsetting hlive haudit (lt_of_le_of_ne hforeign fun heq => ?_)
        obtain ⟨hcurrent, hguards'⟩ := hadmitted heq.symm
        obtain rfl := Option.some.inj (hread.symm.trans hcurrent)
        rw [hguards'] at hguards
        cases hguards
      · rw [if_neg hguards]
        have henabled : (call.reach applyId revision w).enabled = w.enabled := by
          rw [World.enabled, World.enabled, World.bypass, World.bypass, hsetting]
        by_cases hchanged : w.enabled ≠ call.requested
        · have hchanged' : decide ((call.reach applyId revision w).enabled ≠ state.enabled) = true := by
            rw [henabled, hstate]
            exact decide_eq_true hchanged
          simp only [hchanged', if_true]
          obtain ⟨hstale, hkept⟩ := hpublished _
          refine .published hstale hchanged (hkept.enabled.trans hstate) (hkept.live.trans hlive) ?_
          rw [hkept.audit, ← hstate, ← henabled, ← haudit]
        · have hchanged' : decide ((call.reach applyId revision w).enabled ≠ state.enabled) = false := by
            rw [henabled, hstate]
            exact decide_eq_false hchanged
          simp only [hchanged']
          exact .unseen ⟨_, rfl, _, rfl⟩ (not_not.mp hchanged) hstate hlive haudit

lemma fenceAndApply_course {state : BypassState}
    {failing : Option String → Option String → ℕ → World → Option Reply × World}
    {publishing : Text → ℕ → World → Option Reply × World} (hacts : call.Acts w)
    (hfailing : ∀ errorMessage message revision v, ¬Stale (failing errorMessage message revision v).1 ∧
      ¬Succeeded (failing errorMessage message revision v).1 ∧ Kept v (failing errorMessage message revision v).2)
    (hpublishing : ∀ applyId revision v row, v.revision = some revision → v.core = some row → row.owned = true →
      row.applyState = .pending → v.enabled = w.enabled →
        Publication call v (publishing applyId revision (call.reach applyId revision v))) :
    Course call w (call.fenceAndApply state failing publishing w) := by
  have hunapplied : ∀ {v : World} {reply : Option Reply} {w' : World}, (∀ applyId, call.apply ≠ .ok applyId) →
      Kept (call.arrive .beforeFence w) v → ¬Stale reply → ¬Succeeded reply →
        Kept (call.arrive .beforeApply v) w' → Course call w (reply, w') := by
    intro v reply w' hok hfence hstale hsucceeded hkept
    refine .unapplied ?_ hstale hsucceeded (kept_arrive.trans (hfence.trans (kept_arrive.trans hkept)))
    rintro ⟨-, -, applyId, happly⟩
    exact hok applyId happly
  rw [Call.fenceAndApply]
  cases hbegin : beginCoreBypassApply (call.arrive .beforeFence w) with
  | none =>
      refine .unapplied ?_ (not_stale_some ?_) not_succeeded_unapplied kept_arrive
      · rintro ⟨-, ⟨fence, hfence⟩, -⟩
        rw [hbegin] at hfence
        cases hfence
      · exact fun _ h => absurd (Outcome.failed.inj h).1 (by decide)
  | some fence =>
      obtain ⟨revision, v⟩ := fence
      obtain ⟨hstill, hrevision, row, hcore, howned, hpending⟩ := beginCoreBypassApply_cases hbegin
      cases happly : call.apply with
      | raised =>
          exact hunapplied (by simp [happly]) hstill.kept not_stale_none not_succeeded_none Kept.refl
      | failed errorMessage message =>
          obtain ⟨hstale, hsucceeded, hkept⟩ :=
            hfailing errorMessage message revision (call.arrive .beforeApply v)
          exact hunapplied (by simp [happly]) hstill.kept hstale hsucceeded hkept
      | ok applyId =>
          have henabled : v.enabled = w.enabled := hstill.kept.enabled.trans kept_arrive.enabled
          exact .applied ⟨hacts, ⟨_, hbegin⟩, applyId, happly⟩ hstill
            (hpublishing applyId revision v row hrevision hcore howned hpending henabled)

/-- A call that does not act returns at once. -/
lemma course_of_not_acts {bypass : BypassState} (hacts : ¬call.Acts w) :
    Course call w (some ⟨.already, false, bypass⟩, w) :=
  .unapplied (fun h => hacts h.1) (not_stale_some fun _ => nofun) not_succeeded_unapplied Kept.refl

/-- **The course of a call.** -/
theorem run_course : Course call w (call.run w) := by
  rw [Call.run]
  cases haction : call.action with
  | enable =>
      have hrequested : call.requested = true := by rw [Call.requested, haction, decide_eq_true rfl]
      have hacts : call.Acts w ↔ w.enabled = false := by rw [Call.Acts, haction]
      show Course call w (call.enableCoreBypass w)
      rw [Call.enableCoreBypass]
      cases henabled : w.bypass.enabled with
      | true =>
          rw [if_pos rfl]
          exact course_of_not_acts (by rw [hacts, World.enabled, henabled]; decide)
      | false =>
          rw [if_neg (by decide)]
          refine fenceAndApply_course (hacts.mpr henabled) ?_ ?_
          · intro errorMessage message revision v
            obtain ⟨hstale, hsucceeded, hkept⟩ := @fail_keeps (call.arrive .beforeMark v) revision
              "CORE_BYPASS_ENABLE_FAILED" (Call.failureMessage errorMessage message "Failed to enable core bypass.")
              (fun _ => w.bypass) (by decide)
            exact ⟨hstale, hsucceeded, kept_arrive.trans hkept⟩
          · intro applyId revision v row hrevision hcore howned hpending hv
            rw [World.enabled, World.enabled, henabled, ← World.enabled] at hv
            rw [← hv]
            exact publish_publication hrevision hcore howned hpending hrequested.symm fun _ => afterEnable_keeps
  | disable =>
      have hrequested : call.requested = false := by rw [Call.requested, haction]; rfl
      have hacts : call.Acts w ↔ ¬(w.enabled = false ∧ call.liveCoreBypassActive w = false) := by
        rw [Call.Acts, haction]
      show Course call w (call.disableCoreBypass w)
      rw [Call.disableCoreBypass]
      split_ifs with hidle
      · exact course_of_not_acts fun h => hacts.mp h hidle
      · refine fenceAndApply_course (hacts.mpr hidle) ?_ ?_
        · intro errorMessage message revision v
          obtain ⟨hstale, hsucceeded, hkept⟩ :=
            @fail_keeps (call.arrive .beforeMark (setBypassModuleRuntime call.modulesAfter v)) revision
              "CORE_BYPASS_DISABLE_FAILED" (Call.failureMessage errorMessage message "Failed to disable core bypass.")
              (fun _ => w.bypass) (by decide)
          have hmodules : Kept v (setBypassModuleRuntime call.modulesAfter v) := ⟨rfl, rfl, rfl, le_rfl⟩
          exact ⟨hstale, hsucceeded, hmodules.trans (kept_arrive.trans hkept)⟩
        · intro applyId revision v row hrevision hcore howned hpending hv
          show Publication call v (call.publish _ revision w.enabled applyId _ _)
          rw [← hv]
          exact publish_publication hrevision hcore howned hpending hrequested.symm fun _ => afterDisable_keeps

end Course

/-! ## Faithful calls -/

section Faithful

variable {call : Call} {w : World}

/-- The result of a call is faithful. -/
structure Faithful (call : Call) (w : World) (result : Option Reply × World) : Prop where
  /-- It is refused only if another writer has changed the revision or the row of core after the fence. -/
  stale : Stale result.1 → (call.arrive .beforeFence w).foreign < result.2.foreign
  /-- Where it succeeds, the flag and the live table are as requested. -/
  succeeded : Succeeded result.1 → result.2.enabled = call.requested ∧ result.2.live = call.requested
  /-- The flag changes along with one audit event of the old and the new value. -/
  audited : result.2.enabled ≠ w.enabled →
    result.2.audit = w.audit ++ [auditEvent call.requestedBy call.jobId w.enabled result.2.enabled]
  /-- Where no other writer has interfered, the flag and the live table agree. -/
  agrees : result.2.foreign = w.foreign → result.2.enabled = result.2.live

/-- The condition: the flag and the live table agree, or the call repairs that, or another writer interferes. -/
def Call.Sound (call : Call) (w : World) : Prop :=
  w.enabled ≠ w.live →
    (call.Applies w → w.enabled = call.requested →
      (call.arrive .beforeFence w).foreign < (call.run w).2.foreign) ∧
    (¬call.Applies w → (call.run w).2.foreign ≠ w.foreign)

/-- A call that acts although the flag is as requested finds another live table. -/
lemma ne_live_of_acts (hacts : call.Acts w) (h : w.enabled = call.requested) : w.enabled ≠ w.live := by
  rw [Call.Acts] at hacts
  rw [Call.requested] at h
  cases haction : call.action with
  | enable => simp [haction, h] at hacts
  | disable =>
      have henabled : w.enabled = false := by rw [h, haction]; rfl
      simp only [haction, henabled, true_and, Call.liveCoreBypassActive, Bool.not_eq_false, Bool.and_eq_true] at hacts
      rw [henabled, hacts.2]
      decide

/-- A call that succeeds has not been refused. -/
lemma not_succeeded_of_stale {reply : Option Reply} (h : Stale reply) : ¬Succeeded reply := by
  obtain ⟨r, hr, message, hfailed⟩ := h
  rintro ⟨r', hr', -, hnot⟩
  obtain rfl := Option.some.inj (hr.symm.trans hr')
  exact hnot _ _ hfailed

/-- **When a call is faithful.** -/
theorem faithful_iff : Faithful call w (call.run w) ↔ call.Sound w := by
  have hcourse : Course call w (call.run w) := run_course
  have hfence : w.foreign ≤ (call.arrive .beforeFence w).foreign := kept_arrive.foreign
  have henabled : (call.arrive .beforeFence w).enabled = w.enabled := kept_arrive.enabled
  have haudit : (call.arrive .beforeFence w).audit = w.audit := kept_arrive.audit
  rw [Call.Sound]
  generalize call.run w = result at hcourse
  cases hcourse with
  | @unapplied reply w' happlies hstale hsucceeded hkept =>
      constructor
      · intro hfaithful hne
        refine ⟨fun h => absurd h happlies, fun _ hforeign => hne ?_⟩
        rw [← hkept.enabled, ← hkept.live]
        exact hfaithful.agrees hforeign
      · intro hsound
        refine ⟨fun h => absurd h hstale, fun h => absurd h hsucceeded, fun h => absurd hkept.enabled h, ?_⟩
        intro hforeign
        rw [hkept.enabled, hkept.live]
        by_contra hne
        exact (hsound hne).2 happlies hforeign
  | @applied v result happlies hstill hpublication =>
      rw [← hstill.foreign]
      rw [← hstill.kept.enabled] at henabled
      rw [← hstill.audit] at haudit
      rw [← hstill.foreign] at hfence
      cases hpublication with
      | @refused reply w' hreply setting live audit foreign =>
          have hflag : w'.enabled = w.enabled := by
            rw [← henabled, World.enabled, World.enabled, World.bypass, World.bypass, setting]
          constructor
          · exact fun _ _ => ⟨fun _ _ => foreign, fun h => absurd happlies h⟩
          · exact fun _ => ⟨fun _ => by rwa [← hstill.foreign], fun h => absurd h hreply,
              fun h => absurd hflag h, fun h => absurd h (hfence.trans_lt foreign).ne'⟩
      | @published reply w' hreply hchanged enabled live audit =>
          constructor
          · exact fun _ _ => ⟨fun _ h => absurd (henabled.trans h) hchanged, fun h => absurd happlies h⟩
          · refine fun _ => ⟨fun h => absurd h hreply, fun _ => ⟨enabled, live⟩, fun _ => ?_, fun _ => ?_⟩
            · rw [audit, haudit, henabled, enabled]
            · rw [enabled, live]
      | @unseen reply w' hreply hsame enabled live audit =>
          have hflag : w.enabled = call.requested := henabled.symm.trans hsame
          constructor
          · intro hfaithful _
            refine ⟨fun _ _ => ?_, fun h => absurd happlies h⟩
            rw [hstill.foreign]
            exact hfaithful.stale hreply
          · intro hsound
            refine ⟨fun _ => ?_, fun h => absurd h (not_succeeded_of_stale hreply), fun h => ?_, fun _ => ?_⟩
            · rw [← hstill.foreign]
              exact (hsound (ne_live_of_acts happlies.1 hflag)).1 happlies hflag
            · exact absurd (enabled.trans hflag.symm) h
            · rw [enabled, live]

/-- A call from a state in which the flag and the live table agree is faithful. -/
lemma sound_of_agrees (h : w.enabled = w.live) : call.Sound w := fun hne => absurd h hne

/-! ## Runs -/

/-- The next call. -/
def step (w : World) (call : Call) : World := (call.run w).2

/-- Every call of the run is faithful. -/
def FaithfulRun : World → List Call → Prop := Run.Along step fun w call => Faithful call w (call.run w)

/-- **When a run is faithful.** -/
theorem faithfulRun_iff {calls : List Call} :
    FaithfulRun w calls ↔ Run.Along step (fun w call => call.Sound w) w calls := by
  have hsame : (fun w call => Faithful call w (call.run w)) = fun (w : World) (call : Call) => call.Sound w := by
    funext w call
    exact propext faithful_iff
  rw [FaithfulRun, hsame]

end Faithful

/-! ## A bypass that is turned off after a refused publication -/

def runningCore : ModuleRow := ⟨.enabled, .managed, .running, .clean, none, none, none⟩

/-- Core runs, without a bypass. -/
def plainWorld : World := ⟨some 0, none, some runningCore, fun _ => none, [], [], false, 0⟩

/-- A call whose steps all answer well. -/
def plainCall (action : Action) (applyId : String) (commits : Gap → Option Commit) : Call where
  action := action
  jobId := "job".toList
  requestedBy := "api".toList
  reason := []
  listed := true
  apply := .ok applyId.toList
  runtimeContext := true
  proven := true
  confirmed := true
  modulesBefore _ := none
  modulesAfter _ := none
  commits := commits

/-- Another writer advances the revision before the publication. -/
def refusedCalls : List Call :=
  [plainCall .enable "first" fun gap =>
    if gap = .beforePublish then some ⟨some 2, some runningCore, fun _ => none⟩ else none,
    plainCall .disable "second" fun _ => none]

/-- The second call is undisturbed, publishes, and answers that it has been refused. -/
theorem refusedCalls_not_faithful :
    plainWorld.enabled = plainWorld.live ∧ ¬FaithfulRun plainWorld refusedCalls := by
  refine ⟨rfl, ?_⟩
  rintro ⟨-, hsecond, -⟩
  exact absurd (hsecond.stale ⟨_, rfl, _, rfl⟩) (by decide)

/-- On and off again, with nobody else. -/
def quietCalls : List Call :=
  [plainCall .enable "first" fun _ => none, plainCall .disable "second" fun _ => none]

end FwRouter.CoreBypass
