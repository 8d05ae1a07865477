import FwRouter.Library.Flock
import FwRouter.Lifecycle.Commands

/-!
# The maintenance lease

Calls of `acquire_shared_lease_fd` by any number of processes, interleaved with the lifecycle commands.
The commands exclude each other by the lifecycle lock, so there is at most one session of a command at
a time: its owner and, during a rebuild, the child process that inherits the descriptors of the owner.
The owner waits for its child, so that one of the two acts at a time.

Between any two steps of one process the others may take steps, the backend may be replaced, and any
process may be killed, which closes its descriptors.  A session ends with the last of its processes.
-/

namespace FwRouter.Lifecycle.Admission

open Flock

/-! ## States -/

/-- A call of `acquire_shared_lease_fd`, and what became of the descriptor it returns. -/
inductive Call
  /-- `_open_lease` has returned. -/
  | opened
  /-- `flock(fd, LOCK_SH)` has returned. -/
  | locked
  /-- `startup_allowed` has read the checkpoint and allows the start. -/
  | admitted
  /-- The call has returned and the descriptor is open. -/
  | returned
  /-- The descriptor is closed. -/
  | closed
  deriving DecidableEq

/-- What the acting process of a session is doing. -/
inductive Activity
  | idle
  /-- `_exclusive_rebuild_lease` has read the operation and locked the lease. -/
  | excluding (op : OperationId)
  /-- `offline_rebuild_is_held` has locked the lease again. -/
  | relocked
  /-- `offline_rebuild_is_held` has returned `True`. -/
  | held
  /-- The checkpoint has been read, and this one is about to replace it. -/
  | publishing (c : Checkpoint)

/-- A session of a lifecycle command. -/
structure Session where
  /-- The owner is alive. -/
  owner : Bool
  /-- The child is alive. -/
  child : Bool
  /-- The operation for which the session has been granted the lease. -/
  lease : Option OperationId
  activity : Activity

/-- The lease file has one open file description for each call, and `none` for that of the session. -/
abbrev Description := Option ℕ

structure State where
  checkpoint : Option Checkpoint
  /-- The manifest of the installed tree. -/
  installed : Manifest
  locks : Table Description
  calls : ℕ → Option Call
  session : Option Session
  /-- The operation ids that `uuid4` has given out. -/
  issued : List OperationId

namespace State

def setCall (s : State) (i : ℕ) (call : Call) : State :=
  { s with calls := Function.update s.calls i (some call) }

def setSession (s : State) (se : Session) : State := { s with session := some se }

/-- The session does something else. -/
def act (s : State) (se : Session) (activity : Activity) : State :=
  s.setSession { se with activity := activity }

/-- The last process of the session is gone, and with it the locks. -/
def endSession (s : State) : State := { s with session := none, locks := release s.locks none }

lemma setCall_self (s : State) (i : ℕ) (call : Call) : (s.setCall i call).calls i = some call :=
  Function.update_self ..

lemma setCall_of_ne (s : State) {i j : ℕ} (call : Call) (hji : j ≠ i) :
    (s.setCall i call).calls j = s.calls j := Function.update_of_ne hji ..

/-- A rebuild is recorded and not verified. -/
def RebuildRecorded (s : State) : Prop :=
  ∃ c m, s.checkpoint = some c ∧ c.maintenanceOperation = some m ∧ m.status ≠ .verified

end State

/-- What `offline_rebuild_is_held` answers in a process of the session. -/
def OfflineRebuildIsHeld (h : Host) (s : State) : Prop :=
  ∃ se op, s.session = some se ∧ se.lease = some op ∧ Allows s.locks none .exclusive
    ∧ s.checkpoint.bind (offlineOperation h) = some op

/-! ## Steps -/

/-- A step of a call of `acquire_shared_lease_fd`. -/
inductive CallStep (h : Host) (s : State) : State → Prop
  | openLease {i : ℕ} (hi : s.calls i = none) : CallStep h s (s.setCall i .opened)
  | lockShared {i : ℕ} {t : Table Description} (hi : s.calls i = some .opened)
      (ht : Request s.locks (some i) .shared true t) :
      CallStep h s { s.setCall i .locked with locks := t }
  | admitCall {i : ℕ} (hi : s.calls i = some .locked)
      (hallowed : startupAllowed h s.installed s.checkpoint = true) :
      CallStep h s (s.setCall i .admitted)
  | return {i : ℕ} (hi : s.calls i = some .admitted) : CallStep h s (s.setCall i .returned)
  /-- The lock of `verify_shared_lease_fd`; what it checks besides changes nothing. -/
  | verify {i : ℕ} {b : Bool} {t : Table Description} (hi : s.calls i = some .returned)
      (ht : Request s.locks (some i) .shared b t) : CallStep h s { s with locks := t }
  /-- The descriptor is closed, by the caller, by an exception or with the process. -/
  | close (i : ℕ) :
      CallStep h s { s.setCall i .closed with locks := release s.locks (some i) }

/-- A step of a session. -/
inductive SessionStep (h : Host) (s : State) (se : Session) : State → Prop
  /-- `_stop` has read that no operation is pending, and begins one. -/
  | beginOperation {args : StopArgs} {maintenance : Option MaintenanceOperation}
      {active : RolloutUnit → Bool} (howner : se.owner = true ∧ se.child = false)
      (hidle : se.activity = .idle) (hlease : se.lease = none)
      (hnone : s.checkpoint = none ∨ maintenance = none ∧ ∃ c, s.checkpoint = some c ∧ c.status = .complete)
      (hmaintenance : maintenance = none ∨ maintenance = some ⟨.pending, none⟩)
      (hfresh : args.newId ∉ s.issued) :
      SessionStep h s se
        ({ s with issued := args.newId :: s.issued }.act se
          (.publishing (newCheckpoint h args maintenance active)))
  /-- `_exclusive_rebuild_lease` reads the operation and locks the lease it has opened. -/
  | exclude {op : OperationId} {t : Table Description} (howner : se.owner = true ∧ se.child = false)
      (hidle : se.activity = .idle) (hlease : se.lease = none)
      (hop : s.checkpoint.bind (offlineOperation h) = some op)
      (ht : Request s.locks none .exclusive true t) :
      SessionStep h s se ({ s with locks := t }.act se (.excluding op))
  /-- Another process holds the lease. -/
  | excludeRefused {t : Table Description} (howner : se.owner = true ∧ se.child = false)
      (hidle : se.activity = .idle) (hlease : se.lease = none)
      (ht : Request s.locks none .exclusive false t) : SessionStep h s se { s with locks := t }
  /-- `_exclusive_rebuild_lease` has read the operation again. -/
  | grant {op : OperationId} (hactivity : se.activity = .excluding op)
      (hop : s.checkpoint.bind (offlineOperation h) = some op) :
      SessionStep h s se (s.setSession { se with lease := some op, activity := .idle })
  /-- `offline_rebuild_is_held` locks the lease again. -/
  | relock {op : OperationId} {t : Table Description} (hlease : se.lease = some op)
      (hidle : se.activity = .idle) (ht : Request s.locks none .exclusive true t) :
      SessionStep h s se ({ s with locks := t }.act se .relocked)
  | relockRefused {op : OperationId} {t : Table Description} (hlease : se.lease = some op)
      (hidle : se.activity = .idle) (ht : Request s.locks none .exclusive false t) :
      SessionStep h s se { s with locks := t }
  /-- `offline_rebuild_is_held` reads the operation and returns `True`. -/
  | confirm {op : OperationId} (hactivity : se.activity = .relocked) (hlease : se.lease = some op)
      (hop : s.checkpoint.bind (offlineOperation h) = some op) : SessionStep h s se (s.act se .held)
  /-- What was going on is given up, or was a mere question. -/
  | abandon : SessionStep h s se (s.act se .idle)
  /-- The owner, which holds the lease, starts the child. -/
  | spawn (howner : se.owner = true ∧ se.child = false) (hactivity : se.activity = .held) :
      SessionStep h s se (s.setSession { se with child := true, activity := .idle })
  /-- The child, which holds the lease, has read the checkpoint and advances it. -/
  | record {op : OperationId} {call : ChildCall} {c c' : Checkpoint} (hchild : se.child = true)
      (hactivity : se.activity = .held) (hlease : se.lease = some op)
      (hc : s.checkpoint = some c) (hcall : call.record h op c = some c') :
      SessionStep h s se (s.act se (.publishing c'))
  /-- The owner has read the checkpoint that the child has published, and verifies it. -/
  | verifyRebuild {op : OperationId} {c : Checkpoint} {m : MaintenanceOperation}
      (howner : se.owner = true ∧ se.child = false) (hidle : se.activity = .idle)
      (hlease : se.lease = some op) (hc : s.checkpoint = some c)
      (hpending : c.status = .pending ∧ c.operationId = op) (hm : c.maintenanceOperation = some m)
      (hphase : m.status = .published) (hpin : m.backup.any (validBackupPin op) = true) :
      SessionStep h s se (s.act se
        (.publishing { c with maintenanceOperation := some { m with status := .verified } }))
  /-- `_resume` has read the checkpoint and restored units. -/
  | resume {c : Checkpoint} {pending : List RolloutUnit} (howner : se.owner = true ∧ se.child = false)
      (hidle : se.activity = .idle) (hlease : se.lease = none) (hc : s.checkpoint = some c)
      (hpending : c.status = .pending) (hm : ∀ m ∈ c.maintenanceOperation, m.status = .verified) :
      SessionStep h s se (s.act se (.publishing (resumed c pending)))
  | publish {c : Checkpoint} (hactivity : se.activity = .publishing c) :
      SessionStep h s se ({ s with checkpoint := some c }.act se .idle)
  /-- The owner ends or is killed. -/
  | ownerEnds (howner : se.owner = true) :
      SessionStep h s se
        (if se.child = true then s.setSession { se with owner := false } else s.endSession)
  /-- The child ends or is killed. -/
  | childEnds (hchild : se.child = true) :
      SessionStep h s se
        (if se.owner = true then s.setSession { se with child := false, activity := .idle }
          else s.endSession)

inductive Step (h : Host) (s : State) : State → Prop
  | call {s' : State} (hs : CallStep h s s') : Step h s s'
  | install (m : Manifest) : Step h s { s with installed := m }
  /-- A command takes the lifecycle lock. -/
  | beginSession (hs : s.session = none) : Step h s (s.setSession ⟨true, false, none, .idle⟩)
  | session {se : Session} {s' : State} (hse : s.session = some se) (hs : SessionStep h s se s') :
      Step h s s'

/-- Nothing is recorded, and no process is there. -/
def Initial (s : State) : Prop :=
  s.checkpoint = none ∧ (∀ d, s.locks d = none) ∧ (∀ i, s.calls i = none) ∧ s.session = none

def Reachable (h : Host) (s : State) : Prop :=
  ∃ s₀, Initial s₀ ∧ Relation.ReflTransGen (Step h) s₀ s

/-! ## Locks -/

/-- The call has locked the lease and not closed it. -/
def Call.HasLock (call : Call) : Prop := call = .locked ∨ call = .admitted ∨ call = .returned

/-- The session has been granted the lease, or is about to be. -/
def Session.HasLock (se : Session) : Prop := se.lease ≠ none ∨ ∃ op, se.activity = .excluding op

/-- **The lock invariant.** -/
structure LocksInv (s : State) : Prop where
  compatible : Compatible s.locks
  calls : ∀ i call, s.calls i = some call → call.HasLock → s.locks (some i) = some .shared
  session : ∀ se, s.session = some se → se.HasLock → s.locks none = some .exclusive
  activity : ∀ se, s.session = some se → se.activity = .relocked ∨ se.activity = .held →
    se.lease ≠ none

variable {h : Host} {s s' : State}

lemma Initial.locksInv (hs : Initial s) : LocksInv s where
  compatible := fun d e _ hd => absurd ((hs.2.1 d).symm.trans hd) (by simp)
  calls := fun i call hi _ => absurd ((hs.2.2.1 i).symm.trans hi) (by simp)
  session := fun se hse _ => absurd (hs.2.2.2.symm.trans hse) (by simp)
  activity := fun se hse _ => absurd (hs.2.2.2.symm.trans hse) (by simp)

/-- A call that changes its state, but no lock, keeps the invariant if it had its lock before. -/
lemma LocksInv.setCall (hs : LocksInv s) {i : ℕ} {call : Call}
    (hlock : call.HasLock → s.locks (some i) = some .shared) : LocksInv (s.setCall i call) where
  compatible := hs.compatible
  calls := by
    intro j call' hj hhas
    by_cases hji : j = i
    · subst hji
      obtain rfl := Option.some.inj ((s.setCall_self j call).symm.trans hj)
      exact hlock hhas
    · exact hs.calls j call' ((s.setCall_of_ne call hji).symm.trans hj) hhas
  session := hs.session
  activity := hs.activity

/-- A request for the lock of a call leaves the other locks as they are. -/
lemma LocksInv.requestCall (hs : LocksInv s) {i : ℕ} {b : Bool} {t : Table Description}
    (ht : Request s.locks (some i) .shared b t)
    (hi : ∀ call, s.calls i = some call → call.HasLock → t (some i) = some .shared) :
    LocksInv { s with locks := t } where
  compatible := ht.compatible hs.compatible
  calls := by
    intro j call hj hhas
    by_cases hji : j = i
    · subst hji
      exact hi call hj hhas
    · have hother : t (some j) = s.locks (some j) := ht.other fun heq => hji (Option.some.inj heq)
      exact hother.trans (hs.calls j call hj hhas)
  session := by
    intro se hse hhas
    exact (ht.other (Option.some_ne_none i).symm).trans (hs.session se hse hhas)
  activity := hs.activity

lemma LocksInv.callStep (hs : LocksInv s) (hstep : CallStep h s s') : LocksInv s' := by
  cases hstep with
  | openLease hi =>
      refine hs.setCall ?_
      rintro (hc | hc | hc) <;> cases hc
  | @lockShared i t hi ht =>
      have hrequest : LocksInv { s with locks := t } := by
        refine hs.requestCall ht fun call hcall hhas => ?_
        obtain rfl := Option.some.inj (hi.symm.trans hcall)
        rcases hhas with hc | hc | hc <;> cases hc
      exact hrequest.setCall fun _ => ht.mode
  | admitCall hi _ => exact hs.setCall fun _ => hs.calls _ _ hi (Or.inl rfl)
  | «return» hi => exact hs.setCall fun _ => hs.calls _ _ hi (Or.inr (Or.inl rfl))
  | verify hi ht =>
      -- the lock that is asked for is the one held: nothing can be lost
      have hheld := hs.calls _ _ hi (Or.inr (Or.inr rfl))
      obtain ⟨-, rfl⟩ := ht.again hs.compatible hheld
      exact hs
  | close i =>
      refine ⟨hs.compatible.release _, ?_, ?_, hs.activity⟩
      · intro j call hj hhas
        by_cases hji : j = i
        · subst hji
          obtain rfl := Option.some.inj ((s.setCall_self j .closed).symm.trans hj)
          rcases hhas with hc | hc | hc <;> cases hc
        · have hj' := (s.setCall_of_ne .closed hji).symm.trans hj
          exact (release_of_ne _ fun heq => hji (Option.some.inj heq)).trans (hs.calls j call hj' hhas)
      · intro se hse hhas
        exact (release_of_ne _ (Option.some_ne_none i).symm).trans (hs.session se hse hhas)

/-- A session that changes, but no lock, keeps the invariant if it had its lock before. -/
lemma LocksInv.setSession (hs : LocksInv s) {se : Session}
    (hlock : se.HasLock → s.locks none = some .exclusive)
    (hactivity : se.activity = .relocked ∨ se.activity = .held → se.lease ≠ none) :
    LocksInv (s.setSession se) where
  compatible := hs.compatible
  calls := hs.calls
  session := by
    intro se' hse' hhas
    obtain rfl := Option.some.inj hse'
    exact hlock hhas
  activity := by
    intro se' hse' hact
    obtain rfl := Option.some.inj hse'
    exact hactivity hact

/-- A request for the lock of the session leaves the locks of the calls as they are. -/
lemma LocksInv.requestSession (hs : LocksInv s) {b : Bool} {t : Table Description}
    (ht : Request s.locks none .exclusive b t)
    (hlock : ∀ se, s.session = some se → se.HasLock → t none = some .exclusive) :
    LocksInv { s with locks := t } where
  compatible := ht.compatible hs.compatible
  calls := fun i call hi hhas => (ht.other (Option.some_ne_none i)).trans (hs.calls i call hi hhas)
  session := hlock
  activity := hs.activity

lemma LocksInv.endSession (hs : LocksInv s) : LocksInv s.endSession where
  compatible := hs.compatible.release _
  calls := fun i call hi hhas => (release_of_ne _ (Option.some_ne_none i)).trans (hs.calls i call hi hhas)
  session := fun _ hse => (Option.some_ne_none _ hse.symm).elim
  activity := fun _ hse => (Option.some_ne_none _ hse.symm).elim

/-- A change of the checkpoint, the tree or the ids concerns no lock. -/
lemma LocksInv.of_locks (hs : LocksInv s) (hlocks : s'.locks = s.locks) (hcalls : s'.calls = s.calls)
    (hsession : s'.session = s.session) : LocksInv s' where
  compatible := hlocks ▸ hs.compatible
  calls := hcalls ▸ hlocks ▸ hs.calls
  session := hsession ▸ hlocks ▸ hs.session
  activity := hsession ▸ hs.activity

/-- What the session does next needs no more of the lock than what it does now. -/
lemma LocksInv.act (hs : LocksInv s) {se : Session} (hse : s.session = some se) {a : Activity}
    (ha : ∀ op, a ≠ .excluding op) (hlease : a = .relocked ∨ a = .held → se.lease ≠ none) :
    LocksInv (s.act se a) := by
  refine hs.setSession (fun hhas => ?_) hlease
  rcases hhas with hsome | ⟨op, hop⟩
  · exact hs.session se hse (Or.inl hsome)
  · exact absurd hop (ha op)

lemma LocksInv.idle (hs : LocksInv s) {se : Session} (hse : s.session = some se) :
    LocksInv (s.act se .idle) := by
  refine hs.act hse (fun op hop => ?_) fun hc => ?_
  · cases hop
  · rcases hc with hc | hc <;> cases hc

lemma LocksInv.publishing (hs : LocksInv s) {se : Session} (hse : s.session = some se)
    (c : Checkpoint) : LocksInv (s.act se (.publishing c)) := by
  refine hs.act hse (fun op hop => ?_) fun hc => ?_
  · cases hop
  · rcases hc with hc | hc <;> cases hc

lemma LocksInv.sessionStep (hs : LocksInv s) {se : Session} (hse : s.session = some se)
    (hstep : SessionStep h s se s') : LocksInv s' := by
  cases hstep with
  | @beginOperation args maintenance active =>
      have hissued : LocksInv { s with issued := args.newId :: s.issued } := hs.of_locks rfl rfl rfl
      exact hissued.publishing hse _
  | exclude _ _ _ _ ht =>
      refine (hs.requestSession ht fun _ _ _ => ht.mode).setSession (fun _ => ht.mode) ?_
      rintro (hc | hc) <;> cases hc
  | excludeRefused howner hidle hnone ht =>
      refine hs.requestSession ht fun se' hse' hhas => ?_
      obtain rfl := Option.some.inj (hse.symm.trans hse')
      rcases hhas with hsome | ⟨op, hop⟩
      · exact absurd hnone hsome
      · exact absurd (hidle.symm.trans hop) (by simp)
  | grant hactivity _ =>
      have hheld := hs.session se hse (Or.inr ⟨_, hactivity⟩)
      exact hs.setSession (fun _ => hheld) fun _ => Option.some_ne_none _
  | relock hsome _ ht =>
      have hne : se.lease ≠ none := by rw [hsome]; exact Option.some_ne_none _
      exact (hs.requestSession ht fun _ _ _ => ht.mode).setSession (fun _ => ht.mode) fun _ => hne
  | relockRefused hsome _ ht =>
      -- the lock that is asked for is the one held
      have hne : se.lease ≠ none := by rw [hsome]; exact Option.some_ne_none _
      exact absurd (ht.again hs.compatible (hs.session se hse (Or.inl hne))).1 (by decide)
  | confirm hactivity _ _ =>
      refine hs.act hse (fun op hop => ?_) fun _ => hs.activity se hse (Or.inl hactivity)
      cases hop
  | abandon => exact hs.idle hse
  | spawn _ hactivity =>
      have hne := hs.activity se hse (Or.inr hactivity)
      exact hs.setSession (fun _ => hs.session se hse (Or.inl hne)) fun _ => hne
  | record => exact hs.publishing hse _
  | verifyRebuild => exact hs.publishing hse _
  | resume => exact hs.publishing hse _
  | @publish c _ =>
      have hpublished : LocksInv { s with checkpoint := some c } := hs.of_locks rfl rfl rfl
      exact hpublished.idle hse
  | ownerEnds _ =>
      split_ifs
      · exact hs.setSession (hs.session se hse) (hs.activity se hse)
      · exact hs.endSession
  | childEnds _ =>
      split_ifs
      · refine hs.setSession (fun hhas => ?_) fun hc => ?_
        · rcases hhas with hsome | ⟨op, hop⟩
          · exact hs.session se hse (Or.inl hsome)
          · cases hop
        · rcases hc with hc | hc <;> cases hc
      · exact hs.endSession

lemma LocksInv.step (hs : LocksInv s) (hstep : Step h s s') : LocksInv s' := by
  cases hstep with
  | call hcall => exact hs.callStep hcall
  | install m => exact hs.of_locks rfl rfl rfl
  | beginSession _ =>
      refine hs.setSession ?_ ?_
      · rintro (hc | ⟨op, hop⟩)
        · exact absurd rfl hc
        · cases hop
      · rintro (hc | hc) <;> cases hc
  | session hse hsession => exact hs.sessionStep hse hsession

/-- The lock invariant holds of every reached state. -/
lemma Reachable.locksInv (hs : Reachable h s) : LocksInv s := by
  obtain ⟨s₀, hinit, hrun⟩ := hs
  induction hrun with
  | refl => exact hinit.locksInv
  | tail _ hstep ih => exact ih.step hstep

/-- **Exclusion.**  While the lease is held for a rebuild, or could be locked for it, no call of
`acquire_shared_lease_fd` that has returned has its descriptor open. -/
theorem LocksInv.exclusion (hs : LocksInv s)
    (hheld : OfflineRebuildIsHeld h s
      ∨ ∃ se, s.session = some se ∧ (se.activity = .relocked ∨ se.activity = .held)) (i : ℕ) :
    s.calls i ≠ some .returned := by
  intro hi
  have hshared := hs.calls i _ hi (Or.inr (Or.inr rfl))
  have hnone : s.locks (some i) = none := by
    rcases hheld with ⟨se, op, -, -, hallows, -⟩ | ⟨se, hse, hactivity⟩
    · exact hallows _ (Option.some_ne_none i)
    · have hexclusive := hs.session se hse (Or.inl (hs.activity se hse hactivity))
      exact hs.compatible none (some i) (Option.some_ne_none i).symm hexclusive
  exact absurd (hshared.symm.trans hnone) (by simp)

/-! ## Starts during a rebuild -/

/-- The call has been let in: it is about to return, or has returned. -/
def LetIn (s : State) (i : ℕ) : Prop := s.calls i = some .admitted ∨ s.calls i = some .returned

/-- A pending rebuild lets no process start. -/
lemma not_startupAllowed (hs : s.RebuildRecorded) :
    startupAllowed h s.installed s.checkpoint ≠ true := by
  obtain ⟨c, m, hc, hm, hphase⟩ := hs
  rw [hc]
  unfold startupAllowed
  simp [hm, hphase]

/-- While a rebuild is recorded no step lets a call in. -/
lemma LetIn.of_step (hs : s.RebuildRecorded) (hstep : Step h s s') {i : ℕ} (hi : LetIn s' i) :
    LetIn s i := by
  have hset : ∀ {j : ℕ} {call : Call}, LetIn (s.setCall j call) i →
      (i = j → call = .admitted ∨ call = .returned → LetIn s i) → LetIn s i := by
    intro j call hlet hj
    by_cases hij : i = j
    · subst hij
      refine hj rfl ?_
      rcases hlet with hlet | hlet
      · exact Or.inl (Option.some.inj ((s.setCall_self i call).symm.trans hlet))
      · exact Or.inr (Option.some.inj ((s.setCall_self i call).symm.trans hlet))
    · rcases hlet with hlet | hlet
      · exact Or.inl ((s.setCall_of_ne call hij).symm.trans hlet)
      · exact Or.inr ((s.setCall_of_ne call hij).symm.trans hlet)
  cases hstep with
  | call hcall =>
      cases hcall with
      | openLease _ => exact hset hi fun _ hc => by rcases hc with hc | hc <;> cases hc
      | lockShared _ _ => exact hset hi fun _ hc => by rcases hc with hc | hc <;> cases hc
      | admitCall _ hallowed => exact absurd hallowed (not_startupAllowed hs)
      | «return» hj => exact hset hi fun hij _ => Or.inl (hij ▸ hj)
      | verify _ _ => exact hi
      | close _ => exact hset hi fun _ hc => by rcases hc with hc | hc <;> cases hc
  | install _ => exact hi
  | beginSession _ => exact hi
  | session _ hsession =>
      have hcalls : s'.calls = s.calls := by
        cases hsession with
        | ownerEnds _ => split_ifs <;> rfl
        | childEnds _ => split_ifs <;> rfl
        | _ => rfl
      unfold LetIn at hi ⊢
      rw [hcalls] at hi
      exact hi

/-- A stretch of a run along which a rebuild is recorded and not verified. -/
abbrev DuringRebuild (h : Host) : State → State → Prop :=
  Relation.ReflTransGen fun s s' => s.RebuildRecorded ∧ Step h s s'

/-- A call that has returned during a rebuild was let in before it was recorded. -/
theorem LetIn.of_duringRebuild {i : ℕ} (hrun : DuringRebuild h s s') (hi : LetIn s' i) :
    LetIn s i := by
  induction hrun with
  | refl => exact hi
  | tail _ hstep ih => exact ih (hi.of_step hstep.1 hstep.2)

/-! ## Phases and backups -/

/-- The rebuild of `c`, if there is one, is still that of `c'`, in no earlier phase and with the same
backup. -/
def Advances (c c' : Checkpoint) : Prop :=
  ∀ m, c.maintenanceOperation = some m → ∃ m', c'.maintenanceOperation = some m'
    ∧ m.status.index ≤ m'.status.index ∧ ∀ pin, m.backup = some pin → m'.backup = some pin

lemma Advances.refl (c : Checkpoint) : Advances c c := fun m hm => ⟨m, hm, le_refl _, fun _ h' => h'⟩

lemma Advances.trans {c c' c'' : Checkpoint} (h₁ : Advances c c') (h₂ : Advances c' c'') :
    Advances c c'' := by
  intro m hm
  obtain ⟨m', hm', hle, hpin⟩ := h₁ m hm
  obtain ⟨m'', hm'', hle', hpin'⟩ := h₂ m' hm'
  exact ⟨m'', hm'', hle.trans hle', fun pin h' => hpin' pin (hpin pin h')⟩

/-- Only the first phase of a rebuild does without a backup. -/
def Pinned (c : Checkpoint) : Prop :=
  ∀ m, c.maintenanceOperation = some m → m.status ≠ .pending → m.backup.isSome = true

/-- What `c'` is to the checkpoint `c` that was read to compute it. -/
structure Follows (c c' : Checkpoint) : Prop where
  operation : c'.operationId = c.operationId
  advances : Advances c c'
  pinned : Pinned c → Pinned c'

/-- What a child records follows the checkpoint it has read. -/
lemma follows_record {op : OperationId} {call : ChildCall} {c c' : Checkpoint}
    (hcall : call.record h op c = some c') : Follows c c' := by
  cases call with
  | recordBackupPin pin =>
      replace hcall : recordOfflineRebuildBackupPin h op pin c = some c' := hcall
      unfold recordOfflineRebuildBackupPin at hcall
      split at hcall
      · cases hcall
      · rename_i m hm
        split_ifs at hcall
        split at hcall
        · rename_i hnone
          obtain rfl := Option.some.inj hcall
          refine ⟨rfl, fun m₀ hm₀ => ?_, fun _ m' hm' _ => ?_⟩
          · obtain rfl := Option.some.inj (hm.symm.trans hm₀)
            exact ⟨_, rfl, le_refl _, fun pin' hpin' => absurd (hnone.symm.trans hpin') (by simp)⟩
          · obtain rfl := Option.some.inj hm'
            rfl
        · split_ifs at hcall
          obtain rfl := Option.some.inj hcall
          exact ⟨rfl, .refl c, fun hp => hp⟩
  | recordPhase phase =>
      replace hcall : recordOfflineRebuildPhase h op phase c = some c' := hcall
      unfold recordOfflineRebuildPhase at hcall
      split at hcall
      · cases hcall
      · rename_i m hm
        split_ifs at hcall with hguard
        obtain ⟨-, -, -, hbackup, hle⟩ := hguard
        obtain ⟨pin, hpin, -⟩ := (Option.any_eq_true _ _).mp hbackup
        obtain rfl := Option.some.inj hcall
        refine ⟨rfl, fun m₀ hm₀ => ?_, fun _ m' hm' _ => ?_⟩
        · obtain rfl := Option.some.inj (hm.symm.trans hm₀)
          exact ⟨_, rfl, hle, fun _ h' => h'⟩
        · obtain rfl := Option.some.inj hm'
          exact hpin ▸ rfl

lemma follows_verified {c : Checkpoint} {m : MaintenanceOperation} {op : OperationId}
    (hm : c.maintenanceOperation = some m) (hphase : m.status = .published)
    (hpin : m.backup.any (validBackupPin op) = true) :
    Follows c { c with maintenanceOperation := some { m with status := .verified } } := by
  obtain ⟨pin, hpin, -⟩ := (Option.any_eq_true _ _).mp hpin
  refine ⟨rfl, fun m₀ hm₀ => ?_, fun _ m' hm' _ => ?_⟩
  · obtain rfl := Option.some.inj (hm.symm.trans hm₀)
    exact ⟨_, rfl, hphase ▸ Nat.le_succ 3, fun _ h' => h'⟩
  · obtain rfl := Option.some.inj hm'
    exact hpin ▸ rfl

lemma follows_resumed (c : Checkpoint) (pending : List RolloutUnit) : Follows c (resumed c pending) :=
  ⟨rfl, .refl c, fun hp => hp⟩

/-- The checkpoint that is recorded, or about to be. -/
def Current (s : State) (c : Checkpoint) : Prop :=
  s.checkpoint = some c ∨ ∃ se, s.session = some se ∧ se.activity = .publishing c

/-- **What a step can do to the checkpoint.**  A checkpoint that is recorded or about to be was so
before, follows the recorded one, or begins an operation with a fresh id. -/
lemma current_step (hstep : Step h s s') {c' : Checkpoint} (hc' : Current s' c') :
    Current s c' ∨ (∃ c, s.checkpoint = some c ∧ Follows c c')
      ∨ (c'.operationId ∉ s.issued ∧ c'.operationId ∈ s'.issued ∧ Pinned c') := by
  -- in these sessions nothing is about to be published
  have hquiet : ∀ {t : State}, Current t c' → t.checkpoint = s.checkpoint →
      (∀ se, t.session = some se → se.activity ≠ .publishing c') → Current s c' := by
    rintro t (hc | ⟨se, hse, hact⟩) hsame hnot
    · exact Or.inl (hsame ▸ hc)
    · exact absurd hact (hnot se hse)
  have hset : ∀ {se' : Session} {t : State}, Current t c' → t.checkpoint = s.checkpoint →
      t.session = some se' → (∀ c, se'.activity ≠ .publishing c) → Current s c' := by
    intro se' t hc hsame hse' hnot
    refine hquiet hc hsame fun se hse => ?_
    obtain rfl := Option.some.inj (hse'.symm.trans hse)
    exact hnot c'
  -- in these, `c₁` is
  have hpublishing : ∀ {se' : Session} {c₁ : Checkpoint} {t : State}, Current t c' →
      t.checkpoint = s.checkpoint → t.session = some se' → se'.activity = .publishing c₁ →
      Current s c' ∨ c' = c₁ := by
    rintro se' c₁ t (hc | ⟨se, hse, hact'⟩) hsame hse' hact
    · exact Or.inl (Or.inl (hsame ▸ hc))
    · obtain rfl := Option.some.inj (hse'.symm.trans hse)
      exact Or.inr (Activity.publishing.inj (hact'.symm.trans hact))
  cases hstep with
  | call hcall =>
      refine Or.inl ?_
      cases hcall with
      | _ => exact hc'
  | install _ => exact Or.inl hc'
  | beginSession _ => exact Or.inl (hset hc' rfl rfl fun _ hact => by cases hact)
  | @session se _ hse hsession =>
      cases hsession with
      | @beginOperation args maintenance active _ _ _ _ hm hfresh =>
          rcases hpublishing hc' rfl rfl rfl with hsame | rfl
          · exact Or.inl hsame
          · refine Or.inr (Or.inr ⟨hfresh, List.mem_cons_self, fun m hm' hphase => ?_⟩)
            replace hm' : maintenance = some m := hm'
            rcases hm with rfl | rfl
            · cases hm'
            · obtain rfl := Option.some.inj hm'
              exact absurd rfl hphase
      | exclude => exact Or.inl (hset hc' rfl rfl fun _ hact => by cases hact)
      | excludeRefused => exact Or.inl hc'
      | grant => exact Or.inl (hset hc' rfl rfl fun _ hact => by cases hact)
      | relock => exact Or.inl (hset hc' rfl rfl fun _ hact => by cases hact)
      | relockRefused => exact Or.inl hc'
      | confirm => exact Or.inl (hset hc' rfl rfl fun _ hact => by cases hact)
      | abandon => exact Or.inl (hset hc' rfl rfl fun _ hact => by cases hact)
      | spawn => exact Or.inl (hset hc' rfl rfl fun _ hact => by cases hact)
      | record _ _ _ hc hcall =>
          rcases hpublishing hc' rfl rfl rfl with hsame | rfl
          · exact Or.inl hsame
          · exact Or.inr (Or.inl ⟨_, hc, follows_record hcall⟩)
      | verifyRebuild _ _ _ hc _ hm hphase hpin =>
          rcases hpublishing hc' rfl rfl rfl with hsame | rfl
          · exact Or.inl hsame
          · exact Or.inr (Or.inl ⟨_, hc, follows_verified hm hphase hpin⟩)
      | resume _ _ _ hc _ _ =>
          rcases hpublishing hc' rfl rfl rfl with hsame | rfl
          · exact Or.inl hsame
          · exact Or.inr (Or.inl ⟨_, hc, follows_resumed _ _⟩)
      | publish hact =>
          refine Or.inl (Or.inr ⟨se, hse, ?_⟩)
          rcases hc' with hc | ⟨se', hse', hact'⟩
          · obtain rfl := Option.some.inj hc
            exact hact
          · obtain rfl := Option.some.inj hse'
            cases hact'
      | ownerEnds _ =>
          refine Or.inl ?_
          split_ifs at hc'
          · rcases hc' with hc | ⟨se', hse', hact'⟩
            · exact Or.inl hc
            · obtain rfl := Option.some.inj hse'
              exact Or.inr ⟨se, hse, hact'⟩
          · exact hquiet hc' rfl fun _ hse' => (Option.some_ne_none _ hse'.symm).elim
      | childEnds _ =>
          refine Or.inl ?_
          split_ifs at hc'
          · exact hset hc' rfl rfl fun _ hact => by cases hact
          · exact hquiet hc' rfl fun _ hse' => (Option.some_ne_none _ hse'.symm).elim

lemma issued_step (hstep : Step h s s') : s.issued ⊆ s'.issued := by
  cases hstep with
  | call hcall => cases hcall <;> exact fun _ hop => hop
  | install _ => exact fun _ hop => hop
  | beginSession _ => exact fun _ hop => hop
  | session _ hsession =>
      cases hsession with
      | beginOperation => exact fun _ hop => List.mem_cons_of_mem _ hop
      | ownerEnds _ => split_ifs <;> exact fun _ hop => hop
      | childEnds _ => split_ifs <;> exact fun _ hop => hop
      | _ => exact fun _ hop => hop

/-- The operations of the checkpoint have been issued, and its rebuild has its backup. -/
def CheckpointInv (s : State) : Prop := ∀ c, Current s c → c.operationId ∈ s.issued ∧ Pinned c

lemma CheckpointInv.step (hs : CheckpointInv s) (hstep : Step h s s') : CheckpointInv s' := by
  intro c' hc'
  rcases current_step hstep hc' with hc | ⟨c, hc, hfollows⟩ | ⟨-, hissued, hpinned⟩
  · exact ⟨issued_step hstep (hs c' hc).1, (hs c' hc).2⟩
  · obtain ⟨hissued, hpinned⟩ := hs c (Or.inl hc)
    exact ⟨hfollows.operation ▸ issued_step hstep hissued, hfollows.pinned hpinned⟩
  · exact ⟨hissued, hpinned⟩

lemma Reachable.checkpointInv (hs : Reachable h s) : CheckpointInv s := by
  obtain ⟨s₀, hinit, hrun⟩ := hs
  induction hrun with
  | refl =>
      rintro c (hc | ⟨se, hse, -⟩)
      · exact absurd (hinit.1.symm.trans hc) (by simp)
      · exact absurd (hinit.2.2.2.symm.trans hse) (by simp)
  | tail _ hstep ih => exact ih.step hstep

/-- Along a run, whatever is recorded or about to be for the operation of `c` advances it. -/
lemma advances_of_run {c : Checkpoint} (hc : c.operationId ∈ s.issued)
    (hstart : ∀ c', Current s c' → c'.operationId = c.operationId → Advances c c')
    (hrun : Relation.ReflTransGen (Step h) s s') :
    c.operationId ∈ s'.issued ∧ ∀ c', Current s' c' → c'.operationId = c.operationId → Advances c c' := by
  induction hrun with
  | refl => exact ⟨hc, hstart⟩
  | tail _ hstep ih =>
      obtain ⟨hissued, hadvances⟩ := ih
      refine ⟨issued_step hstep hissued, fun c' hc' hop => ?_⟩
      rcases current_step hstep hc' with hsame | ⟨c₀, hc₀, hfollows⟩ | ⟨hfresh, -, -⟩
      · exact hadvances c' hsame hop
      · have hop₀ : c₀.operationId = c.operationId := hfollows.operation.symm.trans hop
        exact (hadvances c₀ (Or.inl hc₀) hop₀).trans hfollows.advances
      · exact absurd (hop ▸ hissued) hfresh

/-- A step that replaces the checkpoint leaves nothing to be published. -/
lemma checkpoint_step (hstep : Step h s s') :
    s'.checkpoint = s.checkpoint ∨ ∀ c', Current s' c' → s'.checkpoint = some c' := by
  cases hstep with
  | call hcall => cases hcall <;> exact Or.inl rfl
  | install _ => exact Or.inl rfl
  | beginSession _ => exact Or.inl rfl
  | session _ hsession =>
      cases hsession with
      | publish _ =>
          refine Or.inr ?_
          rintro c' (hc | ⟨se, hse, hact⟩)
          · exact hc
          · obtain rfl := Option.some.inj hse
            cases hact
      | ownerEnds _ => split_ifs <;> exact Or.inl rfl
      | childEnds _ => split_ifs <;> exact Or.inl rfl
      | _ => exact Or.inl rfl

/-- What is about to be published for the recorded operation advances the recorded checkpoint. -/
def PublishInv (s : State) : Prop :=
  ∀ c c', s.checkpoint = some c → Current s c' → c'.operationId = c.operationId → Advances c c'

lemma PublishInv.step (hs : PublishInv s) (hinv : CheckpointInv s) (hstep : Step h s s') :
    PublishInv s' := by
  intro c c' hc hc' hop
  rcases checkpoint_step hstep with hsame | hnothing
  · rw [hsame] at hc
    rcases current_step hstep hc' with hbefore | ⟨c₀, hc₀, hfollows⟩ | ⟨hfresh, -, -⟩
    · exact hs c c' hc hbefore hop
    · obtain rfl := Option.some.inj (hc.symm.trans hc₀)
      exact hfollows.advances
    · exact absurd (hop ▸ (hinv c (Or.inl hc)).1) hfresh
  · obtain rfl := Option.some.inj (hc.symm.trans (hnothing c' hc'))
    exact .refl c

lemma Reachable.publishInv (hs : Reachable h s) : PublishInv s := by
  obtain ⟨s₀, hinit, hrun⟩ := hs
  induction hrun with
  | refl => exact fun c c' hc _ _ => absurd (hinit.1.symm.trans hc) (by simp)
  | tail hrun' hstep ih => exact ih.step (Reachable.checkpointInv ⟨s₀, hinit, hrun'⟩) hstep

/-! ## The barrier -/

/-- **The maintenance lease is a barrier.**  No call that has returned has its descriptor open while
the lease is held for a rebuild.  From the record of a rebuild until its verification only such calls
return as had read the checkpoint before.  And along every run the rebuild of an operation goes through
its phases in order, has a backup in all but the first, and never changes it. -/
theorem lease_barrier (h : Host) {s : State} (hs : Reachable h s) :
    (OfflineRebuildIsHeld h s
        ∨ (∃ se, s.session = some se ∧ (se.activity = .relocked ∨ se.activity = .held)) →
      ∀ i, s.calls i ≠ some .returned)
    ∧ (∀ s', DuringRebuild h s s' → ∀ i, LetIn s' i → LetIn s i)
    ∧ (∀ c, s.checkpoint = some c → Pinned c)
    ∧ (∀ s', Relation.ReflTransGen (Step h) s s' → ∀ c c', s.checkpoint = some c →
        s'.checkpoint = some c' → c'.operationId = c.operationId → Advances c c') := by
  refine ⟨hs.locksInv.exclusion, fun s' hrun i hi => hi.of_duringRebuild hrun, fun c hc => ?_, ?_⟩
  · exact (hs.checkpointInv c (Or.inl hc)).2
  · intro s' hrun c c' hc hc' hop
    have hstart := hs.publishInv c
    have hrun' := advances_of_run (hs.checkpointInv c (Or.inl hc)).1 (fun c₀ => hstart c₀ hc) hrun
    exact hrun'.2 c' (Or.inl hc') hop

/-! A call that has read the checkpoint returns only after a rebuild has been recorded. -/

namespace Example

def backend : Manifest := ⟨[⟨['a'], 0, 0⟩], validateManifest_singleton⟩

def host : Host where
  digest := fun _ => 0
  fits := fun _ => true
  unit := ⟨true, true⟩
  container := ⟨1, 2, 3⟩
  composeFileSha256 := 4

def initial : State where
  checkpoint := none
  installed := backend
  locks := fun _ => none
  calls := fun _ => none
  session := none
  issued := []

/-- The call `0` has locked the lease and read that there is no checkpoint. -/
def letIn : State :=
  (({ initial.setCall 0 .opened with locks := Function.update initial.locks (some 0) (some .shared) }.setCall 0
    .locked).setCall 0 .admitted)

def rebuild : Checkpoint := newCheckpoint host ⟨backend, 5⟩ (some ⟨.pending, none⟩) fun _ => true

/-- A session has recorded a rebuild. -/
def recorded : State :=
  { letIn with
    checkpoint := some rebuild
    issued := [5]
    session := some ⟨true, false, none, .idle⟩ }

lemma reachable_letIn : Reachable host letIn := by
  refine ⟨initial, ⟨rfl, fun _ => rfl, fun _ => rfl, rfl⟩, ?_⟩
  have hgranted : Request initial.locks (some 0) .shared true _ := .granted fun _ _ => nofun
  exact .tail (.tail (.single (.call (.openLease (i := 0) rfl)))
    (.call (.lockShared (i := 0) rfl hgranted))) (.call (.admitCall (i := 0) rfl rfl))

lemma reachable_recorded : Reachable host recorded := by
  obtain ⟨s₀, hinit, hrun⟩ := reachable_letIn
  let se : Session := ⟨true, false, none, .idle⟩
  have hbegin : SessionStep host (letIn.setSession se) se
      ({ letIn.setSession se with issued := [5] }.act se (.publishing rebuild)) := by
    have hfresh : (⟨backend, 5⟩ : StopArgs).newId ∉ (letIn.setSession se).issued := List.not_mem_nil
    exact .beginOperation ⟨rfl, rfl⟩ rfl rfl (Or.inl rfl) (Or.inr rfl) hfresh
  exact ⟨s₀, hinit, .tail (.tail (.tail hrun (.beginSession rfl)) (.session rfl hbegin))
    (.session rfl (.publish rfl))⟩

end Example

/-- The barrier in the state where the call is about to return and the rebuild is recorded. -/
theorem lease_barrier_recorded :
    Pinned Example.rebuild
      ∧ ∀ s', DuringRebuild Example.host Example.recorded s' →
          ∀ i, LetIn s' i → LetIn Example.recorded i := by
  obtain ⟨-, hduring, hpinned, -⟩ := lease_barrier Example.host Example.reachable_recorded
  exact ⟨hpinned Example.rebuild rfl, hduring⟩

/-- A call of `acquire_shared_lease_fd` that has read the checkpoint before a rebuild was recorded
returns after it. -/
theorem acquireSharedLeaseFd_returns :
    Reachable Example.host Example.recorded ∧ Example.recorded.RebuildRecorded
      ∧ Example.recorded.calls 0 = some .admitted
      ∧ Step Example.host Example.recorded (Example.recorded.setCall 0 .returned)
      ∧ (Example.recorded.setCall 0 .returned).RebuildRecorded
      ∧ (Example.recorded.setCall 0 .returned).calls 0 = some .returned := by
  have hrecorded : Example.recorded.RebuildRecorded := ⟨_, _, rfl, rfl, by decide⟩
  exact ⟨Example.reachable_recorded, hrecorded, rfl, .call (.return rfl), hrecorded, rfl⟩

end FwRouter.Lifecycle.Admission
