import FwRouter.FixedServer.Workflow
import FwRouter.Library.Progress

/-!
# Runs of the fixed-server workflow, interleaved

Any number of runs of `apply_global_fixed_server` and `resume_global_fixed_server_workflow` execute
their transactions in any order, each with the token that it has captured; a run that is killed
executes no more of them.  Other writers set, clear and expire the fixed server, mark the pending row,
take and give up attempts, advance the selection revision and change core.

The sections under the writer guard exclude each other.  A section with one transaction is one step;
the apply of core has several and is kept as the section that is open.  Its holder may expire the
fixed server, as the guard is reentrant and `ensure_routing_global_state` expires what is due.

`superseding` and `history` are history variables.
-/

namespace FwRouter.FixedServer

open Py

/-! ## State -/

/-- What runs do for a pending revision: reserve the generation, record its receipt, clear the
pending flag. -/
inductive Event
  | reserved (revision : ℤ)
  | received (revision : ℤ)
  | cleared (revision : ℤ)
  deriving DecidableEq

structure Run where
  token : Token
  /-- The selection revision that the run's last Xray generation has left. -/
  generation : Option ℕ

inductive Stage
  | entered
  | fenced (core : Option (ℕ × CoreSnapshot))
  | applied (core : Option (ℕ × CoreSnapshot))

/-- The apply of core by a run, under the writer guard. -/
structure CoreSection where
  run : ℕ
  apply : CoreApply
  stage : Stage

structure System where
  db : Db
  runs : List Run
  core : Option CoreSection
  /-- The pending revision of the last set, clear or expiry. -/
  superseding : Option ℤ
  history : List Event

/-! ## Steps -/

/-- A transaction of a run. -/
inductive Action
  | reserve (reservation : Reservation)
  | publish (receipt : Receipt)
  /-- `_commit_fixed_mihomo_stage`, with what the run reads for its token after it. -/
  | commitStage (core : CoreSnapshot) (inputHash activeConfigHash : Text)
  /-- `_update_fixed_workflow` to `core_verified`. -/
  | coreVerified (core : CoreSnapshot) (proof : CoreProof) (inputHash : Text)
  /-- A selection advance of the Xray generation. -/
  | generate
  | recordGeneration (generation : XrayGeneration) (expected : ℕ)
  /-- The selection advance of the generation's rollback. -/
  | restore
  /-- `_update_fixed_workflow` to `xray_verified`. -/
  | xrayVerified (proof : XrayProof)
  | complete (core : CoreProof) (xray : XrayProof) (postCheckFailed : Bool)

/-- The transaction is in a section under the writer guard. -/
def Action.guarded : Action → Bool
  | .coreVerified .. => false
  | .xrayVerified .. => false
  | _ => true

def Action.exec (r : Run) (db : Db) : Action → Option (Db × Run)
  | .reserve reservation => do
      let db' ← FixedServer.reserve r.token reservation db
      return (db', { r with token := r.token.reserved reservation })
  | .publish receipt => do
      let db' ← publishVerifiedReceipt r.token receipt db
      return (db', { r with token := r.token.published receipt })
  | .commitStage core inputHash activeConfigHash => do
      let db' ← commitFixedMihomoStage r.token db
      return (db', { r with token := { r.token with
        selectionRevision := db'.selectionRevision
        phase := .mihomoVerified
        coreSnapshot := core
        inputHash := inputHash
        activeConfigHash := activeConfigHash } })
  | .coreVerified core proof inputHash => do
      let db' ← updateFixedWorkflow r.token.pendingRevision
        (fun w => { w with phase := .coreVerified, coreSnapshot := core, core := some proof }) db
      return (db', { r with token := { r.token with coreSnapshot := core, inputHash := inputHash } })
  | .generate =>
      if generationAuthorized r.token.pendingRevision db then
        some ({ db with selectionRevision := db.selectionRevision + 1 },
          { r with generation := some (db.selectionRevision + 1) })
      else none
  | .recordGeneration generation expected => do
      let db' ← recordXrayGeneration r.token generation expected db
      return (db', { r with token := r.token.generated generation expected })
  | .restore =>
      if r.generation = some db.selectionRevision then
        some ({ db with selectionRevision := db.selectionRevision + 1 },
          { r with generation := some (db.selectionRevision + 1) })
      else none
  | .xrayVerified proof => do
      let db' ← updateFixedWorkflow r.token.pendingRevision
        (fun w => { w with phase := .xrayVerified, xray := some proof }) db
      return (db', r)
  | .complete core xray postCheckFailed => do
      let db' ← FixedServer.complete r.token core xray postCheckFailed db
      return (db', r)

/-- A step of the apply of core. -/
inductive CoreStep
  /-- The guard is taken, and the first fence passed. -/
  | enter (mode : Mode) (expectedCoreRevision : ℕ) (expectedCoreSnapshot : CoreSnapshot)
  | fence
  /-- A selection advance of its Mihomo reconcile. -/
  | advance
  /-- The fence after the pipeline. -/
  | prove
  | commit
  | fail (code message : Text)
  | settle
  /-- The guard is given up, also by the death of the process. -/
  | leave

inductive Label
  | set (serverId : Text)
  | clear
  /-- An expiry, by whoever reads the routing state; inside an apply of core, by its run. -/
  | expire
  /-- The insertion of `ensure_routing_global_state`, by a run or another reader. -/
  | ensure (run : Option ℕ)
  /-- A mark by another writer, which supersedes nothing. -/
  | mark (m : Xray.Mark)
  /-- `_begin_attempt`, `_defer_revision` or a failing `_finish_revision`. -/
  | attempt (op : Xray.Op) (revision : ℤ)
  | advance
  | changeCore (core : Option CoreSnapshot) (revision : Option ℕ) (bypass : Option (Option Bool))
  | tick (seconds : ℕ)
  /-- A new run captures its token. -/
  | capture (serverId : Option Text) (fixedUntil : Option ℤ) (facts : RuntimeFacts)
  | run (i : ℕ) (a : Action)
  | core (i : ℕ) (c : CoreStep)

/-- The database after a transaction that supersedes the fixed server. -/
def System.supersede (db : Db) (s : System) : System :=
  { s with db := db, superseding := db.pending.map (·.state.revision) }

def Action.event (revision : ℤ) : Action → Option Event
  | .reserve _ => some (.reserved revision)
  | .publish _ => some (.received revision)
  | .complete .. => some (.cleared revision)
  | _ => none

def System.runAction (s : System) (i : ℕ) (a : Action) : System :=
  match s.runs[i]? with
  | none => s
  | some r =>
      if a.guarded ∧ s.core.isSome then s
      else
        match a.exec r s.db with
        | none => s
        | some (db, r') =>
            { s with
              db := db
              runs := s.runs.set i r'
              history := (a.event r.token.pendingRevision).toList ++ s.history }

/-- What a step of the open section does. -/
def CoreSection.exec (c : CoreSection) (db : Db) : CoreStep → Option (Db × CoreSection)
  | .fence =>
      match c.stage with
      | .entered => if c.apply.fence db then some (db, { c with stage := .fenced db.fencedCore }) else none
      | _ => none
  | .advance =>
      match c.stage with
      | .fenced _ => some ({ db with selectionRevision := db.selectionRevision + 1 }, c)
      | _ => none
  | .prove =>
      match c.stage with
      | .fenced core =>
          if c.apply.stillFenced core db then some (db, { c with stage := .applied core }) else none
      | _ => none
  | .commit =>
      match c.stage with
      | .applied core => do
          let db' ← commitGlobalMode c.apply.mode core db
          return (db', c)
      | _ => none
  | .fail code message =>
      match c.stage with
      | .fenced _ => do
          let db' ← persistGlobalError code message db
          return (db', c)
      | _ => none
  | .settle =>
      match c.stage with
      | .applied _ => do
          let db' ← settleCoreEnable c.apply.expectedCoreRevision db
          return (db', c)
      | _ => none
  | .enter .. => none
  | .leave => none

def System.coreStep (s : System) (i : ℕ) (step : CoreStep) : System :=
  match s.core, step with
  | none, .enter mode revision snapshot =>
      match s.runs[i]? with
      | none => s
      | some r =>
          let apply : CoreApply := ⟨mode, r.token.selectionRevision, revision, snapshot⟩
          if apply.ownsFixedStage s.db then { s with core := some ⟨i, apply, .entered⟩ } else s
  | some c, .leave => if c.run = i then { s with core := none } else s
  | some c, step =>
      if c.run = i then
        match c.exec s.db step with
        | none => s
        | some (db, c') => { s with db := db, core := some c' }
      else s
  | none, _ => s

def step (s : System) : Label → System
  | .set serverId =>
      if s.core.isSome then s
      else
        match setGlobalFixedServer serverId s.db with
        | none => s
        | some db => s.supersede db
  | .clear => if s.core.isSome then s else s.supersede (clearGlobalFixedServer s.db)
  | .expire =>
      match clearExpired s.db with
      | none => s
      | some db => s.supersede db
  | .ensure _ => { s with db := ensureRoute s.db }
  | .mark m => { s with db := markPending { m with supersedeFixedWorkflow := false } none s.db }
  | .attempt op revision =>
      if op.completes then s
      else
        match attempt op revision s.db with
        | none => s
        | some db => { s with db := db }
  | .advance => { s with db := { s.db with selectionRevision := s.db.selectionRevision + 1 } }
  | .changeCore core revision bypass =>
      { s with db := { s.db with core := core, coreRevision := revision, bypass := bypass } }
  | .tick seconds => { s with db := { s.db with now := s.db.now + seconds } }
  | .capture serverId fixedUntil facts =>
      match captureFixedApplyContext serverId fixedUntil facts s.db with
      | none => s
      | some token => { s with runs := s.runs ++ [⟨token, none⟩] }
  | .run i a => s.runAction i a
  | .core i c => s.coreStep i c

/-! ## What is said of a run -/

/-- The pending revision of the `i`-th run. -/
def System.revisionOf (s : System) (i : ℕ) : Option ℤ := (s.runs[i]?).map (·.token.pendingRevision)

/-- The pending revision that a transaction belongs to. -/
def Label.owner (s : System) : Label → Option ℤ
  | .ensure (some i) => s.revisionOf i
  | .attempt _ revision => some revision
  | .run i _ => s.revisionOf i
  | .core i _ => s.revisionOf i
  | _ => none

/-- A newer set, clear or expiry has committed. -/
def System.Superseded (s : System) (revision : ℤ) : Prop := ∃ n ∈ s.superseding, revision < n

/-- No history yet. -/
structure System.Fresh (s : System) : Prop where
  runs : s.runs = []
  core : s.core = none
  superseding : s.superseding = none
  history : s.history = []

/-- The route is a fixed one. -/
def Db.fixed (db : Db) : Prop := ∃ r ∈ db.route, r.serverMode = .fixed

instance (db : Db) : Decidable db.fixed :=
  decidable_of_iff (db.route.any fun r => decide (r.serverMode = .fixed)) (by
    cases h : db.route with
    | none => simp [Db.fixed, h]
    | some r => simp [Db.fixed, h])

/-- The apply of core writes the route or the selection revision. -/
def Label.coreWrite : Label → Bool
  | .core _ .advance => true
  | .core _ .commit => true
  | .core _ (.fail ..) => true
  | _ => false

/-- Where the apply of core writes the route or the selection revision, the route is still a fixed
one. -/
def RouteHeld (s : System) (l : Label) : Prop := l.coreWrite → s.db.fixed

instance (s : System) (l : Label) : Decidable (RouteHeld s l) :=
  inferInstanceAs (Decidable (l.coreWrite → s.db.fixed))

/-- The transaction from `db` to `db'` leaves what the fixed server rests on. -/
structure Unchanged (db db' : Db) : Prop where
  route : db'.route = db.route
  selectionRevision : db'.selectionRevision = db.selectionRevision
  pending : db'.pending = db.pending

/-- The step takes the pending flag of a fixed server. -/
def Clears (db db' : Db) : Prop :=
  db.fixedWorkflow.isSome ∧
    ∃ row ∈ db.pending, ∃ row' ∈ db'.pending, row'.state.revision = row.state.revision ∧
      row'.state.pending = false

/-- **A completed fixed server.**  The route is fixed to the server of the workflow, applied and clean,
its end has not come, and the selection and core are those that the workflow has recorded, with core
enabled and managed. -/
structure Completed (db : Db) : Prop where
  intro ::
  holds : ∃ r row w, db.route = some r ∧ db.fixedWorkflow = some (row, w) ∧
    w.phase = .xrayVerified ∧ r.serverMode = .fixed ∧ r.desiredFixedServerId = some w.serverId ∧
    r.appliedFixedServerId = some w.serverId ∧ r.fixedServerUntil = w.fixedUntil ∧ db.ttlLive r ∧
    r.applyState = .clean ∧ r.errorCode = none ∧ r.errorMessage = none ∧
    db.selectionRevision = w.selectionRevision ∧ db.coreRevision = some w.coreRevision ∧
    db.core = some w.coreSnapshot ∧ w.coreSnapshot.enabledManaged

/-! ## What a step can do -/

lemma runAction_cases (s : System) (i : ℕ) (a : Action) :
    s.runAction i a = s ∨ ∃ r db r', s.runs[i]? = some r ∧ a.exec r s.db = some (db, r') ∧
      s.runAction i a =
        { s with
          db := db
          runs := s.runs.set i r'
          history := (a.event r.token.pendingRevision).toList ++ s.history } := by
  unfold System.runAction
  cases hrun : s.runs[i]? with
  | none => exact Or.inl rfl
  | some r =>
      by_cases hguard : a.guarded ∧ s.core.isSome
      · exact Or.inl (if_pos hguard)
      · cases hexec : a.exec r s.db with
        | none =>
            refine Or.inl ?_
            simp only [if_neg hguard, hexec]
        | some moved =>
            refine Or.inr ⟨r, moved.1, moved.2, rfl, hexec, ?_⟩
            simp only [if_neg hguard, hexec]

lemma coreStep_cases (s : System) (i : ℕ) (next : CoreStep) :
    s.coreStep i next = s ∨
      (∃ mode revision snapshot r, s.runs[i]? = some r ∧ s.core = none ∧
        s.coreStep i next = { s with
          core := some
            ⟨i, ⟨mode, r.token.selectionRevision, revision, snapshot⟩, .entered⟩ }) ∨
      s.coreStep i next = { s with core := none } ∨
      ∃ c db c', s.core = some c ∧ c.run = i ∧ c.exec s.db next = some (db, c') ∧
        s.coreStep i next = { s with db := db, core := some c' } := by
  cases hcore : s.core with
  | none =>
      cases next with
      | enter mode revision snapshot =>
          simp only [System.coreStep, hcore]
          cases hrun : s.runs[i]? with
          | none => exact Or.inl rfl
          | some r =>
              dsimp only
              split_ifs
              · exact Or.inr (Or.inl ⟨mode, revision, snapshot, r, rfl, trivial, rfl⟩)
              · exact Or.inl rfl
      | _ =>
          simp only [System.coreStep, hcore]
          exact Or.inl trivial
  | some c =>
      by_cases hi : c.run = i
      · cases next with
        | leave =>
            refine Or.inr (Or.inr (Or.inl ?_))
            simp only [System.coreStep, hcore, if_pos hi]
        | _ =>
            simp only [System.coreStep, hcore, if_pos hi]
            split
            · exact Or.inl rfl
            · rename_i db c' hexec
              exact Or.inr (Or.inr (Or.inr ⟨c, db, c', rfl, hi, hexec, rfl⟩))
      · refine Or.inl ?_
        cases next with
        | _ => simp only [System.coreStep, hcore, if_neg hi]

end FwRouter.FixedServer
