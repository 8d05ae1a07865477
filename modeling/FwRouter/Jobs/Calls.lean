import FwRouter.Jobs.Store

/-!
# The calls of the job service

`services/jobs.py` and `jobs/manager.py` as programs over the statements of the jobs table.  Every
reading of a clock is an argument of the call, so that a theorem about all calls is a theorem about
all times; every statement may also raise, as `Env.fault` decides, and then its session is rolled
back.

A `JobManager` is a number.  Its `_workers` table enters the state as the pairs of a manager and a
job whose worker thread is alive: `start_job` replaces an entry only when its thread is dead, and
dead entries are never read.  A manager of a restarted process is a new number.
-/

namespace FwRouter.Jobs

open Py Interleave

/-! ## Statements -/

/-- What a handler returns: `job_status`, `error_code` and `error_message` of the dictionary, and
the dictionary as `_encode_job_result` stores it. -/
structure HandlerResult where
  jobStatus : Option Text
  errorCode : Option Text
  errorMessage : Option Text
  json : Option Text

inductive HandlerOutcome
  | raised (message : Text)
  | returned (result : HandlerResult)

/-- The clock readings of one `cleanup_stale_running_jobs`; no cutoff when the timeout is
negative. -/
structure Sweep where
  cutoff : Option Text
  finishedAt : Nat → Text

/-- The arguments of `create_job`, its fresh job id, and the clocks of the cleanups it runs and of
the `INSERT`. -/
structure CreateArgs where
  jobId : Text
  jobType : Text
  lockKey : Option Text
  requestedBy : Option Text
  inputJson : Option Text
  eventContextJson : Option Text
  artifactDir : Option Text
  createdAt : Text
  sweep : Nat → Sweep

def CreateArgs.row (a : CreateArgs) : Job where
  jobId := a.jobId
  jobType := a.jobType
  status := .queued
  lockKey := a.lockKey
  requestedBy := a.requestedBy
  inputJson := a.inputJson
  eventContextJson := a.eventContextJson
  resultJson := none
  errorCode := none
  errorMessage := none
  artifactDir := a.artifactDir
  createdAt := a.createdAt
  startedAt := none
  finishedAt := none
  updatedAt := a.createdAt

/-- `if lock_key`: the key that the call checks, and `none` for an absent or an empty one. -/
def CreateArgs.checkedKey (a : CreateArgs) : Option Text :=
  a.lockKey.filter fun key => !key.isEmpty

/-- The arguments of `run_job`, with the job types its manager has handlers for. -/
structure RunArgs where
  jobId : Text
  registered : Text → Bool
  sweep : Sweep
  startedAt : Text
  finishedAt : Text

structure Worker where
  manager : Nat
  run : RunArgs

inductive Stmt
  | selectStale (cutoff : Text)
  | expireStale (cutoff : Text) (stale : List ActiveJob) (finishedAt : Nat → Text)
  | findConflict (lockKey : Text) (exclude : Option Text)
  | selectJob (jobId : Text)
  | insertJob (a : CreateArgs)
  /-- The `SELECT` that `mark_job_running` decides by. -/
  | selectForRunning (jobId : Text)
  | updateRunning (jobId now : Text)
  | touchRunning (jobId now : Text)
  | updateRunningResult (jobId : Text) (resultJson : Option Text) (now : Text)
  | finish (jobId : Text) (o : Outcome) (now : Text)
  /-- The body of `with self._lock` in `start_job`. -/
  | claimWorker (worker : Worker)
  | releaseWorker (worker : Worker)
  | invokeHandler (jobId : Text)

@[reducible] def Stmt.Reply : Stmt → Type
  | .selectStale _ => List ActiveJob
  | .expireStale .. => List Job
  | .findConflict .. => Option Job
  | .selectJob _ => Option Job
  | .insertJob _ => Job
  | .selectForRunning _ => Option Job
  | .updateRunning .. => Option Job
  | .touchRunning .. => Option Job
  | .updateRunningResult .. => Option Job
  | .finish .. => Option Job
  | .claimWorker _ => Bool
  | .releaseWorker _ => Unit
  | .invokeHandler _ => HandlerOutcome

/-- What is outside the service: whether a statement raises, and what a handler does. -/
structure Env where
  fault : Bool := false
  handler : HandlerOutcome := .returned ⟨none, none, none, none⟩

/-- The tables, the live worker threads, and the handler invocations so far. -/
structure State where
  db : Database
  workers : List (Nat × Text)
  invoked : List Text

def State.empty : State := ⟨.empty, [], []⟩

/-- A statement on the tables: it commits, or raises and is rolled back. -/
def State.transact {α : Type} (s : State) (env : Env)
    (f : Database → Except JobError (α × Database)) : Except JobError α × State :=
  if env.fault then (.error .failure, s)
  else
    match f s.db with
    | .ok done => (.ok done.1, { s with db := done.2 })
    | .error e => (.error e, s)

def State.read {α : Type} (s : State) (env : Env) (f : Database → α) : Except JobError α × State :=
  s.transact env fun db => .ok (f db, db)

variable (eventId : Text → Text)

def execute : (a : Stmt) → Env → State → Except JobError a.Reply × State
  | .selectStale cutoff, env, s => s.read env (selectStale cutoff)
  | .expireStale cutoff stale finishedAt, env, s =>
      s.transact env (expireStale eventId cutoff finishedAt stale)
  | .findConflict lockKey exclude, env, s => s.read env (findConflict lockKey exclude)
  | .selectJob jobId, env, s => s.read env (·.selectJob jobId)
  | .insertJob a, env, s => s.transact env (insertJob a.row)
  | .selectForRunning jobId, env, s => s.read env (·.selectJob jobId)
  | .updateRunning jobId now, env, s => s.transact env (updateRunning jobId now)
  | .touchRunning jobId now, env, s =>
      s.transact env (updateWhileRunning jobId fun job => { job with updatedAt := now })
  | .updateRunningResult jobId resultJson now, env, s =>
      s.transact env (updateWhileRunning jobId fun job =>
        { job with resultJson := resultJson, updatedAt := now })
  | .finish jobId o now, env, s => s.transact env (finishJob eventId jobId o now)
  | .claimWorker w, _, s =>
      if (w.manager, w.run.jobId) ∈ s.workers then (.ok false, s)
      else (.ok true, { s with workers := (w.manager, w.run.jobId) :: s.workers })
  | .releaseWorker w, _, s =>
      (.ok (), { s with workers := s.workers.filter fun p => decide (p ≠ (w.manager, w.run.jobId)) })
  | .invokeHandler jobId, env, s => (.ok env.handler, { s with invoked := jobId :: s.invoked })

/-! ## `services/jobs.py` -/

abbrev JobProg := Prog Stmt.Reply JobError

def perform (a : Stmt) : JobProg a.Reply := Prog.perform a

def cleanupStaleRunningJobs (sweep : Sweep) : JobProg (List Job) :=
  match sweep.cutoff with
  | none => pure []
  | some cutoff => do
      let stale ← perform (.selectStale cutoff)
      -- without a stale row the session has nothing to write
      if stale.isEmpty then pure [] else perform (.expireStale cutoff stale sweep.finishedAt)

def findActiveLockConflict (sweep : Sweep) (lockKey : Text) (exclude : Option Text) :
    JobProg (Option Job) :=
  if (lockTokens lockKey).isEmpty then pure none
  else do
    let _ ← cleanupStaleRunningJobs sweep
    perform (.findConflict lockKey exclude)

/-- The check of `create_job`: `get_active_lock_lease`, and the owner's row for the message. -/
def refuseConflict (a : CreateArgs) : JobProg Unit :=
  match a.checkedKey with
  | none => pure ()
  | some key => do
      match ← findActiveLockConflict (a.sweep 1) key none with
      | none => pure ()
      | some active => do
          let owner ← perform (.selectJob active.jobId)
          Prog.raise (.lockConflict key (owner.getD active))

/-- `except sqlite3.IntegrityError` of `create_job`: name the job that holds the lock, if one
does. -/
def explainRefusal (a : CreateArgs) (e : JobError) : JobProg Job :=
  match e, a.checkedKey with
  | .integrityError, some key => do
      match ← findActiveLockConflict (a.sweep 2) key none with
      | some active => Prog.raise (.lockConflict key active)
      | none => Prog.raise e
  | _, _ => Prog.raise e

def createJob (a : CreateArgs) : JobProg Job := do
  let _ ← cleanupStaleRunningJobs (a.sweep 0)
  refuseConflict a
  (perform (.insertJob a)).tryExcept (explainRefusal a)

def getJob (sweep : Sweep) (jobId : Text) : JobProg (Option Job) := do
  let _ ← cleanupStaleRunningJobs sweep
  perform (.selectJob jobId)

def markJobRunning (jobId now : Text) : JobProg (Option Job) := do
  match ← perform (.selectForRunning jobId) with
  | none => pure none
  | some row =>
      if row.status ≠ .queued then pure (some row) else perform (.updateRunning jobId now)

def touchJobRunning (jobId now : Text) : JobProg (Option Job) := perform (.touchRunning jobId now)

def updateJobRunningResult (jobId : Text) (resultJson : Option Text) (now : Text) :
    JobProg (Option Job) :=
  perform (.updateRunningResult jobId resultJson now)

def markJobSuccess (jobId : Text) (resultJson : Option Text) (now : Text) : JobProg (Option Job) :=
  perform (.finish jobId ⟨.success, rfl, resultJson, none, none, .handlerCompleted⟩ now)

def markJobFailed (jobId errorCode errorMessage : Text) (resultJson : Option Text) (now : Text) :
    JobProg (Option Job) :=
  let classification :=
    if errorCode = "JOB_STALE_QUEUE_TIMEOUT".toList then .staleQueueTimeout
    else if errorCode = "JOB_STALE_TIMEOUT".toList then .staleRunningTimeout
    else .handlerFailed
  perform (.finish jobId
    ⟨.failed, rfl, resultJson, some errorCode, some errorMessage, classification⟩ now)

def markJobCancelled (jobId : Text) (resultJson : Option Text) (now : Text) :
    JobProg (Option Job) :=
  perform (.finish jobId ⟨.cancelled, rfl, resultJson, none, none, .handlerCancelled⟩ now)

/-! ## `jobs/manager.py` -/

/-- `result.get(key) or default`. -/
def orText (t : Option Text) (default : String) : Text :=
  match t with
  | some (c :: cs) => c :: cs
  | _ => default.toList

/-- What `run_job` does with the outcome of the handler. -/
def settleHandler (a : RunArgs) : HandlerOutcome → JobProg (Option Job)
  | .raised message =>
      markJobFailed a.jobId "JOB_HANDLER_FAILED".toList message none a.finishedAt
  | .returned result =>
      if result.jobStatus = some "failed".toList then
        markJobFailed a.jobId (orText result.errorCode "JOB_HANDLER_FAILED")
          (orText result.errorMessage "Job handler reported failure.") result.json a.finishedAt
      else if result.jobStatus = some "cancelled".toList then
        markJobCancelled a.jobId result.json a.finishedAt
      else markJobSuccess a.jobId result.json a.finishedAt

def runJob (a : RunArgs) : JobProg (Option Job) := do
  let _ ← cleanupStaleRunningJobs a.sweep
  match ← markJobRunning a.jobId a.startedAt with
  | none => pure none
  | some job =>
      if job.status ≠ .running then pure (some job)
      else if a.registered job.jobType then do
        settleHandler a (← perform (.invokeHandler a.jobId))
      else
        markJobFailed a.jobId "JOB_HANDLER_NOT_REGISTERED".toList
          ("No handler registered for job type: ".toList ++ job.jobType) none a.finishedAt

/-- `_run_job_worker`: the thread that `start_job` starts. -/
def runJobWorker (w : Worker) : JobProg Unit := do
  let _ ← (runJob w.run).tryExcept fun e => do
    perform (.releaseWorker w)
    Prog.raise e
  perform (.releaseWorker w)

/-- The polls of `start_job` until its deadline. -/
def pollJob (sweep : Nat → Sweep) (jobId : Text) : Nat → JobProg (Option Job)
  | 0 => getJob (sweep 0) jobId
  | polls + 1 => do
      match ← getJob (sweep (polls + 1)) jobId with
      | none => pure none
      | some job => if job.status ≠ .queued then pure (some job) else pollJob sweep jobId polls

structure StartArgs where
  worker : Worker
  polls : Nat
  sweep : Nat → Sweep

def startJob (a : StartArgs) : JobProg (Option Job) := do
  match ← getJob (a.sweep (a.polls + 1)) a.worker.run.jobId with
  | none => pure none
  | some job =>
      if job.status.active = false then pure (some job)
      else do
        let started ← perform (.claimWorker a.worker)
        if started then pollJob a.sweep a.worker.run.jobId a.polls
        else getJob (a.sweep 0) a.worker.run.jobId

/-! ## The system -/

inductive Call
  | cleanupStaleRunningJobs (sweep : Sweep)
  | createJob (a : CreateArgs)
  | getJob (sweep : Sweep) (jobId : Text)
  | markJobRunning (jobId now : Text)
  | touchJobRunning (jobId now : Text)
  | updateJobRunningResult (jobId : Text) (resultJson : Option Text) (now : Text)
  | markJobSuccess (jobId : Text) (resultJson : Option Text) (now : Text)
  | markJobFailed (jobId errorCode errorMessage : Text) (resultJson : Option Text) (now : Text)
  | markJobCancelled (jobId : Text) (resultJson : Option Text) (now : Text)
  | runJob (a : RunArgs)
  | startJob (a : StartArgs)
  | runJobWorker (w : Worker)

/-- Run a call for its effects. -/
def discard {ρ : Type} (p : JobProg ρ) : JobProg Unit := do
  let _ ← p
  pure ()

def Call.prog : Call → JobProg Unit
  | .cleanupStaleRunningJobs sweep => discard (Jobs.cleanupStaleRunningJobs sweep)
  | .createJob a => discard (Jobs.createJob a)
  | .getJob sweep jobId => discard (Jobs.getJob sweep jobId)
  | .markJobRunning jobId now => discard (Jobs.markJobRunning jobId now)
  | .touchJobRunning jobId now => discard (Jobs.touchJobRunning jobId now)
  | .updateJobRunningResult jobId result now => discard (Jobs.updateJobRunningResult jobId result now)
  | .markJobSuccess jobId result now => discard (Jobs.markJobSuccess jobId result now)
  | .markJobFailed jobId code message result now =>
      discard (Jobs.markJobFailed jobId code message result now)
  | .markJobCancelled jobId result now => discard (Jobs.markJobCancelled jobId result now)
  | .runJob a => discard (Jobs.runJob a)
  | .startJob a => discard (Jobs.startJob a)
  | .runJobWorker w => Jobs.runJobWorker w

/-- A claimed worker is a thread of its own. -/
def spawn : (a : Stmt) → Except JobError a.Reply → List Call
  | .claimWorker w, .ok true => [.runJobWorker w]
  | _, _ => []

def jobSystem : System Stmt Env State JobError Call Stmt.Reply where
  exec := execute eventId
  prog := Call.prog
  spawn := spawn

/-- No call has been made yet. -/
def start : Config State JobError Stmt.Reply := ⟨.empty, []⟩

end FwRouter.Jobs
