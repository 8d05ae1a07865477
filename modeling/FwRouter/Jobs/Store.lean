import FwRouter.Python.Text
import FwRouter.Library.Interleave

/-!
# The jobs table

The tables `jobs` and `operational_logs`, and the SQL of `services/jobs.py` as functions on them.

A `db_session` runs its `SELECT`s outside any transaction until the first `INSERT` or `UPDATE`;
from there to the commit it holds the write lock of the database.  One statement of this model is
therefore either a single `SELECT` with the Python that reads its rows, or everything from the
first write of a session to its commit.  A statement that raises leaves the tables as they were.

`Database` carries the constraints of the schema: the primary keys, and the partial unique index
on `lock_key` over the queued and running rows.
-/

namespace FwRouter.Jobs

open Py

/-! ## Rows -/

inductive JobStatus
  | queued | running | success | failed | cancelled
  deriving DecidableEq, Repr

namespace JobStatus

def value : JobStatus → Text
  | queued => "queued".toList
  | running => "running".toList
  | success => "success".toList
  | failed => "failed".toList
  | cancelled => "cancelled".toList

/-- `ACTIVE_JOB_STATUSES`. -/
def active : JobStatus → Bool
  | queued | running => true
  | success | failed | cancelled => false

end JobStatus

structure Job where
  jobId : Text
  jobType : Text
  status : JobStatus
  lockKey : Option Text
  requestedBy : Option Text
  inputJson : Option Text
  eventContextJson : Option Text
  resultJson : Option Text
  errorCode : Option Text
  errorMessage : Option Text
  artifactDir : Option Text
  createdAt : Text
  startedAt : Option Text
  finishedAt : Option Text
  updatedAt : Text
  deriving DecidableEq

/-- The key under which a row stands in `idx_jobs_active_lock_unique`. -/
def Job.activeLock (job : Job) : Option Text := if job.status.active then job.lockKey else none

/-- A value of a JSON object as its reader sees it: absent and `null` are one, and a value that is
no string equals no string. -/
inductive JsonField
  | null
  | str (t : Text)
  | other
  deriving DecidableEq

/-- The fields of an event's `details_json` that a terminal snapshot is recognised by.
`contextJobId` is `event_context.job_id`, and `none` when `event_context` is no object. -/
structure EventDetails where
  eventCode : JsonField
  action : JsonField
  entityType : JsonField
  entityId : JsonField
  contextJobId : Option JsonField
  result : JsonField
  outcome : JsonField
  executionStatus : JsonField
  executionClassification : JsonField
  finishedAtUtc : JsonField
  snapshotAssurance : JsonField
  deriving DecidableEq

/-- A row of `operational_logs`; the details are `none` when they are no JSON object. -/
structure Event where
  eventId : Text
  eventType : Text
  details : Option EventDetails
  deriving DecidableEq

structure Database where
  jobs : List Job
  logs : List Event
  jobId_nodup : (jobs.map Job.jobId).Nodup
  activeLock_nodup : (jobs.filterMap Job.activeLock).Nodup
  eventId_nodup : (logs.map Event.eventId).Nodup

def Database.empty : Database where
  jobs := []
  logs := []
  jobId_nodup := List.nodup_nil
  activeLock_nodup := List.nodup_nil
  eventId_nodup := List.nodup_nil

/-- What a call of the service raises.  `failure` stands for everything that is neither a violated
constraint nor a held lock: a busy database, a value that cannot be converted. -/
inductive JobError
  | integrityError
  | lockConflict (lockKey : Text) (activeJob : Job)
  | failure
  deriving DecidableEq

/-- The tables after a write, or `sqlite3.IntegrityError`. -/
def Database.store (jobs : List Job) (logs : List Event) : Except JobError Database :=
  if h : (jobs.map Job.jobId).Nodup ∧ (jobs.filterMap Job.activeLock).Nodup ∧
      (logs.map Event.eventId).Nodup then
    .ok ⟨jobs, logs, h.1, h.2.1, h.2.2⟩
  else .error .integrityError

def Database.selectJob (db : Database) (jobId : Text) : Option Job :=
  db.jobs.find? fun job => decide (job.jobId = jobId)

/-- `UPDATE jobs SET ... WHERE ...`. -/
def updateWhere (wh : Job → Bool) (set : Job → Job) (jobs : List Job) : List Job :=
  jobs.map fun job => if wh job then set job else job

/-! ## Terminal snapshots -/

inductive Classification
  | handlerCompleted | handlerFailed | handlerCancelled | staleQueueTimeout | staleRunningTimeout
  | legacyTerminalObserved
  deriving DecidableEq

def Classification.value : Classification → Text
  | handlerCompleted => "handler_completed".toList
  | handlerFailed => "handler_failed".toList
  | handlerCancelled => "handler_cancelled".toList
  | staleQueueTimeout => "stale_queue_timeout".toList
  | staleRunningTimeout => "stale_running_timeout".toList
  | legacyTerminalObserved => "legacy_terminal_observed".toList

inductive Assurance
  | terminalCommit | retentionObservation
  deriving DecidableEq

def Assurance.value : Assurance → Text
  | terminalCommit => "terminal_commit".toList
  | retentionObservation => "retention_observation".toList

def isLowerHex (c : Char) : Bool := ('0' ≤ c && c ≤ '9') || ('a' ≤ c && c ≤ 'f')

/-- `str(UUID(t)) == t`: 32 lower case hexadecimal digits in groups of 8, 4, 4, 4 and 12. -/
def isCanonicalUuid (t : Text) : Bool :=
  t.length == 36 && t.zipIdx.all fun c =>
    if c.2 ∈ [8, 13, 18, 23] then c.1 == '-' else isLowerHex c.1

def terminalOutcome : Text := "job.terminal_outcome".toList

/-- `_write_terminal_snapshot`: the event it inserts.  `eventId` is `_terminal_snapshot_event_id`.
The redaction of event details leaves a canonical UUID, a status and a time as they are. -/
def terminalSnapshot (eventId : Text → Text) (row : Job) (classification : Classification)
    (assurance : Assurance) : Except JobError Event :=
  if !isCanonicalUuid row.jobId then .error .failure
  else if (assurance = .terminalCommit) = (classification = .legacyTerminalObserved) then
    .error .failure
  else
    .ok
      { eventId := eventId row.jobId
        eventType := terminalOutcome
        details := some
          { eventCode := .str terminalOutcome
            action := .str terminalOutcome
            entityType := .str "job".toList
            entityId := .str row.jobId
            contextJobId := some (.str row.jobId)
            result := .str row.status.value
            outcome := .str row.status.value
            executionStatus := .str row.status.value
            executionClassification := .str classification.value
            finishedAtUtc := .str (row.finishedAt.getD "None".toList)
            snapshotAssurance := .str assurance.value } }

/-- The event is a terminal snapshot of the job. -/
def Event.outcomeOf (jobId : Text) (e : Event) : Bool :=
  decide (e.eventType = terminalOutcome) &&
    (e.details.map EventDetails.entityId == some (.str jobId))

/-! ## The write transactions -/

/-- `INSERT INTO jobs`. -/
def insertJob (job : Job) (db : Database) : Except JobError (Job × Database) := do
  return (job, ← Database.store (db.jobs ++ [job]) db.logs)

/-- The `UPDATE` of `mark_job_running`, which asks for nothing but the job id. -/
def updateRunning (jobId now : Text) (db : Database) : Except JobError (Option Job × Database) := do
  let stored ← Database.store
    (updateWhere (fun job => decide (job.jobId = jobId))
      (fun job => { job with status := .running, startedAt := some now, updatedAt := now }) db.jobs)
    db.logs
  match stored.selectJob jobId with
  | none => .error .failure
  | some job => return (some job, stored)

/-- The `UPDATE`s of `touch_job_running` and `update_job_running_result`. -/
def updateWhileRunning (jobId : Text) (set : Job → Job) (db : Database) :
    Except JobError (Option Job × Database) := do
  let stored ← Database.store
    (updateWhere (fun job => decide (job.jobId = jobId ∧ job.status = .running)) set db.jobs) db.logs
  return (stored.selectJob jobId, stored)

/-- A guarded move to a terminal status, with the snapshot written beside it if a row moved.
Replies the row, and whether it moved. -/
def settleWhere (eventId : Text → Text) (jobId : Text) (guard : Job → Bool) (set : Job → Job)
    (classification : Classification) (db : Database) :
    Except JobError ((Option Job × Bool) × Database) := do
  let wh := fun job : Job => decide (job.jobId = jobId) && guard job
  let jobs := updateWhere wh set db.jobs
  match jobs.find? (fun job => decide (job.jobId = jobId)), db.jobs.countP wh == 1 with
  | some row, true =>
      let event ← terminalSnapshot eventId row classification .terminalCommit
      return ((some row, true), ← Database.store jobs (db.logs ++ [event]))
  | row, _ => return ((row, false), ← Database.store jobs db.logs)

/-- What the three calls that end a running job store in its row. -/
structure Outcome where
  status : JobStatus
  terminal : status.active = false
  resultJson : Option Text
  errorCode : Option Text
  errorMessage : Option Text
  classification : Classification

/-- The transaction of `mark_job_success`, `mark_job_failed` and `mark_job_cancelled`. -/
def finishJob (eventId : Text → Text) (jobId : Text) (o : Outcome) (now : Text) (db : Database) :
    Except JobError (Option Job × Database) := do
  let done ← settleWhere eventId jobId (fun job => decide (job.status = .running))
    (fun job => { job with
      status := o.status, resultJson := o.resultJson, errorCode := o.errorCode,
      errorMessage := o.errorMessage, finishedAt := some now, updatedAt := now })
    o.classification db
  return (done.1.1, done.2)

/-- A row as `WHERE status IN ('queued', 'running')` selects it. -/
abbrev ActiveJob := { job : Job // job.status.active = true }

/-- One round of the loop of `cleanup_stale_running_jobs`. -/
def expireJob (eventId : Text → Text) (cutoff : Text) (stale : ActiveJob) (finishedAt : Text)
    (db : Database) : Except JobError ((Option Job × Bool) × Database) :=
  let wasQueued := decide (stale.1.status = .queued)
  settleWhere eventId stale.1.jobId
    (fun job => decide (job.status = stale.1.status) && decide (job.updatedAt ≤ cutoff))
    (fun job => { job with
      status := .failed
      errorCode := some
        (if wasQueued then "JOB_STALE_QUEUE_TIMEOUT" else "JOB_STALE_TIMEOUT").toList
      errorMessage := some
        (if wasQueued then
          "Job marked failed because it remained queued past the stale timeout window."
        else "Job marked failed because it exceeded timeout / stale running lease.").toList
      finishedAt := some finishedAt
      updatedAt := finishedAt })
    (if wasQueued then .staleQueueTimeout else .staleRunningTimeout) db

/-- The loop over the rows that were selected, one transaction as a whole; `finishedAt n` is the
clock as read in round `n`.  Replies the rows that moved. -/
def expireStale (eventId : Text → Text) (cutoff : Text) (finishedAt : Nat → Text) :
    List ActiveJob → Database → Except JobError (List Job × Database)
  | [], db => .ok ([], db)
  | stale :: rest, db => do
      let done ← expireJob eventId cutoff stale (finishedAt 0) db
      let moved ← expireStale eventId cutoff (fun n => finishedAt (n + 1)) rest done.2
      return ((if done.1.2 then done.1.1.toList else []) ++ moved.1, moved.2)

/-! ## The reads -/

def selectStale (cutoff : Text) (db : Database) : List ActiveJob :=
  let rows : List ActiveJob := db.jobs.filterMap fun job =>
    if h : job.status.active = true ∧ job.updatedAt ≤ cutoff then some ⟨job, h.1⟩ else none
  rows.insertionSort fun a b => a.1.updatedAt ≤ b.1.updatedAt

/-- `_lock_tokens` of a key. -/
def lockTokens (lockKey : Text) : List Text :=
  ((replaceChar ' ' '+' (replaceChar ',' '+' lockKey)).splitOn '+').filter fun t => !t.isEmpty

/-- The two keys share a token. -/
def Overlap (a b : Text) : Prop := ∃ t ∈ lockTokens a, t ∈ lockTokens b

instance (a b : Text) : Decidable (Overlap a b) := inferInstanceAs (Decidable (∃ t ∈ lockTokens a, _))

/-- The rows of `find_active_lock_conflict` and the loop over them. -/
def findConflict (lockKey : Text) (exclude : Option Text) (db : Database) : Option Job :=
  let rows := (db.jobs.filter fun job => job.status.active && decide (some job.jobId ≠ exclude))
    |>.insertionSort fun a b => a.createdAt ≤ b.createdAt
  rows.find? fun job => job.lockKey.any fun key => decide (Overlap lockKey key)

end FwRouter.Jobs
