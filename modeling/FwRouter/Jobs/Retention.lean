import FwRouter.Library.KeyedTable
import FwRouter.Jobs.Outcome

/-!
# Job retention

`services/jobs_retention.py`: the candidates are selected from the table as it is at one moment, and
deleted in a transaction of its own, between which other connections may have changed anything.

`retention_deletes_only` says what a call that is no dry run may delete, and with what record; a
call that raises leaves the tables as it found them.  The standard library enters as a parameter:
`datetime.fromisoformat`, `datetime.strptime` and `strftime`, and `uuid5`.
-/

namespace FwRouter.Jobs

open Py KeyedTable Run

/-! ## Policy -/

/-- A parsed time: microseconds of the wall clock, and of the offset from UTC if it has one. -/
structure Stamp where
  wall : ℤ
  offset : Option ℤ

/-- What the call uses of the standard library and the settings.  `snapshotEventId` is
`_terminal_snapshot_event_id`, without a value where `UUID` raises. -/
structure RetentionEnv where
  fromisoformat : Text → Option Stamp
  strptime : Text → Option ℤ
  strftime : ℤ → Text
  snapshotEventId : Text → Option Text
  defaultJobArtifactDir : Text → Text

namespace RetentionEnv

/-- `value.replace("Z", "+00:00")`. -/
def normalizeZ (t : Text) : Text := t.flatMap fun c => if c = 'Z' then "+00:00".toList else [c]

/-- `_parse_sqlite_timestamp`, in microseconds of UTC. -/
def parseSqliteTimestamp (env : RetentionEnv) : Option Text → Option ℤ
  | none => none
  | some [] => none
  | some value =>
      match env.fromisoformat (normalizeZ value) with
      | some stamp => some (stamp.wall - stamp.offset.getD 0)
      | none => env.strptime value

end RetentionEnv

/-- `datetime.min` in microseconds of the epoch. -/
def datetimeMin : ℤ := -62135596800000000

def microsecondsPerDay : ℤ := 86400000000

/-- `DEFAULT_RETENTION_DAYS_BY_STATUS`, through `_job_retention_days`. -/
def jobRetentionDays : JobStatus → Option ℤ
  | .queued | .running => none
  | .success => some 1
  | .failed => some 14
  | .cancelled => some 1

/-- `MAX_COUNT_BY_JOB_TYPE_STATUS`. -/
def maxCountByJobTypeStatus : List ((Text × JobStatus) × Nat) :=
  [(("apply_mutation".toList, .success), 20),
    (("apply_mutation".toList, .failed), 20),
    (("apply_control_plane_dry_run".toList, .success), 10),
    (("manual_apply".toList, .failed), 10),
    (("maintenance_cleanup".toList, .success), 10),
    (("traffic_accounting_collect".toList, .success), 500),
    (("traffic_accounting_collect".toList, .failed), 50)]

/-- `DEFAULT_MAX_COUNT_BY_STATUS`. -/
def defaultMaxCount : JobStatus → Option Nat
  | .queued | .running => none
  | .success => some 500
  | .failed => some 100
  | .cancelled => some 100

/-- `_job_max_count`. -/
def jobMaxCount (job : Job) : Option Nat :=
  if job.status.active then none
  else (maxCountByJobTypeStatus.lookup (job.jobType, job.status)).orElse fun _ =>
    defaultMaxCount job.status

variable (env : RetentionEnv)

/-- `_job_age_days`, in microseconds. -/
def jobAge (now : ℤ) (job : Job) : Option ℤ :=
  ((env.parseSqliteTimestamp job.finishedAt).orElse fun _ =>
    env.parseSqliteTimestamp (some job.createdAt)).map fun reference => now - reference

/-- The sort key of `newest_by_type_status`. -/
def newestKey (job : Job) : ℤ ×ₗ Text :=
  toLex ((env.parseSqliteTimestamp (some job.createdAt)).getD datetimeMin, job.jobId)

def newestFirst (a b : Job) : Prop := newestKey env b ≤ newestKey env a

instance : DecidableRel (newestFirst env) := fun a b =>
  inferInstanceAs (Decidable (newestKey env b ≤ newestKey env a))

/-- One round of the ranking loop: `seen_by_type_status` and `rank_by_job_id`. -/
def rankStep (st : List ((Text × JobStatus) × Nat) × List (Text × Nat)) (job : Job) :
    List ((Text × JobStatus) × Nat) × List (Text × Nat) :=
  let n := (st.1.lookup (job.jobType, job.status)).getD 0 + 1
  (assign (job.jobType, job.status) n st.1, assign job.jobId n st.2)

def rankByJobId (rows : List Job) : List (Text × Nat) :=
  ((rows.insertionSort (newestFirst env)).foldl rankStep ([], [])).2

def deleteDueToAge (now : ℤ) (job : Job) : Bool :=
  match jobRetentionDays job.status, jobAge env now job with
  | some days, some age => decide (days * microsecondsPerDay ≤ age)
  | _, _ => false

def deleteDueToCount (rows : List Job) (job : Job) : Bool :=
  match jobMaxCount job, (rankByJobId env rows).lookup job.jobId with
  | some maxCount, some rank => decide (maxCount < rank)
  | _, _ => false

/-- `artifact_dir or str(_default_job_artifact_dir(job_id))`. -/
def artifactDirOf (job : Job) : Text :=
  match job.artifactDir with
  | some (c :: cs) => c :: cs
  | _ => env.defaultJobArtifactDir job.jobId

/-- What the selection remembers of a row. -/
structure Candidate where
  jobId : Text
  jobType : Text
  status : JobStatus
  createdAt : Text
  finishedAt : Option Text
  artifactDir : Text
  deriving DecidableEq

def candidateOf (job : Job) : Candidate where
  jobId := job.jobId
  jobType := job.jobType
  status := job.status
  createdAt := job.createdAt
  finishedAt := job.finishedAt
  artifactDir := artifactDirOf env job

/-- `_find_retention_candidates`, with `_load_jobs`. -/
def findRetentionCandidates (now : ℤ) (jobs : List Job) : List Candidate :=
  let rows := jobs.insertionSort fun a b => a.createdAt ≤ b.createdAt
  (rows.filter fun job => deleteDueToAge env now job || deleteDueToCount env rows job).map
    (candidateOf env)

/-! ## Terminal snapshots, read back -/

/-- A JSON value against a column. -/
def JsonField.ofColumn : Option Text → JsonField
  | none => .null
  | some t => .str t

def classificationMatches (status : JobStatus) (d : EventDetails) : Bool :=
  let classification (c : Classification) : Bool :=
    decide (d.executionClassification = .str c.value)
  if d.snapshotAssurance = .str Assurance.terminalCommit.value then
    (decide (status = .success) && classification .handlerCompleted) ||
      (decide (status = .failed) && (classification .handlerFailed ||
        classification .staleQueueTimeout || classification .staleRunningTimeout)) ||
      (decide (status = .cancelled) && classification .handlerCancelled)
  else if d.snapshotAssurance = .str Assurance.retentionObservation.value then
    !status.active && classification .legacyTerminalObserved
  else false

/-- `_terminal_snapshot_matches`. -/
def terminalSnapshotMatches (row : Job) (e : Event) : Bool :=
  match e.details with
  | none => false
  | some d =>
      decide (e.eventType = terminalOutcome) && decide (d.eventCode = .str terminalOutcome) &&
        decide (d.action = .str terminalOutcome) && decide (d.entityType = .str "job".toList) &&
        decide (d.entityId = .str row.jobId) && decide (d.contextJobId = some (.str row.jobId)) &&
        decide (d.result = .str row.status.value) && decide (d.outcome = .str row.status.value) &&
        decide (d.executionStatus = .str row.status.value) &&
        decide (d.finishedAtUtc = JsonField.ofColumn row.finishedAt) &&
        classificationMatches row.status d

/-! ## The delete transaction -/

/-- The columns of `rules_state` that the transaction touches. -/
structure RulesState where
  lastApplyJobId : Option Text
  lastUpdateJobId : Option Text
  updatedAt : Text
  deriving DecidableEq

structure Tables where
  db : Database
  rulesState : RulesState

inductive RetentionError
  | snapshotMismatch
  | changedDuringDelete
  | job (e : JobError)

/-- What becomes of a candidate. -/
inductive Disposal
  | gone
  | held (error : Text)
  | deleted
  deriving DecidableEq

/-- `UPDATE rules_state`: a deleted job is no longer referred to. -/
def RulesState.forget (jobId now : Text) (r : RulesState) : RulesState where
  lastApplyJobId := if r.lastApplyJobId = some jobId then none else r.lastApplyJobId
  lastUpdateJobId := if r.lastUpdateJobId = some jobId then none else r.lastUpdateJobId
  updatedAt := if r.lastApplyJobId = some jobId ∨ r.lastUpdateJobId = some jobId then now
    else r.updatedAt

/-- `DELETE FROM jobs WHERE ...`. -/
def Database.deleteWhere (db : Database) (wh : Job → Bool) : Database where
  jobs := db.jobs.filter fun job => !wh job
  logs := db.logs
  jobId_nodup := db.jobId_nodup.sublist (List.filter_sublist.map _)
  activeLock_nodup := db.activeLock_nodup.sublist (List.filter_sublist.filterMap _)
  eventId_nodup := db.eventId_nodup

/-- `canonical_finished_at`: the time is exactly what `strftime` prints of it. -/
def canonicalFinishedAt (t : Text) : Bool :=
  match env.strptime t with
  | none => false
  | some wall => decide (env.strftime wall = t)

/-- The snapshot that the deletion relies on: the stored one, if it matches, or a new one. -/
def ensureSnapshot (current : Job) (eventId : Text) (db : Database) :
    Except RetentionError Database :=
  match db.logs.find? fun e => decide (e.eventId = eventId) with
  | some stored => if terminalSnapshotMatches current stored then .ok db else .error .snapshotMismatch
  | none => do
      let event ← (terminalSnapshot (fun _ => eventId) current .legacyTerminalObserved
        .retentionObservation).mapError .job
      (Database.store db.jobs (db.logs ++ [event])).mapError .job

/-- The row as the `DELETE` asks for it; `NULL` equals nothing. -/
def sameRow (current job : Job) : Bool :=
  decide (job.jobId = current.jobId ∧ job.status = current.status ∧
    job.createdAt = current.createdAt ∧ job.finishedAt.isSome = true ∧
    job.finishedAt = current.finishedAt)

/-- The writes for one candidate: the snapshot, the references to the job, and the job. -/
def deleteRecorded (now : Text) (current : Job) (eventId : Text) (t : Tables) :
    Except RetentionError Tables := do
  let db ← ensureSnapshot current eventId t.db
  if db.jobs.countP (sameRow current) = 1 then
    return ⟨db.deleteWhere (sameRow current), t.rulesState.forget current.jobId now⟩
  else .error .changedDuringDelete

/-- One round of the loop over the candidates. -/
def disposeCandidate (now : Text) (c : Candidate) (t : Tables) :
    Except RetentionError (Disposal × Tables) :=
  match t.db.selectJob c.jobId with
  | none => .ok (.gone, t)
  | some current =>
      if candidateOf env current ≠ c then
        .ok (.held "retention_candidate_changed; row held".toList, t)
      else if current.status.active then
        .ok (.held "active_job_retention_denied; row held".toList, t)
      else
        match env.snapshotEventId c.jobId with
        | none => .ok (.held "invalid_job_id; row held".toList, t)
        | some eventId =>
            if canonicalFinishedAt env (current.finishedAt.getD []) then do
              return (.deleted, ← deleteRecorded now current eventId t)
            else .ok (.held "invalid_finished_at; row held".toList, t)

/-- The loop and the commit; `fault n` says whether a statement of round `n` raises by itself. -/
def disposeCandidates (now : Text) (fault : Nat → Bool) :
    List Candidate → Tables → Except RetentionError (List (Text × Disposal) × Tables)
  | [], t => if fault 0 then .error (.job .failure) else .ok ([], t)
  | c :: rest, t =>
      if fault 0 then .error (.job .failure)
      else do
        let done ← disposeCandidate env now c t
        let more ← disposeCandidates now (fun n => fault (n + 1)) rest done.2
        return ((c.jobId, done.1) :: more.1, more.2)

/-- `cleanup_jobs_retention`, as far as it works on the database: `selected` is the table as the
selection reads it, `t` the tables as the transaction finds them, `sqlNow` the clock of SQLite.
What follows the commit deletes directories and swallows their errors. -/
def cleanupJobsRetention (now : ℤ) (sqlNow : Text) (fault : Nat → Bool) (dryRun : Bool)
    (selected : Database) (t : Tables) : Except RetentionError (List (Text × Disposal)) × Tables :=
  if dryRun then (.ok [], t)
  else
    match disposeCandidates env sqlNow fault (findRetentionCandidates env now selected.jobs) t with
    | .ok done => (.ok done.1, done.2)
    -- `connection.rollback()`
    | .error e => (.error e, t)

/-! ## What is deleted -/

/-- The job has reached the retention days of its status. -/
def AgedOut (now : ℤ) (job : Job) : Prop :=
  ∃ days age, jobRetentionDays job.status = some days ∧ jobAge env now job = some age ∧
    days * microsecondsPerDay ≤ age

/-- As many rows of the job's type and status as may be kept precede it, newest first. -/
def CountedOut (rows : List Job) (job : Job) : Prop :=
  ∃ maxCount, jobMaxCount job = some maxCount ∧
    maxCount ≤ rows.countP fun r => decide (r.jobType = job.jobType ∧ r.status = job.status ∧
      newestKey env job < newestKey env r)

/-- What a deleted row must satisfy: it has ended, the selection saw it with the same status, type,
times and directory, the policy lets it go, and a snapshot of its outcome is in the log. -/
structure AllowedDeletion (now : ℤ) (selected : Database) (logs : List Event) (job : Job) : Prop where
  ended : job.status.active = false
  unchanged : ∃ old ∈ selected.jobs, candidateOf env old = candidateOf env job
  policy : AgedOut env now job ∨ CountedOut env selected.jobs job
  recorded : ∃ event ∈ logs, terminalSnapshotMatches job event = true

section Ranking

variable {env}

/-- The rows of the type and status of a job. -/
def sameKind (job r : Job) : Bool := decide (r.jobType = job.jobType ∧ r.status = job.status)

lemma lookup_seen (rows : List Job) : ∀ (st : List ((Text × JobStatus) × Nat) × List (Text × Nat))
    (job : Job), ((rows.foldl rankStep st).1.lookup (job.jobType, job.status)).getD 0 =
      (st.1.lookup (job.jobType, job.status)).getD 0 + rows.countP (sameKind job) := by
  induction rows with
  | nil => exact fun _ _ => rfl
  | cons r rows ih =>
      intro st job
      rw [List.foldl_cons, ih, List.countP_cons]
      by_cases h : (job.jobType, job.status) = (r.jobType, r.status)
      · have hkind : sameKind job r = true := by
          simp only [Prod.mk.injEq] at h
          exact decide_eq_true ⟨h.1.symm, h.2.symm⟩
        rw [rankStep, h, lookup_assign_self, Option.getD_some, if_pos hkind]
        omega
      · have hkind : ¬sameKind job r = true := by
          intro hk
          obtain ⟨ht, hs⟩ := of_decide_eq_true hk
          exact h (by rw [ht, hs])
        rw [rankStep, lookup_assign_of_ne h, if_neg hkind, Nat.add_zero]

lemma lookup_rank_of_not_mem {jobId : Text} (rows : List Job) :
    ∀ st : List ((Text × JobStatus) × Nat) × List (Text × Nat), jobId ∉ rows.map Job.jobId →
      (rows.foldl rankStep st).2.lookup jobId = st.2.lookup jobId := by
  induction rows with
  | nil => exact fun _ _ => rfl
  | cons r rows ih =>
      intro st h
      rw [List.map_cons, List.mem_cons, not_or] at h
      rw [List.foldl_cons, ih _ h.2, rankStep, lookup_assign_of_ne h.1]

/-- The rank of a job is one more than the number of rows of its kind before it. -/
lemma lookup_rank {before after : List Job} {job : Job}
    (hnodup : ((before ++ job :: after).map Job.jobId).Nodup) :
    ((before ++ job :: after).foldl rankStep ([], [])).2.lookup job.jobId =
      some (before.countP (sameKind job) + 1) := by
  rw [List.map_append, List.map_cons, List.nodup_append, List.nodup_cons] at hnodup
  rw [List.foldl_append, List.foldl_cons, lookup_rank_of_not_mem after _ hnodup.2.1.1, rankStep,
    lookup_assign_self, lookup_seen before ([], []) job]
  simp

lemma newestFirst_total (a b : Job) : newestFirst env a b ∨ newestFirst env b a :=
  le_total _ _

/-- The rank of a row counts rows that precede it in the order of the policy. -/
lemma rank_le (rows : List Job) (hnodup : (rows.map Job.jobId).Nodup) {job : Job}
    (hjob : job ∈ rows) {rank : Nat} (h : (rankByJobId env rows).lookup job.jobId = some rank) :
    rank ≤ 1 + rows.countP fun r => decide (r.jobType = job.jobType ∧ r.status = job.status ∧
      newestKey env job < newestKey env r) := by
  have : Std.Total (newestFirst env) := ⟨newestFirst_total⟩
  have : IsTrans Job (newestFirst env) := ⟨fun _ _ _ hab hbc => le_trans hbc hab⟩
  have hperm := List.perm_insertionSort (newestFirst env) rows
  have hsorted := List.pairwise_insertionSort (newestFirst env) rows
  obtain ⟨before, after, hsplit⟩ := List.append_of_mem (hperm.mem_iff.mpr hjob)
  have hnodup' : ((before ++ job :: after).map Job.jobId).Nodup := by
    rw [← hsplit]
    exact (hperm.map Job.jobId).nodup_iff.mpr hnodup
  rw [rankByJobId, hsplit, lookup_rank hnodup', Option.some.injEq] at h
  rw [← hperm.countP_eq, hsplit, List.countP_append, ← h]
  have hbefore : before.countP (sameKind job) ≤ before.countP fun r => decide
      (r.jobType = job.jobType ∧ r.status = job.status ∧ newestKey env job < newestKey env r) := by
    refine List.countP_mono_left fun r hr hkind => ?_
    obtain ⟨ht, hs⟩ := of_decide_eq_true hkind
    rw [hsplit, List.pairwise_append] at hsorted
    refine decide_eq_true ⟨ht, hs, lt_of_le_of_ne (hsorted.2.2 r hr job List.mem_cons_self) ?_⟩
    -- equal keys would be equal job ids
    intro hkey
    rw [List.map_append, List.nodup_append] at hnodup'
    refine hnodup'.2.2 _ (List.mem_map_of_mem hr) job.jobId (by simp) ?_
    exact congrArg Prod.snd (toLex.injective hkey).symm
  omega

end Ranking

section Policy

variable {env} {now : ℤ} {rows : List Job} {job : Job}

lemma agedOut_of_deleteDueToAge (h : deleteDueToAge env now job = true) : AgedOut env now job := by
  rw [deleteDueToAge] at h
  split at h
  · next days age hdays hage => exact ⟨days, age, hdays, hage, of_decide_eq_true h⟩
  · cases h

lemma countedOut_of_deleteDueToCount (hnodup : (rows.map Job.jobId).Nodup) (hjob : job ∈ rows)
    (h : deleteDueToCount env rows job = true) : CountedOut env rows job := by
  rw [deleteDueToCount] at h
  split at h
  · next maxCount rank hmax hrank =>
      have hlt := of_decide_eq_true h
      have hle := rank_le rows hnodup hjob hrank
      exact ⟨maxCount, hmax, by omega⟩
  · cases h

/-- A candidate is a row of the table that the policy lets go. -/
lemma mem_findRetentionCandidates {selected : Database} {c : Candidate}
    (h : c ∈ findRetentionCandidates env now selected.jobs) :
    ∃ old ∈ selected.jobs, candidateOf env old = c ∧
      (AgedOut env now old ∨ CountedOut env selected.jobs old) := by
  rw [findRetentionCandidates] at h
  obtain ⟨old, hold, rfl⟩ := List.mem_map.mp h
  obtain ⟨hmem, hdue⟩ := List.mem_filter.mp hold
  have hperm := List.perm_insertionSort (fun a b : Job => a.createdAt ≤ b.createdAt) selected.jobs
  refine ⟨old, hperm.mem_iff.mp hmem, rfl, ?_⟩
  rcases Bool.or_eq_true_iff.mp hdue with hage | hcount
  · exact Or.inl (agedOut_of_deleteDueToAge hage)
  · right
    have hnodup := (hperm.map Job.jobId).nodup_iff.mpr selected.jobId_nodup
    obtain ⟨maxCount, hmax, hle⟩ := countedOut_of_deleteDueToCount hnodup hmem hcount
    exact ⟨maxCount, hmax, hperm.countP_eq _ ▸ hle⟩

/-- The policy reads a row through what the candidate remembers of it. -/
lemma policy_congr {old : Job} (h : candidateOf env old = candidateOf env job)
    (hpolicy : AgedOut env now old ∨ CountedOut env rows old) :
    AgedOut env now job ∨ CountedOut env rows job := by
  simp only [candidateOf, Candidate.mk.injEq] at h
  obtain ⟨hid, htype, hstatus, hcreated, hfinished, -⟩ := h
  have hkey : newestKey env old = newestKey env job := by
    rw [newestKey, newestKey, hcreated, hid]
  rcases hpolicy with ⟨days, age, hdays, hage, hle⟩ | ⟨maxCount, hmax, hle⟩
  · refine Or.inl ⟨days, age, hstatus ▸ hdays, ?_, hle⟩
    rw [jobAge, ← hfinished, ← hcreated]
    exact hage
  · refine Or.inr ⟨maxCount, ?_, ?_⟩
    · rw [jobMaxCount, ← hstatus, ← htype]
      exact hmax
    · rw [← htype, ← hstatus, ← hkey]
      exact hle

end Policy

section Transaction

lemma ok_of_mapError {α ε δ : Type} {x : Except ε α} {f : ε → δ} {a : α}
    (h : x.mapError f = .ok a) : x = .ok a := by
  cases x with
  | error e => cases h
  | ok b =>
      cases h
      rfl

/-- A snapshot that the retention writes is one that it accepts. -/
lemma matches_terminalSnapshot {current : Job} {eventId : Text → Text} {event : Event}
    (hended : current.status.active = false) (hfinished : current.finishedAt.isSome = true)
    (h : terminalSnapshot eventId current .legacyTerminalObserved .retentionObservation = .ok event) :
    terminalSnapshotMatches current event = true := by
  obtain ⟨t, ht⟩ := Option.isSome_iff_exists.mp hfinished
  have hne : JsonField.str Assurance.retentionObservation.value ≠
      .str Assurance.terminalCommit.value := by decide
  rw [terminalSnapshot] at h
  split_ifs at h
  cases h
  simp only [terminalSnapshotMatches, classificationMatches, if_neg hne, if_true, ht, hended,
    JsonField.ofColumn, Option.getD_some, decide_true, Bool.not_false, Bool.and_self]

lemma ensureSnapshot_ok {current : Job} {eventId : Text} {db db' : Database}
    (hended : current.status.active = false) (hfinished : current.finishedAt.isSome = true)
    (h : ensureSnapshot current eventId db = .ok db') :
    (∀ e ∈ db.logs, e ∈ db'.logs) ∧
      ∃ event ∈ db'.logs, terminalSnapshotMatches current event = true := by
  rw [ensureSnapshot] at h
  split at h
  · next stored hfind =>
      split_ifs at h with hmatch
      cases h
      exact ⟨fun e he => he, stored, List.mem_of_find?_eq_some hfind, hmatch⟩
  · obtain ⟨event, hevent, h⟩ := exists_of_bind_eq_ok h
    obtain ⟨-, hlogs⟩ := store_ok (ok_of_mapError h)
    refine ⟨fun e he => ?_, event, ?_, ?_⟩
    · rw [hlogs]
      exact List.mem_append_left _ he
    · rw [hlogs]
      exact List.mem_append_right _ (List.mem_singleton_self _)
    · exact matches_terminalSnapshot hended hfinished (ok_of_mapError hevent)

lemma jobs_ensureSnapshot {current : Job} {eventId : Text} {db db' : Database}
    (h : ensureSnapshot current eventId db = .ok db') : db'.jobs = db.jobs := by
  rw [ensureSnapshot] at h
  split at h
  · split_ifs at h
    cases h
    rfl
  · obtain ⟨event, -, h⟩ := exists_of_bind_eq_ok h
    exact (store_ok (ok_of_mapError h)).1

/-- What a part of the loop keeps: rows are only removed, events only added, and a row that is
removed was that of a candidate, has ended, and is recorded. -/
structure Disposed (candidates : List Candidate) (t t' : Tables) : Prop where
  jobs : t'.db.jobs.Sublist t.db.jobs
  logs : ∀ e ∈ t.db.logs, e ∈ t'.db.logs
  deleted : ∀ job ∈ t.db.jobs, job ∉ t'.db.jobs → candidateOf env job ∈ candidates ∧
    job.status.active = false ∧ ∃ event ∈ t'.db.logs, terminalSnapshotMatches job event = true

variable {env} {now : Text}

lemma Disposed.refl (candidates : List Candidate) (t : Tables) : Disposed env candidates t t :=
  ⟨List.Sublist.refl _, fun _ he => he, fun _ hjob hnot => absurd hjob hnot⟩

lemma deleteRecorded_ok {current : Job} {eventId : Text} {t t' : Tables}
    (hmem : current ∈ t.db.jobs) (hended : current.status.active = false)
    (h : deleteRecorded now current eventId t = .ok t') :
    Disposed env [candidateOf env current] t t' := by
  rw [deleteRecorded] at h
  obtain ⟨db, hdb, h⟩ := exists_of_bind_eq_ok h
  have hjobs := jobs_ensureSnapshot hdb
  split_ifs at h with hcount
  cases h
  -- the one row that the `DELETE` removes is the current one
  have hrow : ∀ job ∈ t.db.jobs, sameRow current job = true → job = current := by
    intro job hjob hsame
    exact eq_of_jobId_eq t.db.jobId_nodup hjob hmem (of_decide_eq_true hsame).1
  have hfinished : current.finishedAt.isSome = true := by
    obtain ⟨job, hjob, hsame⟩ : ∃ job ∈ db.jobs, sameRow current job = true :=
      List.countP_pos_iff.mp (by omega)
    rw [hjobs] at hjob
    have hsome := (of_decide_eq_true hsame).2.2.2.1
    rwa [hrow job hjob hsame] at hsome
  obtain ⟨hlogs, hrecord⟩ := ensureSnapshot_ok hended hfinished hdb
  refine ⟨?_, hlogs, ?_⟩
  · rw [← hjobs]
    exact List.filter_sublist
  · intro job hjob hnot
    have hsame : sameRow current job = true := by
      by_contra hne
      refine hnot (List.mem_filter.mpr ⟨hjobs ▸ hjob, ?_⟩)
      simpa using hne
    rw [hrow job hjob hsame]
    exact ⟨List.mem_singleton_self _, hended, hrecord⟩

lemma disposeCandidate_ok {c : Candidate} {t t' : Tables} {d : Disposal}
    (h : disposeCandidate env now c t = .ok (d, t')) : Disposed env [c] t t' := by
  rw [disposeCandidate] at h
  cases hcurrent : t.db.selectJob c.jobId with
  | none =>
      rw [hcurrent] at h
      cases h
      exact .refl _ _
  | some current =>
      rw [hcurrent] at h
      have hmem : current ∈ t.db.jobs := List.mem_of_find?_eq_some hcurrent
      by_cases hsame : candidateOf env current = c
      · cases hended : current.status.active with
        | true =>
            simp only [hsame, hended, ne_eq, not_true_eq_false, if_false, if_true] at h
            cases h
            exact .refl _ _
        | false =>
            simp only [hsame, hended, ne_eq, not_true_eq_false, if_false, Bool.false_eq_true] at h
            cases hev : env.snapshotEventId c.jobId with
            | none =>
                rw [hev] at h
                cases h
                exact .refl _ _
            | some eventId =>
                rw [hev] at h
                dsimp only at h
                split_ifs at h with hcanonical
                · obtain ⟨done, hdone, h⟩ := exists_of_bind_eq_ok h
                  cases h
                  rw [← hsame]
                  exact deleteRecorded_ok hmem hended hdone
                · cases h
                  exact .refl _ _
      · simp only [if_pos hsame, ne_eq] at h
        cases h
        exact .refl _ _

lemma Disposed.trans {as bs : List Candidate} {t u v : Tables} (h : Disposed env as t u)
    (h' : Disposed env bs u v) : Disposed env (as ++ bs) t v := by
  refine ⟨h'.jobs.trans h.jobs, fun e he => h'.logs e (h.logs e he), fun job hjob hnot => ?_⟩
  by_cases hmid : job ∈ u.db.jobs
  · obtain ⟨hc, hrest⟩ := h'.deleted job hmid hnot
    exact ⟨List.mem_append_right _ hc, hrest⟩
  · obtain ⟨hc, hended, event, hevent, hmatch⟩ := h.deleted job hjob hmid
    exact ⟨List.mem_append_left _ hc, hended, event, h'.logs event hevent, hmatch⟩

lemma disposeCandidates_ok : ∀ {candidates : List Candidate} {fault : Nat → Bool} {t t' : Tables}
    {r : List (Text × Disposal)}, disposeCandidates env now fault candidates t = .ok (r, t') →
    Disposed env candidates t t' := by
  intro candidates
  induction candidates with
  | nil =>
      intro fault t t' r h
      rw [disposeCandidates] at h
      split_ifs at h
      cases h
      exact .refl _ _
  | cons c rest ih =>
      intro fault t t' r h
      rw [disposeCandidates] at h
      split_ifs at h
      obtain ⟨done, hdone, h⟩ := exists_of_bind_eq_ok h
      obtain ⟨more, hmore, h⟩ := exists_of_bind_eq_ok h
      cases h
      exact (disposeCandidate_ok hdone).trans (ih hmore)

end Transaction

/-- **Retention deletes what the policy allows, and with a record.**  Whatever other connections did
to the tables after the selection: a row that the call deletes has ended, stands in the selection
with the same status, type, times and directory, has reached its age or its count, and a snapshot of
its outcome is in the log after the commit; a call that raises changes nothing. -/
theorem retention_deletes_only (now : ℤ) (sqlNow : Text) (fault : Nat → Bool) (selected : Database)
    (t : Tables) :
    (∀ job ∈ t.db.jobs,
      job ∉ (cleanupJobsRetention env now sqlNow fault false selected t).2.db.jobs →
      AllowedDeletion env now selected
        (cleanupJobsRetention env now sqlNow fault false selected t).2.db.logs job) ∧
    ∀ e, (cleanupJobsRetention env now sqlNow fault false selected t).1 = .error e →
      (cleanupJobsRetention env now sqlNow fault false selected t).2 = t := by
  rw [cleanupJobsRetention, if_neg (by decide)]
  cases hrun : disposeCandidates env sqlNow fault (findRetentionCandidates env now selected.jobs) t with
  | error e => exact ⟨fun job hjob hnot => absurd hjob hnot, fun _ _ => rfl⟩
  | ok done =>
      refine ⟨fun job hjob hnot => ?_, fun e h => nomatch h⟩
      obtain ⟨hc, hended, hrecord⟩ := (disposeCandidates_ok hrun).deleted job hjob hnot
      obtain ⟨old, hold, hsame, hpolicy⟩ := mem_findRetentionCandidates hc
      exact ⟨hended, ⟨old, hold, hsame⟩, policy_congr hsame hpolicy, hrecord⟩

/-! ## A result that is compacted in between -/

/-- The times of the sample job; everything else is no time. -/
def sampleWall (t : Text) : Option ℤ :=
  if t = "2026-01-01 00:00:00".toList then some 1767225600000000
  else if t = "2026-01-01 00:00:02".toList then some 1767225602000000
  else none

def sampleEnv : RetentionEnv where
  fromisoformat t := (sampleWall t).map fun wall => ⟨wall, none⟩
  strptime := sampleWall
  strftime wall :=
    if wall = 1767225600000000 then "2026-01-01 00:00:00".toList else "2026-01-01 00:00:02".toList
  snapshotEventId j := some (sampleEventId j)
  defaultJobArtifactDir j := "/var/lib/fwrouter/jobs/".toList ++ j

/-- The ended job with a result. -/
def endedJob (result : String) : Job := { succeededJob with resultJson := some result.toList }

/-- A table with one row. -/
def oneJob (job : Job) : Database where
  jobs := [job]
  logs := []
  jobId_nodup := List.nodup_singleton _
  activeLock_nodup := by
    rw [List.filterMap_cons]
    cases job.activeLock with
    | none => exact List.nodup_nil
    | some k => exact List.nodup_singleton _
  eventId_nodup := List.nodup_nil

/-- A call a day after the job has ended; `compact_oversized_job_results` rewrites the result
between the selection and the deletion. -/
def compactedBetween : Except RetentionError (List (Text × Disposal)) × Tables :=
  cleanupJobsRetention sampleEnv (1767225602000000 + microsecondsPerDay)
    "2026-01-02 00:00:02".toList (fun _ => false) false (oneJob (endedJob "[1, 2, 3]"))
    ⟨oneJob (endedJob "[]"), none, none, "2026-01-01 00:00:00".toList⟩

theorem retention_deletes_only_compacted :
    endedJob "[]" ∈ (oneJob (endedJob "[]")).jobs ∧ endedJob "[]" ∉ compactedBetween.2.db.jobs ∧
      AllowedDeletion sampleEnv (1767225602000000 + microsecondsPerDay)
        (oneJob (endedJob "[1, 2, 3]")) compactedBetween.2.db.logs (endedJob "[]") := by
  have hmem : endedJob "[]" ∈ (oneJob (endedJob "[]")).jobs := List.mem_singleton_self _
  have hnot : endedJob "[]" ∉ compactedBetween.2.db.jobs := by decide +kernel
  exact ⟨hmem, hnot, (retention_deletes_only sampleEnv _ _ _ _ _).1 _ hmem hnot⟩

/-- The deleted row is not the row that was selected. -/
theorem retention_deletes_changed_row :
    endedJob "[]" ∈ (oneJob (endedJob "[]")).jobs ∧ endedJob "[]" ∉ compactedBetween.2.db.jobs ∧
      endedJob "[]" ∉ (oneJob (endedJob "[1, 2, 3]")).jobs := by
  decide +kernel

end FwRouter.Jobs
