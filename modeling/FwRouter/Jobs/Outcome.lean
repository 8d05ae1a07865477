import FwRouter.Jobs.Effects

/-!
# Terminal outcomes

A job that has ended keeps its row and the one snapshot of its outcome, through every interleaving
of the calls of the service in which `mark_job_running` sets no ended job running.  The condition
is about one statement: the `SELECT` of `mark_job_running` found the job queued, but its `UPDATE`
asks for the job id alone, and the job may have ended in between.
-/

namespace FwRouter.Jobs

open Py Interleave

variable {eventId : Text → Text}

/-- The terminal snapshots of a job. -/
def snapshots (db : Database) (jobId : Text) : List Event := db.logs.filter (Event.outcomeOf jobId)

/-- The `UPDATE` of `mark_job_running` finds no job that has ended. -/
def FindsActive (s : State) (_ : List (JobProg Unit)) : Stmt → Prop
  | .updateRunning jobId _ => ∀ job ∈ s.db.jobs, job.jobId = jobId → job.status.active = true
  | _ => True

instance (s : State) (ts : List (JobProg Unit)) : ∀ a, Decidable (FindsActive s ts a)
  | .updateRunning jobId _ =>
      inferInstanceAs (Decidable (∀ job ∈ s.db.jobs, job.jobId = jobId → _))
  | .selectStale _ => isTrue trivial
  | .expireStale .. => isTrue trivial
  | .findConflict .. => isTrue trivial
  | .selectJob _ => isTrue trivial
  | .insertJob _ => isTrue trivial
  | .selectForRunning _ => isTrue trivial
  | .touchRunning .. => isTrue trivial
  | .updateRunningResult .. => isTrue trivial
  | .finish .. => isTrue trivial
  | .claimWorker _ => isTrue trivial
  | .releaseWorker _ => isTrue trivial
  | .invokeHandler _ => isTrue trivial

/-- Jobs and snapshots agree: an ended job has exactly one snapshot, with its status, and no other
job has any. -/
structure Recorded (db : Database) : Prop where
  ended : ∀ job ∈ db.jobs, job.status.active = false → ∃ event, snapshots db job.jobId = [event] ∧
    event.details.map EventDetails.result = some (.str job.status.value)
  active : ∀ job ∈ db.jobs, job.status.active = true → snapshots db job.jobId = []
  known : ∀ jobId, snapshots db jobId ≠ [] → jobId ∈ db.jobs.map Job.jobId

lemma snapshots_congr {db db' : Database} (h : db'.logs = db.logs) (jobId : Text) :
    snapshots db' jobId = snapshots db jobId := by
  rw [snapshots, h, snapshots]

/-- The snapshot that a settled row leaves belongs to that job only. -/
lemma snapshots_concat {db db' : Database} {row : Job} {event : Event} {c : Classification}
    {assurance : Assurance} (hsnap : terminalSnapshot eventId row c assurance = .ok event)
    (h : db'.logs = db.logs ++ [event]) (jobId : Text) :
    snapshots db' jobId =
      if jobId = row.jobId then snapshots db jobId ++ [event] else snapshots db jobId := by
  rw [snapshots, h, List.filter_append, snapshots]
  rw [terminalSnapshot] at hsnap
  split_ifs at hsnap
  cases hsnap
  split_ifs with hid
  · subst hid
    simp [Event.outcomeOf]
  · have : ¬ row.jobId = jobId := fun h => hid h.symm
    simp [Event.outcomeOf, this]

lemma result_terminalSnapshot {row : Job} {event : Event} {c : Classification}
    {assurance : Assurance} (hsnap : terminalSnapshot eventId row c assurance = .ok event) :
    event.details.map EventDetails.result = some (.str row.status.value) := by
  rw [terminalSnapshot] at hsnap
  split_ifs at hsnap
  cases hsnap
  rfl

lemma map_jobId_replaceJob (row : Job) (jobs : List Job) :
    (replaceJob row jobs).map Job.jobId = jobs.map Job.jobId := by
  rw [replaceJob, List.map_map]
  refine List.map_congr_left fun job _ => ?_
  rw [Function.comp_apply]
  split_ifs with h
  · exact h.symm
  · rfl

/-- Replacing an active row by an active one, with the log left alone. -/
lemma Recorded.replace {db db' : Database} {job row : Job} (h : Recorded db) (hmem : job ∈ db.jobs)
    (hid : row.jobId = job.jobId) (hwas : job.status.active = true) (his : row.status.active = true)
    (hjobs : db'.jobs = replaceJob row db.jobs) (hlogs : db'.logs = db.logs) : Recorded db' := by
  have hin : row.jobId ∈ db.jobs.map Job.jobId := List.mem_map.mpr ⟨job, hmem, hid.symm⟩
  constructor
  · intro other hother hended
    rw [hjobs, mem_replaceJob hin] at hother
    rcases hother with rfl | ⟨hother, -⟩
    · rw [his] at hended
      cases hended
    · rw [snapshots_congr hlogs]
      exact h.ended other hother hended
  · intro other hother hactive
    rw [snapshots_congr hlogs]
    rw [hjobs, mem_replaceJob hin] at hother
    rcases hother with rfl | ⟨hother, -⟩
    · rw [hid]
      exact h.active job hmem hwas
    · exact h.active other hother hactive
  · intro jobId hne
    rw [snapshots_congr hlogs] at hne
    rw [hjobs, map_jobId_replaceJob]
    exact h.known jobId hne

lemma Recorded.settle {db db' : Database} {job row : Job} {event : Event} {c : Classification}
    (h : Recorded db) (hmem : job ∈ db.jobs) (hid : row.jobId = job.jobId)
    (hwas : job.status.active = true) (his : row.status.active = false)
    (hsnap : terminalSnapshot eventId row c .terminalCommit = .ok event)
    (hjobs : db'.jobs = replaceJob row db.jobs) (hlogs : db'.logs = db.logs ++ [event]) :
    Recorded db' := by
  have hin : row.jobId ∈ db.jobs.map Job.jobId := List.mem_map.mpr ⟨job, hmem, hid.symm⟩
  have hsnaps := snapshots_concat hsnap hlogs
  constructor
  · intro other hother hended
    rw [hjobs, mem_replaceJob hin] at hother
    rcases hother with rfl | ⟨hother, hne⟩
    · refine ⟨event, ?_, result_terminalSnapshot hsnap⟩
      rw [hsnaps, if_pos rfl, hid, h.active job hmem hwas, List.nil_append]
    · rw [hsnaps, if_neg hne]
      exact h.ended other hother hended
  · intro other hother hactive
    rw [hjobs, mem_replaceJob hin] at hother
    rcases hother with rfl | ⟨hother, hne⟩
    · rw [his] at hactive
      cases hactive
    · rw [hsnaps, if_neg hne]
      exact h.active other hother hactive
  · intro jobId hne
    rw [hjobs, map_jobId_replaceJob]
    rw [hsnaps] at hne
    split_ifs at hne with hjob
    · rwa [hjob]
    · exact h.known jobId hne

lemma Recorded.insert {db db' : Database} {row : Job} (h : Recorded db)
    (hrow : row.status.active = true) (hjobs : db'.jobs = db.jobs ++ [row])
    (hlogs : db'.logs = db.logs) : Recorded db' := by
  have hnew : row.jobId ∉ db.jobs.map Job.jobId := by
    have hnodup := db'.jobId_nodup
    rw [hjobs, List.map_append, List.map_singleton, List.nodup_append] at hnodup
    exact fun hin => hnodup.2.2 _ hin _ (List.mem_singleton_self _) rfl
  constructor
  · intro other hother hended
    rw [snapshots_congr hlogs]
    rw [hjobs, List.mem_append, List.mem_singleton] at hother
    rcases hother with hother | rfl
    · exact h.ended other hother hended
    · rw [hrow] at hended
      cases hended
  · intro other hother hactive
    rw [snapshots_congr hlogs]
    rw [hjobs, List.mem_append, List.mem_singleton] at hother
    rcases hother with hother | rfl
    · exact h.active other hother hactive
    · -- a job id that is new to the table is new to the log
      by_contra hne
      exact hnew (h.known _ hne)
  · intro jobId hne
    rw [snapshots_congr hlogs] at hne
    rw [hjobs, List.map_append]
    exact List.mem_append_left _ (h.known jobId hne)

/-- Every row that has ended is still in the table. -/
def KeepsEnded (db db' : Database) : Prop :=
  ∀ job ∈ db.jobs, job.status.active = false → job ∈ db'.jobs

lemma keepsEnded_replace {db db' : Database} {job row : Job} (hmem : job ∈ db.jobs)
    (hid : row.jobId = job.jobId) (hwas : job.status.active = true)
    (hjobs : db'.jobs = replaceJob row db.jobs) : KeepsEnded db db' := by
  intro other hother hended
  have hin : row.jobId ∈ db.jobs.map Job.jobId := List.mem_map.mpr ⟨job, hmem, hid.symm⟩
  rw [hjobs, mem_replaceJob hin]
  refine Or.inr ⟨hother, fun h => ?_⟩
  rw [eq_of_jobId_eq db.jobId_nodup hother hmem (h.trans hid), hwas] at hended
  cases hended

lemma Recorded.progress {db db' : Database} (h : Recorded db) (hp : Progress eventId db db') :
    Recorded db' ∧ KeepsEnded db db' := by
  cases hp with
  | refresh job row mem id lock was is jobs logs =>
      have hwas : job.status.active = true := by
        rw [was]
        rfl
      have his : row.status.active = true := by
        rw [is]
        rfl
      exact ⟨h.replace mem id hwas his jobs logs, keepsEnded_replace mem id hwas jobs⟩
  | settle job row event c mem id lock was is snapshot jobs logs =>
      exact ⟨h.settle mem id was is snapshot jobs logs, keepsEnded_replace mem id was jobs⟩

lemma Recorded.progresses {db db' : Database} (h : Recorded db)
    (hp : Relation.ReflTransGen (Progress eventId) db db') : Recorded db' ∧ KeepsEnded db db' := by
  induction hp with
  | refl => exact ⟨h, fun job hjob _ => hjob⟩
  | tail _ hlast ih =>
      have hstep := ih.1.progress hlast
      exact ⟨hstep.1, fun job hjob hended => hstep.2 job (ih.2 job hjob hended) hended⟩

/-- What a statement that meets the condition keeps. -/
lemma Recorded.execute {s : State} (h : Recorded s.db) {ts : List (JobProg Unit)} {a : Stmt}
    (hok : FindsActive s ts a) (eventId : Text → Text) (env : Env) :
    Recorded (execute eventId a env s).2.db ∧
      KeepsEnded s.db (execute eventId a env s).2.db := by
  cases execute_effect eventId a env s with
  | keep db =>
      rw [db]
      exact ⟨h, fun job hjob _ => hjob⟩
  | insert c stmt jobs logs =>
      refine ⟨h.insert rfl jobs logs, fun job hjob _ => ?_⟩
      rw [jobs]
      exact List.mem_append_left _ hjob
  | run jobId now row stmt set =>
      subst stmt
      obtain ⟨job, hmem, hjob, hrow, -⟩ := set.job
      have hid : row.jobId = job.jobId := hrow.trans hjob.symm
      have hwas := hok job hmem hjob
      have his : row.status.active = true := by
        rw [set.running]
        rfl
      exact ⟨h.replace hmem hid hwas his set.jobs set.logs,
        keepsEnded_replace hmem hid hwas set.jobs⟩
  | progress db => exact h.progresses db

lemma recorded_empty : Recorded Database.empty where
  ended _ hjob := absurd hjob List.not_mem_nil
  active _ hjob := absurd hjob List.not_mem_nil
  known _ hne := absurd rfl hne

/-- The job stands in the table with the outcome it ended with, and in exactly one snapshot. -/
structure OutcomeStands (job : Job) (db : Database) : Prop where
  row : ∃ row ∈ db.jobs, row.jobId = job.jobId ∧ row.status = job.status ∧
    row.errorCode = job.errorCode ∧ row.finishedAt = job.finishedAt
  snapshot : ∃ event, snapshots db job.jobId = [event] ∧
    event.details.map EventDetails.result = some (.str job.status.value)

/-- **Outcomes are final.**  In every interleaving in which `mark_job_running` sets no ended job
running, a job that has ended keeps its status, error code and end, and has exactly one snapshot,
with that status. -/
theorem terminal_outcome_final (eventId : Text → Text) (before after : List (Label Call Env))
    (hrun : Run.Along (jobSystem eventId).step (Guarded (fun _ => True) FindsActive) start
      (before ++ after))
    (job : Job) (hjob : job ∈ (before.foldl (jobSystem eventId).step start).state.db.jobs)
    (hended : job.status.active = false) :
    OutcomeStands job ((before ++ after).foldl (jobSystem eventId).step start).state.db := by
  obtain ⟨hbefore, hafter⟩ := Run.along_append.mp hrun
  have hrec : Recorded (before.foldl (jobSystem eventId).step start).state.db :=
    invariant_state (jobSystem eventId) (I := fun s => Recorded s.db)
      (fun s ts a env h hok => (h.execute hok eventId env).1) recorded_empty hbefore
  have hend : Recorded ((before ++ after).foldl (jobSystem eventId).step start).state.db ∧
      job ∈ ((before ++ after).foldl (jobSystem eventId).step start).state.db.jobs := by
    rw [List.foldl_append]
    refine invariant_state (jobSystem eventId) (I := fun s => Recorded s.db ∧ job ∈ s.db.jobs) ?_
      ⟨hrec, hjob⟩ hafter
    intro s ts a env h hok
    have hstep := h.1.execute hok eventId env
    exact ⟨hstep.1, hstep.2 job h.2 hended⟩
  exact ⟨⟨job, hend.2, rfl, rfl, rfl, rfl⟩, hend.1.ended job hend.2 hended⟩

/-! ## A job that is started twice -/

def sampleId : Text := "5f0c1c1e-6a52-4c0a-9a55-0f6f3d1f7a01".toList

/-- `_terminal_snapshot_event_id` of the sample job. -/
def sampleEventId (_ : Text) : Text := "24b63660-f9bd-55b6-80e7-0c0dd3f70580".toList

def idleSweep : Sweep := ⟨none, fun _ => []⟩

def sampleJob (lockKey : Option Text) : CreateArgs where
  jobId := sampleId
  jobType := "noop".toList
  lockKey := lockKey
  requestedBy := none
  inputJson := none
  eventContextJson := some "\x7b\x7d".toList
  artifactDir := none
  createdAt := "2026-01-01 00:00:00".toList
  sweep := fun _ => idleSweep

/-- The job as its success leaves it. -/
def succeededJob : Job :=
  { (sampleJob none).row with
    status := .success
    startedAt := some "2026-01-01 00:00:01".toList
    finishedAt := some "2026-01-01 00:00:02".toList
    updatedAt := "2026-01-01 00:00:02".toList }

/-- The job is created; two callers of `mark_job_running` read it as queued; the second sets it
running and it succeeds. -/
def twiceStarted : List (Label Call Env) :=
  [.call (.createJob (sampleJob none)), .run 0 {},
    .call (.markJobRunning sampleId "2026-01-01 00:00:01".toList), .run 1 {},
    .call (.markJobRunning sampleId "2026-01-01 00:00:01".toList), .run 2 {}, .run 2 {},
    .call (.markJobSuccess sampleId none "2026-01-01 00:00:02".toList), .run 3 {}]

/-- A late report of a failure. -/
def lateFailure : List (Label Call Env) :=
  [.call (.markJobFailed sampleId "LATE".toList [] none "2026-01-01 00:00:03".toList), .run 4 {}]

/-- The write of the first caller. -/
def lateStart : List (Label Call Env) := [.run 1 {}]

theorem terminal_outcome_final_lateFailure :
    Run.Along (jobSystem sampleEventId).step (Guarded (fun _ => True) FindsActive) start
        (twiceStarted ++ lateFailure) ∧
      OutcomeStands succeededJob
        ((twiceStarted ++ lateFailure).foldl (jobSystem sampleEventId).step start).state.db := by
  have hrun : Run.Along (jobSystem sampleEventId).step (Guarded (fun _ => True) FindsActive) start
      (twiceStarted ++ lateFailure) := by
    decide +kernel
  exact ⟨hrun, terminal_outcome_final sampleEventId twiceStarted lateFailure hrun succeededJob
    (by decide +kernel) rfl⟩

/-- The write of the first caller revives the job: it is running again, its success forgotten. -/
theorem terminal_outcome_revived :
    succeededJob ∈ (twiceStarted.foldl (jobSystem sampleEventId).step start).state.db.jobs ∧
      succeededJob.status.active = false ∧
      ¬OutcomeStands succeededJob
        ((twiceStarted ++ lateStart).foldl (jobSystem sampleEventId).step start).state.db := by
  have hstatus : ((twiceStarted ++ lateStart).foldl (jobSystem sampleEventId).step
      start).state.db.jobs.map Job.status = [.running] := by
    decide +kernel
  refine ⟨by decide +kernel, rfl, fun h => ?_⟩
  obtain ⟨row, hrow, -, hsame, -⟩ := h.row
  have := List.mem_map_of_mem (f := Job.status) hrow
  rw [hstatus, hsame] at this
  exact absurd this (by decide)

end FwRouter.Jobs
