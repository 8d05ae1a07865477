import FwRouter.Jobs.Calls

/-!
# What a statement does to the jobs table

Four things happen to the tables: a job is inserted, the unguarded `UPDATE` of `mark_job_running`
sets a job running, a running job is refreshed, and an active job is settled together with its
terminal snapshot.  The last two are guarded by the status in the `UPDATE` itself; they are the
steps of `Progress`.  `execute_cases` sorts every statement into these, so that an invariant of the
tables is checked against the four of them and never against the SQL again.
-/

namespace FwRouter.Jobs

open Py Interleave Run

/-- Put the row in the place of the one with its job id. -/
def replaceJob (row : Job) (jobs : List Job) : List Job :=
  jobs.map fun job => if job.jobId = row.jobId then row else job

section Rows

variable {jobs : List Job} {row job : Job}

lemma eq_of_jobId_eq (h : (jobs.map Job.jobId).Nodup) {a b : Job} (ha : a ∈ jobs) (hb : b ∈ jobs)
    (hab : a.jobId = b.jobId) : a = b :=
  List.inj_on_of_nodup_map h ha hb hab

lemma mem_replaceJob (hrow : row.jobId ∈ jobs.map Job.jobId) :
    job ∈ replaceJob row jobs ↔ job = row ∨ (job ∈ jobs ∧ job.jobId ≠ row.jobId) := by
  rw [replaceJob, List.mem_map]
  constructor
  · rintro ⟨old, hold, rfl⟩
    split_ifs with hid
    · exact Or.inl rfl
    · exact Or.inr ⟨hold, hid⟩
  · rintro (rfl | ⟨hmem, hid⟩)
    · obtain ⟨old, hold, hid⟩ := List.mem_map.mp hrow
      exact ⟨old, hold, if_pos hid⟩
    · exact ⟨job, hmem, if_neg hid⟩

/-- A guarded `UPDATE` of one job touches no row, or the one row with the id that meets the
guard. -/
lemma updateWhere_cases (h : (jobs.map Job.jobId).Nodup) (jobId : Text) (guard : Job → Bool)
    (set : Job → Job) (hset : ∀ job, (set job).jobId = job.jobId) :
    let wh := fun job : Job => decide (job.jobId = jobId) && guard job
    (updateWhere wh set jobs = jobs ∧ jobs.countP wh = 0) ∨
      ∃ job ∈ jobs, job.jobId = jobId ∧ guard job = true ∧
        updateWhere wh set jobs = replaceJob (set job) jobs ∧ jobs.countP wh = 1 := by
  intro wh
  by_cases hany : ∃ job ∈ jobs, wh job = true
  · right
    obtain ⟨job, hmem, hwh⟩ := hany
    have hid : job.jobId = jobId := by
      simp only [wh, Bool.and_eq_true, decide_eq_true_eq] at hwh
      exact hwh.1
    have hguard : guard job = true := by
      simp only [wh, Bool.and_eq_true] at hwh
      exact hwh.2
    have hiff : ∀ other ∈ jobs, wh other = true ↔ other = job := by
      intro other hother
      constructor
      · intro hw
        simp only [wh, Bool.and_eq_true, decide_eq_true_eq] at hw
        exact eq_of_jobId_eq h hother hmem (hw.1.trans hid.symm)
      · rintro rfl
        exact hwh
    refine ⟨job, hmem, hid, hguard, ?_, ?_⟩
    · refine List.map_congr_left fun other hother => ?_
      rw [hset]
      by_cases he : other = job
      · subst he
        rw [if_pos hwh, if_pos rfl]
      · have hne : other.jobId ≠ job.jobId := fun hn => he (eq_of_jobId_eq h hother hmem hn)
        rw [if_neg (fun hw => he ((hiff other hother).mp hw)), if_neg hne]
    · have hcongr : jobs.countP wh = jobs.countP fun other => decide (other = job) :=
        List.countP_congr fun other hother => by rw [hiff other hother, decide_eq_true_eq]
      rw [hcongr]
      have hone := List.count_eq_one_of_mem (List.Nodup.of_map _ h) hmem
      simpa only [List.count, beq_eq_decide] using hone
  · left
    push Not at hany
    refine ⟨?_, List.countP_eq_zero.mpr fun job hjob => hany job hjob⟩
    rw [updateWhere]
    conv_rhs => rw [← List.map_id' jobs]
    exact List.map_congr_left fun job hjob => if_neg (hany job hjob)

lemma find?_replaceJob (hrow : row.jobId ∈ jobs.map Job.jobId) :
    (replaceJob row jobs).find? (fun job => decide (job.jobId = row.jobId)) = some row := by
  have hmem : row ∈ replaceJob row jobs := (mem_replaceJob hrow).mpr (Or.inl rfl)
  obtain ⟨found, hfound⟩ : ∃ found, (replaceJob row jobs).find?
      (fun job => decide (job.jobId = row.jobId)) = some found :=
    Option.isSome_iff_exists.mp (List.find?_isSome.mpr ⟨row, hmem, decide_eq_true rfl⟩)
  rw [hfound]
  have hid : found.jobId = row.jobId := by simpa using List.find?_some hfound
  rcases (mem_replaceJob hrow).mp (List.mem_of_find?_eq_some hfound) with he | ⟨-, hne⟩
  · rw [he]
  · exact absurd hid hne

end Rows

lemma store_ok {jobs : List Job} {logs : List Event} {db : Database}
    (h : Database.store jobs logs = .ok db) : db.jobs = jobs ∧ db.logs = logs := by
  rw [Database.store] at h
  split_ifs at h with hok
  cases h
  exact ⟨rfl, rfl⟩

/-- Writing the tables back as they are succeeds. -/
lemma store_self (db : Database) : Database.store db.jobs db.logs = .ok db := by
  rw [Database.store, dif_pos ⟨db.jobId_nodup, db.activeLock_nodup, db.eventId_nodup⟩]

/-! ## Progress -/

variable (eventId : Text → Text)

/-- One guarded write: a running job is refreshed, or an active job is settled and its snapshot
is written. -/
inductive Progress (db db' : Database) : Prop
  | refresh (job row : Job) (mem : job ∈ db.jobs) (id : row.jobId = job.jobId)
      (lock : row.lockKey = job.lockKey) (was : job.status = .running) (is : row.status = .running)
      (jobs : db'.jobs = replaceJob row db.jobs) (logs : db'.logs = db.logs)
  | settle (job row : Job) (event : Event) (c : Classification) (mem : job ∈ db.jobs)
      (id : row.jobId = job.jobId) (lock : row.lockKey = job.lockKey)
      (was : job.status.active = true) (is : row.status.active = false)
      (snapshot : terminalSnapshot eventId row c .terminalCommit = .ok event)
      (jobs : db'.jobs = replaceJob row db.jobs) (logs : db'.logs = db.logs ++ [event])

/-- `mark_job_running`'s `UPDATE` found a row. -/
structure SetRunning (jobId : Text) (db db' : Database) (row : Job) : Prop where
  job : ∃ job ∈ db.jobs, job.jobId = jobId ∧ row.jobId = jobId ∧ row.lockKey = job.lockKey
  running : row.status = .running
  jobs : db'.jobs = replaceJob row db.jobs
  logs : db'.logs = db.logs

variable {eventId}

lemma settleWhere_cases {jobId : Text} {guard : Job → Bool} {set : Job → Job}
    {c : Classification} {db db' : Database} {r : Option Job × Bool}
    (hset : ∀ job, (set job).jobId = job.jobId ∧ (set job).lockKey = job.lockKey ∧
      (set job).status.active = false)
    (hguard : ∀ job, guard job = true → job.status.active = true)
    (h : settleWhere eventId jobId guard set c db = .ok (r, db')) :
    db' = db ∨ Progress eventId db db' := by
  rw [settleWhere] at h
  rcases updateWhere_cases db.jobId_nodup jobId guard set (fun job => (hset job).1) with
    ⟨hupd, hcount⟩ | ⟨job, hmem, hid, hg, hupd, hcount⟩
  · left
    rw [hupd, hcount, store_self] at h
    cases hfind : db.jobs.find? (fun job => decide (job.jobId = jobId)) with
    | none =>
        rw [hfind] at h
        cases h
        rfl
    | some row =>
        rw [hfind] at h
        cases h
        rfl
  · right
    have hid' : (set job).jobId = jobId := (hset job).1.trans hid
    have hin : (set job).jobId ∈ db.jobs.map Job.jobId :=
      List.mem_map.mpr ⟨job, hmem, (hset job).1.symm⟩
    have hfind := find?_replaceJob hin
    rw [hid'] at hfind
    rw [hupd, hcount, hfind] at h
    simp only [beq_self_eq_true] at h
    cases hsnap : terminalSnapshot eventId (set job) c .terminalCommit with
    | error e => simp [hsnap, bind, Except.bind] at h
    | ok event =>
        cases hstore : Database.store (replaceJob (set job) db.jobs) (db.logs ++ [event]) with
        | error e => simp [hsnap, hstore, bind, Except.bind] at h
        | ok stored =>
            simp only [hsnap, hstore, bind, Except.bind, pure, Except.pure, Except.ok.injEq,
              Prod.mk.injEq] at h
            obtain ⟨hjobs, hlogs⟩ := store_ok hstore
            rw [← h.2]
            exact .settle job (set job) event c hmem (hset job).1 (hset job).2.1 (hguard job hg)
              (hset job).2.2 hsnap hjobs hlogs

lemma finishJob_cases {jobId : Text} {o : Outcome} {now : Text} {db db' : Database}
    {r : Option Job} (h : finishJob eventId jobId o now db = .ok (r, db')) :
    db' = db ∨ Progress eventId db db' := by
  rw [finishJob] at h
  obtain ⟨done, hdone, h⟩ := exists_of_bind_eq_ok h
  cases h
  refine settleWhere_cases ?_ ?_ hdone
  · exact fun job => ⟨rfl, rfl, o.terminal⟩
  · intro job hg
    rw [of_decide_eq_true hg]
    rfl

lemma expireJob_cases {cutoff finishedAt : Text} {stale : ActiveJob} {db db' : Database}
    {r : Option Job × Bool} (h : expireJob eventId cutoff stale finishedAt db = .ok (r, db')) :
    db' = db ∨ Progress eventId db db' := by
  rw [expireJob] at h
  refine settleWhere_cases ?_ ?_ h
  · exact fun job => ⟨rfl, rfl, rfl⟩
  · intro job hg
    simp only [Bool.and_eq_true, decide_eq_true_eq] at hg
    rw [hg.1, stale.2]

lemma expireStale_cases {cutoff : Text} : ∀ {stale : List ActiveJob} {finishedAt : Nat → Text}
    {db db' : Database} {r : List Job},
    expireStale eventId cutoff finishedAt stale db = .ok (r, db') →
    Relation.ReflTransGen (Progress eventId) db db' := by
  intro stale
  induction stale with
  | nil =>
      intro _ db db' r h
      cases h
      exact .refl
  | cons job rest ih =>
      intro finishedAt db db' r h
      rw [expireStale] at h
      obtain ⟨done, hdone, h⟩ := exists_of_bind_eq_ok h
      obtain ⟨moved, hmoved, h⟩ := exists_of_bind_eq_ok h
      cases h
      have hrest := ih hmoved
      rcases expireJob_cases hdone with h | h
      · rwa [h] at hrest
      · exact .head h hrest

lemma updateWhileRunning_cases {jobId : Text} {set : Job → Job} {db db' : Database}
    {r : Option Job}
    (hset : ∀ job, (set job).jobId = job.jobId ∧ (set job).lockKey = job.lockKey ∧
      (set job).status = job.status)
    (h : updateWhileRunning jobId set db = .ok (r, db')) : db' = db ∨ Progress eventId db db' := by
  rw [updateWhileRunning] at h
  obtain ⟨stored, hstore, h⟩ := exists_of_bind_eq_ok h
  cases h
  obtain ⟨hjobs, hlogs⟩ := store_ok hstore
  have hwh : (fun job : Job => decide (job.jobId = jobId ∧ job.status = .running)) =
      fun job => decide (job.jobId = jobId) && decide (job.status = .running) := by
    funext job
    exact Bool.decide_and _ _
  rw [hwh] at hstore hjobs
  rcases updateWhere_cases db.jobId_nodup jobId (fun job => decide (job.status = .running)) set
      (fun job => (hset job).1) with ⟨hupd, -⟩ | ⟨job, hmem, hid, hg, hupd, -⟩
  · left
    rw [hupd, store_self] at hstore
    cases hstore
    rfl
  · right
    have hrun : job.status = .running := of_decide_eq_true hg
    exact .refresh job (set job) hmem (hset job).1 (hset job).2.1 hrun
      ((hset job).2.2.trans hrun) (hjobs.trans hupd) hlogs

lemma insertJob_ok {job r : Job} {db db' : Database} (h : insertJob job db = .ok (r, db')) :
    db'.jobs = db.jobs ++ [job] ∧ db'.logs = db.logs := by
  rw [insertJob] at h
  obtain ⟨stored, hstore, h⟩ := exists_of_bind_eq_ok h
  cases h
  exact store_ok hstore

lemma updateRunning_ok {jobId now : Text} {r : Option Job} {db db' : Database}
    (h : updateRunning jobId now db = .ok (r, db')) :
    ∃ row, r = some row ∧ SetRunning jobId db db' row := by
  rw [updateRunning] at h
  obtain ⟨stored, hstore, h⟩ := exists_of_bind_eq_ok h
  obtain ⟨hjobs, hlogs⟩ := store_ok hstore
  have hwh : (fun job : Job => decide (job.jobId = jobId)) =
      fun job => decide (job.jobId = jobId) && true := by
    funext job
    rw [Bool.and_true]
  rw [hwh] at hjobs
  let set := fun job : Job =>
    { job with status := .running, startedAt := some now, updatedAt := now }
  rcases updateWhere_cases db.jobId_nodup jobId (fun _ => true) set (fun job => rfl) with ⟨hupd, hcount⟩ | ⟨job, hmem, hid, -, hupd, -⟩
  · -- no row with this id: the `SELECT` that follows finds none either
    have hnone : stored.selectJob jobId = none := by
      rw [Database.selectJob, hjobs, hupd, List.find?_eq_none]
      intro job hjob
      have := List.countP_eq_zero.mp hcount job hjob
      rwa [Bool.and_true] at this
    rw [hnone] at h
    cases h
  · have hin : (set job).jobId ∈ db.jobs.map Job.jobId := List.mem_map.mpr ⟨job, hmem, rfl⟩
    have hsel : stored.selectJob jobId = some (set job) := by
      rw [Database.selectJob, hjobs, hupd, ← hid]
      exact find?_replaceJob hin
    rw [hsel] at h
    cases h
    exact ⟨_, rfl, ⟨job, hmem, hid, hid, rfl⟩, rfl, hjobs.trans hupd, hlogs⟩

/-! ## Statements -/

/-- What a statement can do to the tables. -/
inductive Effect (eventId : Text → Text) (a : Stmt) (s s' : State) : Prop
  | keep (db : s'.db = s.db)
  | insert (c : CreateArgs) (stmt : a = .insertJob c) (jobs : s'.db.jobs = s.db.jobs ++ [c.row])
      (logs : s'.db.logs = s.db.logs)
  | run (jobId now : Text) (row : Job) (stmt : a = .updateRunning jobId now)
      (set : SetRunning jobId s.db s'.db row)
  | progress (db : Relation.ReflTransGen (Progress eventId) s.db s'.db)

lemma transact_cases {α : Type} (s : State) (env : Env)
    (f : Database → Except JobError (α × Database)) :
    (∃ e, s.transact env f = (.error e, s)) ∨
      ∃ r db', f s.db = .ok (r, db') ∧ s.transact env f = (.ok r, { s with db := db' }) := by
  rw [State.transact]
  split_ifs with hfault
  · exact Or.inl ⟨_, rfl⟩
  · cases hf : f s.db with
    | error e => exact Or.inl ⟨e, rfl⟩
    | ok done => exact Or.inr ⟨done.1, done.2, rfl, rfl⟩

lemma Effect.of_transact {α : Type} {a : Stmt} {s : State} {env : Env}
    {f : Database → Except JobError (α × Database)}
    (h : ∀ r db', f s.db = .ok (r, db') → Effect eventId a s { s with db := db' }) :
    Effect eventId a s (s.transact env f).2 := by
  rcases transact_cases s env f with ⟨e, ht⟩ | ⟨r, db', hf, ht⟩
  · rw [ht]
    exact .keep rfl
  · rw [ht]
    exact h r db' hf

lemma Effect.of_step {a : Stmt} {s : State} {db' : Database}
    (h : db' = s.db ∨ Progress eventId s.db db') : Effect eventId a s { s with db := db' } := by
  rcases h with rfl | h
  · exact .keep rfl
  · exact .progress (.single h)

/-- **The effect of a statement.** -/
theorem execute_effect (eventId : Text → Text) (a : Stmt) (env : Env) (s : State) :
    Effect eventId a s (execute eventId a env s).2 := by
  cases a with
  | selectStale cutoff => exact Effect.of_transact fun r db' h => by cases h; exact .keep rfl
  | findConflict lockKey exclude =>
      exact Effect.of_transact fun r db' h => by cases h; exact .keep rfl
  | selectJob jobId => exact Effect.of_transact fun r db' h => by cases h; exact .keep rfl
  | selectForRunning jobId => exact Effect.of_transact fun r db' h => by cases h; exact .keep rfl
  | expireStale cutoff stale finishedAt =>
      exact Effect.of_transact fun r db' h => .progress (expireStale_cases h)
  | insertJob c =>
      exact Effect.of_transact fun r db' h => .insert c rfl (insertJob_ok h).1 (insertJob_ok h).2
  | updateRunning jobId now =>
      refine Effect.of_transact fun r db' h => ?_
      obtain ⟨row, -, hset⟩ := updateRunning_ok h
      exact .run jobId now row rfl hset
  | touchRunning jobId now =>
      refine Effect.of_transact fun r db' h => .of_step (updateWhileRunning_cases ?_ h)
      exact fun job => ⟨rfl, rfl, rfl⟩
  | updateRunningResult jobId resultJson now =>
      refine Effect.of_transact fun r db' h => .of_step (updateWhileRunning_cases ?_ h)
      exact fun job => ⟨rfl, rfl, rfl⟩
  | finish jobId o now => exact Effect.of_transact fun r db' h => .of_step (finishJob_cases h)
  | claimWorker w =>
      rw [execute]
      split_ifs with hlive
      · exact .keep rfl
      · exact .keep rfl
  | releaseWorker w => exact .keep rfl
  | invokeHandler jobId => exact .keep rfl

end FwRouter.Jobs
