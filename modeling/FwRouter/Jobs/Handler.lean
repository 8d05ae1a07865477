import FwRouter.Jobs.Locks

/-!
# Handler invocations

`run_job` invokes the handler when the row that `mark_job_running` returns is running.  The row
does not say who set it running: a second `run_job` that reads the job while the first one works on
it gets a running row as well, and so does one whose `UPDATE` comes after the first one's.  The
`_workers` table keeps `start_job` of one manager from starting two live workers, but not
`run_job`, nor another manager.

The handler of a job is invoked at most once in every interleaving in which no `mark_job_running`
reads the job as running and each `UPDATE` of one finds the job still queued.
-/

namespace FwRouter.Jobs

open Py Interleave

/-- `mark_job_running` never reads the job as running, and its `UPDATE` finds the job queued. -/
def ClaimsQueued (jobId : Text) (s : State) (_ : List (JobProg Unit)) : Stmt → Prop
  | .selectForRunning id => id = jobId → ∀ job ∈ s.db.jobs, job.jobId = jobId → job.status ≠ .running
  | .updateRunning id _ => id = jobId → ∀ job ∈ s.db.jobs, job.jobId = jobId → job.status = .queued
  | _ => True

instance (jobId : Text) (s : State) (ts : List (JobProg Unit)) :
    ∀ a, Decidable (ClaimsQueued jobId s ts a)
  | .selectForRunning id =>
      inferInstanceAs (Decidable (id = jobId → ∀ job ∈ s.db.jobs, job.jobId = jobId → _))
  | .updateRunning id _ =>
      inferInstanceAs (Decidable (id = jobId → ∀ job ∈ s.db.jobs, job.jobId = jobId → _))
  | .findConflict .. => isTrue trivial
  | .selectStale _ => isTrue trivial
  | .expireStale .. => isTrue trivial
  | .selectJob _ => isTrue trivial
  | .insertJob _ => isTrue trivial
  | .touchRunning .. => isTrue trivial
  | .updateRunningResult .. => isTrue trivial
  | .finish .. => isTrue trivial
  | .claimWorker _ => isTrue trivial
  | .releaseWorker _ => isTrue trivial
  | .invokeHandler _ => isTrue trivial

/-! ## The protocol of `run_job` -/

/-- The job that the call has just seen running. -/
def sawRunning (_ : Option Text) : (a : Stmt) → Except JobError a.Reply → Option Text
  | .selectForRunning id, .ok (some row) => if row.status = .running then some id else none
  | .updateRunning id _, .ok (some _) => some id
  | _, _ => none

/-- A handler is invoked right after its job was seen running. -/
def InvokesRunning (c : Option Text) : Stmt → Prop
  | .invokeHandler id => c = some id
  | _ => True

abbrev KeepsHandlers (c : Option Text) (p : JobProg Unit) : Prop :=
  Keeps sawRunning InvokesRunning (fun _ _ => True) c p

lemma invokesRunning_of_plain (a : Stmt) (h : a.Plain) (c : Option Text) : InvokesRunning c a := by
  cases a with
  | invokeHandler id => exact h.elim
  | _ => exact trivial

/-- A call whose statements are allowed in every phase. -/
lemma keeps_of_only {ρ : Type} {Q : Option Text → Except JobError ρ → Prop} (hQ : ∀ c r, Q c r)
    {p : JobProg ρ} (h : p.Only fun a => ∀ c, InvokesRunning c a) (c : Option Text) :
    Keeps sawRunning InvokesRunning Q c p :=
  Keeps.of_only (fun c _ ha => ha c) hQ h c

lemma keeps_markJobRunning {Q : Option Text → Except JobError (Option Job) → Prop} {jobId now : Text}
    (hrun : ∀ job, Q (some jobId) (.ok (some job)))
    (hother : ∀ job : Job, job.status ≠ .running → Q none (.ok (some job)))
    (hnone : Q none (.ok none)) (herror : ∀ e, Q none (.error e)) (c : Option Text) :
    Keeps sawRunning InvokesRunning Q c (markJobRunning jobId now) := by
  refine ⟨trivial, fun r => ?_⟩
  match r with
  | .error e => exact herror e
  | .ok none => exact hnone
  | .ok (some row) =>
      simp only [Prog.bind, sawRunning]
      by_cases hqueued : row.status = .queued
      · rw [if_neg (not_not.mpr hqueued)]
        refine ⟨trivial, fun r => ?_⟩
        match r with
        | .error e => exact herror e
        | .ok none => exact hnone
        | .ok (some row) => exact hrun row
      · rw [if_pos hqueued]
        by_cases hrunning : row.status = .running
        · rw [if_pos hrunning]
          exact hrun row
        · rw [if_neg hrunning]
          exact hother row hrunning

lemma keeps_runJob {Q : Option Text → Except JobError (Option Job) → Prop} (hQ : ∀ c r, Q c r)
    (a : RunArgs) (c : Option Text) : Keeps sawRunning InvokesRunning Q c (runJob a) := by
  refine Keeps.bind (keeps_of_only ?_ (only_cleanupStaleRunningJobs invokesRunning_of_plain _) c)
  intro c r
  cases r with
  | error e => exact hQ _ _
  | ok rows =>
      refine Keeps.bind (keeps_markJobRunning ?_ ?_ ?_ ?_ c)
      · intro job
        dsimp only
        split_ifs
        · exact hQ _ _
        · refine ⟨rfl, fun r => ?_⟩
          cases r with
          | error e => exact hQ _ _
          | ok outcome => exact keeps_of_only hQ (only_settleHandler invokesRunning_of_plain a _) _
        · exact ⟨trivial, fun r => hQ _ _⟩
      · intro job hne
        dsimp only
        rw [if_pos hne]
        exact hQ _ _
      · exact hQ _ _
      · exact fun e => hQ _ _

lemma keeps_runJobWorker (w : Worker) (c : Option Text) : KeepsHandlers c (runJobWorker w) := by
  refine Keeps.bind (Keeps.tryExcept (keeps_runJob (fun c r => ?_) w.run c))
  cases r with
  | error e =>
      refine ⟨trivial, fun r => ?_⟩
      cases r with
      | error e => exact trivial
      | ok u => exact trivial
  | ok job => exact ⟨trivial, fun r => trivial⟩

lemma keepsHandlers_prog (c : Call) : KeepsHandlers none c.prog := by
  by_cases hrun : ∃ a, c = .runJob a
  · obtain ⟨a, rfl⟩ := hrun
    refine Keeps.bind (keeps_runJob (fun c r => ?_) a none)
    cases r with
    | error e => exact trivial
    | ok job => exact trivial
  · by_cases hwork : ∃ w, c = .runJobWorker w
    · obtain ⟨w, rfl⟩ := hwork
      exact keeps_runJobWorker w none
    · refine keeps_of_only (fun _ _ => trivial) (only_prog invokesRunning_of_plain c ?_ ?_ ?_) none
      · exact fun _ _ _ => trivial
      · exact fun a ha => absurd ⟨a, ha⟩ hrun
      · exact fun w hw => absurd ⟨w, hw⟩ hwork

/-! ## Counting invocations -/

section Counting

variable (jobId : Text)

/-- The call invokes the handler of the job next. -/
def invokesNext (p : JobProg Unit) : Bool :=
  match p.next with
  | some (.invokeHandler id) => decide (id = jobId)
  | _ => false

/-- The invocations of the handler, past and due. -/
def invocations (g : Config State JobError Stmt.Reply) : Nat :=
  g.state.invoked.count jobId + g.threads.countP (invokesNext jobId)

/-- The job has left the queue for good. -/
def Dequeued (db : Database) : Prop := ∃ job ∈ db.jobs, job.jobId = jobId ∧ job.status ≠ .queued

structure InvokedOnce (g : Config State JobError Stmt.Reply) : Prop where
  keeps : ∀ p ∈ g.threads, ∃ c, KeepsHandlers c p
  once : invocations jobId g ≤ 1
  dequeued : invocations jobId g ≠ 0 → Dequeued jobId g.state.db

variable {jobId}

lemma phase_of_invokesNext {c : Option Text} {p : JobProg Unit} (h : KeepsHandlers c p)
    (hp : invokesNext jobId p = true) : c = some jobId := by
  cases p with
  | ret r => cases hp
  | act a k =>
      cases a with
      | invokeHandler id =>
          rw [← of_decide_eq_true hp]
          exact h.1
      | _ => cases hp

lemma countP_invokesNext_of_none {calls : List (JobProg Unit)}
    (h : ∀ p ∈ calls, KeepsHandlers none p) : calls.countP (invokesNext jobId) = 0 :=
  List.countP_eq_zero.mpr fun p hp hnext => absurd (phase_of_invokesNext (h p hp) hnext) (by simp)

/-- Calls that have just been started invoke no handler yet. -/
lemma InvokedOnce.start {g : Config State JobError Stmt.Reply} (h : InvokedOnce jobId g)
    {calls : List (JobProg Unit)} (hcalls : ∀ p ∈ calls, KeepsHandlers none p) :
    InvokedOnce jobId ⟨g.state, g.threads ++ calls⟩ := by
  have hsame : invocations jobId ⟨g.state, g.threads ++ calls⟩ = invocations jobId g := by
    simp only [invocations, List.countP_append, countP_invokesNext_of_none hcalls, Nat.add_zero]
  refine ⟨fun p hp => ?_, hsame ▸ h.once, hsame ▸ h.dequeued⟩
  rcases List.mem_append.mp hp with hp | hp
  · exact h.keeps p hp
  · exact ⟨none, hcalls p hp⟩

lemma dequeued_replace {db db' : Database} {job row : Job} (h : Dequeued jobId db)
    (hmem : job ∈ db.jobs) (hid : row.jobId = job.jobId) (hrow : row.status ≠ .queued)
    (hjobs : db'.jobs = replaceJob row db.jobs) : Dequeued jobId db' := by
  have hin : row.jobId ∈ db.jobs.map Job.jobId := List.mem_map.mpr ⟨job, hmem, hid.symm⟩
  obtain ⟨old, hold, hjob, hleft⟩ := h
  by_cases hsame : old.jobId = row.jobId
  · refine ⟨row, ?_, hsame ▸ hjob, hrow⟩
    rw [hjobs]
    exact (mem_replaceJob hin).mpr (Or.inl rfl)
  · refine ⟨old, ?_, hjob, hleft⟩
    rw [hjobs]
    exact (mem_replaceJob hin).mpr (Or.inr ⟨hold, hsame⟩)

lemma Dequeued.progress {eventId : Text → Text} {db db' : Database} (h : Dequeued jobId db)
    (hp : Relation.ReflTransGen (Progress eventId) db db') : Dequeued jobId db' := by
  induction hp with
  | refl => exact h
  | tail _ hlast ih =>
      cases hlast with
      | refresh job row mem id lock was is jobs logs =>
          exact dequeued_replace ih mem id (by rw [is]; decide) jobs
      | settle job row event c mem id lock was is snapshot jobs logs =>
          refine dequeued_replace ih mem id (fun hq => ?_) jobs
          rw [hq] at is
          cases is

/-- No statement puts a job back into the queue. -/
lemma Dequeued.execute {s : State} (h : Dequeued jobId s.db) (eventId : Text → Text) (a : Stmt)
    (env : Env) : Dequeued jobId (execute eventId a env s).2.db := by
  cases execute_effect eventId a env s with
  | keep db => rwa [db]
  | insert c stmt jobs logs =>
      obtain ⟨job, hmem, hjob⟩ := h
      refine ⟨job, ?_, hjob⟩
      rw [jobs]
      exact List.mem_append_left _ hmem
  | run id now row stmt set =>
      obtain ⟨job, hmem, hid, hrow, -⟩ := set.job
      exact dequeued_replace h hmem (hrow.trans hid.symm) (by rw [set.running]; decide) set.jobs
  | progress db => exact h.progress db

lemma mem_of_selectJob {db : Database} {id : Text} {row : Job} (h : db.selectJob id = some row) :
    row ∈ db.jobs ∧ row.jobId = id :=
  ⟨List.mem_of_find?_eq_some h, by simpa using List.find?_some h⟩

/-- Under the condition, a call sees the job running only by its own `UPDATE`, which took the job
out of the queue. -/
lemma dequeued_of_sawRunning {eventId : Text → Text} {c : Option Text} {a : Stmt} {env : Env}
    {s : State} {ts : List (JobProg Unit)} (hok : ClaimsQueued jobId s ts a)
    (h : sawRunning c a (execute eventId a env s).1 = some jobId) :
    ¬Dequeued jobId s.db ∧ Dequeued jobId (execute eventId a env s).2.db := by
  cases a with
  | selectForRunning id =>
      rcases transact_cases s env (fun db => .ok (db.selectJob id, db)) with
        ⟨e, ht⟩ | ⟨r, db', hf, ht⟩
      · rw [execute, State.read, ht] at h
        cases h
      · rw [execute, State.read, ht] at h
        cases hf
        cases hrow : s.db.selectJob id with
        | none =>
            rw [hrow] at h
            cases h
        | some row =>
            rw [hrow, sawRunning] at h
            split_ifs at h with hrunning
            cases h
            obtain ⟨hmem, hid⟩ := mem_of_selectJob hrow
            exact absurd hrunning (hok rfl row hmem hid)
  | updateRunning id now =>
      rcases transact_cases s env (updateRunning id now) with ⟨e, ht⟩ | ⟨r, db', hf, ht⟩
      · rw [execute, ht] at h
        cases h
      · obtain ⟨row, rfl, hset⟩ := updateRunning_ok hf
        rw [execute, ht] at h ⊢
        cases h
        obtain ⟨job, hmem, hid, hrow, -⟩ := hset.job
        refine ⟨?_, row, ?_, hrow, by rw [hset.running]; decide⟩
        · rintro ⟨old, hold, hold', hleft⟩
          exact hleft (hok rfl old hold hold')
        · have hin : row.jobId ∈ s.db.jobs.map Job.jobId :=
            List.mem_map.mpr ⟨job, hmem, hid.trans hrow.symm⟩
          rw [hset.jobs]
          exact (mem_replaceJob hin).mpr (Or.inl rfl)
  | _ => cases h

lemma invoked_transact {α : Type} (s : State) (env : Env)
    (f : Database → Except JobError (α × Database)) : (s.transact env f).2.invoked = s.invoked := by
  rcases transact_cases s env f with ⟨e, ht⟩ | ⟨r, db', -, ht⟩
  · rw [ht]
  · rw [ht]

/-- An invocation that was due is one that has happened. -/
lemma count_invoked (eventId : Text → Text) (a : Stmt) (env : Env) (s : State)
    (k : Except JobError a.Reply → JobProg Unit) :
    (execute eventId a env s).2.invoked.count jobId =
      s.invoked.count jobId + if invokesNext jobId (.act a k) then 1 else 0 := by
  cases a with
  | invokeHandler id =>
      rw [execute, List.count_cons]
      simp [invokesNext, Prog.next]
  | claimWorker w =>
      refine congrArg (List.count jobId) ?_
      rw [execute]
      split_ifs
      · rfl
      · rfl
  | releaseWorker w => rfl
  | _ =>
      refine congrArg (List.count jobId) ?_
      exact invoked_transact s env _

/-- One statement of one call adds to the invocations exactly what it makes due. -/
lemma invocations_execute (jobId : Text) (eventId : Text → Text) (s : State)
    (before after : List (JobProg Unit)) (a : Stmt) (k : Except JobError a.Reply → JobProg Unit)
    (env : Env) :
    invocations jobId ⟨(execute eventId a env s).2, before ++ k (execute eventId a env s).1 :: after⟩ =
      invocations jobId ⟨s, before ++ .act a k :: after⟩ +
        if invokesNext jobId (k (execute eventId a env s).1) then 1 else 0 := by
  simp only [invocations, List.countP_append, List.countP_cons, count_invoked eventId a env s k]
  omega

lemma InvokedOnce.statement {s : State} {before after : List (JobProg Unit)} {a : Stmt}
    {k : Except JobError a.Reply → JobProg Unit}
    (h : InvokedOnce jobId ⟨s, before ++ .act a k :: after⟩) {ts : List (JobProg Unit)}
    (hok : ClaimsQueued jobId s ts a) (eventId : Text → Text) (env : Env) :
    InvokedOnce jobId
      ⟨(execute eventId a env s).2, before ++ k (execute eventId a env s).1 :: after⟩ := by
  obtain ⟨c, -, hkeeps⟩ := h.keeps (.act a k) (by simp)
  have hnext := hkeeps (execute eventId a env s).1
  have hcount := invocations_execute jobId eventId s before after a k env
  have hall : ∀ p ∈ before ++ k (execute eventId a env s).1 :: after, ∃ c, KeepsHandlers c p := by
    intro p hp
    rcases List.mem_append.mp hp with hp | hp
    · exact h.keeps p (List.mem_append_left _ hp)
    · rcases List.mem_cons.mp hp with rfl | hp
      · exact ⟨_, hnext⟩
      · exact h.keeps p (List.mem_append_right _ (List.mem_cons_of_mem _ hp))
  by_cases hdue : invokesNext jobId (k (execute eventId a env s).1) = true
  · -- the job was still queued, so that no invocation had happened or was due
    obtain ⟨hbefore, hafter⟩ := dequeued_of_sawRunning hok (phase_of_invokesNext hnext hdue)
    have hzero : invocations jobId ⟨s, before ++ .act a k :: after⟩ = 0 := by
      by_contra hne
      exact hbefore (h.dequeued hne)
    refine ⟨hall, ?_, fun _ => hafter⟩
    rw [hcount, hzero, if_pos hdue]
  · rw [if_neg hdue, Nat.add_zero] at hcount
    refine ⟨hall, hcount ▸ h.once, fun hne => ?_⟩
    exact (h.dequeued (hcount ▸ hne)).execute eventId a env

end Counting

/-- **One invocation.**  In every interleaving of calls, of any number of managers, in which no
`mark_job_running` reads the job as running and each `UPDATE` of one finds it queued, the handler
of the job is invoked at most once. -/
theorem handler_invoked_once (eventId : Text → Text) (jobId : Text) (labels : List (Label Call Env))
    (hrun : Run.Along (jobSystem eventId).step (Guarded (fun _ => True) (ClaimsQueued jobId)) start
      labels) :
    (labels.foldl (jobSystem eventId).step start).state.invoked.count jobId ≤ 1 := by
  have hstart : InvokedOnce jobId start := by
    refine ⟨?_, Nat.zero_le 1, ?_⟩
    · exact fun p hp => absurd hp List.not_mem_nil
    · exact fun h => absurd rfl h
  have hend := Run.Along.keeps (I := InvokedOnce jobId) ?_ hstart hrun
  · exact (Nat.le_add_right _ _).trans hend.once
  intro g l h hok
  rcases step_cases (S := jobSystem eventId) hok with
    hstep | ⟨c, -, -, hstep⟩ | ⟨before, a, k, after, env, hthreads, -, hP, hstep⟩
  · rwa [hstep]
  · rw [hstep]
    refine h.start fun p hp => ?_
    rw [List.mem_singleton.mp hp]
    exact keepsHandlers_prog c
  · have hg : InvokedOnce jobId ⟨g.state, before ++ .act a k :: after⟩ := by
      rw [← hthreads]
      exact h
    rw [hstep]
    refine (hg.statement hP eventId env).start fun p hp => ?_
    obtain ⟨c, -, rfl⟩ := List.mem_map.mp hp
    exact keepsHandlers_prog c

/-! ## Two managers -/

def sampleRun : RunArgs where
  jobId := sampleId
  registered := fun _ => true
  sweep := idleSweep
  startedAt := "2026-01-01 00:00:01".toList
  finishedAt := "2026-01-01 00:00:02".toList

/-- The job is created, a first manager starts it and its worker gets to the handler. -/
def startedOnce : List (Label Call Env) :=
  [.call (.createJob (sampleJob none)), .run 0 {},
    .call (.startJob ⟨⟨0, sampleRun⟩, 0, fun _ => idleSweep⟩), .run 1 {}, .run 1 {},
    .run 2 {}, .run 2 {}, .run 2 {}]

/-- A second manager runs the job while the handler is at work. -/
def runAgain : List (Label Call Env) := [.call (.runJob sampleRun), .run 3 {}, .run 3 {}]

theorem handler_invoked_once_started :
    Run.Along (jobSystem sampleEventId).step (Guarded (fun _ => True) (ClaimsQueued sampleId)) start
        startedOnce ∧
      (startedOnce.foldl (jobSystem sampleEventId).step start).state.invoked = [sampleId] ∧
      (startedOnce.foldl (jobSystem sampleEventId).step start).state.invoked.count sampleId ≤ 1 := by
  have hrun : Run.Along (jobSystem sampleEventId).step
      (Guarded (fun _ => True) (ClaimsQueued sampleId)) start startedOnce := by
    decide +kernel
  exact ⟨hrun, by decide +kernel, handler_invoked_once sampleEventId sampleId startedOnce hrun⟩

/-- The second manager invokes the handler again. -/
theorem handler_invoked_twice :
    ((startedOnce ++ runAgain).foldl (jobSystem sampleEventId).step start).state.invoked.count
      sampleId = 2 := by
  decide +kernel

end FwRouter.Jobs
