import FwRouter.Jobs.Footprints
import FwRouter.Jobs.Outcome

/-!
# Job locks

`create_job` looks for an active job whose lock key shares a token with the one it wants, and then
inserts its row in a statement of its own.  The unique index repeats the check at the `INSERT`, but
only for equal keys.  Locks exclude each other in every interleaving in which no call looks for a
conflict while a call with a different, overlapping key stands between its own look and its
`INSERT`, and in which no ended job is set running.

The invariant speaks of the calls that stand before an `INSERT`: no active job holds an overlapping
key other than theirs, and no two of them want different keys that overlap.
-/

namespace FwRouter.Jobs

open Py Interleave

/-! ## What is to be shown -/

/-- No two active jobs hold keys that share a token. -/
def Exclusive (jobs : List Job) : Prop :=
  ∀ a ∈ jobs, ∀ b ∈ jobs, a.jobId ≠ b.jobId → ∀ k l, a.activeLock = some k →
    b.activeLock = some l → ¬Overlap k l

/-- The key of the job that the call inserts next. -/
def insertsKey (p : JobProg Unit) : Option Text :=
  match p.next with
  | some (.insertJob a) => a.lockKey
  | _ => none

/-- Two wanted keys are equal or share no token. -/
def Compatible (x y : Option Text) : Prop := ∀ k ∈ x, ∀ l ∈ y, Overlap k l → k = l

instance (x y : Option Text) : Decidable (Compatible x y) :=
  match x, y with
  | none, _ => isTrue (by simp [Compatible])
  | some k, none => isTrue (by simp [Compatible])
  | some k, some l => decidable_of_iff (Overlap k l → k = l) (by simp [Compatible])

/-- No call looks for a conflict while one with a different, overlapping key is about to insert its
job, and the `UPDATE` of `mark_job_running` finds no job that has ended. -/
def ChecksAlone (s : State) (others : List (JobProg Unit)) : Stmt → Prop
  | .findConflict lockKey _ => ∀ p ∈ others, Compatible (some lockKey) (insertsKey p)
  | a => FindsActive s others a

instance (s : State) (ts : List (JobProg Unit)) : ∀ a, Decidable (ChecksAlone s ts a)
  | .findConflict lockKey _ =>
      inferInstanceAs (Decidable (∀ p ∈ ts, Compatible (some lockKey) (insertsKey p)))
  | .updateRunning jobId now => inferInstanceAs (Decidable (FindsActive s ts (.updateRunning jobId now)))
  | .selectStale _ => isTrue trivial
  | .expireStale .. => isTrue trivial
  | .selectJob _ => isTrue trivial
  | .insertJob _ => isTrue trivial
  | .selectForRunning _ => isTrue trivial
  | .touchRunning .. => isTrue trivial
  | .updateRunningResult .. => isTrue trivial
  | .finish .. => isTrue trivial
  | .claimWorker _ => isTrue trivial
  | .releaseWorker _ => isTrue trivial
  | .invokeHandler _ => isTrue trivial

lemma overlap_comm {a b : Text} : Overlap a b ↔ Overlap b a := by
  simp only [Overlap]
  constructor
  · rintro ⟨t, ha, hb⟩
    exact ⟨t, hb, ha⟩
  · rintro ⟨t, hb, ha⟩
    exact ⟨t, ha, hb⟩

lemma Compatible.symm {x y : Option Text} (h : Compatible x y) : Compatible y x :=
  fun k hk l hl hover => (h l hl k hk (overlap_comm.mp hover)).symm

lemma compatible_of_no_tokens {x y : Option Text} (h : ∀ k ∈ x, lockTokens k = []) :
    Compatible x y := by
  rintro k hk l - ⟨t, ht, -⟩
  rw [h k hk] at ht
  cases ht

/-! ## The protocol of `create_job` -/

/-- The key that the call has just found free. -/
def foundFree (_ : Option Text) : (a : Stmt) → Except JobError a.Reply → Option Text
  | .findConflict lockKey none, .ok none => some lockKey
  | _, _ => none

/-- A job with lock tokens is inserted right after its key was found free. -/
def InsertsFree (c : Option Text) : Stmt → Prop
  | .insertJob a => ∀ key ∈ a.lockKey, lockTokens key ≠ [] → c = some key
  | _ => True

/-- The call keeps to that protocol from the phase on. -/
abbrev KeepsLocks (c : Option Text) (p : JobProg Unit) : Prop :=
  Keeps foundFree InsertsFree (fun _ _ => True) c p

lemma insertsFree_of_plain (c : Option Text) (a : Stmt) (h : a.Plain) : InsertsFree c a := by
  cases a with
  | insertJob a => exact h.elim
  | _ => exact trivial

/-- A key with tokens comes back from `find_active_lock_conflict` free only as found free. -/
lemma keeps_findActiveLockConflict {Q : Option Text → Except JobError (Option Job) → Prop}
    {sweep : Sweep} {key : Text} (hfree : Q (some key) (.ok none))
    (htokens : lockTokens key = [] → ∀ c, Q c (.ok none))
    (hheld : ∀ c job, Q c (.ok (some job))) (herror : ∀ c e, Q c (.error e)) (c : Option Text) :
    Keeps foundFree InsertsFree Q c (findActiveLockConflict sweep key none) := by
  rw [findActiveLockConflict]
  split_ifs with hempty
  · exact htokens (List.isEmpty_iff.mp hempty) c
  · refine Keeps.bind (Keeps.of_only insertsFree_of_plain ?_
      (only_cleanupStaleRunningJobs (fun _ h => h) sweep) c)
    intro c r
    cases r with
    | error e => exact herror c e
    | ok rows =>
        refine ⟨trivial, fun r => ?_⟩
        rcases r with e | _ | job
        · exact herror _ e
        · exact hfree
        · exact hheld _ job

lemma keeps_refuseConflict (a : CreateArgs) (c : Option Text) :
    Keeps foundFree InsertsFree (fun c r => r = .ok () → InsertsFree c (.insertJob a)) c
      (refuseConflict a) := by
  rw [refuseConflict]
  cases hkey : a.checkedKey with
  | none =>
      -- an absent or empty key has no tokens
      intro _ key hmem hne
      rw [CreateArgs.checkedKey, hmem, Option.filter_eq_none_iff] at hkey
      have hnil : key = [] := by simpa using hkey key rfl
      exact absurd (by rw [hnil]; decide) hne
  | some key =>
      have hlock : a.lockKey = some key := (Option.filter_eq_some_iff.mp hkey).1
      refine Keeps.bind (keeps_findActiveLockConflict ?_ ?_ ?_ ?_ c)
      · intro _ k hk _
        rw [hlock] at hk
        exact hk
      · intro hnil c _ k hk hne
        rw [hlock, Option.mem_some_iff] at hk
        rw [hk] at hnil
        exact absurd hnil hne
      · refine fun c job => ⟨trivial, fun r => ?_⟩
        cases r with
        | error e => rintro ⟨⟩
        | ok u => rintro ⟨⟩
      · rintro c e ⟨⟩

lemma keeps_createJob (a : CreateArgs) : KeepsLocks none (discard (createJob a)) := by
  have hplain : ∀ a : Stmt, a.Plain → a.Plain := fun _ h => h
  have honly := only_cleanupStaleRunningJobs hplain (a.sweep 0)
  refine Keeps.bind (Keeps.bind (Keeps.of_only insertsFree_of_plain ?_ honly none))
  intro c r
  cases r with
  | error e => exact trivial
  | ok rows =>
      refine Keeps.bind ((keeps_refuseConflict a c).mono ?_)
      intro c r hr
      cases r with
      | error e => exact trivial
      | ok u =>
          refine ⟨hr rfl, fun r => ?_⟩
          cases r with
          | ok job => exact trivial
          | error e =>
              refine Keeps.of_only insertsFree_of_plain (fun c r => ?_)
                (only_explainRefusal hplain a e) _
              cases r with
              | ok job => exact trivial
              | error e => exact trivial

lemma keepsLocks_prog (c : Call) : KeepsLocks none c.prog := by
  have hplain : ∀ a : Stmt, a.Plain → ∀ c, InsertsFree c a := fun a h c =>
    insertsFree_of_plain c a h
  by_cases hcreate : ∃ a, c = .createJob a
  · obtain ⟨a, rfl⟩ := hcreate
    exact keeps_createJob a
  · refine Keeps.of_only (fun c a ha => ha c) (fun _ _ => trivial) (only_prog hplain c ?_ ?_ ?_) none
    · exact fun a ha => absurd ⟨a, ha⟩ hcreate
    · exact fun _ _ _ => trivial
    · exact fun _ _ _ => trivial

/-- A call that has just started wants no tokens yet. -/
lemma no_tokens_of_keepsLocks {p : JobProg Unit} (h : KeepsLocks none p) :
    ∀ key ∈ insertsKey p, lockTokens key = [] := by
  intro key hkey
  cases p with
  | ret r => cases hkey
  | act a k =>
      cases a with
      | insertJob a =>
          by_contra hne
          exact absurd (h.1 key hkey hne) (by simp)
      | _ => cases hkey

/-! ## Active locks -/

/-- No active job holds an overlapping key other than this one. -/
def Clear (jobs : List Job) (key : Text) : Prop :=
  ∀ job ∈ jobs, ∀ k, job.activeLock = some k → Overlap key k → k = key

lemma clear_of_no_tokens {jobs : List Job} {key : Text} (h : lockTokens key = []) :
    Clear jobs key := by
  rintro job - k - ⟨t, ht, -⟩
  rw [h] at ht
  cases ht

/-- Every lock held in `db'` was held in `db`, by the same job. -/
def HoldsLess (db db' : Database) : Prop :=
  ∀ row ∈ db'.jobs, ∀ k, row.activeLock = some k →
    ∃ job ∈ db.jobs, job.jobId = row.jobId ∧ job.activeLock = some k

lemma HoldsLess.refl (db : Database) : HoldsLess db db := fun row hrow _ hk => ⟨row, hrow, rfl, hk⟩

lemma HoldsLess.trans {a b c : Database} (hab : HoldsLess a b) (hbc : HoldsLess b c) :
    HoldsLess a c := by
  intro row hrow k hk
  obtain ⟨mid, hmid, hid, hk⟩ := hbc row hrow k hk
  obtain ⟨job, hjob, hid', hk⟩ := hab mid hmid k hk
  exact ⟨job, hjob, hid'.trans hid, hk⟩

lemma HoldsLess.exclusive {db db' : Database} (h : HoldsLess db db') (hex : Exclusive db.jobs) :
    Exclusive db'.jobs := by
  intro a ha b hb hne k l hk hl
  obtain ⟨a', ha', hida, hk⟩ := h a ha k hk
  obtain ⟨b', hb', hidb, hl⟩ := h b hb l hl
  exact hex a' ha' b' hb' (by rwa [hida, hidb]) k l hk hl

lemma HoldsLess.clear {db db' : Database} (h : HoldsLess db db') {key : Text}
    (hclear : Clear db.jobs key) : Clear db'.jobs key := by
  intro row hrow k hk hover
  obtain ⟨job, hjob, -, hk⟩ := h row hrow k hk
  exact hclear job hjob k hk hover

/-- Replacing an active row holds no more locks. -/
lemma holdsLess_replace {db db' : Database} {job row : Job} (hmem : job ∈ db.jobs)
    (hid : row.jobId = job.jobId) (hlock : row.lockKey = job.lockKey)
    (hwas : job.status.active = true) (hjobs : db'.jobs = replaceJob row db.jobs) :
    HoldsLess db db' := by
  have hin : row.jobId ∈ db.jobs.map Job.jobId := List.mem_map.mpr ⟨job, hmem, hid.symm⟩
  intro other hother k hk
  rw [hjobs, mem_replaceJob hin] at hother
  rcases hother with rfl | ⟨hother, -⟩
  · refine ⟨job, hmem, hid.symm, ?_⟩
    rw [Job.activeLock] at hk
    split_ifs at hk
    rw [Job.activeLock, if_pos hwas, ← hlock, hk]
  · exact ⟨other, hother, rfl, hk⟩

lemma Progress.holdsLess {eventId : Text → Text} {db db' : Database}
    (h : Progress eventId db db') : HoldsLess db db' := by
  cases h with
  | refresh job row mem id lock was is jobs logs =>
      refine holdsLess_replace mem id lock ?_ jobs
      rw [was]
      rfl
  | settle job row event c mem id lock was is snapshot jobs logs =>
      exact holdsLess_replace mem id lock was jobs

lemma holdsLess_of_progress {eventId : Text → Text} {db db' : Database}
    (h : Relation.ReflTransGen (Progress eventId) db db') : HoldsLess db db' := by
  induction h with
  | refl => exact .refl db
  | tail _ hlast ih => exact ih.trans hlast.holdsLess

/-- What a statement that meets the condition does to the locks: it takes none, or it inserts a
job. -/
lemma execute_locks (eventId : Text → Text) {s : State} {ts : List (JobProg Unit)} {a : Stmt}
    (hok : ChecksAlone s ts a) (env : Env) :
    HoldsLess s.db (execute eventId a env s).2.db ∨
      ∃ c, a = .insertJob c ∧ (execute eventId a env s).2.db.jobs = s.db.jobs ++ [c.row] := by
  cases execute_effect eventId a env s with
  | keep db =>
      rw [db]
      exact Or.inl (.refl _)
  | insert c stmt jobs logs => exact Or.inr ⟨c, stmt, jobs⟩
  | run jobId now row stmt set =>
      subst stmt
      obtain ⟨job, hmem, hjob, hrow, hlock⟩ := set.job
      exact Or.inl (holdsLess_replace hmem (hrow.trans hjob.symm) hlock (hok job hmem hjob) set.jobs)
  | progress db => exact Or.inl (holdsLess_of_progress db)

/-- A job whose key is clear and passes the unique index joins the others. -/
lemma exclusive_insert {db db' : Database} {row : Job} (hex : Exclusive db.jobs)
    (hclear : ∀ k, row.activeLock = some k → Clear db.jobs k)
    (hjobs : db'.jobs = db.jobs ++ [row]) : Exclusive db'.jobs := by
  have hfree : ∀ job ∈ db.jobs, ∀ k l, job.activeLock = some k → row.activeLock = some l →
      ¬Overlap l k := by
    intro job hjob k l hk hl hover
    have hkl := hclear l hl job hjob k hk hover
    -- the keys are equal, which the index refuses
    have hindex := db'.activeLock_nodup
    rw [hjobs, List.filterMap_append, List.nodup_append] at hindex
    refine hindex.2.2 k (List.mem_filterMap.mpr ⟨job, hjob, hk⟩) l ?_ hkl
    exact List.mem_filterMap.mpr ⟨row, List.mem_singleton_self _, hl⟩
  intro a ha b hb hne k l hk hl
  rw [hjobs, List.mem_append, List.mem_singleton] at ha hb
  rcases ha with ha | rfl
  · rcases hb with hb | rfl
    · exact hex a ha b hb hne k l hk hl
    · exact fun hover => hfree a ha k l hk hl (overlap_comm.mp hover)
  · rcases hb with hb | rfl
    · exact hfree b hb l k hl hk
    · exact absurd rfl hne

/-! ## The invariant -/

structure LocksHeld (g : Config State JobError Stmt.Reply) : Prop where
  exclusive : Exclusive g.state.db.jobs
  keeps : ∀ p ∈ g.threads, ∃ c, KeepsLocks c p
  clear : ∀ p ∈ g.threads, ∀ key ∈ insertsKey p, Clear g.state.db.jobs key
  compatible : g.threads.Pairwise fun p q => Compatible (insertsKey p) (insertsKey q)

lemma LocksHeld.start {g : Config State JobError Stmt.Reply} (h : LocksHeld g)
    {calls : List (JobProg Unit)} (hcalls : ∀ p ∈ calls, KeepsLocks none p) :
    LocksHeld ⟨g.state, g.threads ++ calls⟩ where
  exclusive := h.exclusive
  keeps p hp := by
    rcases List.mem_append.mp hp with hp | hp
    · exact h.keeps p hp
    · exact ⟨none, hcalls p hp⟩
  clear p hp key hkey := by
    rcases List.mem_append.mp hp with hp | hp
    · exact h.clear p hp key hkey
    · exact clear_of_no_tokens (no_tokens_of_keepsLocks (hcalls p hp) key hkey)
  compatible := by
    refine List.pairwise_append.mpr ⟨h.compatible, ?_, ?_⟩
    · refine List.Pairwise.imp_of_mem (fun hp _ _ => ?_) (List.pairwise_of_forall (fun _ _ => trivial))
      exact compatible_of_no_tokens (no_tokens_of_keepsLocks (hcalls _ hp))
    · intro p _ q hq
      exact (compatible_of_no_tokens (no_tokens_of_keepsLocks (hcalls q hq))).symm

/-- `find_active_lock_conflict` comes back empty only if no active job holds an overlapping key. -/
lemma clear_of_findConflict {key : Text} {db : Database} (h : findConflict key none db = none) :
    Clear db.jobs key := by
  intro job hjob k hk hover
  rw [Job.activeLock] at hk
  split_ifs at hk with hactive
  rw [findConflict, List.find?_eq_none] at h
  have hrow : job ∈ (db.jobs.filter fun job => job.status.active &&
      decide (some job.jobId ≠ none)).insertionSort fun a b => a.createdAt ≤ b.createdAt := by
    rw [List.mem_insertionSort, List.mem_filter]
    exact ⟨hjob, by simp [hactive]⟩
  refine absurd ?_ (h job hrow)
  rw [hk]
  exact decide_eq_true hover

lemma clear_of_foundFree {eventId : Text → Text} {c : Option Text} {a : Stmt} {env : Env}
    {s : State} {key : Text} (h : foundFree c a (execute eventId a env s).1 = some key) :
    a = .findConflict key none ∧ (execute eventId a env s).2 = s ∧ Clear s.db.jobs key := by
  cases a with
  | findConflict lockKey exclude =>
      rw [execute, State.read, State.transact] at h ⊢
      split_ifs at h ⊢ with hfault
      · cases exclude <;> cases h
      · cases exclude with
        | some jobId => cases h
        | none =>
            dsimp only at h ⊢
            cases hfound : findConflict lockKey none s.db with
            | some job =>
                rw [hfound] at h
                cases h
            | none =>
                rw [hfound] at h
                cases h
                exact ⟨rfl, rfl, clear_of_findConflict hfound⟩
  | _ => cases h

/-- A call wants a key with tokens only in the phase that has just found it free. -/
lemma insertsKey_of_keepsLocks {c : Option Text} {p : JobProg Unit} (h : KeepsLocks c p)
    {key : Text} (hkey : key ∈ insertsKey p) : lockTokens key = [] ∨ c = some key := by
  cases p with
  | ret r => cases hkey
  | act a k =>
      cases a with
      | insertJob a => exact or_iff_not_imp_left.mpr (h.1 key hkey)
      | _ => cases hkey

section Step

variable {s : State} {before after : List (JobProg Unit)} {a : Stmt}
  {k : Except JobError a.Reply → JobProg Unit}

/-- The other calls keep what they know when one call executes a statement. -/
lemma LocksHeld.others (h : LocksHeld ⟨s, before ++ .act a k :: after⟩)
    (hok : ChecksAlone s (before ++ after) a) (eventId : Text → Text) (env : Env) :
    Exclusive (execute eventId a env s).2.db.jobs ∧
      ∀ p ∈ before ++ after, ∀ key ∈ insertsKey p, Clear (execute eventId a env s).2.db.jobs key := by
  have hmem : ∀ p ∈ before ++ after, p ∈ before ++ .act a k :: after := by
    intro p hp
    rcases List.mem_append.mp hp with hp | hp
    · exact List.mem_append_left _ hp
    · exact List.mem_append_right _ (List.mem_cons_of_mem _ hp)
  rcases execute_locks eventId hok env with hless | ⟨c, rfl, hjobs⟩
  · exact ⟨hless.exclusive h.exclusive,
      fun p hp key hkey => hless.clear (h.clear p (hmem p hp) key hkey)⟩
  · have hown : ∀ l, c.row.activeLock = some l → l ∈ insertsKey (.act (.insertJob c) k) :=
      fun l hl => hl
    refine ⟨exclusive_insert h.exclusive (fun l hl => ?_) hjobs, ?_⟩
    · exact h.clear _ (by simp) l (hown l hl)
    · intro p hp key hkey job hjob l hl hover
      rw [hjobs, List.mem_append, List.mem_singleton] at hjob
      rcases hjob with hjob | rfl
      · exact h.clear p (hmem p hp) key hkey job hjob l hl hover
      · -- the new job's key against the key the other call wants
        have hpair := h.compatible
        rw [List.pairwise_append, List.pairwise_cons] at hpair
        rcases List.mem_append.mp hp with hp | hp
        · exact (hpair.2.2 p hp _ List.mem_cons_self key hkey l (hown l hl) hover).symm
        · exact hpair.2.1.1 p hp l (hown l hl) key hkey (overlap_comm.mp hover)

lemma LocksHeld.statement (h : LocksHeld ⟨s, before ++ .act a k :: after⟩)
    (hok : ChecksAlone s (before ++ after) a) (eventId : Text → Text) (env : Env) :
    LocksHeld ⟨(execute eventId a env s).2, before ++ k (execute eventId a env s).1 :: after⟩ := by
  obtain ⟨hex, hothers⟩ := h.others hok eventId env
  obtain ⟨c, -, hkeeps⟩ := h.keeps (.act a k) (by simp)
  have hnext := hkeeps (execute eventId a env s).1
  generalize hp : k (execute eventId a env s).1 = p at hnext ⊢
  have hmem : ∀ q ∈ before ++ p :: after, q = p ∨ q ∈ before ++ after := by
    intro q hq
    simp only [List.mem_append, List.mem_cons] at hq ⊢
    tauto
  -- a key that the call now wants was found free by this very statement
  have hwant : ∀ key ∈ insertsKey p, lockTokens key = [] ∨
      (a = .findConflict key none ∧ (execute eventId a env s).2 = s ∧ Clear s.db.jobs key) :=
    fun key hkey => (insertsKey_of_keepsLocks hnext hkey).imp_right clear_of_foundFree
  have hcompat : ∀ q ∈ before ++ after, Compatible (insertsKey p) (insertsKey q) := by
    intro q hq key hkey l hl hover
    rcases hwant key hkey with hnone | ⟨rfl, -, -⟩
    · exact compatible_of_no_tokens (fun k hk => by rw [← Option.mem_unique hkey hk, hnone])
        key hkey l hl hover
    · exact hok q hq key rfl l hl hover
  have hpair := h.compatible
  rw [List.pairwise_append, List.pairwise_cons] at hpair
  refine ⟨hex, ?_, ?_, ?_⟩
  · intro q hq
    rcases List.mem_append.mp hq with hq | hq
    · exact h.keeps q (List.mem_append_left _ hq)
    · rcases List.mem_cons.mp hq with rfl | hq
      · exact ⟨_, hnext⟩
      · exact h.keeps q (List.mem_append_right _ (List.mem_cons_of_mem _ hq))
  · intro q hq key hkey
    rcases hmem q hq with rfl | hq
    · rcases hwant key hkey with hnone | ⟨-, hsame, hclear⟩
      · exact clear_of_no_tokens hnone
      · rw [hsame]
        exact hclear
    · exact hothers q hq key hkey
  · refine List.pairwise_append.mpr ⟨hpair.1, List.pairwise_cons.mpr ⟨?_, hpair.2.1.2⟩, ?_⟩
    · exact fun q hq => hcompat q (List.mem_append_right _ hq)
    · intro q hq t ht
      rcases List.mem_cons.mp ht with rfl | ht
      · exact (hcompat q (List.mem_append_left _ hq)).symm
      · exact hpair.2.2 q hq t (List.mem_cons_of_mem _ ht)

end Step

lemma keepsLocks_spawn {a : Stmt} {r : Except JobError a.Reply} {p : JobProg Unit}
    (hp : p ∈ (spawn a r).map Call.prog) : KeepsLocks none p := by
  obtain ⟨c, -, rfl⟩ := List.mem_map.mp hp
  exact keepsLocks_prog c

/-- **Locks exclude each other.**  In every interleaving in which no call looks for a conflict
while a call with a different, overlapping key is about to insert its job, and in which no ended
job is set running, no two active jobs hold lock keys that share a token. -/
theorem locks_exclusive (eventId : Text → Text) (labels : List (Label Call Env))
    (hrun : Run.Along (jobSystem eventId).step (Guarded (fun _ => True) ChecksAlone) start labels) :
    Exclusive (labels.foldl (jobSystem eventId).step start).state.db.jobs := by
  have hstart : LocksHeld start := by
    refine ⟨?_, ?_, ?_, List.Pairwise.nil⟩
    · exact fun a ha => absurd ha List.not_mem_nil
    · exact fun p hp => absurd hp List.not_mem_nil
    · exact fun p hp => absurd hp List.not_mem_nil
  refine (Run.Along.keeps (I := LocksHeld) ?_ hstart hrun).exclusive
  intro g l h hok
  rcases step_cases (S := jobSystem eventId) hok with
    hstep | ⟨c, -, -, hstep⟩ | ⟨before, a, k, after, env, hthreads, -, hP, hstep⟩
  · rwa [hstep]
  · rw [hstep]
    refine h.start fun p hp => ?_
    rw [List.mem_singleton.mp hp]
    exact keepsLocks_prog c
  · have hg : LocksHeld ⟨g.state, before ++ .act a k :: after⟩ := by
      rw [← hthreads]
      exact h
    rw [hstep]
    exact (hg.statement hP eventId env).start fun p hp => keepsLocks_spawn hp

/-! ## Two calls at once -/

/-- Two calls of `create_job` for the keys, each looking for a conflict before either inserts. -/
def createTwo (k l : String) : List (Label Call Env) :=
  [.call (.createJob (sampleJob (some k.toList))),
    .call (.createJob
      { sampleJob (some l.toList) with jobId := "5f0c1c1e-6a52-4c0a-9a55-0f6f3d1f7a02".toList }),
    .run 0 {}, .run 1 {}, .run 0 {}, .run 1 {}]

/-- Keys without a common token are both taken. -/
theorem locks_exclusive_disjoint :
    Run.Along (jobSystem sampleEventId).step (Guarded (fun _ => True) ChecksAlone) start
        (createTwo "apply+rules" "dns") ∧
      Exclusive ((createTwo "apply+rules" "dns").foldl (jobSystem sampleEventId).step
        start).state.db.jobs := by
  have hrun : Run.Along (jobSystem sampleEventId).step (Guarded (fun _ => True) ChecksAlone) start
      (createTwo "apply+rules" "dns") := by
    decide +kernel
  exact ⟨hrun, locks_exclusive sampleEventId _ hrun⟩

/-- Overlapping keys are both taken as well: the index does not see the common token. -/
theorem locks_overlap :
    ¬Exclusive ((createTwo "apply+rules" "rules").foldl (jobSystem sampleEventId).step
      start).state.db.jobs := by
  have hjobs : ((createTwo "apply+rules" "rules").foldl (jobSystem sampleEventId).step
      start).state.db.jobs = [(sampleJob (some "apply+rules".toList)).row,
        { (sampleJob (some "rules".toList)).row with
          jobId := "5f0c1c1e-6a52-4c0a-9a55-0f6f3d1f7a02".toList }] := by
    decide +kernel
  rw [hjobs]
  intro h
  exact h _ List.mem_cons_self _ (List.mem_cons_of_mem _ List.mem_cons_self) (by decide)
    "apply+rules".toList "rules".toList rfl rfl (by decide +kernel)

end FwRouter.Jobs
