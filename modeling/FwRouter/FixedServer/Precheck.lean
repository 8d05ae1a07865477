import FwRouter.FixedServer.Supersession

/-!
# The pre-check of a fixed server

A run of `apply_global_fixed_server` generates the configuration with the fixed server, probes the
server, selects it and commits the selection, in this order.  A run that resumes the workflow does not
probe again where the phase at its start says that the generation was verified before.

The runs and transactions are those of `FixedServer.Interleaving`; here each run keeps to the order of
the source, and its probe and its selector writes are steps of their own.  `history` is a history
variable, the latest deed first.
-/

namespace FwRouter.FixedServer

open Py

/-! ## Attempts -/

/-- `fixed_generation_already_verified`. -/
def Phase.generationVerified : Phase → Bool
  | .intent => false
  | .mihomoReserved => false
  | _ => true

/-- `fixed_stage_already_committed`. -/
def Phase.committed : Phase → Bool
  | .mihomoVerified => true
  | .coreVerified => true
  | .xrayVerified => true
  | _ => false

/-- How far a run of `apply_global_fixed_server` has come. -/
inductive Pace
  | captured
  | materialized
  | checked
  | selected
  | committed
  | over
  deriving DecidableEq

structure Attempt where
  /-- `phase_at_entry`. -/
  entry : Phase
  pace : Pace
  deriving DecidableEq

/-- A pending revision with the server that it is set to. -/
structure FixedIntent where
  revision : ℤ
  serverId : Text
  deriving DecidableEq

def Token.fixedIntent (t : Token) : FixedIntent := ⟨t.pendingRevision, t.serverId⟩

inductive Deed
  /-- `check_server_delay` has returned ok before the selection. -/
  | probed (k : FixedIntent)
  /-- The fixed target is written to vpn-global. -/
  | wrote (k : FixedIntent)
  /-- The workflow is committed as `mihomo_verified`. -/
  | committed (k : FixedIntent)
  deriving DecidableEq

structure Attempts where
  system : System
  /-- How far the run with this index has come. -/
  attempt : ℕ → Attempt
  history : List Deed

/-! ## Steps -/

/-- `_fixed_apply_token_matches`; `runtime` is the answer of its comparisons with the runtime. -/
def fixedApplyTokenMatches (t : Token) (runtime : Bool) (db : Db) : Bool :=
  runtime && decide (db.selectionRevision = t.selectionRevision) &&
    db.coreCurrent t.coreRevision t.coreSnapshot && db.routeOwned t.serverId t.fixedUntil &&
    db.fixedWorkflow.any fun (row, w) =>
      decide (row.state.revision = t.pendingRevision) &&
        decide (w.selectionRevision = t.selectionRevision) && decide (w.serverId = t.serverId) &&
        decide (w.fixedUntil = t.fixedUntil)

/-- The server that `restore_mihomo_selector_state` writes for a fixed route. -/
def Db.settledServer (db : Db) : Option Text := do
  let r ← db.route
  if r.serverMode = .fixed ∧ r.appliedFixedServerId = r.desiredFixedServerId ∧
      r.applyState = .clean ∧ r.errorCode = none ∧ r.errorMessage = none ∧ db.ttlLive r then
    r.desiredFixedServerId
  else none

/-- The run has come to the transaction. -/
def Attempt.permits (a : Attempt) : Action → Bool
  | .reserve _ => decide (a.pace = .captured) && !a.entry.generationVerified
  | .publish _ => decide (a.pace = .captured) && !a.entry.generationVerified
  | .commitStage .. => decide (a.pace = .selected) && !a.entry.committed
  | _ => decide (a.pace = .committed)

inductive Act
  /-- A step of the runs' transactions, or of another writer. -/
  | system (l : Label)
  /-- The generation has returned, and it is verified, and so is the fixed target in the runtime. -/
  | materialize (i : ℕ) (ok : Bool)
  /-- The pre-check, with the answer of `check_server_delay`. -/
  | preCheck (i : ℕ) (ok : Bool)
  /-- The section that selects: `native` if vpn-global has to be written, `ok` if that is verified. -/
  | select (i : ℕ) (runtime native ok : Bool)
  /-- `_restore_fixed_selection_after_xray_generation` at the end of a run. -/
  | reselect (i : ℕ) (runtime : Bool)
  /-- A restart within the apply of core or the generation of Xray, which restores the selectors. -/
  | restart (i : ℕ)

def Attempts.setPace (t : Attempts) (i : ℕ) (pace : Pace) : Attempts :=
  { t with attempt := Function.update t.attempt i { t.attempt i with pace := pace } }

def Attempts.record (t : Attempts) (d : Deed) : Attempts := { t with history := d :: t.history }

/-- A transaction of a run, if the run has come to it and it goes through. -/
def Attempts.runAction (t : Attempts) (i : ℕ) (a : Action) : Attempts :=
  match t.system.runs[i]? with
  | none => t
  | some r =>
      if (t.attempt i).permits a ∧ ¬(a.guarded ∧ t.system.core.isSome) ∧
          (a.exec r t.system.db).isSome then
        let t' := { t with system := t.system.runAction i a }
        match a with
        | .commitStage .. => (t'.setPace i .committed).record (.committed r.token.fixedIntent)
        | _ => t'
      else t

/-- A step of the system, where the runs keep to their order; a new run starts an attempt. -/
def Attempts.systemStep (t : Attempts) : Label → Attempts
  | .run i a => t.runAction i a
  | .core i next =>
      if (t.attempt i).pace = .committed then { t with system := t.system.coreStep i next } else t
  | .capture serverId fixedUntil facts =>
      match captureFixedApplyContext serverId fixedUntil facts t.system.db with
      | none => t
      | some token =>
          { t with
            system := { t.system with runs := t.system.runs ++ [⟨token, none⟩] }
            attempt := Function.update t.attempt t.system.runs.length ⟨token.phase, .captured⟩ }
  | l => { t with system := step t.system l }

/-- The run restores the selection of a workflow whose Xray generation is recorded. -/
def Attempts.selectionReentry (t : Attempts) : Bool :=
  t.system.db.fixedWorkflow.any fun (_, w) =>
    decide (w.phase = .xrayVerified) && w.xrayGeneration.isSome

/-- Where a run stands after the section that selects. -/
def Attempt.afterSelection (a : Attempt) (ok : Bool) : Pace :=
  if !ok then .over else if a.entry.committed then .committed else .selected

/-- The section of `apply_global_fixed_server` that selects.  A run that resumes a committed stage
writes only where it restores the selection. -/
def Attempts.select (t : Attempts) (i : ℕ) (r : Run) (runtime native ok : Bool) : Attempts :=
  let a := t.attempt i
  if a.pace = .checked ∧ t.system.core = none then
    if fixedApplyTokenMatches r.token runtime t.system.db then
      let moved := t.setPace i (a.afterSelection ok)
      if native ∧ (!a.entry.committed || decide (a.entry = .xrayVerified) && t.selectionReentry) then
        moved.record (.wrote r.token.fixedIntent)
      else moved
    else t.setPace i .over
  else t

/-- The run is inside its apply of core or its generation of Xray. -/
def Attempts.within (t : Attempts) (i : ℕ) (r : Run) : Bool :=
  match t.system.core with
  | some c => decide (c.run = i) && c.stage.passed
  | none => generationAuthorized r.token.pendingRevision t.system.db

def Attempts.act (t : Attempts) : Act → Attempts
  | .system l => t.systemStep l
  | .materialize i ok =>
      match t.system.runs[i]? with
      | none => t
      | some r =>
          if (t.attempt i).pace = .captured then
            t.setPace i (if ok ∧ r.token.phase ≠ .mihomoReserved then .materialized else .over)
          else t
  | .preCheck i ok =>
      match t.system.runs[i]? with
      | none => t
      | some r =>
          if (t.attempt i).pace = .materialized then
            if (t.attempt i).entry.generationVerified then t.setPace i .checked
            else if ok then (t.record (.probed r.token.fixedIntent)).setPace i .checked
            else t.setPace i .over
          else t
  | .select i runtime native ok =>
      match t.system.runs[i]? with
      | none => t
      | some r => t.select i r runtime native ok
  | .reselect i runtime =>
      match t.system.runs[i]? with
      | none => t
      | some r =>
          if (t.attempt i).pace = .committed ∧ t.selectionReentry ∧
              fixedApplyTokenMatches r.token runtime t.system.db then
            t.record (.wrote r.token.fixedIntent)
          else t
  | .restart i =>
      match t.system.runs[i]? with
      | none => t
      | some r =>
          if (t.attempt i).pace = .committed ∧ t.within i r then
            match t.system.db.settledServer with
            | none => t
            | some serverId => t.record (.wrote ⟨r.token.pendingRevision, serverId⟩)
          else t

/-! ## What is said of a run -/

/-- No history yet, and no fixed server pending. -/
structure Attempts.Fresh (t : Attempts) : Prop where
  system : t.system.Fresh
  fixedWorkflow : t.system.db.fixedWorkflow = none
  history : t.history = []

/-- What a deed selects, if it does. -/
def Deed.selected : Deed → Option FixedIntent
  | .probed _ => none
  | .wrote k => some k
  | .committed k => some k

/-- Whatever is selected was probed before. -/
def Ordered : List Deed → Prop
  | [] => True
  | d :: earlier => (∀ k ∈ d.selected, Deed.probed k ∈ earlier) ∧ Ordered earlier

/-- No run starts between the receipt of a generation and a pre-check of its server that returns
ok. -/
def ReceiptProbed (t : Attempts) : Act → Prop
  | .system (.capture serverId fixedUntil facts) =>
      ∀ token ∈ captureFixedApplyContext serverId fixedUntil facts t.system.db,
        token.phase = .mihomoGenerationVerified → Deed.probed token.fixedIntent ∈ t.history
  | _ => True

instance (t : Attempts) (a : Act) : Decidable (ReceiptProbed t a) := by
  unfold ReceiptProbed
  split <;> infer_instance

lemma Ordered.probed_mem {history later earlier : List Deed} {d : Deed} {k : FixedIntent}
    (h : Ordered history) (heq : history = later ++ d :: earlier) (hk : k ∈ d.selected) :
    Deed.probed k ∈ earlier := by
  induction later generalizing history with
  | nil =>
      subst heq
      exact h.1 k hk
  | cons d' later ih =>
      subst heq
      exact ih h.2 rfl

/-! ## What a transaction leaves of the workflow -/

variable {db db' : Db} {row : PendingRow} {w w' : Workflow} {revision : ℤ}

/-- A pending workflow stays that of its revision and its server, and its selection is committed only
where `P` holds. -/
def Carries (P : Prop) (db db' : Db) : Prop :=
  ∀ row' w', db'.fixedWorkflow = some (row', w') →
    ∃ row w, db.fixedWorkflow = some (row, w) ∧ row.state.revision = row'.state.revision ∧
      w.serverId = w'.serverId ∧ (w'.phase.committed → w.phase.committed ∨ P)

lemma Carries.of_pending {P : Prop} (h : db'.pending = db.pending) : Carries P db db' := by
  intro row' w' hfixed
  refine ⟨row', w', ?_, rfl, rfl, Or.inl⟩
  rw [fixedWorkflow_eq_some] at hfixed ⊢
  rwa [← h]

lemma Rewrites.carries {P : Prop} (h : Rewrites revision w w' db db')
    (hphase : w'.phase.committed → w.phase.committed ∨ P) : Carries P db db' := by
  intro row₁ w₁ hfixed
  obtain ⟨row, hrow, -, hrow'⟩ := h.row
  obtain ⟨hrow₁, hw₁, -⟩ := fixedWorkflow_eq_some.mp hfixed
  obtain rfl := Option.some.inj (hrow'.symm.trans hrow₁)
  obtain rfl := Option.some.inj hw₁
  exact ⟨row, w, hrow, rfl, h.server.symm, hphase⟩

lemma carries_mark (m : Xray.Mark) (db : Db) : Carries False db (markPending m none db) := by
  rcases markPending_cases m none db with ⟨-, -, hsame⟩ | ⟨row, -, hworkflow, -, hsave⟩
  · rw [hsame]
    exact .of_pending rfl
  · intro row' w' hfixed
    obtain ⟨hrow', hw', -⟩ := fixedWorkflow_eq_some.mp hfixed
    rw [hsave] at hrow'
    obtain rfl := Option.some.inj hrow'
    cases hworkflow.symm.trans hw'

lemma carries_attempt {op : Xray.Op} (h : attempt op revision db = some db') :
    Carries False db db' := by
  obtain ⟨row, hrow, hpending, -, rfl⟩ := attempt_eq_some.mp h
  intro row' w' hfixed
  obtain ⟨hrow', hw', -⟩ := fixedWorkflow_eq_some.mp hfixed
  obtain rfl := Option.some.inj hrow'
  exact ⟨row, w', fixedWorkflow_eq_some.mpr ⟨hrow, hw', hpending⟩,
    (Xray.Op.update_revision op revision _ _).symm, rfl, Or.inl⟩

/-- The transaction records that the selection is committed. -/
def Action.commits : Action → Bool
  | .commitStage .. => true
  | .coreVerified .. => true
  | .xrayVerified .. => true
  | _ => false

lemma carries_exec {a : Action} {r r' : Run} (h : a.exec r db = some (db', r')) :
    Carries (a.commits = true ∧ r.token.pendingRevision = db.revision) db db' := by
  cases a with
  | reserve v =>
      obtain ⟨db₁, hdb, h⟩ := Option.bind_eq_some_iff.mp h
      obtain ⟨rfl, -⟩ := Prod.mk.inj (Option.some.inj h)
      obtain ⟨w, w', hw, -, hto, -⟩ := reserve_rewrites hdb
      exact hw.carries (by simp [hto, Phase.committed])
  | publish receipt =>
      obtain ⟨db₁, hdb, h⟩ := Option.bind_eq_some_iff.mp h
      obtain ⟨rfl, -⟩ := Prod.mk.inj (Option.some.inj h)
      obtain ⟨w, w', hw, -, hto⟩ := publish_rewrites hdb
      exact hw.carries (by simp [hto, Phase.committed])
  | commitStage core inputHash activeConfigHash =>
      obtain ⟨db₁, hdb, h⟩ := Option.bind_eq_some_iff.mp h
      obtain ⟨rfl, -⟩ := Prod.mk.inj (Option.some.inj h)
      obtain ⟨w, w', hw, -⟩ := commit_rewrites hdb
      exact hw.carries fun _ => Or.inr ⟨rfl, hw.fenced⟩
  | coreVerified core proof inputHash =>
      obtain ⟨db₁, hdb, h⟩ := Option.bind_eq_some_iff.mp h
      obtain ⟨rfl, -⟩ := Prod.mk.inj (Option.some.inj h)
      obtain ⟨w, hw, -⟩ := update_rewrites hdb fun _ => rfl
      exact hw.carries fun _ => Or.inr ⟨rfl, hw.fenced⟩
  | generate =>
      rw [Action.exec] at h
      split_ifs at h
      obtain ⟨rfl, -⟩ := Prod.mk.inj (Option.some.inj h)
      exact .of_pending rfl
  | recordGeneration generation expected =>
      obtain ⟨db₁, hdb, h⟩ := Option.bind_eq_some_iff.mp h
      obtain ⟨rfl, -⟩ := Prod.mk.inj (Option.some.inj h)
      obtain ⟨w, w', hw, hfrom, -, -⟩ := record_rewrites hdb
      exact hw.carries fun _ => Or.inl (by rw [hfrom]; rfl)
  | restore =>
      rw [Action.exec] at h
      split_ifs at h
      obtain ⟨rfl, -⟩ := Prod.mk.inj (Option.some.inj h)
      exact .of_pending rfl
  | xrayVerified proof =>
      obtain ⟨db₁, hdb, h⟩ := Option.bind_eq_some_iff.mp h
      obtain ⟨rfl, -⟩ := Prod.mk.inj (Option.some.inj h)
      obtain ⟨w, hw, -⟩ := update_rewrites hdb fun _ => rfl
      exact hw.carries fun _ => Or.inr ⟨rfl, hw.fenced⟩
  | complete core xray failed =>
      obtain ⟨db₁, hdb, h⟩ := Option.bind_eq_some_iff.mp h
      obtain ⟨rfl, -⟩ := Prod.mk.inj (Option.some.inj h)
      obtain ⟨-, hdone, -⟩ := complete_eq_some hdb
      obtain ⟨row, -, -, -, rfl⟩ := completeRevision_eq_some.mp hdone
      intro row' w' hfixed
      obtain ⟨hrow', hw', -⟩ := fixedWorkflow_eq_some.mp hfixed
      obtain rfl := Option.some.inj hrow'
      cases hw'

/-! ## The invariant -/

variable {t : Attempts}

/-- The run of this attempt selects without a probe from here on. -/
def Attempt.cleared (a : Attempt) : Bool :=
  a.entry.generationVerified ||
    match a.pace with
    | .checked => true
    | .selected => true
    | .committed => true
    | _ => false

structure Gated (t : Attempts) : Prop where
  fences : Inv t.system
  stored : ∀ r ∈ t.system.runs, r.token.pendingRevision ≤ t.system.db.revision
  owner : ∀ row w, t.system.db.fixedWorkflow = some (row, w) → ∀ r ∈ t.system.runs,
    r.token.pendingRevision = row.state.revision → r.token.serverId = w.serverId
  wanted : ∀ row w, t.system.db.fixedWorkflow = some (row, w) → ∀ r ∈ t.system.db.route,
    r.serverMode = .fixed → r.desiredFixedServerId = some w.serverId
  routed : ∀ run ∈ t.system.runs, ¬t.system.Superseded run.token.pendingRevision →
    ∀ r ∈ t.system.db.route, r.serverMode = .fixed →
      r.desiredFixedServerId = some run.token.serverId
  phase : ∀ row w, t.system.db.fixedWorkflow = some (row, w) → w.phase.committed →
    Deed.probed ⟨row.state.revision, w.serverId⟩ ∈ t.history
  attempts : ∀ i r, t.system.runs[i]? = some r → (t.attempt i).cleared →
    Deed.probed r.token.fixedIntent ∈ t.history
  ordered : Ordered t.history

lemma Attempts.Fresh.gated (h : t.Fresh) : Gated t where
  fences := h.system.inv
  stored := by simp [h.system.runs]
  owner := by simp [h.fixedWorkflow]
  wanted := by simp [h.fixedWorkflow]
  routed := by simp [h.system.runs]
  phase := by simp [h.fixedWorkflow]
  attempts := by simp [h.system.runs]
  ordered := by
    rw [h.history]
    trivial

/-- The pending workflow has a revision of its own. -/
lemma revision_of_fixedWorkflow (h : db.fixedWorkflow = some (row, w)) :
    db.revision = row.state.revision :=
  revision_of_pending (fixedWorkflow_eq_some.mp h).1

/-- **A step that does not supersede keeps the invariant**, if the runs stay those of their intents and
a commit is one of a probed server. -/
lemma Gated.moved (h : Gated t) {s' : System} {P : Prop} (hfences : Inv s')
    (hsuperseding : s'.superseding = t.system.superseding) (hfollows : Follows t.system.db s'.db)
    (hcarries : Carries P t.system.db s'.db)
    (hruns : ∀ (i : ℕ) (r' : Run), s'.runs[i]? = some r' →
      ∃ r, t.system.runs[i]? = some r ∧ r'.token.fixedIntent = r.token.fixedIntent)
    (hP : P → ∀ row w, t.system.db.fixedWorkflow = some (row, w) →
      Deed.probed ⟨row.state.revision, w.serverId⟩ ∈ t.history) :
    Gated { t with system := s' } := by
  have hmem : ∀ r' ∈ s'.runs, ∃ r ∈ t.system.runs,
      r'.token.pendingRevision = r.token.pendingRevision ∧ r'.token.serverId = r.token.serverId := by
    intro r' hr'
    obtain ⟨i, hi⟩ := List.mem_iff_getElem?.mp hr'
    obtain ⟨r, hr, hintent⟩ := hruns i r' hi
    exact ⟨r, List.mem_of_getElem? hr, congrArg FixedIntent.revision hintent,
      congrArg FixedIntent.serverId hintent⟩
  have hwanted : ∀ r' ∈ s'.db.route, r'.serverMode = .fixed → ∃ r ∈ t.system.db.route,
      r.serverMode = .fixed ∧ r.desiredFixedServerId = r'.desiredFixedServerId := by
    intro r' hr' hmode
    obtain ⟨r, hr, htarget⟩ := hfollows.target r' hr' hmode
    exact ⟨r, hr, (congrArg Prod.fst htarget).trans hmode, congrArg Prod.snd htarget⟩
  refine ⟨hfences, ?_, ?_, ?_, ?_, ?_, ?_, h.ordered⟩
  · intro r' hr'
    obtain ⟨r, hr, hrevision, -⟩ := hmem r' hr'
    rw [hrevision]
    exact (h.stored r hr).trans (revision_mono hfollows.progress)
  · intro row' w' hfixed r' hr' hcurrent
    obtain ⟨row, w, hold, hrow, hserver, -⟩ := hcarries row' w' hfixed
    obtain ⟨r, hr, hrevision, hsame⟩ := hmem r' hr'
    rw [hsame, ← hserver]
    exact h.owner row w hold r hr (by rw [← hrevision, hcurrent, hrow])
  · intro row' w' hfixed r' hr' hmode
    obtain ⟨row, w, hold, -, hserver, -⟩ := hcarries row' w' hfixed
    obtain ⟨r, hr, hmode', hdesired⟩ := hwanted r' hr' hmode
    rw [← hdesired, ← hserver]
    exact h.wanted row w hold r hr hmode'
  · intro run' hrun' hcurrent r' hr' hmode
    obtain ⟨run, hrun, hrevision, hsame⟩ := hmem run' hrun'
    obtain ⟨r, hr, hmode', hdesired⟩ := hwanted r' hr' hmode
    rw [← hdesired, hsame]
    refine h.routed run hrun ?_ r hr hmode'
    rwa [System.Superseded, ← hsuperseding, ← hrevision]
  · intro row' w' hfixed hcommitted
    obtain ⟨row, w, hold, hrow, hserver, hphase⟩ := hcarries row' w' hfixed
    rw [← hrow, ← hserver]
    rcases hphase hcommitted with hcommitted | hP'
    · exact h.phase row w hold hcommitted
    · exact hP hP' row w hold
  · intro i r' hr' hcleared
    obtain ⟨r, hr, hintent⟩ := hruns i r' hr'
    rw [hintent]
    exact h.attempts i r hr hcleared

/-- A step that leaves the runs and carries the workflow. -/
lemma Gated.carried (h : Gated t) {s' : System} (hfences : Inv s')
    (hsuperseding : s'.superseding = t.system.superseding) (hfollows : Follows t.system.db s'.db)
    (hcarries : Carries False t.system.db s'.db) (hruns : s'.runs = t.system.runs) :
    Gated { t with system := s' } := by
  refine h.moved hfences hsuperseding hfollows hcarries ?_ False.elim
  intro i r hr
  exact ⟨r, by rw [← hruns]; exact hr, rfl⟩

/-- A run goes on, to where it selects only with its probe. -/
lemma Gated.setPace (h : Gated t) {i : ℕ} {pace : Pace}
    (hcleared : ∀ r, t.system.runs[i]? = some r → (Attempt.mk (t.attempt i).entry pace).cleared →
      Deed.probed r.token.fixedIntent ∈ t.history) : Gated (t.setPace i pace) := by
  refine ⟨h.fences, h.stored, h.owner, h.wanted, h.routed, h.phase, ?_, h.ordered⟩
  intro j r hr hj
  by_cases hi : j = i
  · subst hi
    exact hcleared r hr (by simpa only [Attempts.setPace, Function.update_self] using hj)
  · refine h.attempts j r hr ?_
    simpa only [Attempts.setPace, Function.update_of_ne hi] using hj

lemma Gated.record (h : Gated t) {d : Deed} (hd : ∀ k ∈ d.selected, Deed.probed k ∈ t.history) :
    Gated (t.record d) where
  fences := h.fences
  stored := h.stored
  owner := h.owner
  wanted := h.wanted
  routed := h.routed
  phase := fun row w hfixed hcommitted => List.mem_cons_of_mem _ (h.phase row w hfixed hcommitted)
  attempts := fun i r hr hcleared => List.mem_cons_of_mem _ (h.attempts i r hr hcleared)
  ordered := ⟨hd, h.ordered⟩

/-- What supersedes leaves the older runs without a route. -/
lemma Gated.supersede (h : Gated t) (hfences : Inv (t.system.supersede db))
    (hrow : db.pending = some row) (hrevision : t.system.db.revision < row.state.revision)
    (hworkflow : ∀ w, row.workflow = some w → w.phase.committed = false ∧
      ∀ r ∈ db.route, r.serverMode = .fixed → r.desiredFixedServerId = some w.serverId) :
    Gated { t with system := t.system.supersede db } := by
  have hnew : ∀ row' w, db.fixedWorkflow = some (row', w) → row' = row ∧ row.workflow = some w := by
    intro row' w hfixed
    obtain ⟨hrow', hw, -⟩ := fixedWorkflow_eq_some.mp hfixed
    obtain rfl := Option.some.inj (hrow'.symm.trans hrow)
    exact ⟨rfl, hw⟩
  refine ⟨hfences, ?_, ?_, ?_, ?_, ?_, h.attempts, h.ordered⟩
  · intro r hr
    refine ((h.stored r hr).trans hrevision.le).trans ?_
    exact (revision_of_pending hrow).ge
  · intro row' w hfixed r hr hcurrent
    obtain ⟨rfl, -⟩ := hnew row' w hfixed
    have := h.stored r hr
    omega
  · intro row' w hfixed
    exact (hworkflow w (hnew row' w hfixed).2).2
  · intro r hr hcurrent
    refine absurd ⟨row.state.revision, ?_, (h.stored r hr).trans_lt hrevision⟩ hcurrent
    show row.state.revision ∈ db.pending.map (·.state.revision)
    rw [hrow]
    rfl
  · intro row' w hfixed hcommitted
    rw [(hworkflow w (hnew row' w hfixed).2).1] at hcommitted
    cases hcommitted

/-- A mark that supersedes takes the place of the row. -/
lemma markPending_superseding {m : Xray.Mark} {workflow : Option Workflow} {mid : Db}
    (hdb : db = markPending m workflow mid) (hm : m.supersedeFixedWorkflow = true) :
    ∃ row, row.workflow = workflow ∧ db.pending = some row ∧ db.route = mid.route := by
  rcases markPending_cases m workflow mid with ⟨hm', -, -⟩ | ⟨row, -, hworkflow, -, hsave⟩
  · rw [hm] at hm'
    cases hm'
  · rw [hdb, hsave]
    exact ⟨row, hworkflow, rfl, rfl⟩

/-- What clears and expires leaves no workflow. -/
lemma Gated.unfixed (h : Gated t) {mid : Db} {m : Xray.Mark} (hdb : db = markPending m none mid)
    (hm : m.supersedeFixedWorkflow = true) (hfences : Inv (t.system.supersede db))
    (hrevision : t.system.db.revision < db.revision) :
    Gated { t with system := t.system.supersede db } := by
  obtain ⟨row, hworkflow, hrow, -⟩ := markPending_superseding hdb hm
  refine h.supersede hfences hrow ?_ ?_
  · rwa [← revision_of_pending hrow]
  · intro w hw
    cases hworkflow.symm.trans hw

/-! ## Steps of the system -/

/-- A step of another writer keeps the invariant. -/
lemma Gated.step (h : Gated t) {l : Label} (hcapture : ∀ serverId until' facts,
    l ≠ .capture serverId until' facts) (hrun : ∀ i a, l ≠ .run i a) (hcore : ∀ i next, l ≠ .core i next) :
    Gated { t with system := FixedServer.step t.system l } := by
  have hfences := h.fences.step l
  cases l with
  | capture serverId until' facts => exact absurd rfl (hcapture serverId until' facts)
  | run i a => exact absurd rfl (hrun i a)
  | core i next => exact absurd rfl (hcore i next)
  | set serverId =>
      rw [FixedServer.step] at hfences ⊢
      split_ifs at hfences ⊢
      · exact h
      · cases hset : setGlobalFixedServer serverId t.system.db with
        | none => exact h
        | some db =>
            rw [hset] at hfences
            have hrevision := (supersedes_set hset).revision
            unfold setGlobalFixedServer at hset
            obtain ⟨⟨revision, snapshot⟩, -, hset⟩ := Option.bind_eq_some_iff.mp hset
            obtain ⟨row, hworkflow, hrow, hroute⟩ :=
              markPending_superseding (Option.some.inj hset).symm rfl
            refine h.supersede hfences hrow ?_ ?_
            · rwa [← revision_of_pending hrow]
            · intro w hw
              obtain rfl := Option.some.inj (hworkflow.symm.trans hw)
              refine ⟨rfl, ?_⟩
              intro r hr _
              rw [hroute] at hr
              obtain rfl := Option.some.inj hr
              rfl
  | clear =>
      rw [FixedServer.step] at hfences ⊢
      split_ifs at hfences ⊢
      · exact h
      · exact h.unfixed rfl rfl hfences (supersedes_clear t.system.db).revision
  | expire =>
      rw [FixedServer.step] at hfences ⊢
      cases hexpire : clearExpired t.system.db with
      | none => exact h
      | some db =>
          rw [hexpire] at hfences
          have hrevision := (supersedes_expire hexpire).1.revision
          unfold clearExpired at hexpire
          obtain ⟨r, -, hexpire⟩ := Option.bind_eq_some_iff.mp hexpire
          split_ifs at hexpire
          exact h.unfixed (Option.some.inj hexpire).symm rfl hfences hrevision
  | ensure run =>
      exact h.carried hfences rfl (follows_ensureRoute t.system.db) (.of_pending rfl) rfl
  | mark m => exact h.carried hfences rfl (follows_mark _ none _) (carries_mark _ _) rfl
  | attempt op revision =>
      rw [FixedServer.step] at hfences ⊢
      split_ifs at hfences ⊢ with hop
      · exact h
      · cases hattempt : FixedServer.attempt op revision t.system.db with
        | none => exact h
        | some db =>
            rw [hattempt] at hfences
            exact h.carried hfences rfl (follows_attempt (Bool.not_eq_true _ ▸ hop) hattempt)
              (carries_attempt hattempt) rfl
  | advance =>
      exact h.carried hfences rfl (.of_pending (Nat.le_succ _) rfl rfl) (.of_pending rfl) rfl
  | changeCore core revision bypass =>
      exact h.carried hfences rfl (.of_pending le_rfl rfl rfl) (.of_pending rfl) rfl
  | tick seconds =>
      exact h.carried hfences rfl (.of_pending le_rfl rfl rfl) (.of_pending rfl) rfl

lemma Gated.coreStep (h : Gated t) (i : ℕ) (next : CoreStep) :
    Gated { t with system := t.system.coreStep i next } := by
  have hfences := h.fences.coreStep i next
  rcases coreStep_cases t.system i next with hstep | ⟨_, _, _, _, -, -, hstep⟩ | hstep |
    ⟨c, db, c', -, -, hexec, hstep⟩
  · rw [hstep]
    exact h
  · rw [hstep] at hfences ⊢
    exact h.carried hfences rfl (.of_pending le_rfl rfl rfl) (.of_pending rfl) rfl
  · rw [hstep] at hfences ⊢
    exact h.carried hfences rfl (.of_pending le_rfl rfl rfl) (.of_pending rfl) rfl
  · rw [hstep] at hfences ⊢
    exact h.carried hfences rfl (follows_coreExec hexec).1 (.of_pending (pending_coreExec hexec)) rfl

/-- A transaction that commits comes after the selection. -/
lemma Attempt.cleared_of_commits {a : Attempt} {action : Action} (h : a.permits action = true)
    (hcommits : action.commits = true) : a.cleared = true := by
  have hpace : a.pace = .selected ∨ a.pace = .committed := by
    cases action with
    | commitStage =>
        simp only [Attempt.permits, Bool.and_eq_true, decide_eq_true_eq] at h
        exact Or.inl h.1
    | coreVerified => exact Or.inr (of_decide_eq_true h)
    | xrayVerified => exact Or.inr (of_decide_eq_true h)
    | _ => cases hcommits
  rcases hpace with hpace | hpace
  · simp [Attempt.cleared, hpace]
  · simp [Attempt.cleared, hpace]

lemma Gated.runAction (h : Gated t) (i : ℕ) (a : Action) : Gated (t.runAction i a) := by
  unfold Attempts.runAction
  cases hrun : t.system.runs[i]? with
  | none => exact h
  | some r =>
      dsimp only
      split_ifs with hgo
      · obtain ⟨hpermits, hguard, hgoes⟩ := hgo
        obtain ⟨⟨db, r'⟩, hexec⟩ := Option.isSome_iff_exists.mp hgoes
        have hmem := List.mem_of_getElem? hrun
        have hmoves := moves_of_exec hexec
        have hintent : r'.token.fixedIntent = r.token.fixedIntent := by
          rw [Token.fixedIntent, hmoves.revision, hmoves.server, Token.fixedIntent]
        have hprobed : a.commits = true → Deed.probed r.token.fixedIntent ∈ t.history := fun hcommits =>
          h.attempts i r hrun (Attempt.cleared_of_commits hpermits hcommits)
        have hfences := h.fences.runAction i a
        have hstep : t.system.runAction i a = { t.system with
            db := db
            runs := t.system.runs.set i r'
            history := (a.event r.token.pendingRevision).toList ++ t.system.history } := by
          simp only [System.runAction, hrun, if_neg hguard, hexec]
        have hruns : ∀ (j : ℕ) (r₁ : Run), (t.system.runAction i a).runs[j]? = some r₁ →
            ∃ r₂, t.system.runs[j]? = some r₂ ∧ r₁.token.fixedIntent = r₂.token.fixedIntent := by
          intro j r₁ hr₁
          rw [hstep, List.getElem?_set] at hr₁
          split_ifs at hr₁ with hi hlt
          · obtain rfl := Option.some.inj hr₁
            exact ⟨r, hi ▸ hrun, hintent⟩
          · exact ⟨r₁, hr₁, rfl⟩
        have hbase : Gated { t with system := t.system.runAction i a } := by
          refine h.moved hfences (by rw [hstep]) (by rw [hstep]; exact hmoves.follows)
            (P := a.commits = true ∧ r.token.pendingRevision = t.system.db.revision)
            (by rw [hstep]; exact carries_exec hexec) hruns ?_
          rintro ⟨hcommits, hrevision⟩ row w hfixed
          have hrow := hrevision.trans (revision_of_fixedWorkflow hfixed)
          rw [← hrow, ← h.owner row w hfixed r hmem hrow]
          exact hprobed hcommits
        cases a with
        | commitStage core inputHash activeConfigHash =>
            refine (hbase.setPace ?_).record ?_
            · intro r₁ hr₁ _
              obtain ⟨r₂, hr₂, hsame⟩ := hruns i r₁ hr₁
              obtain rfl := Option.some.inj (hrun.symm.trans hr₂)
              rw [hsame]
              exact hprobed rfl
            · intro k hk
              obtain rfl := Option.some.inj hk
              exact hprobed rfl
        | _ => exact hbase
      · exact h

/-- A captured token is that of the pending workflow. -/
lemma capture_fixedWorkflow {serverId : Option Text} {fixedUntil : Option ℤ} {facts : RuntimeFacts}
    {token : Token} (h : captureFixedApplyContext serverId fixedUntil facts db = some token) :
    ∃ row w, db.fixedWorkflow = some (row, w) ∧ token.phase = w.phase ∧
      token.fixedIntent = ⟨row.state.revision, w.serverId⟩ := by
  unfold captureFixedApplyContext at h
  obtain ⟨coreRevision, -, h⟩ := Option.bind_eq_some_iff.mp h
  obtain ⟨coreSnapshot, -, h⟩ := Option.bind_eq_some_iff.mp h
  obtain ⟨⟨row, w⟩, hrow, h⟩ := Option.bind_eq_some_iff.mp h
  dsimp only at h
  split_ifs at h
  obtain rfl := Option.some.inj h
  exact ⟨row, w, hrow, rfl, rfl⟩

/-- A run that finds the generation verified finds its server probed. -/
lemma Gated.capture (h : Gated t) {serverId : Option Text} {fixedUntil : Option ℤ}
    {facts : RuntimeFacts} {token : Token}
    (hcapture : captureFixedApplyContext serverId fixedUntil facts t.system.db = some token)
    (hreceipt : token.phase = .mihomoGenerationVerified →
      Deed.probed token.fixedIntent ∈ t.history) :
    Gated { t with
      system := { t.system with runs := t.system.runs ++ [⟨token, none⟩] }
      attempt := Function.update t.attempt t.system.runs.length ⟨token.phase, .captured⟩ } := by
  obtain ⟨row, w, hfixed, hphase, hintent⟩ := capture_fixedWorkflow hcapture
  have hrevision : token.pendingRevision = row.state.revision :=
    congrArg FixedIntent.revision hintent
  have hserver : token.serverId = w.serverId := congrArg FixedIntent.serverId hintent
  have hrow := revision_of_fixedWorkflow hfixed
  have hnew : ∀ r ∈ t.system.runs ++ [Run.mk token none], r ∈ t.system.runs ∨ r.token = token := by
    intro r hr
    rcases List.mem_append.mp hr with hr | hr
    · exact Or.inl hr
    · exact Or.inr (congrArg Run.token (List.mem_singleton.mp hr))
  refine ⟨h.fences.capture hcapture, ?_, ?_, h.wanted, ?_, h.phase, ?_, h.ordered⟩
  · intro r hr
    rcases hnew r hr with hr | hr
    · exact h.stored r hr
    · rw [hr, hrevision, hrow]
  · intro row' w' hfixed' r hr hcurrent
    rcases hnew r hr with hr | hr
    · exact h.owner row' w' hfixed' r hr hcurrent
    · obtain ⟨rfl, rfl⟩ := Prod.mk.inj (Option.some.inj (hfixed.symm.trans hfixed'))
      rw [hr, hserver]
  · intro r hr hcurrent route hroute hmode
    rcases hnew r hr with hr | hr
    · exact h.routed r hr hcurrent route hroute hmode
    · rw [hr, hserver]
      exact h.wanted row w hfixed route hroute hmode
  · intro i r hr hcleared
    rw [List.getElem?_append] at hr
    split_ifs at hr with hlt
    · have hne : i ≠ t.system.runs.length := Nat.ne_of_lt hlt
      refine h.attempts i r hr ?_
      simpa only [Function.update_of_ne hne] using hcleared
    · -- the new run is the last one
      obtain ⟨hi, hr⟩ := List.getElem?_eq_some_iff.mp hr
      rw [List.length_singleton] at hi
      have hlast : i = t.system.runs.length := by omega
      obtain rfl : r = ⟨token, none⟩ := by
        rw [← hr]
        exact List.mem_singleton.mp (List.getElem_mem _)
      subst hlast
      simp only [Function.update_self, Attempt.cleared, Bool.or_false] at hcleared
      cases hcase : token.phase with
      | intent =>
          rw [hcase] at hcleared
          cases hcleared
      | mihomoReserved =>
          rw [hcase] at hcleared
          cases hcleared
      | mihomoGenerationVerified => exact hreceipt hcase
      | _ =>
          show Deed.probed token.fixedIntent ∈ t.history
          rw [hintent]
          refine h.phase row w hfixed ?_
          rw [← hphase, hcase]
          rfl

/-! ## Steps of the runs -/

lemma Gated.systemStep (h : Gated t) {l : Label} (hok : ReceiptProbed t (.system l)) :
    Gated (t.systemStep l) := by
  cases l with
  | run i a => exact h.runAction i a
  | core i next =>
      rw [Attempts.systemStep]
      split_ifs
      · exact h.coreStep i next
      · exact h
  | capture serverId fixedUntil facts =>
      rw [Attempts.systemStep]
      cases hcapture : captureFixedApplyContext serverId fixedUntil facts t.system.db with
      | none => exact h
      | some token => exact h.capture hcapture (hok token hcapture)
  | _ => exact h.step (by simp) (by simp) (by simp)

/-- A pace at which nothing is selected asks for no probe but the one of the entry. -/
lemma Gated.setPace_before (h : Gated t) (i : ℕ) {pace : Pace}
    (hpace : pace = .materialized ∨ pace = .over) : Gated (t.setPace i pace) := by
  refine h.setPace ?_
  intro r hr hcleared
  refine h.attempts i r hr ?_
  have hentry : (t.attempt i).entry.generationVerified = true := by
    rcases hpace with rfl | rfl
    · simpa [Attempt.cleared] using hcleared
    · simpa [Attempt.cleared] using hcleared
  rw [Attempt.cleared, hentry]
  rfl

lemma Gated.select (h : Gated t) {i : ℕ} {r : Run} (hrun : t.system.runs[i]? = some r)
    (runtime native ok : Bool) : Gated (t.select i r runtime native ok) := by
  unfold Attempts.select
  dsimp only
  split_ifs with hgo hmatches hwrites
  · have hprobed := h.attempts i r hrun (by simp [Attempt.cleared, hgo.1])
    refine (h.setPace ?_).record ?_
    · intro r' hr' _
      obtain rfl := Option.some.inj (hrun.symm.trans hr')
      exact hprobed
    · intro k hk
      obtain rfl := Option.some.inj hk
      exact hprobed
  · have hprobed := h.attempts i r hrun (by simp [Attempt.cleared, hgo.1])
    refine h.setPace ?_
    intro r' hr' _
    obtain rfl := Option.some.inj (hrun.symm.trans hr')
    exact hprobed
  · exact h.setPace_before i (Or.inr rfl)
  · exact h

/-- **A restart within a run restores the server of the run.**  Inside the apply of core and the
generation of Xray a fixed route is that of the run. -/
lemma Gated.settled_of_within (h : Gated t) {i : ℕ} {r : Run} (hrun : t.system.runs[i]? = some r)
    (hwithin : t.within i r = true) {serverId : Text}
    (hsettled : t.system.db.settledServer = some serverId) : serverId = r.token.serverId := by
  obtain ⟨route, hroute, hsettled⟩ := Option.bind_eq_some_iff.mp hsettled
  split_ifs at hsettled with hchecks
  have hmode := hchecks.1
  have hcurrent : ¬t.system.Superseded r.token.pendingRevision := by
    unfold Attempts.within at hwithin
    cases hcore : t.system.core with
    | none =>
        rw [hcore] at hwithin
        obtain ⟨row, w, hfixed, hrow, -⟩ := generationAuthorized_iff.mp hwithin
        exact h.fences.not_superseded (by rw [revision_of_fixedWorkflow hfixed, hrow])
    | some c =>
        simp only [hcore, Bool.and_eq_true, decide_eq_true_eq] at hwithin
        obtain ⟨rfl, hpassed⟩ := hwithin
        intro hsuperseded
        exact (h.fences.core c hcore r hrun).2 hpassed hsuperseded ⟨route, hroute, hmode⟩
  have hwanted := h.routed r (List.mem_of_getElem? hrun) hcurrent route hroute hmode
  exact Option.some.inj (hsettled.symm.trans hwanted)

/-- **One step keeps the invariant.** -/
lemma Gated.act (h : Gated t) {a : Act} (hok : ReceiptProbed t a) : Gated (t.act a) := by
  cases a with
  | system l => exact h.systemStep hok
  | materialize i ok =>
      rw [Attempts.act]
      cases hrun : t.system.runs[i]? with
      | none => exact h
      | some r =>
          dsimp only
          split_ifs
          · exact h.setPace_before i (Or.inl rfl)
          · exact h.setPace_before i (Or.inr rfl)
          · exact h
  | preCheck i ok =>
      rw [Attempts.act]
      cases hrun : t.system.runs[i]? with
      | none => exact h
      | some r =>
          dsimp only
          split_ifs with hpace hentry hanswer
          · refine h.setPace ?_
            intro r' hr' _
            exact h.attempts i r' hr' (by rw [Attempt.cleared, hentry]; rfl)
          · have hrecorded : Gated (t.record (.probed r.token.fixedIntent)) :=
              h.record fun k hk => by cases hk
            refine hrecorded.setPace ?_
            intro r' hr' _
            obtain rfl := Option.some.inj (hrun.symm.trans hr')
            exact List.mem_cons_self
          · exact h.setPace_before i (Or.inr rfl)
          · exact h
  | select i runtime native ok =>
      rw [Attempts.act]
      cases hrun : t.system.runs[i]? with
      | none => exact h
      | some r => exact h.select hrun runtime native ok
  | reselect i runtime =>
      rw [Attempts.act]
      cases hrun : t.system.runs[i]? with
      | none => exact h
      | some r =>
          dsimp only
          split_ifs with hgo
          · refine h.record ?_
            intro k hk
            obtain rfl := Option.some.inj hk
            exact h.attempts i r hrun (by simp [Attempt.cleared, hgo.1])
          · exact h
  | restart i =>
      rw [Attempts.act]
      cases hrun : t.system.runs[i]? with
      | none => exact h
      | some r =>
          dsimp only
          split_ifs with hgo
          · cases hsettled : t.system.db.settledServer with
            | none => exact h
            | some serverId =>
                refine h.record ?_
                intro k hk
                obtain rfl := Option.some.inj hk
                rw [h.settled_of_within hrun hgo.2 hsettled]
                exact h.attempts i r hrun (by simp [Attempt.cleared, hgo.1])
          · exact h

/-- **Nothing is selected before its pre-check.**  In a run of the system in which nobody starts
between the receipt of a generation and a pre-check of its server that returns ok, the fixed target is
written to vpn-global, and the workflow committed as `mihomo_verified`, only after a pre-check of that
server has returned ok under the same pending revision. -/
theorem prechecked_run {t₀ : Attempts} (h₀ : t₀.Fresh) {acts : List Act}
    (hrun : Run.Along Attempts.act ReceiptProbed t₀ acts) {later earlier : List Deed} {d : Deed}
    (hhistory : (acts.foldl Attempts.act t₀).history = later ++ d :: earlier) :
    ∀ k ∈ d.selected, Deed.probed k ∈ earlier := by
  have hgated : Gated (acts.foldl Attempts.act t₀) :=
    Run.Along.keeps (fun _ _ ht ha => ht.act ha) h₀.gated hrun
  intro k hk
  exact hgated.ordered.probed_mem hhistory hk

/-! ## A run that is killed after its receipt -/

namespace Example

def freshAttempts : Attempts := ⟨start, fun _ => ⟨.intent, .captured⟩, []⟩

def candidateHash : Text := List.replicate 64 'a'

def reservation : Reservation where
  operationId := "operation".toList
  jobId := "job".toList
  beforeRevision := 1
  selectionRevision := 2
  inputFingerprintHash := "input".toList
  candidateConfigHash := candidateHash
  beforeActiveConfigHash := "config".toList
  beforeRuntimeIncarnation := "incarnation".toList
  checkpointRef := "checkpoint".toList

def receipt : Receipt where
  operationId := "operation".toList
  jobId := "job".toList
  beforeRevision := 1
  selectionRevision := 2
  inputFingerprintHash := "input".toList
  candidateConfigHash := candidateHash
  activeConfigHash := candidateHash
  runtimeIncarnation := "recreated".toList
  nativeUdpPolicyVerified := true
  nativeTopLevelRulesMatch := true
  nativeSelectorMembershipMatches := true
  guardedRulesMatch := true
  publicationVerified := true

/-- A run sets the server and generates a changed configuration. -/
def generated : List Act :=
  [.system (.set first), .system (.capture (some first) (some 86400) facts),
    .system (.run 0 (.reserve reservation)), .system (.run 0 (.publish receipt))]

/-- A second run resumes the workflow, and comes to its selection. -/
def resumed : List Act :=
  [.system (.capture (some first) (some 86400) facts), .materialize 1 true, .preCheck 1 false,
    .select 1 true true true, .system (.run 1 (.commitStage coreRow [] []))]

lemma freshAttempts_fresh : freshAttempts.Fresh := ⟨start_fresh, rfl, rfl⟩

/-- The first run probes the server and is killed; the second one selects it. -/
theorem prechecked_resumed :
    Deed.probed ⟨1, first⟩ ∈ [Deed.wrote ⟨1, first⟩, Deed.probed ⟨1, first⟩] := by
  have hrun : Run.Along Attempts.act ReceiptProbed freshAttempts
      (generated ++ [.materialize 0 true, .preCheck 0 true] ++ resumed) := by decide +kernel
  exact prechecked_run freshAttempts_fresh hrun
    (show _ = [] ++ Deed.committed ⟨1, first⟩ :: _ by decide +kernel) ⟨1, first⟩ rfl

/-- **A resumed run selects a server that was never probed.**  The first run is killed between the
receipt of its generation and its pre-check. -/
theorem resumed_unchecked : freshAttempts.Fresh ∧
    ((generated ++ resumed).foldl Attempts.act freshAttempts).history =
      [.committed ⟨1, first⟩, .wrote ⟨1, first⟩] ∧
    ¬∀ later earlier d,
      ((generated ++ resumed).foldl Attempts.act freshAttempts).history = later ++ d :: earlier →
        ∀ k ∈ d.selected, Deed.probed k ∈ earlier := by
  have hhistory : ((generated ++ resumed).foldl Attempts.act freshAttempts).history =
      [.committed ⟨1, first⟩, .wrote ⟨1, first⟩] := by decide +kernel
  refine ⟨freshAttempts_fresh, hhistory, ?_⟩
  intro h
  exact absurd (h [.committed ⟨1, first⟩] [] (.wrote ⟨1, first⟩) hhistory ⟨1, first⟩ rfl)
    List.not_mem_nil

end Example

end FwRouter.FixedServer
