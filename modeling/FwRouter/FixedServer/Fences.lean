import FwRouter.FixedServer.Interleaving

/-!
# The fences of the fixed server

The progress of the pending row is its revision, and under one revision how far the workflow has come:
nothing reserved, reserved, received, over.  No transaction takes it back.  So no revision is reserved,
received or cleared twice (`Progress.nodup_of_run`).

Whatever a run writes is fenced by the pending revision or by a selection revision that it holds.  A
set, a clear and an expiry raise both, so that the fences of older runs are below the present values
from then on.  The one exception is the apply of core: it is fenced when it begins, and an expiry by
its own run comes between its fence and its writes.
-/

namespace FwRouter.FixedServer

open Py

/-! ## Progress -/

/-- How far the generation has come in a phase. -/
def Phase.rank : Phase → ℕ
  | .intent => 0
  | .mihomoReserved => 1
  | _ => 2

def PendingRow.rank (row : PendingRow) : ℕ :=
  if row.state.pending then row.workflow.elim 2 (·.phase.rank) else 3

def Db.progress (db : Db) : ℤ ×ₗ ℕ :=
  match db.pending with
  | none => toLex (0, 3)
  | some row => toLex (row.state.revision, row.rank)

/-- The revision of the pending row, `0` without one. -/
def Db.revision (db : Db) : ℤ := (ofLex db.progress).1

/-- The progress at which an event happens. -/
def Event.mark : Event → ℤ ×ₗ ℕ
  | .reserved revision => toLex (revision, 0)
  | .received revision => toLex (revision, 1)
  | .cleared revision => toLex (revision, 2)

variable {db db' : Db} {row : PendingRow} {w w' : Workflow} {revision : ℤ}

lemma Phase.rank_le (phase : Phase) : phase.rank ≤ 2 := by
  cases phase <;> decide

lemma PendingRow.rank_le (row : PendingRow) : row.rank ≤ 3 := by
  unfold PendingRow.rank
  split_ifs
  · cases row.workflow with
    | none => exact Nat.le_succ 2
    | some w => exact (w.phase.rank_le).trans (Nat.le_succ 2)
  · exact le_rfl

lemma progress_of_pending (h : db.pending = some row) :
    db.progress = toLex (row.state.revision, row.rank) := by
  rw [Db.progress, h]

lemma revision_of_pending (h : db.pending = some row) : db.revision = row.state.revision := by
  rw [Db.revision, progress_of_pending h]
  rfl

lemma revision_eq_stored (db : Db) :
    db.revision = Xray.storedRevision (db.pending.map (·.state)) := by
  cases h : db.pending with
  | none =>
      rw [Db.revision, Db.progress, h]
      rfl
  | some row =>
      rw [revision_of_pending h]
      rfl

lemma revision_mono (h : db.progress ≤ db'.progress) : db.revision ≤ db'.revision :=
  Prod.Lex.monotone_fst _ _ h

lemma progress_lt_of_revision (h : db.revision < db'.revision) : db.progress < db'.progress :=
  Prod.Lex.lt_iff.mpr (Or.inl h)

lemma progress_le_of_rank {n m : ℕ} (h : n ≤ m) :
    (toLex (revision, n) : ℤ ×ₗ ℕ) ≤ toLex (revision, m) :=
  Prod.Lex.le_iff.mpr (Or.inr ⟨rfl, h⟩)

lemma progress_lt_of_rank {n m : ℕ} (h : n < m) :
    (toLex (revision, n) : ℤ ×ₗ ℕ) < toLex (revision, m) :=
  Prod.Lex.lt_iff.mpr (Or.inr ⟨rfl, h⟩)

lemma progress_of_fixedWorkflow (h : db.fixedWorkflow = some (row, w)) :
    db.progress = toLex (row.state.revision, w.phase.rank) := by
  obtain ⟨hrow, hw, hpending⟩ := fixedWorkflow_eq_some.mp h
  rw [progress_of_pending hrow, PendingRow.rank, if_pos hpending, hw]
  rfl

lemma Rewrites.progress (h : Rewrites revision w w' db db') :
    db.progress = toLex (revision, w.phase.rank) ∧ db'.progress = toLex (revision, w'.phase.rank) := by
  obtain ⟨row, hrow, rfl, hrow'⟩ := h.row
  obtain ⟨-, -, hpending⟩ := fixedWorkflow_eq_some.mp hrow
  refine ⟨progress_of_fixedWorkflow hrow, ?_⟩
  rw [progress_of_pending hrow', PendingRow.rank, if_pos hpending]
  rfl

/-- A mark that is not absorbed raises the revision. -/
lemma progress_markPending (m : Xray.Mark) (workflow : Option Workflow) (mid : Db)
    (hpending : mid.pending = db.pending) :
    db.progress ≤ (markPending m workflow mid).progress ∧
      (m.supersedeFixedWorkflow = true → db.revision < (markPending m workflow mid).revision) := by
  rcases markPending_cases m workflow mid with ⟨hm, -, hsame⟩ | ⟨row, hrow, -, -, hsave⟩
  · rw [hsame, Db.progress, Db.progress, hpending, hm]
    exact ⟨le_rfl, fun h => Bool.noConfusion h⟩
  · have hlt : db.revision < (markPending m workflow mid).revision := by
      have hrevision : (markPending m workflow mid).revision = row.state.revision := by
        rw [hsave]
        exact revision_of_pending rfl
      rw [hrevision, hrow, hpending, ← revision_eq_stored]
      omega
    exact ⟨(progress_lt_of_revision hlt).le, fun _ => hlt⟩

/-! ## What no transaction takes back -/

/-- What every transaction keeps, but for those that set, clear and expire. -/
structure Follows (db db' : Db) : Prop where
  selection : db.selectionRevision ≤ db'.selectionRevision
  route : db.route.isSome → db'.route.isSome
  target : ∀ r' ∈ db'.route, r'.serverMode = .fixed → ∃ r ∈ db.route, r.target = r'.target
  progress : db.progress ≤ db'.progress

lemma Follows.fixed (h : Follows db db') : db'.fixed → db.fixed := by
  rintro ⟨r', hr', hfixed⟩
  obtain ⟨r, hr, htarget⟩ := h.target r' hr' hfixed
  exact ⟨r, hr, (congrArg Prod.fst htarget).trans hfixed⟩

lemma Follows.of_target (hselection : db.selectionRevision ≤ db'.selectionRevision)
    (htarget : db'.route.map Route.target = db.route.map Route.target)
    (hprogress : db.progress ≤ db'.progress) : Follows db db' where
  selection := hselection
  route := by
    intro h
    have := congrArg Option.isSome htarget
    rw [Option.isSome_map, Option.isSome_map] at this
    rwa [this]
  target := by
    intro r' hr' _
    have hsome : db.route.map Route.target = some r'.target := by
      rw [← htarget, Option.mem_def.mp hr']
      rfl
    exact Option.map_eq_some_iff.mp hsome
  progress := hprogress

lemma Follows.of_pending (hselection : db.selectionRevision ≤ db'.selectionRevision)
    (hroute : db'.route = db.route) (hpending : db'.pending = db.pending) : Follows db db' :=
  .of_target hselection (by rw [hroute]) (by rw [Db.progress, Db.progress, hpending])

lemma Rewrites.follows (h : Rewrites revision w w' db db') (hrank : w.phase.rank ≤ w'.phase.rank) :
    Follows db db' := by
  refine .of_target h.selection h.target ?_
  rw [h.progress.1, h.progress.2]
  exact progress_le_of_rank hrank

/-! ## Transactions of runs -/

/-- **What a transaction of a run can do.**  It is fenced by the pending revision of the run or by
the selection revision that the run's Xray generation has left, and the run then holds no later
selection revision than the present one. -/
structure Moves (a : Action) (r r' : Run) (db db' : Db) : Prop where
  fenced : r.generation = some db.selectionRevision ∨ r.token.pendingRevision = db.revision
  follows : Follows db db'
  advances : ∀ log, Progress.Advances Event.mark log
    ((a.event r.token.pendingRevision).toList ++ log) db.progress db'.progress
  revision : r'.token.pendingRevision = r.token.pendingRevision
  server : r'.token.serverId = r.token.serverId
  token : r'.token.selectionRevision = r.token.selectionRevision ∨
    r'.token.selectionRevision = db'.selectionRevision
  generation : r'.generation = r.generation ∨ r'.generation = some db'.selectionRevision

lemma Rewrites.fenced (h : Rewrites revision w w' db db') : revision = db.revision := by
  rw [Db.revision, h.progress.1]
  rfl

lemma Follows.advances (h : Follows db db') (log : List Event) :
    Progress.Advances Event.mark log log db.progress db'.progress :=
  Or.inl ⟨rfl, h.progress⟩

lemma complete_eq_some {t : Token} {core : CoreProof} {xray : XrayProof} {failed : Bool}
    (h : complete t core xray failed db = some db') :
    Completed db ∧ completeRevision t.pendingRevision db = some db' ∧
      db.progress = toLex (t.pendingRevision, 2) := by
  unfold complete at h
  obtain ⟨r, hroute, h⟩ := Option.bind_eq_some_iff.mp h
  obtain ⟨⟨row, w⟩, hrow, h⟩ := Option.bind_eq_some_iff.mp h
  dsimp only at h
  split_ifs at h with hchecks
  obtain ⟨hmode, hdesired, happlied, huntil, hclean, hcode, hmessage, hlive, hselection, hcore,
    henabled, hrevision, hphase, hserver, hfixed, hwselection, hwcore, hwsnapshot, -⟩ := hchecks
  have hcurrent : db.coreRevision = some t.coreRevision ∧ db.core = some t.coreSnapshot := by
    simpa only [Db.coreCurrent, Bool.and_eq_true, decide_eq_true_eq] using hcore
  refine ⟨⟨r, row, w, hroute, hrow, hphase, hmode, ?_, ?_, ?_, hlive, hclean, hcode, hmessage, ?_, ?_,
    ?_, ?_⟩, h, ?_⟩
  · rw [hserver, hdesired]
  · rw [hserver, happlied]
  · rw [hfixed, huntil]
  · rw [hwselection, hselection]
  · rw [hwcore, hcurrent.1]
  · rw [hwsnapshot, hcurrent.2]
  · rw [hwsnapshot]
    exact henabled
  · rw [progress_of_fixedWorkflow hrow, hphase, hrevision]
    rfl

lemma completeRevision_progress (h : completeRevision revision db = some db') :
    db'.progress = toLex (revision, 3) ∧ Follows db db' := by
  obtain ⟨row, hrow, hpending, rfl, rfl⟩ := completeRevision_eq_some.mp h
  have hprogress : ∀ now, ({ db with
      pending := some ⟨Xray.Op.completeRevision.update row.state.revision now row.state, none⟩ } :
        Db).progress = toLex (row.state.revision, 3) := fun _ => rfl
  refine ⟨hprogress _, .of_target le_rfl rfl ?_⟩
  rw [hprogress, progress_of_pending hrow]
  exact progress_le_of_rank row.rank_le

lemma moves_of_exec {a : Action} {r r' : Run} (h : a.exec r db = some (db', r')) :
    Moves a r r' db db' := by
  cases a with
  | reserve v =>
      obtain ⟨db₁, hdb, h⟩ := Option.bind_eq_some_iff.mp h
      obtain ⟨rfl, rfl⟩ := Prod.mk.inj (Option.some.inj h)
      obtain ⟨w, w', hw, hfrom, hto, hnext⟩ := reserve_rewrites hdb
      refine ⟨Or.inr hw.fenced, hw.follows (by simp [hfrom, hto, Phase.rank]), ?_, rfl, rfl,
        Or.inr hnext.symm, Or.inl rfl⟩
      intro log
      refine Or.inr ⟨_, rfl, ?_, ?_⟩
      · rw [hw.progress.1, hfrom]
        exact le_rfl
      · rw [hw.progress.2, hto]
        exact progress_lt_of_rank Nat.zero_lt_one
  | publish receipt =>
      obtain ⟨db₁, hdb, h⟩ := Option.bind_eq_some_iff.mp h
      obtain ⟨rfl, rfl⟩ := Prod.mk.inj (Option.some.inj h)
      obtain ⟨w, w', hw, hfrom, hto⟩ := publish_rewrites hdb
      refine ⟨Or.inr hw.fenced, hw.follows (by simp [hfrom, hto, Phase.rank]), ?_, rfl, rfl,
        Or.inl rfl, Or.inl rfl⟩
      intro log
      refine Or.inr ⟨_, rfl, ?_, ?_⟩
      · rw [hw.progress.1, hfrom]
        exact le_rfl
      · rw [hw.progress.2, hto]
        exact progress_lt_of_rank (Nat.lt_succ_self 1)
  | commitStage core inputHash activeConfigHash =>
      obtain ⟨db₁, hdb, h⟩ := Option.bind_eq_some_iff.mp h
      obtain ⟨rfl, rfl⟩ := Prod.mk.inj (Option.some.inj h)
      obtain ⟨w, w', hw, hto⟩ := commit_rewrites hdb
      have hfollows := hw.follows (by rw [hto]; exact w.phase.rank_le)
      exact ⟨Or.inr hw.fenced, hfollows, hfollows.advances, rfl, rfl, Or.inr rfl, Or.inl rfl⟩
  | coreVerified core proof inputHash =>
      obtain ⟨db₁, hdb, h⟩ := Option.bind_eq_some_iff.mp h
      obtain ⟨rfl, rfl⟩ := Prod.mk.inj (Option.some.inj h)
      obtain ⟨w, hw, -⟩ := update_rewrites hdb fun _ => rfl
      have hfollows := hw.follows w.phase.rank_le
      exact ⟨Or.inr hw.fenced, hfollows, hfollows.advances, rfl, rfl, Or.inl rfl, Or.inl rfl⟩
  | generate =>
      rw [Action.exec] at h
      split_ifs at h with hauthorized
      obtain ⟨rfl, rfl⟩ := Prod.mk.inj (Option.some.inj h)
      obtain ⟨row, w, hrow, hrevision, -⟩ := generationAuthorized_iff.mp hauthorized
      have hfollows : Follows db { db with selectionRevision := db.selectionRevision + 1 } :=
        .of_pending (Nat.le_succ _) rfl rfl
      refine ⟨Or.inr ?_, hfollows, hfollows.advances, rfl, rfl, Or.inl rfl, Or.inr rfl⟩
      rw [revision_of_pending (fixedWorkflow_eq_some.mp hrow).1, hrevision]
  | recordGeneration generation expected =>
      obtain ⟨db₁, hdb, h⟩ := Option.bind_eq_some_iff.mp h
      obtain ⟨rfl, rfl⟩ := Prod.mk.inj (Option.some.inj h)
      obtain ⟨w, w', hw, hfrom, hto, hnext⟩ := record_rewrites hdb
      have hfollows := hw.follows (by rw [hfrom, hto])
      exact ⟨Or.inr hw.fenced, hfollows, hfollows.advances, rfl, rfl, Or.inr hnext.symm, Or.inl rfl⟩
  | restore =>
      rw [Action.exec] at h
      split_ifs at h with hgeneration
      obtain ⟨rfl, rfl⟩ := Prod.mk.inj (Option.some.inj h)
      have hfollows : Follows db { db with selectionRevision := db.selectionRevision + 1 } :=
        .of_pending (Nat.le_succ _) rfl rfl
      exact ⟨Or.inl hgeneration, hfollows, hfollows.advances, rfl, rfl, Or.inl rfl, Or.inr rfl⟩
  | xrayVerified proof =>
      obtain ⟨db₁, hdb, h⟩ := Option.bind_eq_some_iff.mp h
      obtain ⟨rfl, rfl⟩ := Prod.mk.inj (Option.some.inj h)
      obtain ⟨w, hw, -⟩ := update_rewrites hdb fun _ => rfl
      have hfollows := hw.follows w.phase.rank_le
      exact ⟨Or.inr hw.fenced, hfollows, hfollows.advances, rfl, rfl, Or.inl rfl, Or.inl rfl⟩
  | complete core xray failed =>
      obtain ⟨db₁, hdb, h⟩ := Option.bind_eq_some_iff.mp h
      obtain ⟨rfl, rfl⟩ := Prod.mk.inj (Option.some.inj h)
      obtain ⟨-, hdone, hfrom⟩ := complete_eq_some hdb
      obtain ⟨hto, hfollows⟩ := completeRevision_progress hdone
      refine ⟨Or.inr ?_, hfollows, ?_, rfl, rfl, Or.inl rfl, Or.inl rfl⟩
      · rw [Db.revision, hfrom]
        rfl
      · intro log
        refine Or.inr ⟨_, rfl, hfrom.le, ?_⟩
        rw [hto]
        exact progress_lt_of_rank (Nat.lt_succ_self 2)

/-! ## The apply of core -/

/-- The second fence has been passed. -/
def Stage.passed : Stage → Bool
  | .entered => false
  | _ => true

lemma follows_commitGlobalMode {mode : Mode} {core : Option (ℕ × CoreSnapshot)}
    (h : commitGlobalMode mode core db = some db') : Follows db db' := by
  unfold commitGlobalMode at h
  obtain ⟨r, hroute, h⟩ := Option.bind_eq_some_iff.mp h
  split_ifs at h
  obtain rfl := Option.some.inj h
  exact .of_target le_rfl (by rw [hroute]; rfl) le_rfl

lemma follows_persistGlobalError {code message : Text}
    (h : persistGlobalError code message db = some db') : Follows db db' := by
  unfold persistGlobalError at h
  obtain ⟨r, hroute, h⟩ := Option.bind_eq_some_iff.mp h
  obtain rfl := Option.some.inj h
  exact .of_target le_rfl (by rw [hroute]; rfl) le_rfl

lemma unchanged_settleCoreEnable {n : ℕ} (h : settleCoreEnable n db = some db') :
    Unchanged db db' := by
  unfold settleCoreEnable at h
  obtain ⟨c, -, h⟩ := Option.bind_eq_some_iff.mp h
  obtain ⟨r, -, h⟩ := Option.bind_eq_some_iff.mp h
  split_ifs at h
  obtain rfl := Option.some.inj h
  exact ⟨rfl, rfl, rfl⟩

lemma Unchanged.follows (h : Unchanged db db') : Follows db db' :=
  .of_pending h.selectionRevision.ge h.route h.pending

lemma CoreApply.selection_of_fence {a : CoreApply} (h : a.fence db = true) :
    db.selectionRevision = a.expectedSelectionRevision := by
  unfold CoreApply.fence at h
  rw [Bool.and_eq_true] at h
  exact of_decide_eq_true h.2

/-- **What a step of the open section can do**: each step has its stage, its guard and its write. -/
lemma coreExec_cases {c c' : CoreSection} {next : CoreStep} (h : c.exec db next = some (db', c')) :
    (next = .fence ∧ c.stage = .entered ∧ c.apply.fence db = true ∧ db' = db ∧
      c' = { c with stage := .fenced db.fencedCore }) ∨
    (∃ core, next = .advance ∧ c.stage = .fenced core ∧
      db' = { db with selectionRevision := db.selectionRevision + 1 } ∧ c' = c) ∨
    (∃ core, next = .prove ∧ c.stage = .fenced core ∧ c.apply.stillFenced core db = true ∧
      db' = db ∧ c' = { c with stage := .applied core }) ∨
    (∃ core, next = .commit ∧ c.stage = .applied core ∧
      commitGlobalMode c.apply.mode core db = some db' ∧ c' = c) ∨
    (∃ core code message, next = .fail code message ∧ c.stage = .fenced core ∧
      persistGlobalError code message db = some db' ∧ c' = c) ∨
    (∃ core, next = .settle ∧ c.stage = .applied core ∧
      settleCoreEnable c.apply.expectedCoreRevision db = some db' ∧ c' = c) := by
  cases next with
  | enter => cases h
  | leave => cases h
  | fence =>
      rw [CoreSection.exec] at h
      split at h
      · rename_i hstage
        split_ifs at h with hfence
        obtain ⟨rfl, rfl⟩ := Prod.mk.inj (Option.some.inj h)
        exact Or.inl ⟨rfl, hstage, hfence, rfl, rfl⟩
      · cases h
  | advance =>
      rw [CoreSection.exec] at h
      split at h
      · rename_i core hstage
        obtain ⟨rfl, rfl⟩ := Prod.mk.inj (Option.some.inj h)
        exact Or.inr (Or.inl ⟨core, rfl, hstage, rfl, rfl⟩)
      · cases h
  | prove =>
      rw [CoreSection.exec] at h
      split at h
      · rename_i core hstage
        split_ifs at h with hfenced
        obtain ⟨rfl, rfl⟩ := Prod.mk.inj (Option.some.inj h)
        exact Or.inr (Or.inr (Or.inl ⟨core, rfl, hstage, hfenced, rfl, rfl⟩))
      · cases h
  | commit =>
      rw [CoreSection.exec] at h
      split at h
      · rename_i core hstage
        obtain ⟨db₁, hdb, h⟩ := Option.bind_eq_some_iff.mp h
        obtain ⟨rfl, rfl⟩ := Prod.mk.inj (Option.some.inj h)
        exact Or.inr (Or.inr (Or.inr (Or.inl ⟨core, rfl, hstage, hdb, rfl⟩)))
      · cases h
  | fail code message =>
      rw [CoreSection.exec] at h
      split at h
      · rename_i core hstage
        obtain ⟨db₁, hdb, h⟩ := Option.bind_eq_some_iff.mp h
        obtain ⟨rfl, rfl⟩ := Prod.mk.inj (Option.some.inj h)
        exact Or.inr (Or.inr (Or.inr (Or.inr (Or.inl ⟨core, code, message, rfl, hstage, hdb, rfl⟩))))
      · cases h
  | settle =>
      rw [CoreSection.exec] at h
      split at h
      · rename_i core hstage
        obtain ⟨db₁, hdb, h⟩ := Option.bind_eq_some_iff.mp h
        obtain ⟨rfl, rfl⟩ := Prod.mk.inj (Option.some.inj h)
        exact Or.inr (Or.inr (Or.inr (Or.inr (Or.inr ⟨core, rfl, hstage, hdb, rfl⟩))))
      · cases h

/-- The second fence of the section finds the selection revision that the run expects. -/
lemma follows_coreExec {c c' : CoreSection} {next : CoreStep} (h : c.exec db next = some (db', c')) :
    Follows db db' ∧ c'.run = c.run ∧ c'.apply = c.apply ∧
      (c'.stage.passed → c.stage.passed ∨
        db'.selectionRevision = c.apply.expectedSelectionRevision) := by
  have hsame : Follows db db := .of_pending le_rfl rfl rfl
  rcases coreExec_cases h with ⟨-, -, hfence, rfl, rfl⟩ | ⟨core, -, -, rfl, rfl⟩ |
    ⟨core, -, hstage, -, rfl, rfl⟩ | ⟨core, -, -, hdb, rfl⟩ | ⟨core, code, message, -, -, hdb, rfl⟩ |
    ⟨core, -, -, hdb, rfl⟩
  · exact ⟨hsame, rfl, rfl, fun _ => Or.inr (CoreApply.selection_of_fence hfence)⟩
  · exact ⟨.of_pending (Nat.le_succ _) rfl rfl, rfl, rfl, fun hpassed => Or.inl hpassed⟩
  · refine ⟨hsame, rfl, rfl, fun _ => Or.inl ?_⟩
    rw [hstage]
    rfl
  · exact ⟨follows_commitGlobalMode hdb, rfl, rfl, fun hpassed => Or.inl hpassed⟩
  · exact ⟨follows_persistGlobalError hdb, rfl, rfl, fun hpassed => Or.inl hpassed⟩
  · exact ⟨(unchanged_settleCoreEnable hdb).follows, rfl, rfl, fun hpassed => Or.inl hpassed⟩

/-! ## The invariant -/

variable {s : System}

/-- A run of the pending revision may hold the selection revision `q`: it is no later than the
present one, and an earlier one once the run is superseded. -/
def System.Bounds (s : System) (revision : ℤ) (q : ℕ) : Prop :=
  q ≤ s.db.selectionRevision ∧ (s.Superseded revision → q < s.db.selectionRevision)

structure Inv (s : System) : Prop where
  token : ∀ r ∈ s.runs, s.Bounds r.token.pendingRevision r.token.selectionRevision
  generation : ∀ r ∈ s.runs, ∀ g ∈ r.generation, s.Bounds r.token.pendingRevision g
  current : ∀ n ∈ s.superseding, s.db.route.isSome ∧ n ≤ s.db.revision
  entered : ∀ c ∈ s.core, c.run < s.runs.length
  core : ∀ c ∈ s.core, ∀ r ∈ s.runs[c.run]?,
    s.Bounds r.token.pendingRevision c.apply.expectedSelectionRevision ∧
      (c.stage.passed → s.Superseded r.token.pendingRevision → ¬s.db.fixed)

lemma System.Fresh.inv (h : s.Fresh) : Inv s where
  token := by simp [h.runs]
  generation := by simp [h.runs]
  current := by simp [h.superseding]
  entered := by simp [h.core]
  core := by simp [h.core]

/-- A pending revision that is the row's is not superseded. -/
lemma Inv.not_superseded (h : Inv s) (hrevision : revision = s.db.revision) :
    ¬s.Superseded revision := by
  rintro ⟨n, hn, hlt⟩
  have := (h.current n hn).2
  omega

lemma System.Bounds.mono {q : ℕ} {s' : System} (h : s.Bounds revision q)
    (hselection : s.db.selectionRevision ≤ s'.db.selectionRevision)
    (hsuperseding : s'.superseding = s.superseding) : s'.Bounds revision q := by
  refine ⟨h.1.trans hselection, fun hs => (h.2 ?_).trans_le hselection⟩
  rwa [System.Superseded, ← hsuperseding]

/-- Nobody has superseded the pending revision of the row. -/
lemma Inv.bounds_current (h : Inv s) {s' : System} {q : ℕ} (hrevision : revision = s.db.revision)
    (hsuperseding : s'.superseding = s.superseding) (hq : q ≤ s'.db.selectionRevision) :
    s'.Bounds revision q := by
  refine ⟨hq, fun hs => absurd ?_ (h.not_superseded hrevision)⟩
  rwa [System.Superseded, ← hsuperseding]

lemma Inv.follows (h : Inv s) (hdb : Follows s.db db) : Inv { s with db := db } where
  token := fun r hr => (h.token r hr).mono hdb.selection rfl
  generation := fun r hr g hg => (h.generation r hr g hg).mono hdb.selection rfl
  current := fun n hn => ⟨hdb.route (h.current n hn).1,
    (h.current n hn).2.trans (revision_mono hdb.progress)⟩
  entered := h.entered
  core := by
    intro c hc r hr
    obtain ⟨hbounds, hfixed⟩ := h.core c hc r hr
    exact ⟨hbounds.mono hdb.selection rfl, fun hpassed hs hdb' => hfixed hpassed hs (hdb.fixed hdb')⟩

/-- A set, a clear or an expiry takes the present selection revision from all who hold it. -/
lemma Inv.supersede (h : Inv s) (hselection : s.db.selectionRevision < db.selectionRevision)
    (hroute : db.route.isSome) (hfixed : s.core.isSome → ¬db.fixed) : Inv (s.supersede db) where
  token := fun r hr => ⟨((h.token r hr).1.trans_lt hselection).le,
    fun _ => (h.token r hr).1.trans_lt hselection⟩
  generation := fun r hr g hg => ⟨((h.generation r hr g hg).1.trans_lt hselection).le,
    fun _ => (h.generation r hr g hg).1.trans_lt hselection⟩
  current := by
    intro n hn
    obtain ⟨row, hrow, rfl⟩ := Option.map_eq_some_iff.mp hn
    exact ⟨hroute, (revision_of_pending hrow).ge⟩
  entered := h.entered
  core := by
    intro c hc r hr
    have hheld := (h.core c hc r hr).1.1
    refine ⟨⟨(hheld.trans_lt hselection).le, fun _ => hheld.trans_lt hselection⟩, fun _ _ => ?_⟩
    exact hfixed (Option.isSome_of_mem hc)

/-- A captured token is one of the pending row and of the present selection revision. -/
lemma capture_eq_some {serverId : Option Text} {fixedUntil : Option ℤ} {facts : RuntimeFacts}
    {token : Token} (h : captureFixedApplyContext serverId fixedUntil facts db = some token) :
    token.pendingRevision = db.revision ∧ token.selectionRevision = db.selectionRevision := by
  unfold captureFixedApplyContext at h
  obtain ⟨coreRevision, -, h⟩ := Option.bind_eq_some_iff.mp h
  obtain ⟨coreSnapshot, -, h⟩ := Option.bind_eq_some_iff.mp h
  obtain ⟨⟨row, w⟩, hrow, h⟩ := Option.bind_eq_some_iff.mp h
  dsimp only at h
  split_ifs at h
  obtain rfl := Option.some.inj h
  exact ⟨(revision_of_pending (fixedWorkflow_eq_some.mp hrow).1).symm, rfl⟩

lemma Inv.capture (h : Inv s) {serverId : Option Text} {fixedUntil : Option ℤ} {facts : RuntimeFacts}
    {token : Token} (hcapture : captureFixedApplyContext serverId fixedUntil facts s.db = some token) :
    Inv { s with runs := s.runs ++ [⟨token, none⟩] } := by
  obtain ⟨hrevision, hselection⟩ := capture_eq_some hcapture
  have hnew : s.Bounds token.pendingRevision token.selectionRevision :=
    h.bounds_current hrevision rfl hselection.le
  refine ⟨?_, ?_, h.current, ?_, ?_⟩
  · intro r hr
    rcases List.mem_append.mp hr with hr | hr
    · exact h.token r hr
    · obtain rfl := List.mem_singleton.mp hr
      exact hnew
  · intro r hr g hg
    rcases List.mem_append.mp hr with hr | hr
    · exact h.generation r hr g hg
    · obtain rfl := List.mem_singleton.mp hr
      cases hg
  · intro c hc
    rw [List.length_append]
    exact Nat.lt_add_right _ (h.entered c hc)
  · intro c hc r hr
    dsimp only at hr
    rw [List.getElem?_append] at hr
    split_ifs at hr with hlt
    · exact h.core c hc r hr
    · -- a run that is not there yet has not entered the section
      obtain rfl := List.mem_singleton.mp (List.mem_of_getElem? hr)
      exact absurd (h.entered c hc) hlt

/-- The run whose transaction goes through is not superseded: one of its fences has let it pass. -/
lemma Inv.not_superseded_of_moves (h : Inv s) {a : Action} {r r' : Run} (hr : r ∈ s.runs)
    (hmoves : Moves a r r' s.db db) : ¬s.Superseded r.token.pendingRevision := by
  intro hs
  rcases hmoves.fenced with hgeneration | hrevision
  · exact absurd ((h.generation r hr _ hgeneration).2 hs) (lt_irrefl _)
  · exact h.not_superseded hrevision hs

lemma Inv.runAction (h : Inv s) (i : ℕ) (a : Action) : Inv (s.runAction i a) := by
  rcases runAction_cases s i a with hsame | ⟨r, db, r', hrun, hexec, hstep⟩
  · rw [hsame]
    exact h
  · rw [hstep]
    have hmoves := moves_of_exec hexec
    have hr := List.mem_of_getElem? hrun
    have hcurrent := h.not_superseded_of_moves hr hmoves
    have hbase := h.follows hmoves.follows
    have hmem : ∀ r₁ ∈ s.runs.set i r', r₁ ∈ s.runs ∨ r₁ = r' :=
      fun _ h₁ => List.mem_or_eq_of_mem_set h₁
    have hnew : ∀ q ≤ db.selectionRevision, q ≤ db.selectionRevision ∧
        (s.Superseded r'.token.pendingRevision → q < db.selectionRevision) := by
      intro q hq
      rw [hmoves.revision]
      exact ⟨hq, fun hs => absurd hs hcurrent⟩
    refine ⟨?_, ?_, hbase.current, ?_, ?_⟩
    · intro r₁ hr₁
      rcases hmem r₁ hr₁ with hold | rfl
      · exact hbase.token r₁ hold
      · refine hnew _ ?_
        rcases hmoves.token with htoken | htoken
        · rw [htoken]
          exact (hbase.token r hr).1
        · exact htoken.le
    · intro r₁ hr₁ g hg
      rcases hmem r₁ hr₁ with hold | rfl
      · exact hbase.generation r₁ hold g hg
      · refine hnew _ ?_
        rcases hmoves.generation with hgeneration | hgeneration
        · exact (hbase.generation r hr g (hgeneration ▸ hg)).1
        · exact (Option.some.inj (hgeneration.symm.trans hg)).ge
    · intro c hc
      rw [List.length_set]
      exact h.entered c hc
    · intro c hc r₁ hr₁
      dsimp only at hr₁
      rw [List.getElem?_set] at hr₁
      split_ifs at hr₁ with hi hlt
      · obtain rfl := Option.some.inj hr₁
        obtain ⟨hbounds, hfixed⟩ := hbase.core c hc r (by rw [← hi]; exact hrun)
        rw [hmoves.revision]
        exact ⟨hbounds, hfixed⟩
      · cases hr₁
      · exact hbase.core c hc r₁ hr₁

lemma Inv.coreStep (h : Inv s) (i : ℕ) (next : CoreStep) : Inv (s.coreStep i next) := by
  rcases coreStep_cases s i next with hsame | ⟨mode, revision, snapshot, r, hrun, -, hstep⟩ | hstep |
    ⟨c, db, c', hcore, -, hexec, hstep⟩
  · rw [hsame]
    exact h
  · rw [hstep]
    refine ⟨h.token, h.generation, h.current, ?_, ?_⟩
    · intro c hc
      obtain rfl := Option.some.inj hc
      exact (List.getElem?_eq_some_iff.mp hrun).1
    · intro c hc r₁ hr₁
      obtain rfl := Option.some.inj hc
      obtain rfl : r₁ = r := Option.some.inj (hr₁.symm.trans hrun)
      exact ⟨h.token r₁ (List.mem_of_getElem? hrun), fun hpassed => Bool.noConfusion hpassed⟩
  · rw [hstep]
    exact ⟨h.token, h.generation, h.current, by simp, by simp⟩
  · rw [hstep]
    obtain ⟨hfollows, hrun, happly, hpassed⟩ := follows_coreExec hexec
    have hbase := h.follows hfollows
    refine ⟨hbase.token, hbase.generation, hbase.current, ?_, ?_⟩
    · intro c₁ hc₁
      obtain rfl := Option.some.inj hc₁
      rw [hrun]
      exact h.entered c hcore
    · intro c₁ hc₁ r hr
      obtain rfl := Option.some.inj hc₁
      dsimp only at hr
      rw [hrun] at hr
      obtain ⟨hbounds, hfixed⟩ := hbase.core c hcore r hr
      rw [happly]
      refine ⟨hbounds, fun hp hs => ?_⟩
      rcases hpassed hp with hp | heq
      · exact hfixed hp hs
      · exact absurd (hbounds.2 hs) (by rw [← heq]; exact lt_irrefl _)

/-! ## Sets, clears and expiries -/

lemma route_markPending (m : Xray.Mark) (workflow : Option Workflow) (mid : Db) :
    (markPending m workflow mid).route = mid.route ∧
      (markPending m workflow mid).selectionRevision = mid.selectionRevision := by
  rcases markPending_cases m workflow mid with ⟨-, -, hsame⟩ | ⟨row, -, -, -, hsave⟩
  · rw [hsame]
    exact ⟨rfl, rfl⟩
  · rw [hsave]
    exact ⟨rfl, rfl⟩

/-- **What supersedes.**  The selection revision goes up, and so does the pending revision. -/
structure Supersedes (db db' : Db) : Prop where
  selection : db.selectionRevision < db'.selectionRevision
  route : db'.route.isSome
  revision : db.revision < db'.revision

lemma Supersedes.progress (h : Supersedes db db') : db.progress ≤ db'.progress :=
  (progress_lt_of_revision h.revision).le

lemma Supersedes.of_markPending {m : Xray.Mark} {workflow : Option Workflow} {mid : Db}
    (hm : m.supersedeFixedWorkflow = true) (hpending : mid.pending = db.pending)
    (hroute : mid.route.isSome) (hselection : mid.selectionRevision = db.selectionRevision + 1) :
    Supersedes db (markPending m workflow mid) := by
  obtain ⟨hsame, hsame'⟩ := route_markPending m workflow mid
  refine ⟨?_, ?_, (progress_markPending m workflow mid hpending).2 hm⟩
  · rw [hsame', hselection]
    exact Nat.lt_succ_self _
  · rw [hsame]
    exact hroute

lemma supersedes_set {serverId : Text} (h : setGlobalFixedServer serverId db = some db') :
    Supersedes db db' := by
  unfold setGlobalFixedServer at h
  obtain ⟨⟨revision, snapshot⟩, -, h⟩ := Option.bind_eq_some_iff.mp h
  obtain rfl := Option.some.inj h
  exact .of_markPending rfl rfl rfl rfl

lemma supersedes_clear (db : Db) : Supersedes db (clearGlobalFixedServer db) :=
  .of_markPending rfl rfl rfl rfl

lemma supersedes_expire (h : clearExpired db = some db') : Supersedes db db' ∧ ¬db'.fixed := by
  unfold clearExpired at h
  obtain ⟨r, -, h⟩ := Option.bind_eq_some_iff.mp h
  split_ifs at h
  obtain rfl := Option.some.inj h
  refine ⟨.of_markPending rfl rfl rfl rfl, ?_⟩
  rintro ⟨r', hr', hfixed⟩
  rw [Option.mem_def, (route_markPending _ _ _).1] at hr'
  obtain rfl := Option.some.inj hr'
  cases hfixed

/-! ## One step -/

lemma follows_ensureRoute (db : Db) : Follows db (ensureRoute db) where
  selection := le_rfl
  route := fun _ => rfl
  target := by
    intro r hr hfixed
    cases hroute : db.route with
    | some r' =>
        rw [ensureRoute, hroute] at hr
        obtain rfl := Option.some.inj hr
        exact ⟨r', rfl, rfl⟩
    | none =>
        rw [ensureRoute, hroute] at hr
        obtain rfl := Option.some.inj hr
        cases hfixed
  progress := le_rfl

lemma follows_mark (m : Xray.Mark) (workflow : Option Workflow) (db : Db) :
    Follows db (markPending m workflow db) := by
  obtain ⟨hroute, hselection⟩ := route_markPending m workflow db
  exact .of_target hselection.ge (by rw [hroute]) (progress_markPending m workflow db rfl).1

lemma follows_attempt {op : Xray.Op} (hop : op.completes = false)
    (h : attempt op revision db = some db') : Follows db db' := by
  obtain ⟨row, hrow, hpending, -, rfl⟩ := attempt_eq_some.mp h
  refine .of_target le_rfl rfl ?_
  have hkeeps : (op.update revision (Xray.seconds db.now) row.state).pending = true := by
    rw [Xray.Op.update_pending op revision _ hpending, hop]
    rfl
  have hrank : ({ row with state := op.update revision (Xray.seconds db.now) row.state } :
      PendingRow).rank = row.rank := by
    rw [PendingRow.rank, PendingRow.rank, if_pos hpending, if_pos hkeeps]
  rw [progress_of_pending hrow, Db.progress]
  dsimp only
  rw [hrank, Xray.Op.update_revision]

/-- **One step keeps the invariant.** -/
lemma Inv.step (h : Inv s) (l : Label) : Inv (step s l) := by
  cases l with
  | set serverId =>
      rw [FixedServer.step]
      split_ifs with hcore
      · exact h
      · cases hset : setGlobalFixedServer serverId s.db with
        | none => exact h
        | some db =>
            have hs := supersedes_set hset
            exact h.supersede hs.selection hs.route fun hc => absurd hc hcore
  | clear =>
      rw [FixedServer.step]
      split_ifs with hcore
      · exact h
      · have hs := supersedes_clear s.db
        exact h.supersede hs.selection hs.route fun hc => absurd hc hcore
  | expire =>
      rw [FixedServer.step]
      cases hexpire : clearExpired s.db with
      | none => exact h
      | some db =>
          obtain ⟨hs, hfixed⟩ := supersedes_expire hexpire
          exact h.supersede hs.selection hs.route fun _ => hfixed
  | ensure run => exact h.follows (follows_ensureRoute s.db)
  | mark m => exact h.follows (follows_mark _ none s.db)
  | attempt op revision =>
      rw [FixedServer.step]
      split_ifs with hop
      · exact h
      · cases hattempt : attempt op revision s.db with
        | none => exact h
        | some db => exact h.follows (follows_attempt (Bool.not_eq_true _ ▸ hop) hattempt)
  | advance => exact h.follows (.of_pending (Nat.le_succ _) rfl rfl)
  | changeCore core revision bypass => exact h.follows (.of_pending le_rfl rfl rfl)
  | tick seconds => exact h.follows (.of_pending le_rfl rfl rfl)
  | capture serverId fixedUntil facts =>
      rw [FixedServer.step]
      cases hcapture : captureFixedApplyContext serverId fixedUntil facts s.db with
      | none => exact h
      | some token => exact h.capture hcapture
  | run i a => exact h.runAction i a
  | core i next => exact h.coreStep i next

end FwRouter.FixedServer
