import FwRouter.FixedServer.Fences

/-!
# A superseded fixed server

What a run of an older pending revision can still do, how often a revision is reserved, received and
cleared, and in what state it is cleared.
-/

namespace FwRouter.FixedServer

open Py

variable {s : System} {l : Label} {db db' : Db} {w w' : Workflow} {revision : ℤ}

/-! ## Transactions of superseded runs -/

/-- A step of the open section writes the route or the selection revision only after its second
fence. -/
lemma coreExec_writes {c c' : CoreSection} {next : CoreStep} (h : c.exec db next = some (db', c')) :
    Unchanged db db' ∨ c.stage.passed = true ∧
      (next = .advance ∨ next = .commit ∨ ∃ code message, next = .fail code message) := by
  rcases coreExec_cases h with ⟨-, -, -, rfl, -⟩ | ⟨core, rfl, hstage, -, -⟩ | ⟨core, -, -, -, rfl, -⟩ |
    ⟨core, rfl, hstage, -, -⟩ | ⟨core, code, message, rfl, hstage, -, -⟩ | ⟨core, -, -, hdb, -⟩
  · exact Or.inl ⟨rfl, rfl, rfl⟩
  · exact Or.inr ⟨by rw [hstage]; rfl, Or.inl rfl⟩
  · exact Or.inl ⟨rfl, rfl, rfl⟩
  · exact Or.inr ⟨by rw [hstage]; rfl, Or.inr (Or.inl rfl)⟩
  · exact Or.inr ⟨by rw [hstage]; rfl, Or.inr (Or.inr ⟨code, message, rfl⟩)⟩
  · exact Or.inl (unchanged_settleCoreEnable hdb)

lemma exists_of_owner {i : ℕ} (h : s.revisionOf i = some revision) :
    ∃ r, s.runs[i]? = some r ∧ r.token.pendingRevision = revision :=
  Option.map_eq_some_iff.mp h

/-- **A transaction of a superseded run changes nothing**, if it meets a fixed route where it is a
write of the apply of core. -/
lemma unchanged_step (h : Inv s) (hheld : RouteHeld s l) (howner : l.owner s = some revision)
    (hs : s.Superseded revision) : Unchanged s.db (step s l).db := by
  have hsame : Unchanged s.db s.db := ⟨rfl, rfl, rfl⟩
  cases l with
  | set => cases howner
  | clear => cases howner
  | expire => cases howner
  | mark => cases howner
  | advance => cases howner
  | changeCore => cases howner
  | tick => cases howner
  | capture => cases howner
  | ensure run =>
      obtain ⟨n, hn, -⟩ := hs
      obtain ⟨r, hr⟩ := Option.isSome_iff_exists.mp (h.current n hn).1
      refine ⟨?_, rfl, rfl⟩
      show some (s.db.route.getD defaultRoute) = s.db.route
      rw [hr]
      rfl
  | attempt op n =>
      obtain rfl := Option.some.inj howner
      rw [step]
      split_ifs
      · exact hsame
      · cases hattempt : attempt op n s.db with
        | none => exact hsame
        | some db =>
            obtain ⟨row, hrow, -, hrevision, -⟩ := attempt_eq_some.mp hattempt
            refine absurd hs (h.not_superseded ?_)
            rw [revision_of_pending hrow, hrevision]
  | run i a =>
      obtain ⟨r, hrun, rfl⟩ := exists_of_owner howner
      rcases runAction_cases s i a with hstep | ⟨r₁, db, r', hrun₁, hexec, -⟩
      · rw [step, hstep]
        exact hsame
      · obtain rfl : r₁ = r := Option.some.inj (hrun₁.symm.trans hrun)
        exact absurd hs
          (h.not_superseded_of_moves (List.mem_of_getElem? hrun) (moves_of_exec hexec))
  | core i next =>
      obtain ⟨r, hrun, rfl⟩ := exists_of_owner howner
      rcases coreStep_cases s i next with hstep | ⟨_, _, _, _, -, -, hstep⟩ | hstep |
        ⟨c, db, c', hcore, rfl, hexec, hstep⟩
      · rw [step, hstep]
        exact hsame
      · rw [step, hstep]
        exact hsame
      · rw [step, hstep]
        exact hsame
      · rcases coreExec_writes hexec with hunchanged | ⟨hpassed, hnext⟩
        · rw [step, hstep]
          exact hunchanged
        · -- past its second fence a superseded run has lost its route
          have hlost := (h.core c hcore r hrun).2 hpassed hs
          have hfixed : s.db.fixed := by
            rcases hnext with rfl | rfl | ⟨code, message, rfl⟩ <;> exact hheld rfl
          exact absurd hfixed hlost

/-! ## Events -/

/-- **One step logs an event at its mark**, and never takes progress back. -/
lemma step_advances (s : System) (l : Label) :
    Progress.Advances Event.mark s.history (step s l).history s.db.progress
      (step s l).db.progress := by
  have hsame : Progress.Advances Event.mark s.history s.history s.db.progress s.db.progress :=
    Or.inl ⟨rfl, le_rfl⟩
  cases l with
  | set serverId =>
      rw [step]
      split_ifs
      · exact hsame
      · cases hset : setGlobalFixedServer serverId s.db with
        | none => exact hsame
        | some db => exact Or.inl ⟨rfl, (supersedes_set hset).progress⟩
  | clear =>
      rw [step]
      split_ifs
      · exact hsame
      · exact Or.inl ⟨rfl, (supersedes_clear s.db).progress⟩
  | expire =>
      rw [step]
      cases hexpire : clearExpired s.db with
      | none => exact hsame
      | some db => exact Or.inl ⟨rfl, (supersedes_expire hexpire).1.progress⟩
  | ensure run => exact hsame
  | mark m => exact Or.inl ⟨rfl, (follows_mark _ none s.db).progress⟩
  | attempt op revision =>
      rw [step]
      split_ifs with hop
      · exact hsame
      · cases hattempt : attempt op revision s.db with
        | none => exact hsame
        | some db =>
            exact Or.inl ⟨rfl, (follows_attempt (Bool.not_eq_true _ ▸ hop) hattempt).progress⟩
  | advance => exact hsame
  | changeCore core revision bypass => exact hsame
  | tick seconds => exact hsame
  | capture serverId fixedUntil facts =>
      rw [step]
      cases captureFixedApplyContext serverId fixedUntil facts s.db with
      | none => exact hsame
      | some token => exact hsame
  | run i a =>
      rcases runAction_cases s i a with hstep | ⟨r, db, r', -, hexec, hstep⟩
      · rw [step, hstep]
        exact hsame
      · rw [step, hstep]
        exact (moves_of_exec hexec).advances s.history
  | core i next =>
      rcases coreStep_cases s i next with hstep | ⟨_, _, _, _, -, -, hstep⟩ | hstep |
        ⟨c, db, c', -, -, hexec, hstep⟩
      · rw [step, hstep]
        exact hsame
      · rw [step, hstep]
        exact hsame
      · rw [step, hstep]
        exact hsame
      · rw [step, hstep]
        exact Or.inl ⟨rfl, (follows_coreExec hexec).1.progress⟩

/-! ## Completion -/

/-- A step that leaves the row, or its flag, clears nothing. -/
lemma not_clears_of_pending (h : db'.pending = db.pending) : ¬Clears db db' := by
  rintro ⟨hfixed, row, hrow, row', hrow', -, hcleared⟩
  obtain ⟨⟨row₁, w⟩, hfixed⟩ := Option.isSome_iff_exists.mp hfixed
  obtain ⟨hrow₁, -, hpending⟩ := fixedWorkflow_eq_some.mp hfixed
  obtain rfl : row' = row₁ := Option.some.inj (hrow'.symm.trans (h.trans hrow₁))
  exact Bool.noConfusion (hpending.symm.trans hcleared)

lemma not_clears_of_revision (h : db.revision < db'.revision) : ¬Clears db db' := by
  rintro ⟨-, row, hrow, row', hrow', hrevision, -⟩
  rw [revision_of_pending hrow, revision_of_pending hrow', hrevision] at h
  exact lt_irrefl _ h

lemma Rewrites.not_clears (h : Rewrites revision w w' db db') : ¬Clears db db' := by
  rintro ⟨-, row, hrow, row', hrow', -, hcleared⟩
  obtain ⟨row₁, hfixed, -, hrow₁⟩ := h.row
  obtain ⟨-, -, hpending⟩ := fixedWorkflow_eq_some.mp hfixed
  obtain rfl := Option.some.inj (hrow₁.symm.trans hrow')
  exact Bool.noConfusion (hpending.symm.trans hcleared)

lemma not_clears_mark (m : Xray.Mark) (workflow : Option Workflow) (db : Db) :
    ¬Clears db (markPending m workflow db) := by
  rcases markPending_cases m workflow db with ⟨-, -, hsame⟩ | ⟨row, -, -, hpending, hsave⟩
  · rw [hsame]
    exact not_clears_of_pending rfl
  · rintro ⟨-, row₁, -, row', hrow', -, hcleared⟩
    rw [hsave] at hrow'
    obtain rfl := Option.some.inj hrow'
    exact Bool.noConfusion (hpending.symm.trans hcleared)

lemma not_clears_attempt {op : Xray.Op} (hop : op.completes = false)
    (h : attempt op revision db = some db') : ¬Clears db db' := by
  obtain ⟨row, -, hpending, -, rfl⟩ := attempt_eq_some.mp h
  rintro ⟨-, row₁, -, row', hrow', -, hcleared⟩
  obtain rfl := Option.some.inj hrow'
  have hkeeps := Xray.Op.update_pending op revision (Xray.seconds db.now) hpending
  rw [hop] at hkeeps
  exact Bool.noConfusion (hkeeps.symm.trans hcleared)

lemma not_clears_exec {a : Action} {r r' : Run} (h : a.exec r db = some (db', r'))
    (ha : ∀ core xray failed, a ≠ .complete core xray failed) : ¬Clears db db' := by
  cases a with
  | reserve v =>
      obtain ⟨db₁, hdb, h⟩ := Option.bind_eq_some_iff.mp h
      obtain ⟨rfl, -⟩ := Prod.mk.inj (Option.some.inj h)
      obtain ⟨_, _, hw, -⟩ := reserve_rewrites hdb
      exact hw.not_clears
  | publish receipt =>
      obtain ⟨db₁, hdb, h⟩ := Option.bind_eq_some_iff.mp h
      obtain ⟨rfl, -⟩ := Prod.mk.inj (Option.some.inj h)
      obtain ⟨_, _, hw, -⟩ := publish_rewrites hdb
      exact hw.not_clears
  | commitStage core inputHash activeConfigHash =>
      obtain ⟨db₁, hdb, h⟩ := Option.bind_eq_some_iff.mp h
      obtain ⟨rfl, -⟩ := Prod.mk.inj (Option.some.inj h)
      obtain ⟨_, _, hw, -⟩ := commit_rewrites hdb
      exact hw.not_clears
  | coreVerified core proof inputHash =>
      obtain ⟨db₁, hdb, h⟩ := Option.bind_eq_some_iff.mp h
      obtain ⟨rfl, -⟩ := Prod.mk.inj (Option.some.inj h)
      obtain ⟨_, hw, -⟩ := update_rewrites hdb fun _ => rfl
      exact hw.not_clears
  | generate =>
      rw [Action.exec] at h
      split_ifs at h
      obtain ⟨rfl, -⟩ := Prod.mk.inj (Option.some.inj h)
      exact not_clears_of_pending rfl
  | recordGeneration generation expected =>
      obtain ⟨db₁, hdb, h⟩ := Option.bind_eq_some_iff.mp h
      obtain ⟨rfl, -⟩ := Prod.mk.inj (Option.some.inj h)
      obtain ⟨_, _, hw, -⟩ := record_rewrites hdb
      exact hw.not_clears
  | restore =>
      rw [Action.exec] at h
      split_ifs at h
      obtain ⟨rfl, -⟩ := Prod.mk.inj (Option.some.inj h)
      exact not_clears_of_pending rfl
  | xrayVerified proof =>
      obtain ⟨db₁, hdb, h⟩ := Option.bind_eq_some_iff.mp h
      obtain ⟨rfl, -⟩ := Prod.mk.inj (Option.some.inj h)
      obtain ⟨_, hw, -⟩ := update_rewrites hdb fun _ => rfl
      exact hw.not_clears
  | complete core xray failed => exact absurd rfl (ha core xray failed)

lemma pending_coreExec {c c' : CoreSection} {next : CoreStep}
    (h : c.exec db next = some (db', c')) : db'.pending = db.pending := by
  rcases coreExec_cases h with ⟨-, -, -, rfl, -⟩ | ⟨core, -, -, rfl, -⟩ | ⟨core, -, -, -, rfl, -⟩ |
    ⟨core, -, -, hdb, -⟩ | ⟨core, code, message, -, -, hdb, -⟩ | ⟨core, -, -, hdb, -⟩
  · rfl
  · rfl
  · rfl
  · unfold commitGlobalMode at hdb
    obtain ⟨r, -, hdb⟩ := Option.bind_eq_some_iff.mp hdb
    split_ifs at hdb
    obtain rfl := Option.some.inj hdb
    rfl
  · obtain ⟨r, -, hdb⟩ := Option.bind_eq_some_iff.mp hdb
    obtain rfl := Option.some.inj hdb
    rfl
  · exact (unchanged_settleCoreEnable hdb).pending

/-- **Who clears the flag.**  Only the last transaction of a run does, and it finds the fixed server
completed and leaves the route and the selection as they are. -/
lemma clears_step (h : Clears s.db (step s l).db) :
    (∃ i core xray failed, l = .run i (.complete core xray failed)) ∧ Completed s.db ∧
      (step s l).db.route = s.db.route ∧
      (step s l).db.selectionRevision = s.db.selectionRevision := by
  have hsame : ¬Clears s.db s.db := not_clears_of_pending rfl
  cases l with
  | set serverId =>
      rw [step] at h
      split_ifs at h
      · exact absurd h hsame
      · cases hset : setGlobalFixedServer serverId s.db with
        | none =>
            rw [hset] at h
            exact absurd h hsame
        | some db =>
            rw [hset] at h
            exact absurd h (not_clears_of_revision (supersedes_set hset).revision)
  | clear =>
      rw [step] at h
      split_ifs at h
      · exact absurd h hsame
      · exact absurd h (not_clears_of_revision (supersedes_clear s.db).revision)
  | expire =>
      rw [step] at h
      cases hexpire : clearExpired s.db with
      | none =>
          rw [hexpire] at h
          exact absurd h hsame
      | some db =>
          rw [hexpire] at h
          exact absurd h (not_clears_of_revision (supersedes_expire hexpire).1.revision)
  | ensure run => exact absurd h (not_clears_of_pending rfl)
  | mark m => exact absurd h (not_clears_mark _ none s.db)
  | attempt op revision =>
      rw [step] at h
      split_ifs at h with hop
      · exact absurd h hsame
      · cases hattempt : attempt op revision s.db with
        | none =>
            rw [hattempt] at h
            exact absurd h hsame
        | some db =>
            rw [hattempt] at h
            exact absurd h (not_clears_attempt (Bool.not_eq_true _ ▸ hop) hattempt)
  | advance => exact absurd h (not_clears_of_pending rfl)
  | changeCore core revision bypass => exact absurd h (not_clears_of_pending rfl)
  | tick seconds => exact absurd h (not_clears_of_pending rfl)
  | capture serverId fixedUntil facts =>
      rw [step] at h
      cases hcapture : captureFixedApplyContext serverId fixedUntil facts s.db with
      | none =>
          rw [hcapture] at h
          exact absurd h hsame
      | some token =>
          rw [hcapture] at h
          exact absurd h hsame
  | run i a =>
      rcases runAction_cases s i a with hstep | ⟨r, db, r', -, hexec, hstep⟩
      · rw [step, hstep] at h
        exact absurd h hsame
      · rw [step, hstep] at h
        by_cases ha : ∃ core xray failed, a = .complete core xray failed
        · obtain ⟨core, xray, failed, rfl⟩ := ha
          obtain ⟨db₁, hdb, hexec⟩ := Option.bind_eq_some_iff.mp hexec
          obtain ⟨rfl, -⟩ := Prod.mk.inj (Option.some.inj hexec)
          obtain ⟨hcompleted, hdone, -⟩ := complete_eq_some hdb
          obtain ⟨row, -, -, -, hdb₁⟩ := completeRevision_eq_some.mp hdone
          rw [step, hstep]
          exact ⟨⟨i, core, xray, failed, rfl⟩, hcompleted, by rw [hdb₁], by rw [hdb₁]⟩
        · refine absurd h (not_clears_exec hexec ?_)
          intro core xray failed heq
          exact ha ⟨core, xray, failed, heq⟩
  | core i next =>
      refine absurd h (not_clears_of_pending ?_)
      rcases coreStep_cases s i next with hstep | ⟨_, _, _, _, -, -, hstep⟩ | hstep |
        ⟨c, db, c', -, -, hexec, hstep⟩
      · rw [step, hstep]
      · rw [step, hstep]
      · rw [step, hstep]
      · rw [step, hstep]
        exact pending_coreExec hexec

/-! ## Runs -/

namespace Example

def coreRow : CoreSnapshot := ⟨.enabled, .managed, .clean⟩

def start : System where
  db :=
    { route := none
      selectionRevision := 0
      core := some coreRow
      coreRevision := some 1
      bypass := none
      pending := none
      now := 0 }
  runs := []
  core := none
  superseding := none
  history := []

def facts : RuntimeFacts := ⟨"incarnation".toList, "input".toList, "config".toList, true⟩

def coreProof : CoreProof := ⟨"apply".toList, "manifest".toList, "global_vpn_enforced".toList, "vpn".toList⟩

def xrayProof : XrayProof := ⟨.notApplicable, none, none, none⟩

def first : Text := "first".toList

def second : Text := "second".toList

/-- A fixed server is set and replaced by another one; the run of the first goes on, and the run of
the second comes to its end. -/
def renewed : List Label :=
  [.set first, .capture (some first) (some 86400) facts,
    .set second, .capture (some second) (some 86400) facts,
    .run 0 (.commitStage coreRow [] []),
    .run 1 (.commitStage coreRow [] []),
    .core 1 (.enter .direct 1 coreRow), .core 1 .fence, .core 1 .prove, .core 1 .commit, .core 1 .leave,
    .run 1 (.coreVerified coreRow coreProof []), .run 1 (.xrayVerified xrayProof),
    .run 1 (.complete coreProof xrayProof false)]

lemma start_fresh : start.Fresh := ⟨rfl, rfl, rfl, rfl⟩

/-- The end of the fixed server comes while core is being applied, and the apply fails. -/
def expiredInside : List Label :=
  [.set first, .capture (some first) (some 86400) facts, .run 0 (.commitStage coreRow [] []),
    .core 0 (.enter .direct 1 coreRow), .core 0 .fence, .tick 86400, .expire,
    .core 0 (.fail "GLOBAL_MODE_APPLY_FAILED".toList "failed".toList)]

end Example

end FwRouter.FixedServer
