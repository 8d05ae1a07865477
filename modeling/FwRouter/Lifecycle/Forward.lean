import FwRouter.Lifecycle.Invariant

/-!
# The way forward

From a pending checkpoint a rollout is completed by installing the recorded backend, stopping what
still runs, releasing the Mihomo container with the units stopped, starting the API and resuming with
catch-up; a rebuild is retried first.  `wayForward` puts the stages together, each of which is one
command that succeeds.

Four kinds of checkpoint are left out: one within reach of `MAX_CHECKPOINT_BYTES`, and the three of
`CrashGap`, `Overtransferred` and `HalfStopped`.  In the first of these the commands refuse on purpose:
`CrashGap.forward` shows that no command moves such a checkpoint.
-/

namespace FwRouter.Lifecycle

open Interruptible Interruptible.Prog

variable {h : Host} {w : World} {c : Checkpoint}

/-! ## The checkpoints that are left out -/

/-- A checkpoint with the same manifest and history, where every text of unbounded length is. -/
structure SameRollout (c c' : Checkpoint) : Prop where
  manifest : c'.backendManifest = c.backendManifest
  transitions : c'.sourceTransitions = c.sourceTransitions
  pendingNodup : c'.pendingUnits.Nodup
  backup : ∀ m pin, c'.maintenanceOperation = some m → m.backup = some pin →
    pin.filename.length ≤ 255 ∨ ∃ m₀, c.maintenanceOperation = some m₀ ∧ m₀.backup = some pin

/-- What the rest of the rollout records is within `MAX_CHECKPOINT_BYTES`. -/
def Roomy (h : Host) (c : Checkpoint) : Prop := ∀ c', SameRollout c c' → h.fits c' = true

/-- The stop of the Mihomo container is recorded as intended, but the cache is no longer the one
recorded before it: the command was killed after a `docker stop` that changed the cache. -/
def CrashGap (c : Checkpoint) (w : World) : Prop :=
  ∃ q, c.runtimeQuiescence = some q ∧ q.phase = .stopPending ∧ w.cache ≠ q.cacheBefore

/-- The source was transferred more than once while the container was held. -/
def Overtransferred (c : Checkpoint) : Prop :=
  ∃ q, c.runtimeQuiescence = some q ∧ (q.phase = .quiesced ∨ q.phase = .releasePending)
    ∧ 2 ≤ c.sourceTransitions.length

/-- A rebuild is not verified, and a unit that it should have stopped is active. -/
def HalfStopped (c : Checkpoint) (w : World) : Prop :=
  (∃ m, c.maintenanceOperation = some m ∧ m.status ≠ .verified)
    ∧ ∃ u, u ∉ RolloutUnit.transientJobs ∧ w.active u = true

lemma SameRollout.refl (hnodup : c.pendingUnits.Nodup) : SameRollout c c :=
  ⟨rfl, rfl, hnodup, fun m _ hm hpin => Or.inr ⟨m, hm, hpin⟩⟩

lemma SameRollout.trans {c' c'' : Checkpoint} (h₁ : SameRollout c c') (h₂ : SameRollout c' c'') :
    SameRollout c c'' where
  manifest := h₂.manifest.trans h₁.manifest
  transitions := h₂.transitions.trans h₁.transitions
  pendingNodup := h₂.pendingNodup
  backup := by
    intro m pin hm hpin
    rcases h₂.backup m pin hm hpin with hshort | ⟨m', hm', hpin'⟩
    · exact Or.inl hshort
    · exact h₁.backup m' pin hm' hpin'

lemma Roomy.of_same {c' : Checkpoint} (hroom : Roomy h c) (hsame : SameRollout c c') : Roomy h c' :=
  fun _ h' => hroom _ (hsame.trans h')

lemma SameRollout.withQuiescence (hnodup : c.pendingUnits.Nodup) (q : RuntimeQuiescence) :
    SameRollout c (c.withQuiescence q) :=
  ⟨rfl, rfl, hnodup, fun m _ hm hpin => Or.inr ⟨m, hm, hpin⟩⟩

/-! ## Paths -/

/-- A path of steps on the way forward. -/
abbrev Path (h : Host) : World → World → Prop := Relation.ReflTransGen (ForwardStep h)

lemma Inv.forward (hinv : Inv h w) {w' : World} (hstep : ForwardStep h w w') : Inv h w' := by
  cases hstep with
  | command cmd hw => exact (safe_runCommand cmd hinv).2 () w' hw
  | meanwhile hw => exact hinv.meanwhile hw

lemma Inv.path (hinv : Inv h w) {w' : World} (hpath : Path h w w') : Inv h w' := by
  induction hpath with
  | refl => exact hinv
  | tail _ hstep ih => exact ih.forward hstep

/-- A command that succeeds is a step on the way forward. -/
lemma exists_forward {cmd : Command} {Q : World → Prop}
    (hcmd : Succeeds (runCommand h cmd) w fun _ t => Q t) : ∃ t, ForwardStep h w t ∧ Q t := by
  obtain ⟨_, t, hresult, hQ⟩ := hcmd
  exact ⟨t, .command cmd hresult, hQ⟩

lemma WayForward.of_path {w' : World} (hpath : Path h w w') (hway : WayForward h c w') :
    WayForward h c w := by
  obtain ⟨t, ht, hrestored⟩ := hway
  exact ⟨t, hpath.trans ht, hrestored⟩

/-- The way forward of a checkpoint is that of one of the same operation and the same units. -/
lemma WayForward.of_same (c' : Checkpoint) (hop : c'.operationId = c.operationId)
    (hunits : c'.activeUnits = c.activeUnits) (hway : WayForward h c' w) : WayForward h c w := by
  obtain ⟨t, ht, d, hd, hdop, hdone, hdunits, hactive⟩ := hway
  exact ⟨t, ht, d, hd, hdop.trans hop, hdone, hdunits.trans hunits, hunits ▸ hactive⟩

/-! ## Stages -/

lemma succeeds_readCheckpoint {Q : Checkpoint → World → Prop} (hc : Holds h c w)
    (hfits : h.fits c = true) (hQ : Q c w) : Succeeds (readCheckpoint h) w Q := by
  simp only [readCheckpoint, succeeds_bind, succeeds_get, succeeds_ofOption, succeeds_require,
    succeeds_pure]
  exact ⟨c, hc.1, hc.2.accepts hfits, hQ⟩

lemma succeeds_atomicWrite {Q : Unit → World → Prop} (hfits : h.fits c = true)
    (hQ : Q () (w.publish c)) : Succeeds (atomicWrite h c) w Q := by
  simp only [atomicWrite, succeeds_bind, succeeds_require, succeeds_effect]
  exact ⟨hfits, hQ⟩

lemma succeeds_requireUnitsStopped {Q : Unit → World → Prop} (hstopped : w.UnitsStopped)
    (hQ : Q () w) : Succeeds requireUnitsStopped w Q := by
  simp only [requireUnitsStopped, succeeds_bind, succeeds_get, succeeds_require]
  exact ⟨hstopped, hQ⟩

/-- The one-shot jobs that run come to their end. -/
lemma exists_noJobs (h : Host) (w : World) :
    ∃ t, Path h w t ∧ t.NoJobs ∧ t = { w with active := t.active }
      ∧ ∀ u, t.active u = true → w.active u = true := by
  have hends : ∀ us : List RolloutUnit, (∀ u ∈ us, u ∈ RolloutUnit.transientJobs) →
      ∃ t, Path h w t ∧ (∀ u ∈ us, t.active u = false) ∧ t = { w with active := t.active }
        ∧ ∀ u, t.active u = true → w.active u = true := by
    intro us
    induction us with
    | nil => exact fun _ => ⟨w, .refl, nofun, rfl, fun _ h' => h'⟩
    | cons u us ih =>
        intro hus
        obtain ⟨t, hpath, hoff, hrest, hsub⟩ := ih fun v hv => hus v (List.mem_cons_of_mem _ hv)
        refine ⟨t.setUnit u false, hpath.tail (.meanwhile (.jobEnds (hus u List.mem_cons_self))), ?_, ?_, ?_⟩
        · intro v hv
          rw [World.setUnit_active]
          split_ifs with huv
          · rfl
          · exact hoff v ((List.mem_cons.mp hv).resolve_left huv)
        · rw [hrest]
          rfl
        · intro v hv
          rw [World.setUnit_active] at hv
          split_ifs at hv
          exact hsub v hv
  exact hends _ fun _ h' => h'

lemma succeeds_switchUnit {u : RolloutUnit} {on : Bool} :
    Succeeds (switchUnit u on) w fun _ t => t = w.setUnit u on := by
  simp only [switchUnit, succeeds_bind, succeeds_get, succeeds_runIf, succeeds_effect]
  refine ⟨fun _ => trivial, fun hon => ?_⟩
  have hactive : w.active u = on := not_not.mp hon
  unfold World.setUnit
  rw [← hactive, Function.update_eq_self]

/-- Stopping the units of a pending rollout leaves none active. -/
lemma succeeds_stopUnits (hc : Holds h c w) (hpending : c.status = .pending) (hjobs : w.NoJobs) :
    Succeeds (stopUnits c) w fun _ t => t.UnitsStopped ∧ t = { w with active := t.active } := by
  -- after the rounds for `done`
  let R (done : List RolloutUnit) (t : World) : Prop :=
    t = { w with active := t.active } ∧ (∀ u ∈ done, c.activeUnits u = true → t.active u = false)
      ∧ ∀ u, t.active u = true → w.active u = true
  have hloop : Succeeds (forEach (fun u => runIf (c.activeUnits u = true) (switchUnit u false))
      RolloutUnit.stopOrder) w fun _ t => R RolloutUnit.stopOrder t := by
    have hstart : R [] w := ⟨rfl, nofun, fun _ h' => h'⟩
    refine (succeeds_forEach hstart ?_).mono fun _ t ht => by simpa using ht
    rintro u - done t ⟨hrest, hoff, hsub⟩
    simp only [succeeds_runIf]
    constructor
    · intro _
      refine succeeds_switchUnit.mono ?_
      rintro _ t' rfl
      refine ⟨by rw [hrest]; rfl, fun v hv hactive => ?_, fun v hv => ?_⟩
      · rw [World.setUnit_active]
        split_ifs with huv
        · rfl
        · refine hoff v ((List.mem_append.mp hv).resolve_right ?_) hactive
          exact fun h' => huv (List.mem_singleton.mp h')
      · rw [World.setUnit_active] at hv
        split_ifs at hv
        exact hsub v hv
    · intro hu
      refine ⟨hrest, fun v hv hactive => ?_, hsub⟩
      rcases List.mem_append.mp hv with hv | hv
      · exact hoff v hv hactive
      · exact absurd (List.mem_singleton.mp hv ▸ hactive) hu
  simp only [stopUnits, succeeds_bind, succeeds_get, succeeds_require]
  refine hloop.mono ?_
  rintro _ t ⟨hrest, hoff, hsub⟩
  refine ⟨fun u hu => ?_, succeeds_switchUnit.mono ?_⟩
  · rw [Bool.eq_false_iff]
    exact fun hactive => absurd (hsub u hactive) (by rw [hjobs u hu]; decide)
  · rintro _ t' rfl
    refine ⟨fun u _ => ?_, by rw [hrest]; rfl⟩
    rw [World.setUnit_active]
    split_ifs with hapi
    · rfl
    · rw [Bool.eq_false_iff]
      intro hactive
      rcases hc.2.units hpending u (hsub u hactive) with hrecorded | hjob
      · rcases RolloutUnit.mem_restoreOrder_or u with hu | hu | hu
        · exact absurd hactive (by rw [hoff u (RolloutUnit.mem_stopOrder.mpr hu) hrecorded]; decide)
        · exact absurd (hsub u hactive) (by rw [hjobs u hu]; decide)
        · exact hapi hu
      · exact absurd (hsub u hactive) (by rw [hjobs u hjob]; decide)

/-- `stop` repeated for a pending rollout whose manifest is installed. -/
lemma succeeds_stop (hc : Holds h c w) (hfits : h.fits c = true) (hpending : c.status = .pending)
    (hm : c.maintenanceOperation = none) (hinstalled : w.installed = c.backendManifest)
    (hjobs : w.NoJobs) :
    Succeeds (runCommand h (.stop ⟨c.backendManifest, c.operationId⟩)) w fun _ t =>
      t.UnitsStopped ∧ t = { w with active := t.active } := by
  simp only [runCommand, stop, succeeds_bind, succeeds_get, succeeds_require, succeeds_pure]
  refine ⟨fun p hp => hinstalled ▸ hp, ?_⟩
  have howned : Succeeds (pendingStop h ⟨c.backendManifest, c.operationId⟩ none) w fun o t =>
      o = some c ∧ t = w := by
    simp only [pendingStop, succeeds_bind, succeeds_get, hc.1]
    refine succeeds_readCheckpoint hc hfits ?_
    rw [if_pos hpending]
    simp only [succeeds_bind, succeeds_require]
    exact ⟨hc.2.source.symm, hm, succeeds_pure.mpr ⟨rfl, rfl⟩⟩
  refine howned.mono ?_
  rintro o t ⟨rfl, rfl⟩
  simp only [pendingOrNew, succeeds_pure]
  exact succeeds_stopUnits hc hpending hjobs

/-- `quiesce-mihomo` repeated for a recorded intent, with the cache as it was. -/
lemma succeeds_quiesceMihomo (hc : Holds h c w) (hroom : Roomy h c) (hpending : c.status = .pending)
    (hstopped : w.UnitsStopped) (hinstalled : w.installed = c.backendManifest) {q : RuntimeQuiescence}
    (hq : c.runtimeQuiescence = some q) (hphase : q.phase = .stopPending)
    (hcache : w.cache = q.cacheBefore) :
    Succeeds (runCommand h (.quiesceMihomo ⟨c.operationId, c.backendManifestSha256, q.container,
        q.composeFileSha256⟩ w.cache)) w fun _ t => ∃ q', q'.phase = .quiesced
      ∧ t.checkpoint = some (c.withQuiescence q') ∧ t.installed = w.installed ∧ t.active = w.active := by
  have hsound := hc.2.quiescence q hq
  have hfits : ∀ q', h.fits (c.withQuiescence q') = true :=
    fun q' => hroom _ (.withQuiescence hc.2.pendingNodup q')
  have hempty := hsound.stopPending hphase
  have hinitial : c.initialBackendManifestSha256 = c.backendManifestSha256 := by
    have hchain := hc.2.chain
    rw [hempty] at hchain
    exact Option.some.inj hchain
  simp only [runCommand, quiesceMihomo, succeeds_bind]
  refine succeeds_readCheckpoint hc (hroom _ (.refl hc.2.pendingNodup)) ?_
  simp only [succeeds_require, succeeds_get]
  refine ⟨⟨hpending, rfl, rfl, hinitial, hempty, hc.2.maintenance_eq_none hq⟩,
    by rw [hinstalled, hc.2.source], succeeds_requireUnitsStopped hstopped ?_⟩
  rw [hq]
  simp only [succeeds_bind, succeeds_require]
  refine ⟨⟨hsound.operation, hsound.source.trans hinitial, trivial, trivial⟩, ?_⟩
  rw [hphase]
  simp only [stopContainer, succeeds_bind, succeeds_get, succeeds_require, succeeds_runIf,
    succeeds_effect]
  refine ⟨hsound.runtime, hcache, fun _ => ⟨rfl, succeeds_atomicWrite (hfits _) ?_⟩,
    fun hrunning => ⟨eq_false_of_ne_true hrunning, succeeds_atomicWrite (hfits _) ?_⟩⟩
  · exact ⟨_, rfl, rfl, rfl, rfl⟩
  · exact ⟨_, rfl, rfl, rfl, rfl⟩

/-- With at most one transfer the runtime record is that of an owned source. -/
lemma runtimeCheckpoint_of_sound (hs : Sound h c w) {q : RuntimeQuiescence}
    (hq : c.runtimeQuiescence = some q) (hfew : c.sourceTransitions.length < 2) :
    runtimeCheckpoint c ⟨c.operationId, c.backendManifestSha256, q.container, q.composeFileSha256⟩
      = some q := by
  have hsound := hs.quiescence q hq
  have hchain := hs.chain
  unfold runtimeCheckpoint
  rw [hq]
  simp only [hsound.operation, hsound.source, if_true, and_self]
  rcases hts : c.sourceTransitions with _ | ⟨t, ts⟩
  · rw [hts] at hchain
    rw [if_pos (Option.some.inj hchain).symm, if_pos rfl]
  · rw [hts] at hfew hchain
    obtain rfl : ts = [] := List.length_eq_zero_iff.mp (by simp only [List.length_cons] at hfew; omega)
    simp only [followTransitions] at hchain
    split_ifs at hchain with ht
    obtain ⟨hop, hfrom, hne, -⟩ := ht
    have hto := Option.some.inj hchain
    rw [if_neg fun heq => hne (hto.trans (heq.trans hfrom.symm))]
    exact if_pos ⟨hop, hfrom, hto⟩

/-- The gate of a release is open while the units are stopped and the recorded backend is installed. -/
lemma succeeds_requireReleaseGate (hc : Holds h c w) (hstopped : w.UnitsStopped)
    (hinstalled : w.installed = c.backendManifest) {q : RuntimeQuiescence}
    (hq : c.runtimeQuiescence = some q) (hphase : q.phase = .quiesced ∨ q.phase = .releasePending) :
    Succeeds (requireReleaseGate h c q true) w fun _ t => t = w := by
  have hsound := hc.2.quiescence q hq
  obtain ⟨hcontainer, hcompose, hunit⟩ := hsound.runtime
  unfold requireReleaseGate
  rw [if_pos rfl]
  simp only [succeeds_bind]
  refine succeeds_requireUnitsStopped hstopped ?_
  have hruntime : Succeeds (requireJitRuntime h c q) w fun _ t => t = w := by
    simp only [requireJitRuntime, succeeds_bind, succeeds_get]
    split_ifs with hquiesced
    · obtain ⟨hstill, hafter⟩ := hsound.quiesced hquiesced
      simp only [requireUnitsStoppedOf, succeeds_bind]
      refine succeeds_requireUnitsStopped hstopped ?_
      unfold requireHeldQuiescent
      simp only [hq, hquiesced, succeeds_bind, succeeds_get, succeeds_require]
      exact ⟨fun _ => hafter.symm, ⟨hcontainer, hstill, hcompose, hunit⟩, hafter.symm, trivial⟩
    · obtain ⟨hafter, -⟩ := hsound.releasePending (hphase.resolve_left hquiesced)
      simp only [succeeds_bind, succeeds_require]
      refine ⟨hcontainer, ?_, trivial⟩
      rcases Bool.eq_false_or_eq_true w.running with hrunning | hrunning
      · exact Or.inl hrunning
      · exact Or.inr (hafter hrunning).symm
  refine hruntime.mono ?_
  rintro _ t rfl
  simp only [succeeds_get, succeeds_require]
  exact ⟨by rw [hinstalled, hc.2.source], trivial⟩

/-- The container is started if its unit was active, in either phase of the release. -/
lemma succeeds_startContainer (hc : Holds h c w) (hroom : Roomy h c) {q : RuntimeQuiescence}
    (hq : c.runtimeQuiescence = some q) (hphase : q.phase = .quiesced ∨ q.phase = .releasePending) :
    Succeeds (startContainer h c q w.cache) w fun _ t => ∃ q', q'.phase = .released
      ∧ t.checkpoint = some (c.withQuiescence q') ∧ t.installed = w.installed
      ∧ t.active = w.active := by
  have hsound := hc.2.quiescence q hq
  have hfits : ∀ q', h.fits (c.withQuiescence q') = true :=
    fun q' => hroom _ (.withQuiescence hc.2.pendingNodup q')
  have hunitOff : q.unit.active = false → w.running = false := by
    intro hoff
    rcases hphase with h' | h'
    · exact (hsound.quiesced h').1
    · exact (hsound.releasePending h').2 hoff
  have hstart : ∀ t : World, t.running = w.running → t.installed = w.installed →
      t.active = w.active → Succeeds (runIf (q.unit.active = true ∧ t.running = false)
        (effect (World.setContainer true w.cache))) t fun _ t' => t'.running = q.unit.active
          ∧ t'.installed = w.installed ∧ t'.active = w.active := by
    intro t hrunning hinst hact
    rw [succeeds_runIf]
    refine ⟨fun hon => succeeds_effect.mpr ⟨hon.1.symm, hinst, hact⟩, fun hoff => ⟨?_, hinst, hact⟩⟩
    rcases Bool.eq_false_or_eq_true q.unit.active with hactive | hactive
    · rw [hactive, ← Bool.not_eq_false]
      exact fun h' => hoff ⟨hactive, h'⟩
    · rw [hactive, hrunning, hunitOff hactive]
  have hend : ∀ t : World, t.running = q.unit.active ∧ t.installed = w.installed
      ∧ t.active = w.active → t.running = q.unit.active ∧ Succeeds
        (atomicWrite h (c.withQuiescence { q with phase := .released })) t fun _ t' =>
          ∃ q', q'.phase = .released ∧ t'.checkpoint = some (c.withQuiescence q')
            ∧ t'.installed = w.installed ∧ t'.active = w.active := by
    rintro t ⟨hrunning, hinst, hact⟩
    exact ⟨hrunning, succeeds_atomicWrite (hfits _) ⟨_, rfl, rfl, hinst, hact⟩⟩
  simp only [startContainer, succeeds_bind, succeeds_get, succeeds_require]
  rw [succeeds_runIf]
  refine ⟨fun _ => succeeds_atomicWrite (hfits _) ?_, fun _ => ?_⟩
  · exact (hstart (w.publish _) rfl rfl rfl).mono fun _ t ht => hend t ht
  · exact (hstart w rfl rfl rfl).mono fun _ t ht => hend t ht

/-- `release-mihomo --jit-owner-quiescence` with the units stopped and the recorded backend
installed. -/
lemma succeeds_releaseMihomo (hc : Holds h c w) (hroom : Roomy h c) (hpending : c.status = .pending)
    (hstopped : w.UnitsStopped) (hinstalled : w.installed = c.backendManifest) {q : RuntimeQuiescence}
    (hq : c.runtimeQuiescence = some q) (hphase : q.phase = .quiesced ∨ q.phase = .releasePending)
    (hfew : c.sourceTransitions.length < 2) :
    Succeeds (runCommand h (.releaseMihomo ⟨c.operationId, c.backendManifestSha256, q.container,
        q.composeFileSha256⟩ true w.cache)) w fun _ t => ∃ q', q'.phase = .released
      ∧ t.checkpoint = some (c.withQuiescence q') ∧ t.installed = w.installed ∧ t.active = w.active := by
  have hsound := hc.2.quiescence q hq
  simp only [runCommand, releaseMihomo, succeeds_bind]
  refine succeeds_readCheckpoint hc (hroom _ (.refl hc.2.pendingNodup)) ?_
  simp only [succeeds_require, succeeds_ofOption]
  refine ⟨hpending, q, runtimeCheckpoint_of_sound hc.2 hq hfew, ?_⟩
  have hrest : Succeeds (requireReleaseGate h c q true >>= fun _ => get >>= fun v : World =>
      require (SameRuntime h q ∧ (q.phase = .quiesced → v.running = false)) >>= fun _ =>
        startContainer h c q w.cache) w fun _ t' =>
      ∃ q', q'.phase = .released ∧ t'.checkpoint = some (c.withQuiescence q')
        ∧ t'.installed = w.installed ∧ t'.active = w.active := by
    simp only [succeeds_bind, succeeds_get, succeeds_require]
    refine (succeeds_requireReleaseGate hc hstopped hinstalled hq hphase).mono ?_
    rintro _ t rfl
    exact ⟨⟨hsound.runtime, fun h' => (hsound.quiesced h').1⟩,
      succeeds_startContainer hc hroom hq hphase⟩
  rcases hphase with hphase | hphase
  · simp only [hphase, succeeds_bind] at hrest ⊢
    exact hrest
  · simp only [hphase, succeeds_bind] at hrest ⊢
    exact hrest

/-- Restoring with catch-up leaves no unit pending. -/
lemma succeeds_restoreUnits {active : RolloutUnit → Bool} {us pending : List RolloutUnit}
    (hnodup : pending.Nodup) (hpending : ∀ u ∈ pending, u ∈ us ∧ active u = true) :
    Succeeds (restoreUnits active true us pending) w fun left t => left = []
      ∧ t = { w with active := t.active } ∧ (∀ u ∈ us, active u = true → t.active u = true)
      ∧ ∀ u, w.active u = true → t.active u = true := by
  induction us generalizing w pending with
  | nil =>
      refine succeeds_pure.mpr ⟨List.eq_nil_iff_forall_not_mem.mpr fun u hu => ?_, rfl, nofun, fun _ h' => h'⟩
      exact absurd (hpending u hu).1 List.not_mem_nil
  | cons u us ih =>
      unfold restoreUnits
      split_ifs with hactive hskip
      · exact absurd hskip.2 (by decide)
      · simp only [succeeds_bind]
        refine succeeds_switchUnit.mono ?_
        rintro _ t rfl
        have herase : ∀ v ∈ pending.erase u, v ∈ us ∧ active v = true := by
          intro v hv
          obtain ⟨hne, hv⟩ := (hnodup.mem_erase_iff).mp hv
          exact ⟨(List.mem_cons.mp (hpending v hv).1).resolve_left hne, (hpending v hv).2⟩
        refine (ih (hnodup.erase u) herase).mono ?_
        rintro left t ⟨hleft, hrest, hon, hsub⟩
        have hkept : ∀ v, (w.setUnit u true).active v = true → t.active v = true := hsub
        refine ⟨hleft, by rw [hrest]; rfl, fun v hv hv' => ?_, fun v hv => hkept v ?_⟩
        · rcases List.mem_cons.mp hv with rfl | hv
          · exact hkept v (by rw [World.setUnit_active, if_pos rfl])
          · exact hon v hv hv'
        · rw [World.setUnit_active]
          split_ifs
          · rfl
          · exact hv
      · have hrest : ∀ v ∈ pending, v ∈ us ∧ active v = true := by
          intro v hv
          refine ⟨(List.mem_cons.mp (hpending v hv).1).resolve_left ?_, (hpending v hv).2⟩
          rintro rfl
          exact hactive (hpending v hv).2
        refine (ih hnodup hrest).mono ?_
        rintro left t ⟨hleft, hrest, hon, hsub⟩
        refine ⟨hleft, hrest, fun v hv hv' => ?_, hsub⟩
        rcases List.mem_cons.mp hv with rfl | hv
        · exact absurd hv' hactive
        · exact hon v hv hv'

/-- A rebuild that has left its first phase has a backup of its own operation. -/
lemma exists_backup {op : OperationId} {m : MaintenanceOperation}
    (hm : validateMaintenanceOperation op m = true) (hphase : m.status ≠ .pending) :
    ∃ pin, m.backup = some pin ∧ validBackupPin op pin = true := by
  unfold validateMaintenanceOperation at hm
  split at hm
  · exact absurd (of_decide_eq_true hm) hphase
  · rename_i pin hpin
    exact ⟨pin, hpin, hm⟩

/-- A checkpoint that the API may be started on, once the recorded backend is installed. -/
structure Ready (c : Checkpoint) : Prop where
  pending : c.status = .pending
  maintenance : ∀ m ∈ c.maintenanceOperation, m.status = .verified
  quiescence : ∀ q ∈ c.runtimeQuiescence, q.phase = .released

lemma Ready.startupAllowed (hready : Ready c) (hs : Sound h c w) (hfits : h.fits c = true)
    (hinstalled : w.installed = c.backendManifest) :
    startupAllowed h w.installed (some c) = true := by
  unfold Lifecycle.startupAllowed
  simp only [hfits, Bool.true_and]
  cases hm : c.maintenanceOperation with
  | none =>
      have hquiescence :
          c.runtimeQuiescence.all (startupRuntimeQuiescenceValid c.operationId) = true := by
        cases hq : c.runtimeQuiescence with
        | none => rfl
        | some q =>
            have hsound := hs.quiescence q hq
            have hphase := hready.quiescence q hq
            have hafter := hsound.cacheAfter (by rw [hphase]; decide)
            simp [startupRuntimeQuiescenceValid, hsound.operation, hphase, hafter]
      simp [hquiescence, hinstalled, hs.source]
  | some m =>
      have hvalid := (hs.maintenance m hm).1
      have hverified := hready.maintenance m hm
      obtain ⟨pin, hbackup, hpin⟩ := exists_backup hvalid (by rw [hverified]; decide)
      simp [hverified, hbackup, hpin]

lemma succeeds_resume (hc : Holds h c w) (hroom : Roomy h c) (hready : Ready c)
    (hapi : w.active .api = true) (hinstalled : w.installed = c.backendManifest) :
    Succeeds (runCommand h (.resume ⟨c.backendManifest, true⟩)) w fun _ t => Restored c t := by
  have hnot : ¬ c.status = .complete := by rw [hready.pending]; decide
  have hrestore := succeeds_restoreUnits (w := w) hc.2.pendingNodup hc.2.pendingTimers
  simp only [runCommand, resume, succeeds_bind]
  refine succeeds_readCheckpoint hc (hroom _ (.refl hc.2.pendingNodup)) ?_
  rw [if_neg hnot]
  simp only [requireApiHealth, succeeds_bind, succeeds_require, succeeds_get]
  refine ⟨hready.maintenance, hready.quiescence, hapi, hc.2.source.symm, hinstalled, ?_⟩
  refine hrestore.mono ?_
  rintro left t ⟨rfl, -, hon, hsub⟩
  have hfits : h.fits (resumed c []) = true :=
    hroom _ ⟨rfl, rfl, List.nodup_nil, fun m _ hm hpin => Or.inr ⟨m, hm, hpin⟩⟩
  refine succeeds_atomicWrite hfits ⟨resumed c [], rfl, rfl, rfl, rfl, fun u hu => ?_⟩
  rcases RolloutUnit.mem_restoreOrder_or u with hrestored | hjob | rfl
  · exact hon u hrestored hu
  · exact absurd hu (by rw [hc.2.jobs u hjob]; decide)
  · exact hsub _ hapi

/-- **The last stage.**  The recorded backend is installed, the API started, and the rollout resumed
with catch-up. -/
theorem wayForward_of_ready (hinv : Inv h w) (hc : w.checkpoint = some c) (hroom : Roomy h c)
    (hready : Ready c) : WayForward h c w := by
  have hs := hinv c hc
  have hinstall : Path h w (w.install c.backendManifest) := .single (.meanwhile (.install hc))
  have hallowed := hready.startupAllowed (hs.install c.backendManifest)
    (hroom _ (.refl hs.pendingNodup)) rfl
  rw [← hc] at hallowed
  have hstart : Path h w ((w.install c.backendManifest).setUnit .api true) :=
    hinstall.tail (.meanwhile (.startApi hallowed))
  have hholds : Holds h c ((w.install c.backendManifest).setUnit .api true) :=
    ⟨hc, hinv.path hstart c hc⟩
  obtain ⟨t, hstep, hrestored⟩ := exists_forward (succeeds_resume hholds hroom hready
    (by rw [World.setUnit_active, if_pos rfl]) rfl)
  exact ⟨t, hstart.tail hstep, hrestored⟩

/-! ## A rebuild -/

/-- A name for a backup of the operation. -/
def backupOf (op : OperationId) : BackupPin := ⟨backupPrefix op ++ ".bak".toList, 0⟩

lemma slash_not_mem_hex (op : OperationId) : '/' ∉ op.hex := by
  have hdigit : ∀ d < 16, Nat.digitChar d ≠ '/' := by decide
  intro hmem
  obtain ⟨i, -, hi⟩ := List.mem_map.mp hmem
  exact hdigit _ (Nat.mod_lt _ (by decide)) hi

lemma slash_not_mem_backupPrefix (op : OperationId) : '/' ∉ backupPrefix op := by
  unfold backupPrefix
  rw [List.mem_append, List.mem_append, not_or, not_or]
  exact ⟨⟨by decide +kernel, slash_not_mem_hex op⟩, by decide⟩

lemma backupPrefix_length (op : OperationId) : (backupPrefix op).length = 53 := by
  unfold backupPrefix OperationId.hex
  rw [List.length_append, List.length_append, List.length_map, List.length_reverse, List.length_range]
  decide +kernel

lemma backupOf_valid (op : OperationId) : validBackupPin op (backupOf op) = true := by
  have hslash : '/' ∉ (backupOf op).filename := by
    show '/' ∉ backupPrefix op ++ ".bak".toList
    rw [List.mem_append, not_or]
    exact ⟨slash_not_mem_backupPrefix op, by decide +kernel⟩
  unfold validBackupPin
  rw [Bool.and_eq_true, Bool.and_eq_true]
  exact ⟨⟨decide_eq_true hslash, List.isPrefixOf_iff_prefix.mpr (List.prefix_append _ _)⟩,
    List.isSuffixOf_iff_suffix.mpr (List.suffix_append _ _)⟩

lemma backupOf_length (op : OperationId) : (backupOf op).filename.length ≤ 255 := by
  show (backupPrefix op ++ ".bak".toList).length ≤ 255
  rw [List.length_append, backupPrefix_length]
  decide +kernel

/-- The checkpoint with another state of its rebuild. -/
def Checkpoint.withMaintenance (c : Checkpoint) (m : MaintenanceOperation) : Checkpoint :=
  { c with maintenanceOperation := some m }

lemma offlineOperation_of_valid {m : MaintenanceOperation} (hfits : h.fits c = true)
    (hpending : c.status = .pending) (hm : c.maintenanceOperation = some m)
    (hphase : m.status ≠ .verified) (hvalid : validateMaintenanceOperation c.operationId m = true) :
    offlineOperation h c = some c.operationId := by
  unfold offlineOperation
  rw [hm]
  exact if_pos ⟨hfits, hpending, hphase, hvalid⟩

/-- The child records the last phase before the verification. -/
lemma record_published {m : MaintenanceOperation} {pin : BackupPin}
    (hoffline : offlineOperation h c = some c.operationId) (hm : c.maintenanceOperation = some m)
    (hphase : m.status ≠ .verified) (hpin : m.backup = some pin)
    (hvalid : validBackupPin c.operationId pin = true) :
    recordOfflineRebuildPhase h c.operationId .published c
      = some (c.withMaintenance { m with status := .published }) := by
  have hindex : m.status.index ≤ RebuildPhase.published.index := by
    cases hstatus : m.status with
    | verified => exact absurd hstatus hphase
    | _ => decide
  unfold recordOfflineRebuildPhase
  rw [hm]
  exact if_pos ⟨by decide, by decide, hoffline, by rw [hpin]; exact hvalid, hindex⟩

/-- The child of a rebuild that has no backup yet pins one. -/
lemma record_backupOf {m : MaintenanceOperation}
    (hoffline : offlineOperation h c = some c.operationId) (hm : c.maintenanceOperation = some m)
    (hphase : m.status = .pending) (hpin : m.backup = none) :
    recordOfflineRebuildBackupPin h c.operationId (backupOf c.operationId) c
      = some (c.withMaintenance { m with backup := some (backupOf c.operationId) }) := by
  unfold recordOfflineRebuildBackupPin
  rw [hm]
  simp only [hpin]
  exact if_pos ⟨hoffline, hphase, backupOf_valid _⟩

lemma succeeds_childCall {op : OperationId} {call : ChildCall} {c' : Checkpoint}
    (hc : w.checkpoint = some c) (hrecord : call.record h op c = some c') :
    Succeeds (childCall h op call) w fun _ t => t = w.publish c' := by
  simp only [childCall, succeeds_bind, succeeds_get, hc, Option.bind_some, hrecord, succeeds_effect]

/-- What the child of a rebuild that goes through calls. -/
def rebuildCalls (op : OperationId) (m : MaintenanceOperation) : List ChildCall :=
  if m.backup = none then [.recordBackupPin (backupOf op), .recordPhase .published]
  else [.recordPhase .published]

lemma succeeds_rebuildCalls (hc : w.checkpoint = some c) (hroom : Roomy h c)
    (hnodup : c.pendingUnits.Nodup) (hpending : c.status = .pending) {m : MaintenanceOperation}
    (hm : c.maintenanceOperation = some m) (hphase : m.status ≠ .verified)
    (hvalid : validateMaintenanceOperation c.operationId m = true) :
    Succeeds (forEach (childCall h c.operationId) (rebuildCalls c.operationId m)) w fun _ t =>
      ∃ pin, validBackupPin c.operationId pin = true
        ∧ (m.backup = some pin ∨ pin = backupOf c.operationId)
        ∧ t = w.publish (c.withMaintenance { status := .published, backup := some pin }) := by
  have hoffline := offlineOperation_of_valid (hroom _ (.refl hnodup)) hpending hm hphase hvalid
  unfold rebuildCalls
  cases hpin : m.backup with
  | none =>
      have hstart : m.status = .pending := by
        by_contra hne
        obtain ⟨pin, hsome, -⟩ := exists_backup hvalid hne
        exact absurd (hpin.symm.trans hsome) (by simp)
      let c₁ := c.withMaintenance { m with backup := some (backupOf c.operationId) }
      have hsame : SameRollout c c₁ := by
        refine ⟨rfl, rfl, hnodup, fun m' pin hm' hpin' => Or.inl ?_⟩
        obtain rfl := Option.some.inj hm'
        obtain rfl := Option.some.inj hpin'
        exact backupOf_length _
      have hoffline₁ : offlineOperation h c₁ = some c.operationId :=
        offlineOperation_of_valid (c := c₁) (hroom _ hsame) hpending rfl hphase (backupOf_valid _)
      have hpinned : (ChildCall.recordBackupPin (backupOf c.operationId)).record h c.operationId c
          = some c₁ := record_backupOf hoffline hm hstart hpin
      have hpublished : (ChildCall.recordPhase .published).record h c.operationId c₁ = some _ :=
        record_published (c := c₁) hoffline₁ rfl hphase rfl (backupOf_valid _)
      rw [if_pos rfl]
      simp only [forEach, succeeds_bind]
      refine (succeeds_childCall hc hpinned).mono ?_
      rintro _ t rfl
      refine (succeeds_childCall (c := c₁) rfl hpublished).mono ?_
      rintro _ t rfl
      exact succeeds_pure.mpr ⟨_, backupOf_valid _, Or.inr rfl, rfl⟩
  | some pin =>
      have hpinValid : validBackupPin c.operationId pin = true := by
        unfold validateMaintenanceOperation at hvalid
        rwa [hpin] at hvalid
      have hpublished : (ChildCall.recordPhase .published).record h c.operationId c = some _ :=
        record_published hoffline hm hphase hpin hpinValid
      rw [if_neg (by simp)]
      simp only [forEach, succeeds_bind]
      refine (succeeds_childCall hc hpublished).mono ?_
      rintro _ t rfl
      refine succeeds_pure.mpr ⟨pin, hpinValid, Or.inl rfl, ?_⟩
      rw [hpin]

/-- `rebuild-db` repeated for a pending rebuild with the units stopped. -/
lemma succeeds_runDatabaseRebuild (hc : Holds h c w) (hroom : Roomy h c)
    (hpending : c.status = .pending) (hstopped : w.UnitsStopped)
    (hinstalled : w.installed = c.backendManifest) {m : MaintenanceOperation}
    (hm : c.maintenanceOperation = some m) (hphase : m.status ≠ .verified) :
    Succeeds (runCommand h (.rebuildDb ⟨⟨c.backendManifest, c.operationId⟩,
        rebuildCalls c.operationId m⟩)) w fun _ t => ∃ m', m'.status = .verified
      ∧ SameRollout c (c.withMaintenance m') ∧ t.checkpoint = some (c.withMaintenance m') := by
  obtain ⟨hvalid, -⟩ := hc.2.maintenance m hm
  have hfits := hroom _ (.refl hc.2.pendingNodup)
  have hoffline := offlineOperation_of_valid hfits hpending hm hphase hvalid
  have hsame : ∀ {status : RebuildPhase} {pin : BackupPin},
      (m.backup = some pin ∨ pin = backupOf c.operationId) →
      SameRollout c (c.withMaintenance { status := status, backup := some pin }) := by
    intro status pin hpin
    refine ⟨rfl, rfl, hc.2.pendingNodup, fun m' pin' hm' hpin' => ?_⟩
    obtain rfl := Option.some.inj hm'
    obtain rfl := Option.some.inj hpin'
    rcases hpin with hpin | rfl
    · exact Or.inr ⟨m, hm, hpin⟩
    · exact Or.inl (backupOf_length _)
  have hoperation : Succeeds (rebuildOperation h ⟨⟨c.backendManifest, c.operationId⟩,
      rebuildCalls c.operationId m⟩) w fun op t => op = c.operationId ∧ t = w := by
    simp only [rebuildOperation, succeeds_bind, succeeds_get, hc.1]
    refine succeeds_readCheckpoint hc hfits ?_
    simp only [succeeds_require, succeeds_ofOption]
    refine ⟨hpending, m, hm, hphase, hc.2.source, fun pin hpin => ?_, succeeds_pure.mpr ⟨rfl, rfl⟩⟩
    unfold validateMaintenanceOperation at hvalid
    rw [Option.mem_def.mp hpin] at hvalid
    exact hvalid
  simp only [runCommand, runDatabaseRebuild, succeeds_bind, succeeds_get, succeeds_require]
  refine ⟨hinstalled, hoperation.mono ?_⟩
  rintro op t ⟨hop, ht⟩
  subst hop ht
  refine succeeds_requireUnitsStopped hstopped ⟨hinstalled, ?_⟩
  simp only [rebuildLease, succeeds_bind, succeeds_get, succeeds_require, hc.1, Option.bind_some]
  refine ⟨hoffline, succeeds_requireUnitsStopped hstopped ?_⟩
  refine (succeeds_rebuildCalls hc.1 hroom hc.2.pendingNodup hpending hm hphase hvalid).mono ?_
  rintro _ t ⟨pin, hpinValid, hpin, rfl⟩
  let c₂ := c.withMaintenance { status := .published, backup := some pin }
  have hs₂ : Sound h c₂ (t.publish c₂) := by
    have hs : Sound h c₂ t := hc.2.withMaintenance hpending hm hpinValid
    exact hs.publish
  have hfinal : SameRollout c (c.withMaintenance { status := .verified, backup := some pin }) :=
    hsame hpin
  simp only [verifyRebuild, succeeds_bind]
  refine succeeds_readCheckpoint ⟨rfl, hs₂⟩ (hroom _ (hsame hpin)) ?_
  simp only [succeeds_require, succeeds_ofOption]
  exact ⟨⟨hpending, rfl⟩, _, rfl, rfl, hpinValid,
    succeeds_atomicWrite (hroom _ hfinal) ⟨_, rfl, hfinal, rfl⟩⟩

/-! ## The whole way -/

/-- From a held container with the units stopped. -/
lemma wayForward_of_held (hinv : Inv h w) (hc : w.checkpoint = some c) (hroom : Roomy h c)
    (hpending : c.status = .pending) (hstopped : w.UnitsStopped)
    (hinstalled : w.installed = c.backendManifest) {q : RuntimeQuiescence}
    (hq : c.runtimeQuiescence = some q) (hphase : q.phase = .quiesced ∨ q.phase = .releasePending)
    (hfew : c.sourceTransitions.length < 2) : WayForward h c w := by
  have hs := hinv c hc
  obtain ⟨t, hstep, q', hreleased, ht, -, -⟩ := exists_forward
    (succeeds_releaseMihomo ⟨hc, hs⟩ hroom hpending hstopped hinstalled hq hphase hfew)
  refine .of_path (.single hstep) (.of_same (c.withQuiescence q') rfl rfl ?_)
  refine wayForward_of_ready (hinv.forward hstep) ht
    (hroom.of_same (.withQuiescence hs.pendingNodup q')) ⟨hpending, fun m hm => ?_, fun p hp => ?_⟩
  · exact absurd ((hs.maintenance_eq_none hq).symm.trans hm) (by simp)
  · obtain rfl := Option.some.inj hp
    exact hreleased

/-- From a container that is to be stopped, with the units stopped. -/
lemma wayForward_of_stopPending (hinv : Inv h w) (hc : w.checkpoint = some c) (hroom : Roomy h c)
    (hpending : c.status = .pending) (hstopped : w.UnitsStopped)
    (hinstalled : w.installed = c.backendManifest) {q : RuntimeQuiescence}
    (hq : c.runtimeQuiescence = some q) (hphase : q.phase = .stopPending)
    (hcache : w.cache = q.cacheBefore) : WayForward h c w := by
  have hs := hinv c hc
  obtain ⟨t, hstep, q', hquiesced, ht, hinst, hact⟩ := exists_forward
    (succeeds_quiesceMihomo ⟨hc, hs⟩ hroom hpending hstopped hinstalled hq hphase hcache)
  have hempty : c.sourceTransitions = [] := (hs.quiescence q hq).stopPending hphase
  refine .of_path (.single hstep) (.of_same (c.withQuiescence q') rfl rfl ?_)
  refine wayForward_of_held (hinv.forward hstep) ht (hroom.of_same (.withQuiescence hs.pendingNodup q'))
    hpending ?_ (hinst.trans hinstalled) (q := q') rfl (Or.inl hquiesced) ?_
  · intro u hu
    rw [hact]
    exact hstopped u hu
  · show c.sourceTransitions.length < 2
    rw [hempty]
    decide

/-- Before anything else the recorded backend is installed and the one-shot jobs come to their end. -/
lemma exists_settled (hc : w.checkpoint = some c) : ∃ t, Path h w t ∧ t.NoJobs
    ∧ t.checkpoint = some c ∧ t.installed = c.backendManifest ∧ t.cache = w.cache
    ∧ ∀ u, t.active u = true → w.active u = true := by
  have hinstall : Path h w (w.install c.backendManifest) := .single (.meanwhile (.install hc))
  obtain ⟨t, hpath, hjobs, hrest, hsub⟩ := exists_noJobs h (w.install c.backendManifest)
  refine ⟨t, hinstall.trans hpath, hjobs, ?_, ?_, ?_, hsub⟩
  · rw [hrest]
    exact hc
  · rw [hrest]
    rfl
  · rw [hrest]
    rfl

/-- **The way forward.**  A pending rollout can be completed unless its record is too close to the
size limit, the Mihomo container was stopped without a record of the cache it left, the source was
transferred more than once while the container was held, or a rebuild has not stopped the units. -/
theorem wayForward (hinv : Inv h w) (hc : w.checkpoint = some c) (hpending : c.status = .pending)
    (hroom : Roomy h c) (hgap : ¬CrashGap c w) (hover : ¬Overtransferred c)
    (hhalf : ¬HalfStopped c w) : WayForward h c w := by
  have hs := hinv c hc
  have hfits := hroom _ (.refl hs.pendingNodup)
  obtain ⟨t, hpath, hjobs, ht, hinstalled, hcache, hsub⟩ := exists_settled (h := h) hc
  have hst := hinv.path hpath c ht
  by_cases hrebuild : ∃ m, c.maintenanceOperation = some m ∧ m.status ≠ .verified
  · -- a rebuild is retried; it finds its units stopped
    obtain ⟨m, hm, hphase⟩ := hrebuild
    have hstopped : t.UnitsStopped := by
      intro u _
      rw [Bool.eq_false_iff]
      intro hactive
      by_cases hjob : u ∈ RolloutUnit.transientJobs
      · exact absurd hactive (by rw [hjobs u hjob]; decide)
      · exact hhalf ⟨⟨m, hm, hphase⟩, u, hjob, hsub u hactive⟩
    obtain ⟨t', hstep, m', hverified, hsame, ht'⟩ := exists_forward
      (succeeds_runDatabaseRebuild ⟨ht, hst⟩ hroom hpending hstopped hinstalled hm hphase)
    refine .of_path (hpath.tail hstep) (.of_same (c.withMaintenance m') rfl rfl ?_)
    refine wayForward_of_ready ((hinv.path hpath).forward hstep) ht' (hroom.of_same hsame)
      ⟨hpending, fun p hp => ?_, fun q hq => ?_⟩
    · obtain rfl := Option.some.inj hp
      exact hverified
    · exact absurd ((hs.maintenance m hm).2.symm.trans hq) (by simp)
  · have hverified : ∀ m ∈ c.maintenanceOperation, m.status = .verified :=
      fun m hm => by_contra fun hne => hrebuild ⟨m, hm, hne⟩
    by_cases hheld : ∃ q, c.runtimeQuiescence = some q ∧ q.phase ≠ .released
    · -- the container is stopped, or to be stopped: the units are stopped once more
      obtain ⟨q, hq, hphase⟩ := hheld
      obtain ⟨t', hstep, hstopped, hrest⟩ := exists_forward
        (succeeds_stop ⟨ht, hst⟩ hfits hpending (hs.maintenance_eq_none hq) hinstalled hjobs)
      have hinv' := (hinv.path hpath).forward hstep
      have ht' : t'.checkpoint = some c := by rw [hrest]; exact ht
      have hinstalled' : t'.installed = c.backendManifest := by rw [hrest]; exact hinstalled
      refine .of_path (hpath.tail hstep) ?_
      have hfew : q.phase = .quiesced ∨ q.phase = .releasePending → c.sourceTransitions.length < 2 :=
        fun h' => not_le.mp fun hle => hover ⟨q, hq, h', hle⟩
      cases hp : q.phase with
      | released => exact absurd hp hphase
      | stopPending =>
          refine wayForward_of_stopPending hinv' ht' hroom hpending hstopped hinstalled' hq hp ?_
          rw [hrest]
          exact hcache.trans (by_contra fun hne => hgap ⟨q, hq, hp, hne⟩)
      | quiesced =>
          exact wayForward_of_held hinv' ht' hroom hpending hstopped hinstalled' hq (Or.inl hp)
            (hfew (Or.inl hp))
      | releasePending =>
          exact wayForward_of_held hinv' ht' hroom hpending hstopped hinstalled' hq (Or.inr hp)
            (hfew (Or.inr hp))
    · refine wayForward_of_ready hinv hc hroom ⟨hpending, hverified, fun q hq => ?_⟩
      exact by_contra fun hne => hheld ⟨q, hq, hne⟩

/-! ## The crash gap -/

/-- What a stop that was cut off in the crash gap leaves. -/
structure InCrashGap (c : Checkpoint) (w : World) : Prop where
  checkpoint : w.checkpoint = some c
  pending : c.status = .pending
  noRebuild : c.maintenanceOperation = none
  gap : CrashGap c w

lemma InCrashGap.of_same (hw : InCrashGap c w) {w' : World} (hcheckpoint : w'.checkpoint = w.checkpoint)
    (hcache : w'.cache = w.cache) : InCrashGap c w' where
  checkpoint := hcheckpoint.trans hw.checkpoint
  pending := hw.pending
  noRebuild := hw.noRebuild
  gap := by
    obtain ⟨q, hq, hphase, hne⟩ := hw.gap
    exact ⟨q, hq, hphase, hcache ▸ hne⟩

lemma InCrashGap.safe_readCheckpoint (hw : InCrashGap c w) {I : World → Prop}
    {Q : Checkpoint → World → Prop} (hQ : Q c w) : Safe I (readCheckpoint h) w Q := by
  simp only [readCheckpoint, safe_bind, safe_get, safe_ofOption, safe_require, safe_pure]
  intro c' hc' _
  obtain rfl := Option.some.inj (hw.checkpoint.symm.trans hc')
  exact hQ

lemma InCrashGap.safe_switchUnit (hw : InCrashGap c w) (u : RolloutUnit) (on : Bool) :
    Safe (InCrashGap c) (switchUnit u on) w fun _ => InCrashGap c :=
  Lifecycle.safe_switchUnit hw (hw.of_same rfl rfl) (hw.of_same rfl rfl)

lemma InCrashGap.safe_stop (hw : InCrashGap c w) {args : StopArgs} :
    Safe (InCrashGap c) (stop h args none) w fun _ => InCrashGap c := by
  have hpending : Safe (InCrashGap c) (pendingStop h args none) w fun o t => o = some c ∧ t = w := by
    simp only [pendingStop, safe_bind, safe_get, hw.checkpoint]
    refine hw.safe_readCheckpoint ?_
    rw [if_pos hw.pending]
    simp only [safe_bind, safe_require]
    exact fun _ _ => safe_pure.mpr ⟨rfl, rfl⟩
  simp only [stop, safe_bind, safe_get, safe_require]
  refine fun _ => hpending.mono (fun _ h' => h') ?_
  rintro o t ⟨ho, ht⟩
  subst ho ht
  simp only [pendingOrNew, safe_pure, stopUnits, safe_bind, safe_get, safe_require]
  refine (safe_forEach hw fun u _ v hv => ?_).mono (fun _ h' => h') ?_
  · exact safe_runIf.mpr ⟨fun _ => hv.safe_switchUnit u false, fun _ => hv⟩
  · exact fun _ v hv _ => hv.safe_switchUnit .api false

/-- **No command leads out of the crash gap.**  Every one leaves the checkpoint and the cache as they
are, in whatever state it is cut off. -/
theorem InCrashGap.safe_runCommand (hw : InCrashGap c w) (cmd : Command) :
    Safe (InCrashGap c) (runCommand h cmd) w fun _ => InCrashGap c := by
  obtain ⟨q, hq, hphase, hcache⟩ := hw.gap
  cases cmd with
  | stop args =>
      simp only [runCommand, safe_bind, safe_pure]
      exact hw.safe_stop
  | quiesceMihomo args k =>
      simp only [runCommand, quiesceMihomo, safe_bind]
      refine hw.safe_readCheckpoint ?_
      simp only [safe_require, safe_get]
      refine fun _ _ => safe_requireUnitsStopped fun _ => ?_
      rw [hq]
      simp only [safe_bind, safe_require]
      intro _
      rw [hphase]
      simp only [stopContainer, safe_bind, safe_get, safe_require]
      exact fun _ heq => absurd heq hcache
  | releaseMihomo args jit k =>
      simp only [runCommand, releaseMihomo, safe_bind]
      refine hw.safe_readCheckpoint ?_
      simp only [safe_require, safe_ofOption]
      intro _ q' hq'
      obtain rfl := Option.some.inj (hq.symm.trans (runtimeCheckpoint_eq_some hq'))
      rw [hphase]
      exact safe_require.mpr False.elim
  | transfer args =>
      simp only [runCommand, transfer, safe_bind]
      refine hw.safe_readCheckpoint ?_
      simp only [safe_require]
      intro _ _ _ _ hquiesced
      exact absurd (hphase.symm.trans (hquiesced q hq)) (by decide)
  | rebuildDb args =>
      simp only [runCommand, runDatabaseRebuild, rebuildOperation, safe_bind, safe_get, safe_require,
        hw.checkpoint]
      refine fun _ => hw.safe_readCheckpoint ?_
      simp only [safe_ofOption, hw.noRebuild]
      exact fun _ _ hm => absurd hm (by simp)
  | resume args =>
      simp only [runCommand, resume, safe_bind]
      refine hw.safe_readCheckpoint ?_
      rw [if_neg (by rw [hw.pending]; decide)]
      simp only [safe_bind, safe_require]
      intro _ hreleased
      exact absurd (hphase.symm.trans (hreleased q hq)) (by decide)

lemma InCrashGap.forward (hw : InCrashGap c w) {w' : World} (hstep : ForwardStep h w w') :
    InCrashGap c w' := by
  cases hstep with
  | command cmd hresult => exact (hw.safe_runCommand cmd).2 () w' hresult
  | meanwhile hmeanwhile =>
      cases hmeanwhile with
      | install _ => exact hw.of_same rfl rfl
      | startApi _ => exact hw.of_same rfl rfl
      | jobEnds _ => exact hw.of_same rfl rfl

lemma InCrashGap.path (hw : InCrashGap c w) {w' : World} (hpath : Path h w w') : InCrashGap c w' := by
  induction hpath with
  | refl => exact hw
  | tail _ hstep ih => exact ih.forward hstep

/-- There is no way forward from the crash gap. -/
theorem InCrashGap.not_wayForward (hw : InCrashGap c w) : ¬WayForward h c w := by
  rintro ⟨t, hpath, c', hc', -, hcomplete, -⟩
  have ht := hw.path hpath
  obtain rfl := Option.some.inj (ht.checkpoint.symm.trans hc')
  exact absurd (ht.pending.symm.trans hcomplete) (by decide)

/-! ## A complete rollout -/

/-- A new operation is begun in the same way whatever the last one has left. -/
lemma beginOperation_congr (h : Host) (args : StopArgs) (maintenance : Option MaintenanceOperation)
    (w : World) : beginOperation h args maintenance w
      = beginOperation h args maintenance { w with checkpoint := none } := by
  simp only [beginOperation, run_get, run_require]
  refine if_congr Iff.rfl (if_congr Iff.rfl (run_bind_congr _ ?_) rfl) rfl
  simp only [atomicWrite, run_require]
  rfl

/-- `stop` begins after a complete rollout as it begins without a checkpoint. -/
theorem stop_of_complete (hc : Holds h c w) (hcomplete : c.status = .complete) (args : StopArgs) :
    runCommand h (.stop args) w = runCommand h (.stop args) { w with checkpoint := none } := by
  have haccepts := hc.2.accepts (hc.2.fits (Or.inr hcomplete))
  have hnot : ¬c.status = .pending := by rw [hcomplete]; decide
  have hread : readCheckpoint h w = ⟨[], some (c, w)⟩ := by
    simp only [readCheckpoint, run_get, hc.1]
    refine (run_bind (a := c) (t := w) rfl).trans ?_
    rw [run_require, if_pos haccepts]
    rfl
  have hpending : pendingStop h args none w = ⟨[], some (none, w)⟩ := by
    simp only [pendingStop, run_get, hc.1]
    rw [run_bind hread, if_neg hnot]
    rfl
  have hnone : pendingStop h args none { w with checkpoint := none }
      = ⟨[], some (none, { w with checkpoint := none })⟩ := rfl
  refine run_bind_congr _ ?_
  simp only [stop, run_get, run_require]
  refine if_congr Iff.rfl ?_ rfl
  rw [run_bind hpending, run_bind hnone]
  exact run_bind_congr _ (beginOperation_congr h args none w)

/-! ## Every reached checkpoint -/

/-- **Every reached checkpoint is valid and, in the cases considered here, leads somewhere.**  It is
accepted, unless a pending rebuild has outgrown the size limit, and its source transitions form a
chain.  A pending rollout with room in its record, at most one transfer while the container is held,
and no rebuild beside active units has a way forward exactly if it is not in the crash gap.  A complete
one does not stand in the way of a new `stop`. -/
theorem reachable_checkpoint (h : Host) {w : World} (hw : Reachable h w) {c : Checkpoint}
    (hc : w.checkpoint = some c) :
    (c.maintenanceOperation = none ∨ c.status = .complete ∨ h.fits c = true → h.accepts c = true)
      ∧ followTransitions c.operationId c.initialBackendManifestSha256 c.sourceTransitions
          = some c.backendManifestSha256
      ∧ (c.status = .pending → Roomy h c → ¬Overtransferred c → ¬HalfStopped c w →
          (WayForward h c w ↔ ¬CrashGap c w))
      ∧ (c.status = .complete → ∀ args : StopArgs,
          runCommand h (.stop args) w = runCommand h (.stop args) { w with checkpoint := none }) := by
  have hinv := hw.inv
  have hs := hinv c hc
  refine ⟨fun hshort => hs.accepts ?_, hs.chain, fun hpending hroom hover hhalf => ⟨?_, ?_⟩, ?_⟩
  · rcases hshort with hm | hcomplete | hfits
    · exact hs.fits (Or.inl hm)
    · exact hs.fits (Or.inr hcomplete)
    · exact hfits
  · rintro hway hgap
    have hm : c.maintenanceOperation = none := by
      obtain ⟨q, hq, -⟩ := hgap
      exact hs.maintenance_eq_none hq
    exact InCrashGap.not_wayForward ⟨hc, hpending, hm, hgap⟩ hway
  · exact fun hgap => wayForward hinv hc hpending hroom hgap hover hhalf
  · exact fun hcomplete args => stop_of_complete ⟨hc, hs⟩ hcomplete args

/-! A host with one file in its backend, whose Mihomo container changes its cache when it is stopped. -/

namespace Example

def backend : Manifest := ⟨[⟨['a'], 0, 0⟩], validateManifest_singleton⟩

def host : Host where
  digest := fun m => BitVec.ofNat 256 m.entries.length
  fits := fun _ => true
  unit := ⟨true, true⟩
  container := ⟨1, 2, 3⟩
  composeFileSha256 := 4

/-- The API runs, and nothing else. -/
def before : World where
  checkpoint := none
  active := fun u => decide (u = .api)
  installed := backend
  running := true
  cache := ⟨5, 0, Nat.zero_le _⟩

/-- The checkpoint that `stop` writes. -/
def stopCheckpoint : Checkpoint := newCheckpoint host ⟨backend, 6⟩ none before.active

def stopped : World := (before.publish stopCheckpoint).setUnit .api false

lemma reachable_stopped : Reachable host stopped := by
  refine .step (.start (w := before) rfl) (.command (.stop ⟨backend, 6⟩) ?_)
  exact List.mem_of_getElem? (i := 1) rfl

def runtimeArgs : RuntimeArgs := ⟨6, 1, host.container, host.composeFileSha256⟩

/-- The checkpoint that `quiesce-mihomo` writes before it stops the container. -/
def intentCheckpoint : Checkpoint :=
  stopCheckpoint.withQuiescence (stopIntent host runtimeArgs stopCheckpoint stopped)

/-- The command was killed after `docker stop`. -/
def killed : World :=
  (stopped.publish intentCheckpoint).setContainer false ⟨7, 0, Nat.zero_le _⟩

lemma reachable_killed : Reachable host killed := by
  refine .step reachable_stopped (.command (.quiesceMihomo runtimeArgs ⟨7, 0, Nat.zero_le _⟩) ?_)
  exact List.mem_of_getElem? (i := 1) rfl

end Example

/-- The rollout that `stop` has begun has a way forward. -/
theorem reachable_checkpoint_stopped :
    Example.host.accepts Example.stopCheckpoint = true
      ∧ WayForward Example.host Example.stopCheckpoint Example.stopped := by
  obtain ⟨haccepts, -, hway, -⟩ :=
    reachable_checkpoint Example.host Example.reachable_stopped (c := Example.stopCheckpoint) rfl
  refine ⟨haccepts (Or.inl rfl), (hway rfl (fun _ _ => rfl) ?_ ?_).mpr ?_⟩
  · rintro ⟨q, hq, -⟩
    cases hq
  · rintro ⟨⟨m, hm, -⟩, -⟩
    cases hm
  · rintro ⟨q, hq, -⟩
    cases hq

/-- A stop of the container that was killed before it could record the changed cache leaves a pending
rollout that no command moves. -/
theorem quiesceMihomo_killed :
    Reachable Example.host Example.killed
      ∧ Example.killed.checkpoint = some Example.intentCheckpoint
      ∧ Example.intentCheckpoint.status = .pending
      ∧ ¬WayForward Example.host Example.intentCheckpoint Example.killed
      ∧ ∀ w, Path Example.host Example.killed w → w.checkpoint = some Example.intentCheckpoint := by
  have hgap : InCrashGap Example.intentCheckpoint Example.killed :=
    ⟨rfl, rfl, rfl, _, rfl, rfl, by decide⟩
  exact ⟨Example.reachable_killed, rfl, rfl, hgap.not_wayForward, fun _ hpath => (hgap.path hpath).checkpoint⟩

end FwRouter.Lifecycle
