import FwRouter.Lifecycle.Commands

/-!
# What holds of every reached checkpoint

`Sound` says how the checkpoint, the container and the units of a reached world fit together.  Every
command keeps it in every state in which it may be cut off, so it holds of every reached world.
-/

namespace FwRouter.Lifecycle

open Interruptible Interruptible.Prog

variable {h : Host} {w : World}

/-! ## Units and containers -/

namespace World

@[simp] lemma publish_checkpoint (c : Checkpoint) (w : World) :
    (w.publish c).checkpoint = some c := rfl

@[simp] lemma publish_active (c : Checkpoint) (w : World) : (w.publish c).active = w.active := rfl

@[simp] lemma publish_installed (c : Checkpoint) (w : World) :
    (w.publish c).installed = w.installed := rfl

@[simp] lemma publish_running (c : Checkpoint) (w : World) : (w.publish c).running = w.running := rfl

@[simp] lemma publish_cache (c : Checkpoint) (w : World) : (w.publish c).cache = w.cache := rfl

@[simp] lemma setUnit_checkpoint (u : RolloutUnit) (on : Bool) (w : World) :
    (w.setUnit u on).checkpoint = w.checkpoint := rfl

@[simp] lemma setUnit_installed (u : RolloutUnit) (on : Bool) (w : World) :
    (w.setUnit u on).installed = w.installed := rfl

@[simp] lemma setUnit_running (u : RolloutUnit) (on : Bool) (w : World) :
    (w.setUnit u on).running = w.running := rfl

@[simp] lemma setUnit_cache (u : RolloutUnit) (on : Bool) (w : World) :
    (w.setUnit u on).cache = w.cache := rfl

lemma setUnit_active (u v : RolloutUnit) (on : Bool) (w : World) :
    (w.setUnit u on).active v = if v = u then on else w.active v := by
  unfold setUnit
  simp [Function.update_apply]

@[simp] lemma setContainer_checkpoint (on : Bool) (k : CacheState) (w : World) :
    (w.setContainer on k).checkpoint = w.checkpoint := rfl

@[simp] lemma setContainer_active (on : Bool) (k : CacheState) (w : World) :
    (w.setContainer on k).active = w.active := rfl

@[simp] lemma setContainer_installed (on : Bool) (k : CacheState) (w : World) :
    (w.setContainer on k).installed = w.installed := rfl

@[simp] lemma setContainer_running (on : Bool) (k : CacheState) (w : World) :
    (w.setContainer on k).running = on := rfl

@[simp] lemma setContainer_cache (on : Bool) (k : CacheState) (w : World) :
    (w.setContainer on k).cache = k := rfl

@[simp] lemma install_checkpoint (m : Manifest) (w : World) :
    (w.install m).checkpoint = w.checkpoint := rfl

@[simp] lemma install_active (m : Manifest) (w : World) : (w.install m).active = w.active := rfl

@[simp] lemma install_installed (m : Manifest) (w : World) : (w.install m).installed = m := rfl

@[simp] lemma install_running (m : Manifest) (w : World) : (w.install m).running = w.running := rfl

@[simp] lemma install_cache (m : Manifest) (w : World) : (w.install m).cache = w.cache := rfl

end World

/-! ## The invariant -/

/-- A quiescence record fits the checkpoint it stands in and the container. -/
structure QuiescenceSound (h : Host) (c : Checkpoint) (w : World) (q : RuntimeQuiescence) : Prop where
  operation : q.operationId = c.operationId
  runtime : SameRuntime h q
  source : q.sourceManifestSha256 = c.initialBackendManifestSha256
  cacheAfter : q.phase ≠ .stopPending → q.cacheAfter.isSome = true
  stopPending : q.phase = .stopPending → c.sourceTransitions = []
  quiesced : q.phase = .quiesced → w.running = false ∧ q.cacheAfter = some w.cache
  releasePending : q.phase = .releasePending →
    (w.running = false → q.cacheAfter = some w.cache) ∧ (q.unit.active = false → w.running = false)

/-- **The invariant.**  What holds of the checkpoint of every reached world. -/
structure Sound (h : Host) (c : Checkpoint) (w : World) : Prop where
  source : c.backendManifestSha256 = h.digest c.backendManifest
  chain : followTransitions c.operationId c.initialBackendManifestSha256 c.sourceTransitions
    = some c.backendManifestSha256
  few : c.sourceTransitions.length ≤ maxSourceTransitions
  maintenance : ∀ m, c.maintenanceOperation = some m →
    validateMaintenanceOperation c.operationId m = true ∧ c.runtimeQuiescence = none
  quiescence : ∀ q, c.runtimeQuiescence = some q → QuiescenceSound h c w q
  pendingNodup : c.pendingUnits.Nodup
  pendingTimers : ∀ u ∈ c.pendingUnits, u ∈ RolloutUnit.restoreOrder ∧ c.activeUnits u = true
  api : c.activeUnits .api = true
  jobs : ∀ u ∈ RolloutUnit.transientJobs, c.activeUnits u = false
  units : c.status = .pending → ∀ u, w.active u = true →
    c.activeUnits u = true ∨ u ∈ RolloutUnit.transientJobs
  /-- Only the records of a rebuild are published without a look at their size. -/
  fits : c.maintenanceOperation = none ∨ c.status = .complete → h.fits c = true

/-- The checkpoint of the world, if there is one, is sound. -/
def Inv (h : Host) (w : World) : Prop := ∀ c, w.checkpoint = some c → Sound h c w

/-- A sound checkpoint that is short enough is accepted. -/
theorem Sound.accepts {c : Checkpoint} (hs : Sound h c w) (hfits : h.fits c = true) :
    h.accepts c = true := by
  have hmaintenance : c.maintenanceOperation.all (validateMaintenanceOperation c.operationId) = true := by
    cases hm : c.maintenanceOperation with
    | none => rfl
    | some m => exact (hs.maintenance m hm).1
  have hquiescence : c.runtimeQuiescence.all (validateRuntimeQuiescence c.operationId) = true := by
    cases hq : c.runtimeQuiescence with
    | none => rfl
    | some q =>
        have hsound := hs.quiescence q hq
        have hafter : q.phase = .stopPending ∨ q.cacheAfter.isSome = true :=
          (em _).imp_right hsound.cacheAfter
        simpa [validateRuntimeQuiescence, hsound.operation] using hafter
  simp [Host.accepts, hfits, hs.source.symm, hs.few, hs.chain, hmaintenance, hquiescence,
    hs.pendingNodup]

/-- A change of the container concerns the quiescence record alone. -/
lemma Sound.of_quiescence {c : Checkpoint} {w' : World} {q : RuntimeQuiescence} (hs : Sound h c w)
    (hq : c.runtimeQuiescence = some q) (hsound : QuiescenceSound h c w' q)
    (hunits : w'.active = w.active) : Sound h c w' :=
  { hs with
    quiescence := fun _ hq' => Option.some.inj (hq.symm.trans hq') ▸ hsound
    units := hunits ▸ hs.units }

/-- Soundness looks at the units, the container and the cache of a world only. -/
lemma Sound.of_runtime {c : Checkpoint} {w w' : World} (hs : Sound h c w)
    (hrunning : w'.running = w.running) (hcache : w'.cache = w.cache)
    (hunits : c.status = .pending → ∀ u, w'.active u = true →
      c.activeUnits u = true ∨ u ∈ RolloutUnit.transientJobs) : Sound h c w' :=
  { hs with
    quiescence := by
      intro q hq
      have hsound := hs.quiescence q hq
      exact { hsound with
        quiesced := by rw [hrunning, hcache]; exact hsound.quiesced
        releasePending := by rw [hrunning, hcache]; exact hsound.releasePending }
    units := hunits }

lemma Sound.setUnit {c : Checkpoint} (hs : Sound h c w) {u : RolloutUnit} {on : Bool}
    (hon : on = true → c.activeUnits u = true ∨ u ∈ RolloutUnit.transientJobs) :
    Sound h c (w.setUnit u on) := by
  refine hs.of_runtime rfl rfl ?_
  intro hpending v hv
  rw [World.setUnit_active] at hv
  split_ifs at hv with huv
  · exact huv ▸ hon hv
  · exact hs.units hpending v hv

lemma Sound.install {c : Checkpoint} (hs : Sound h c w) (m : Manifest) : Sound h c (w.install m) :=
  hs.of_runtime rfl rfl hs.units

lemma Sound.publish {c c' : Checkpoint} (hs : Sound h c w) : Sound h c (w.publish c') :=
  hs.of_runtime rfl rfl hs.units

lemma Inv.of_sound {c : Checkpoint} (hc : w.checkpoint = some c) (hs : Sound h c w) : Inv h w := by
  intro c' hc'
  obtain rfl := Option.some.inj (hc.symm.trans hc')
  exact hs

lemma Inv.publish {c : Checkpoint} (hs : Sound h c w) : Inv h (w.publish c) :=
  Inv.of_sound (w := w.publish c) rfl hs.publish

/-- The invariant, with the checkpoint that a command has read. -/
def Holds (h : Host) (c : Checkpoint) (w : World) : Prop := w.checkpoint = some c ∧ Sound h c w

lemma Holds.inv {c : Checkpoint} (hc : Holds h c w) : Inv h w := Inv.of_sound hc.1 hc.2

lemma Holds.publish {c : Checkpoint} (hs : Sound h c w) : Holds h c (w.publish c) :=
  ⟨rfl, hs.publish⟩

/-! ## Shared parts of the commands -/

lemma safe_readCheckpoint {I : World → Prop} {Q : Checkpoint → World → Prop} (hinv : Inv h w)
    (hQ : ∀ c, Holds h c w → h.accepts c = true → Q c w) : Safe I (readCheckpoint h) w Q := by
  simp only [readCheckpoint, safe_bind, safe_get, safe_ofOption, safe_require, safe_pure]
  intro c hc haccepts
  exact hQ c ⟨hc, hinv c hc⟩ haccepts

lemma safe_atomicWrite {Q : Unit → World → Prop} {c : Checkpoint}
    (hQ : h.fits c = true → Sound h c w ∧ (Sound h c w → Q () (w.publish c))) :
    Safe (Inv h) (atomicWrite h c) w Q := by
  simp only [atomicWrite, safe_bind, safe_require, safe_effect]
  intro hfits
  obtain ⟨hs, hQ⟩ := hQ hfits
  exact ⟨Inv.publish hs, hQ hs⟩

lemma safe_requireUnitsStopped {I : World → Prop} {Q : Unit → World → Prop}
    (hQ : w.UnitsStopped → Q () w) : Safe I requireUnitsStopped w Q := by
  simp only [requireUnitsStopped, safe_bind, safe_get, safe_require]
  exact hQ

lemma safe_requireHeldQuiescent {I : World → Prop} {Q : Unit → World → Prop} {c : Checkpoint}
    (hQ : Q () w) : Safe I (requireHeldQuiescent h c) w Q := by
  unfold requireHeldQuiescent
  split
  · exact safe_pure.mpr hQ
  · split
    · exact safe_pure.mpr hQ
    · exact safe_require.mpr False.elim
    · simp only [safe_bind, safe_get, safe_require]
      exact fun _ _ => hQ

lemma safe_requireUnitsStoppedOf {I : World → Prop} {Q : Unit → World → Prop} {c : Checkpoint}
    (hQ : w.UnitsStopped → Q () w) : Safe I (requireUnitsStoppedOf h c) w Q := by
  simp only [requireUnitsStoppedOf, safe_bind]
  exact safe_requireUnitsStopped fun hstopped => safe_requireHeldQuiescent (hQ hstopped)

lemma safe_switchUnit {I : World → Prop} {Q : Unit → World → Prop} {u : RolloutUnit} {on : Bool}
    (hskip : Q () w) (hI : I (w.setUnit u on)) (hQ : Q () (w.setUnit u on)) :
    Safe I (switchUnit u on) w Q := by
  simp only [switchUnit, safe_bind, safe_get, safe_runIf, safe_effect]
  exact ⟨fun _ => ⟨hI, hQ⟩, fun _ => hskip⟩

/-! ## stop -/

lemma sound_newCheckpoint {args : StopArgs} {maintenance : Option MaintenanceOperation}
    (hm : ∀ m, maintenance = some m → validateMaintenanceOperation args.newId m = true)
    (hapi : w.active .api = true) (hjobs : w.NoJobs)
    (hfits : h.fits (newCheckpoint h args maintenance w.active) = true) :
    Sound h (newCheckpoint h args maintenance w.active) w where
  source := rfl
  chain := rfl
  few := Nat.zero_le _
  maintenance := fun m h' => ⟨hm m h', rfl⟩
  quiescence := nofun
  pendingNodup := List.nodup_nil
  pendingTimers := fun _ h' => absurd h' List.not_mem_nil
  api := hapi
  jobs := hjobs
  units := fun _ _ hu => Or.inl hu
  fits := fun _ => hfits

lemma safe_stopUnits {c : Checkpoint} (hc : Holds h c w) :
    Safe (Inv h) (stopUnits c) w fun _ => Holds h c := by
  have hswitch : ∀ (u : RolloutUnit) (t : World), Holds h c t →
      Safe (Holds h c) (switchUnit u false) t fun _ => Holds h c := by
    intro u t ht
    have hoff : Holds h c (t.setUnit u false) := ⟨ht.1, ht.2.setUnit fun h' => absurd h' (by decide)⟩
    exact safe_switchUnit ht hoff hoff
  refine Safe.mono (I := Holds h c) ?_ (fun _ => Holds.inv) (fun _ _ h' => h')
  simp only [stopUnits, safe_bind, safe_get, safe_require]
  refine (safe_forEach hc ?_).mono (fun _ h' => h') fun _ t ht _ => hswitch .api t ht
  intro u _ t ht
  exact safe_runIf.mpr ⟨fun _ => hswitch u t ht, fun _ => ht⟩

lemma safe_beginOperation {args : StopArgs} {maintenance : Option MaintenanceOperation}
    (hm : ∀ m, maintenance = some m → validateMaintenanceOperation args.newId m = true) :
    Safe (Inv h) (beginOperation h args maintenance) w fun c t => Holds h c t := by
  simp only [beginOperation, safe_bind, safe_get, safe_require, safe_pure]
  intro hapi hjobs
  exact safe_atomicWrite fun hfits => ⟨sound_newCheckpoint hm hapi hjobs hfits, fun hs => ⟨rfl, hs.publish⟩⟩

lemma safe_stop {args : StopArgs} {maintenance : Option MaintenanceOperation} (hinv : Inv h w)
    (hm : ∀ m, maintenance = some m → validateMaintenanceOperation args.newId m = true) :
    Safe (Inv h) (stop h args maintenance) w fun _ => Inv h := by
  simp only [stop, safe_bind, safe_get, safe_require]
  intro _
  have hpending : Safe (Inv h) (pendingStop h args maintenance) w fun c t =>
      t = w ∧ ∀ c', c = some c' → Holds h c' w := by
    simp only [pendingStop, safe_bind, safe_get]
    split
    · exact safe_pure.mpr ⟨rfl, fun _ h' => (Option.some_ne_none _ h'.symm).elim⟩
    · simp only [safe_bind]
      refine safe_readCheckpoint hinv fun c hc _ => ?_
      split_ifs
      · simp only [safe_bind, safe_require]
        refine fun _ _ => safe_pure.mpr ⟨rfl, ?_⟩
        rintro c' hc'
        obtain rfl := Option.some.inj hc'
        exact hc
      · exact safe_pure.mpr ⟨rfl, fun _ h' => (Option.some_ne_none _ h'.symm).elim⟩
  have howned : ∀ o, (∀ c', o = some c' → Holds h c' w) →
      Safe (Inv h) (pendingOrNew h args maintenance o) w fun c t => Holds h c t := by
    rintro (_ | c) hc
    · exact safe_beginOperation hm
    · exact safe_pure.mpr (hc c rfl)
  refine hpending.mono (fun _ h' => h') ?_
  rintro o t ⟨rfl, hc⟩
  refine (howned o hc).mono (fun _ h' => h') fun c t hc => ?_
  simp only [safe_pure]
  exact (safe_stopUnits hc).mono (fun _ h' => h') fun _ _ => Holds.inv

/-! ## quiesce-mihomo and release-mihomo -/

/-- A checkpoint with another quiescence record is sound if the record is. -/
lemma Sound.withQuiescence {c : Checkpoint} {w' : World} {q : RuntimeQuiescence} (hs : Sound h c w)
    (hfits : h.fits (c.withQuiescence q) = true) (hm : c.maintenanceOperation = none)
    (hq : QuiescenceSound h c w' q) (hunits : w'.active = w.active) : Sound h (c.withQuiescence q) w' where
  source := hs.source
  chain := hs.chain
  few := hs.few
  maintenance := fun m hm' => absurd (hm.symm.trans hm') (by simp)
  quiescence := by
    intro q' hq'
    obtain rfl := Option.some.inj hq'
    exact ⟨hq.1, hq.2, hq.3, hq.4, hq.5, hq.6, hq.7⟩
  pendingNodup := hs.pendingNodup
  pendingTimers := hs.pendingTimers
  api := hs.api
  jobs := hs.jobs
  units := hunits ▸ hs.units
  fits := fun _ => hfits

/-- A quiescence record stands beside no rebuild. -/
lemma Sound.maintenance_eq_none {c : Checkpoint} (hs : Sound h c w) {q : RuntimeQuiescence}
    (hq : c.runtimeQuiescence = some q) : c.maintenanceOperation = none := by
  cases hm : c.maintenanceOperation with
  | none => rfl
  | some m => exact absurd ((hs.maintenance m hm).2.symm.trans hq) (by simp)

/-- In the phase before the stop nothing is said of the container. -/
lemma QuiescenceSound.of_stopPending {c : Checkpoint} {w' : World} {q : RuntimeQuiescence}
    (hq : QuiescenceSound h c w q) (hphase : q.phase = .stopPending) : QuiescenceSound h c w' q where
  operation := hq.operation
  runtime := hq.runtime
  source := hq.source
  cacheAfter := hq.cacheAfter
  stopPending := hq.stopPending
  quiesced := fun h' => absurd (hphase.symm.trans h') (by decide)
  releasePending := fun h' => absurd (hphase.symm.trans h') (by decide)

lemma safe_stopContainer {c : Checkpoint} {q : RuntimeQuiescence} {k : CacheState}
    (hc : Holds h c w) (hq : c.runtimeQuiescence = some q) (hphase : q.phase = .stopPending) :
    Safe (Inv h) (stopContainer h c q k) w fun _ => Inv h := by
  have hm := hc.2.maintenance_eq_none hq
  have hsound := hc.2.quiescence q hq
  have hwrite : ∀ t : World, t.active = w.active → t.running = false → Safe (Inv h)
      (atomicWrite h (c.withQuiescence { q with cacheAfter := some t.cache, phase := .quiesced })) t
      fun _ => Inv h := by
    intro t hactive hrunning
    refine safe_atomicWrite fun hfits => ⟨?_, Inv.publish⟩
    exact hc.2.withQuiescence hfits hm ⟨hsound.operation, hsound.runtime, hsound.source, fun _ => rfl,
      nofun, fun _ => ⟨hrunning, rfl⟩, nofun⟩ hactive
  simp only [stopContainer, safe_bind, safe_get, safe_require, safe_runIf, safe_effect]
  intro _ _
  refine ⟨fun _ => ⟨?_, hwrite _ rfl⟩, fun _ => hwrite _ rfl⟩
  -- `docker stop` has been executed and is not recorded yet
  exact Inv.of_sound (c := c) hc.1 (hc.2.of_quiescence hq (hsound.of_stopPending hphase) rfl)

lemma safe_quiesceMihomo {args : RuntimeArgs} {k : CacheState} (hinv : Inv h w) :
    Safe (Inv h) (quiesceMihomo h args k) w fun _ => Inv h := by
  simp only [quiesceMihomo, safe_bind]
  refine safe_readCheckpoint hinv fun c hc _ => ?_
  simp only [safe_require, safe_get]
  intro hexpected _
  refine safe_requireUnitsStopped fun _ => ?_
  have hm : c.maintenanceOperation = none := hexpected.2.2.2.2.2
  split
  · -- the first call records its intent
    simp only [safe_bind, safe_require]
    rintro ⟨-, -, hrunning⟩
    refine safe_atomicWrite fun hfits => ⟨?_, fun hs => ?_⟩
    · exact hc.2.withQuiescence hfits hm ⟨rfl, ⟨rfl, rfl, rfl⟩, hexpected.2.2.2.1.symm,
        fun h' => absurd rfl h', fun _ => hexpected.2.2.2.2.1, by rintro ⟨⟩, by rintro ⟨⟩⟩ rfl
    · exact safe_stopContainer (Holds.publish hs) rfl rfl
  · rename_i q hq
    simp only [safe_bind, safe_require]
    intro _
    split
    · exact safe_require.mpr fun _ => hinv
    · rename_i hphase
      exact safe_stopContainer hc hq hphase
    · exact safe_require.mpr False.elim

lemma runtimeCheckpoint_eq_some {c : Checkpoint} {args : RuntimeArgs} {q : RuntimeQuiescence}
    (hq : runtimeCheckpoint c args = some q) : c.runtimeQuiescence = some q := by
  unfold runtimeCheckpoint at hq
  split at hq
  · cases hq
  · split_ifs at hq
    · rename_i hc _ _ _
      exact hc.trans hq
    · split at hq
      · split_ifs at hq
        rename_i hc _ _ _ _ _ _
        exact hc.trans hq
      · cases hq

lemma safe_startContainer {c : Checkpoint} {q : RuntimeQuiescence} {k : CacheState}
    (hc : Holds h c w) (hq : c.runtimeQuiescence = some q)
    (hphase : q.phase = .quiesced ∨ q.phase = .releasePending) :
    Safe (Inv h) (startContainer h c q k) w fun _ => Inv h := by
  have hm := hc.2.maintenance_eq_none hq
  have hsound := hc.2.quiescence q hq
  have hafter : q.cacheAfter.isSome = true := hsound.cacheAfter (by rcases hphase with h' | h' <;> simp [h'])
  -- what the record says while the release is pending
  have hpending : ∀ t : World, t.active = w.active →
      h.fits (c.withQuiescence { q with phase := .releasePending }) = true →
      (t.running = false → q.cacheAfter = some t.cache) → (q.unit.active = false → t.running = false) →
      Sound h (c.withQuiescence { q with phase := .releasePending }) t := by
    intro t hactive hfits hcache hunit
    exact hc.2.withQuiescence hfits hm ⟨hsound.operation, hsound.runtime, hsound.source, fun _ => hafter,
      nofun, nofun, fun _ => ⟨hcache, hunit⟩⟩ hactive
  have hw : (w.running = false → q.cacheAfter = some w.cache)
      ∧ (q.unit.active = false → w.running = false) := by
    rcases hphase with h' | h'
    · exact ⟨fun _ => (hsound.quiesced h').2, fun _ => (hsound.quiesced h').1⟩
    · exact hsound.releasePending h'
  have hreleased : ∀ t : World, t.active = w.active → Safe (Inv h)
      (atomicWrite h (c.withQuiescence { q with phase := .released })) t fun _ => Inv h := by
    intro t hactive
    refine safe_atomicWrite fun hfits => ⟨?_, Inv.publish⟩
    exact hc.2.withQuiescence hfits hm ⟨hsound.operation, hsound.runtime, hsound.source,
      fun _ => hafter, nofun, nofun, nofun⟩ hactive
  -- from the pending release on, with the container as it was found
  have hrest : ∀ t : World, t.active = w.active →
      h.fits (c.withQuiescence { q with phase := .releasePending }) = true →
      t.checkpoint = some (c.withQuiescence { q with phase := .releasePending }) →
      Safe (Inv h)
        (runIf (q.unit.active = true ∧ t.running = false) (effect (World.setContainer true k))) t
        fun _ t' => t'.running = q.unit.active → Safe (Inv h)
          (atomicWrite h (c.withQuiescence { q with phase := .released })) t' fun _ => Inv h := by
    intro t hactive hfits hcheckpoint
    refine safe_runIf.mpr ⟨fun hstart => safe_effect.mpr ⟨?_, fun _ => hreleased _ hactive⟩,
      fun _ _ => hreleased t hactive⟩
    refine Inv.of_sound (w := t.setContainer true k) hcheckpoint (hpending _ hactive hfits nofun ?_)
    exact fun hunit => absurd (hunit.symm.trans hstart.1) (by decide)
  simp only [startContainer, safe_bind, safe_get, safe_require]
  refine safe_runIf.mpr ⟨fun _ => ?_, fun hnot => ?_⟩
  · refine safe_atomicWrite fun hfits => ⟨hpending w rfl hfits hw.1 hw.2, fun _ => ?_⟩
    exact hrest _ rfl hfits rfl
  · have hphase' : q.phase = .releasePending := hphase.resolve_left hnot
    have hsame : c.withQuiescence { q with phase := .releasePending } = c := by
      rw [Checkpoint.withQuiescence, ← hphase', ← hq]
    exact hrest w rfl (hsame ▸ hc.2.fits (Or.inl hm)) (hsame ▸ hc.1)

lemma safe_requireReleaseGate {I : World → Prop} {Q : Unit → World → Prop} {c : Checkpoint}
    {q : RuntimeQuiescence} {jit : Bool} (hQ : Q () w) :
    Safe I (requireReleaseGate h c q jit) w Q := by
  have hruntime : ∀ Q' : Unit → World → Prop, Q' () w → Safe I (requireJitRuntime h c q) w Q' := by
    intro Q' hQ'
    simp only [requireJitRuntime, safe_bind, safe_get]
    split_ifs
    · simp only [safe_bind]
      refine safe_requireUnitsStoppedOf fun _ => ?_
      exact safe_require.mpr fun _ => hQ'
    · simp only [safe_bind, safe_require]
      exact fun _ _ => hQ'
  unfold requireReleaseGate
  split_ifs
  · simp only [safe_bind]
    refine safe_requireUnitsStopped fun _ => hruntime _ ?_
    simp only [safe_get, safe_require]
    exact fun _ => hQ
  · simp only [requireApiHealth, safe_bind, safe_get, safe_require]
    exact fun _ => hQ

lemma safe_releaseMihomo {args : RuntimeArgs} {jit : Bool} {k : CacheState} (hinv : Inv h w) :
    Safe (Inv h) (releaseMihomo h args jit k) w fun _ => Inv h := by
  simp only [releaseMihomo, safe_bind]
  refine safe_readCheckpoint hinv fun c hc _ => ?_
  simp only [safe_require, safe_ofOption]
  intro _ q hq
  have hq' := runtimeCheckpoint_eq_some hq
  split
  · simp only [safe_bind, safe_get, safe_require]
    exact fun _ => hinv
  · exact safe_require.mpr False.elim
  · rename_i hnotReleased hnotStop
    have hphase : q.phase = .quiesced ∨ q.phase = .releasePending := by
      cases hp : q.phase with
      | stopPending => exact absurd hp hnotStop
      | quiesced => exact Or.inl rfl
      | releasePending => exact Or.inr rfl
      | released => exact absurd hp hnotReleased
    simp only [safe_bind]
    refine safe_requireReleaseGate ?_
    simp only [safe_get, safe_require]
    exact fun _ => safe_startContainer hc hq' hphase

/-! ## transfer -/

lemma Sound.transferred {args : TransferArgs} {c : Checkpoint} (hs : Sound h c w)
    (hm : c.maintenanceOperation = none) (hop : c.operationId = args.expectedOperationId)
    (hold : c.backendManifestSha256 = args.expectedCurrentManifestSha256)
    (hnew : c.backendManifestSha256 ≠ h.digest args.source)
    (hfew : c.sourceTransitions.length < maxSourceTransitions)
    (hfits : h.fits (Lifecycle.transferred h args c) = true)
    (hq : ∀ q ∈ c.runtimeQuiescence, q.phase = .quiesced) : Sound h (transferred h args c) w where
  source := rfl
  chain := by
    refine followTransitions_snoc hs.chain hop.symm hold.symm ?_ args.now.ne_nil
    exact fun heq => hnew (hold.trans heq.symm)
  few := by
    simp only [Lifecycle.transferred, List.length_append, List.length_singleton]
    exact hfew
  maintenance := fun m hm' => absurd (hm.symm.trans hm') (by simp)
  quiescence := by
    intro q hq'
    have hsound := hs.quiescence q hq'
    refine ⟨hsound.1, hsound.2, hsound.3, hsound.4, fun hphase => ?_, hsound.6, hsound.7⟩
    exact absurd (hphase.symm.trans (hq q hq')) (by decide)
  pendingNodup := hs.pendingNodup
  pendingTimers := hs.pendingTimers
  api := hs.api
  jobs := hs.jobs
  units := hs.units
  fits := fun _ => hfits

lemma safe_transfer {args : TransferArgs} (hinv : Inv h w) :
    Safe (Inv h) (transfer h args) w fun _ => Inv h := by
  simp only [transfer, safe_bind]
  refine safe_readCheckpoint hinv fun c hc _ => ?_
  simp only [safe_require]
  intro _ hm hop hsource hq
  split_ifs with hreplay
  · simp only [safe_bind, safe_require]
    refine fun _ => safe_requireUnitsStoppedOf fun _ => ?_
    simp only [safe_get]
    exact fun _ => hinv
  · simp only [safe_bind, safe_require]
    refine fun hold hfew => safe_requireUnitsStoppedOf fun _ => ?_
    simp only [safe_get]
    intro _
    refine safe_atomicWrite fun hfits => ⟨?_, Inv.publish⟩
    exact hc.2.transferred hm hop hold (fun heq => hreplay (heq.trans hsource)) hfew hfits hq

/-! ## rebuild-db -/

/-- The operation of a sound checkpoint may have another state of its rebuild. -/
lemma Sound.withMaintenance {c : Checkpoint} {m m' : MaintenanceOperation} (hs : Sound h c w)
    (hpending : c.status = .pending) (hm : c.maintenanceOperation = some m)
    (hm' : validateMaintenanceOperation c.operationId m' = true) :
    Sound h { c with maintenanceOperation := some m' } w :=
  { hs with
    maintenance := fun _ heq => Option.some.inj heq ▸ ⟨hm', (hs.maintenance m hm).2⟩
    quiescence := fun q hq => absurd ((hs.maintenance m hm).2.symm.trans hq) (by simp)
    fits := by
      rintro (hnone | hcomplete)
      · cases hnone
      · exact absurd (hpending.symm.trans hcomplete) (by decide) }

lemma offlineOperation_eq_some {c : Checkpoint} {op : OperationId}
    (hc : offlineOperation h c = some op) : c.operationId = op ∧ c.status = .pending := by
  unfold offlineOperation at hc
  split at hc
  · cases hc
  · split_ifs at hc with hguard
    exact ⟨Option.some.inj hc, hguard.2.1⟩

/-- A child records a backup pin, or a phase for a pinned backup, both of its own operation. -/
lemma Sound.record {op : OperationId} {call : ChildCall} {c c' : Checkpoint} (hs : Sound h c w)
    (hrecord : call.record h op c = some c') : Sound h c' w := by
  cases call with
  | recordBackupPin pin =>
      replace hrecord : recordOfflineRebuildBackupPin h op pin c = some c' := hrecord
      unfold recordOfflineRebuildBackupPin at hrecord
      split at hrecord
      · cases hrecord
      · rename_i m hm
        split_ifs at hrecord with hguard
        split at hrecord
        · obtain rfl := Option.some.inj hrecord
          obtain ⟨hop, hpending⟩ := offlineOperation_eq_some hguard.1
          refine hs.withMaintenance hpending hm ?_
          rw [hop]
          exact hguard.2.2
        · split_ifs at hrecord
          exact Option.some.inj hrecord ▸ hs
  | recordPhase phase =>
      replace hrecord : recordOfflineRebuildPhase h op phase c = some c' := hrecord
      unfold recordOfflineRebuildPhase at hrecord
      split at hrecord
      · cases hrecord
      · rename_i m hm
        split_ifs at hrecord with hguard
        obtain rfl := Option.some.inj hrecord
        obtain ⟨pin, hpin, hvalid⟩ := (Option.any_eq_true _ _).mp hguard.2.2.2.1
        obtain ⟨hop, hpending⟩ := offlineOperation_eq_some hguard.2.2.1
        refine hs.withMaintenance hpending hm ?_
        rw [hop]
        unfold validateMaintenanceOperation
        simp only [hpin]
        exact hvalid

lemma safe_childCall {op : OperationId} {call : ChildCall} (hinv : Inv h w) :
    Safe (Inv h) (childCall h op call) w fun _ => Inv h := by
  simp only [childCall, safe_bind, safe_get]
  split
  · rename_i c' hrecord
    obtain ⟨c, hc, hrecord⟩ := Option.bind_eq_some_iff.mp hrecord
    have hs := (hinv c hc).record hrecord
    exact safe_effect.mpr ⟨Inv.publish hs, Inv.publish hs⟩
  · exact safe_pure.mpr hinv

lemma safe_rebuildOperation {args : RebuildArgs} (hinv : Inv h w) :
    Safe (Inv h) (rebuildOperation h args) w fun _ => Inv h := by
  simp only [rebuildOperation, safe_bind, safe_get]
  split
  · refine safe_stop hinv ?_
    rintro m hm
    obtain rfl := Option.some.inj hm
    rfl
  · simp only [safe_bind]
    refine safe_readCheckpoint hinv fun c hc _ => ?_
    simp only [safe_require, safe_ofOption, safe_pure]
    exact fun _ _ _ _ _ _ => hinv

lemma safe_verifyRebuild {op : OperationId} (hinv : Inv h w) :
    Safe (Inv h) (verifyRebuild h op) w fun _ => Inv h := by
  simp only [verifyRebuild, safe_bind]
  refine safe_readCheckpoint hinv fun c hc _ => ?_
  simp only [safe_require, safe_ofOption]
  intro howner m hm _ hpin
  obtain ⟨pin, hbackup, hvalid⟩ := (Option.any_eq_true _ _).mp hpin
  have hs : Sound h { c with maintenanceOperation := some { m with status := .verified } } w := by
    refine hc.2.withMaintenance howner.1 hm ?_
    unfold validateMaintenanceOperation
    simp only [hbackup, howner.2]
    exact hvalid
  exact safe_atomicWrite fun _ => ⟨hs, Inv.publish⟩

lemma safe_runDatabaseRebuild {args : RebuildArgs} (hinv : Inv h w) :
    Safe (Inv h) (runDatabaseRebuild h args) w fun _ => Inv h := by
  simp only [runDatabaseRebuild, safe_bind, safe_get, safe_require]
  intro _
  refine (safe_rebuildOperation hinv).mono (fun _ h' => h') fun op t ht => ?_
  refine safe_requireUnitsStopped fun _ _ => ?_
  simp only [rebuildLease, safe_bind, safe_get, safe_require]
  refine fun _ => safe_requireUnitsStopped fun _ => ?_
  refine (safe_forEach ht fun _ _ t ht => safe_childCall ht).mono (fun _ h' => h') ?_
  exact fun _ t ht => safe_verifyRebuild ht

/-! ## resume -/

/-- The units that stay pending are units to restore. -/
lemma safe_restoreUnits {c : Checkpoint} {catchup : Bool} {us pending : List RolloutUnit}
    (hc : Holds h c w) (hus : ∀ u ∈ us, u ∈ RolloutUnit.restoreOrder) (hnodup : pending.Nodup)
    (hpending : ∀ u ∈ pending, u ∈ RolloutUnit.restoreOrder ∧ c.activeUnits u = true) :
    Safe (Inv h) (restoreUnits c.activeUnits catchup us pending) w fun pending' t =>
      Holds h c t ∧ pending'.Nodup
        ∧ ∀ u ∈ pending', u ∈ RolloutUnit.restoreOrder ∧ c.activeUnits u = true := by
  induction us generalizing w pending with
  | nil => exact safe_pure.mpr ⟨hc, hnodup, hpending⟩
  | cons u us ih =>
      have hus' : ∀ v ∈ us, v ∈ RolloutUnit.restoreOrder := fun v hv => hus v (List.mem_cons_of_mem _ hv)
      unfold restoreUnits
      split_ifs with hactive hskip
      · -- a timer that is not caught up
        simp only [safe_bind, safe_get]
        refine ih hc hus' ?_ ?_
        · split_ifs with hadd
          · exact List.nodup_append.mpr ⟨hnodup, List.nodup_singleton u,
              fun v hv v' hv' heq => hadd.2 (List.mem_singleton.mp hv' ▸ heq ▸ hv)⟩
          · exact hnodup
        · intro v hv
          split_ifs at hv with hadd
          · rcases List.mem_append.mp hv with hv | hv
            · exact hpending v hv
            · obtain rfl := List.mem_singleton.mp hv
              exact ⟨hus v List.mem_cons_self, hactive⟩
          · exact hpending v hv
      · have hon : Holds h c (w.setUnit u true) := ⟨hc.1, hc.2.setUnit fun _ => Or.inl hactive⟩
        have hrest : ∀ t, Holds h c t → Safe (Inv h)
            (restoreUnits c.activeUnits catchup us (pending.erase u)) t _ :=
          fun t ht => ih ht hus' (hnodup.erase u) fun v hv => hpending v (List.mem_of_mem_erase hv)
        exact safe_bind.mpr (safe_switchUnit (hrest w hc) hon.inv (hrest _ hon))
      · exact ih hc hus' hnodup hpending

lemma safe_resume {args : ResumeArgs} (hinv : Inv h w) :
    Safe (Inv h) (resume h args) w fun _ => Inv h := by
  simp only [resume, safe_bind]
  refine safe_readCheckpoint hinv fun c hc _ => ?_
  split_ifs
  · exact safe_pure.mpr hinv
  · simp only [requireApiHealth, safe_bind, safe_require, safe_get]
    intro _ _ _ _ _
    refine (safe_restoreUnits hc (fun _ h' => h') hc.2.pendingNodup hc.2.pendingTimers).mono
      (fun _ h' => h') ?_
    rintro pending t ⟨ht, hnodup, hpending⟩
    have hpendingStatus : (resumed c pending).status = .pending → c.status = .pending := by
      intro _
      cases hstatus : c.status with
      | pending => rfl
      | complete => exact absurd hstatus ‹_›
    refine safe_atomicWrite fun hfits => ⟨?_, Inv.publish⟩
    exact { ht.2 with
      quiescence := by
        intro q hq
        have hsound := ht.2.quiescence q hq
        exact ⟨hsound.1, hsound.2, hsound.3, hsound.4, hsound.5, hsound.6, hsound.7⟩
      pendingNodup := hnodup
      pendingTimers := hpending
      units := fun hstatus => ht.2.units (hpendingStatus hstatus)
      fits := fun _ => hfits }

/-! ## Runs -/

/-- A command keeps the invariant wherever it is cut off. -/
theorem safe_runCommand (cmd : Command) (hinv : Inv h w) :
    Safe (Inv h) (runCommand h cmd) w fun _ => Inv h := by
  cases cmd with
  | stop args =>
      simp only [runCommand, safe_bind, safe_pure]
      exact safe_stop hinv (by rintro m ⟨⟩)
  | quiesceMihomo args k => exact safe_quiesceMihomo hinv
  | releaseMihomo args jit k => exact safe_releaseMihomo hinv
  | transfer args => exact safe_transfer hinv
  | rebuildDb args => exact safe_runDatabaseRebuild hinv
  | resume args => exact safe_resume hinv

lemma Inv.setUnit (hinv : Inv h w) {u : RolloutUnit} {on : Bool}
    (hon : on = true → u = .api ∨ u ∈ RolloutUnit.transientJobs) : Inv h (w.setUnit u on) := by
  intro c hc
  refine (hinv c hc).setUnit fun h' => ?_
  rcases hon h' with rfl | hu
  · exact Or.inl (hinv c hc).api
  · exact Or.inr hu

lemma Inv.meanwhile (hinv : Inv h w) {w' : World} (hw : Meanwhile h w w') : Inv h w' := by
  cases hw with
  | install hc => exact fun c' hc' => (hinv c' hc').install _
  | startApi _ => exact hinv.setUnit fun _ => Or.inl rfl
  | jobEnds _ => exact hinv.setUnit nofun

/-- **Step lemma.** -/
theorem Inv.step (hinv : Inv h w) {w' : World} (hstep : Step h w w') : Inv h w' := by
  cases hstep with
  | command cmd hw => exact (safe_runCommand cmd hinv).1 w' hw
  | meanwhile hw => exact hinv.meanwhile hw
  | jobStarts hu => exact hinv.setUnit fun _ => Or.inr hu
  | unitExits u => exact hinv.setUnit nofun

/-- **Run lemma.**  The checkpoint of every reached world is sound. -/
theorem Reachable.inv (hw : Reachable h w) : Inv h w := by
  induction hw with
  | start hnone => exact fun c hc => absurd (hnone.symm.trans hc) (by simp)
  | step _ hstep ih => exact ih.step hstep

end FwRouter.Lifecycle
