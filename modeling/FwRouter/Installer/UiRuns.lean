import FwRouter.Installer.UiSafety

/-!
# Publications one after another

Any number of publications, each of any source and each cut off anywhere: a client of the target is
always served a whole tree, namely the one it was served before or the new one.  From every state that
is reached a publication that is left alone succeeds, and so does going back to whatever was served
before.
-/

namespace FwRouter.Installer

open Py Sorting Interruptible Interruptible.Prog

variable {sha256 : Sha256} {me : ℕ} {fs fs' fs₀ : Fs} {a : Attempt} {digest : Text}

/-! ## Runs -/

/-- What an attempt leaves that is cut off before its first change, after any change, or not at all. -/
def Leaves (sha256 : Sha256) (me : ℕ) (a : Attempt) (fs fs' : Fs) : Prop :=
  fs' = fs ∨ fs' ∈ (publish sha256 me a fs).visited
    ∨ ∃ message, (publish sha256 me a fs).result = some (message, fs')

/-- Some attempts, one after another. -/
def Reaches (sha256 : Sha256) (me : ℕ) : Fs → Fs → Prop :=
  Relation.ReflTransGen fun fs fs' => ∃ a, Leaves sha256 me a fs fs'

lemma Leaves.continues (h : Sound sha256 me fs) (hleaves : Leaves sha256 me a fs fs') :
    fs' = fs ∨ ∃ d, walkTree sha256 a.sourceUid true a.source = .ok d ∧
      Continues sha256 me d fs fs' := by
  rcases hleaves with rfl | hvisited | ⟨message, hresult⟩
  · exact Or.inl rfl
  · exact Or.inr ((safe_publish h a).1 fs' hvisited)
  · obtain ⟨d, hsource, hd, -⟩ := (safe_publish h a).2 message fs' hresult
    exact Or.inr ⟨d, hsource, hd⟩

lemma Leaves.sound (h : Sound sha256 me fs) (hleaves : Leaves sha256 me a fs fs') :
    Sound sha256 me fs' := by
  rcases hleaves.continues h with rfl | ⟨d, -, hd⟩
  · exact h
  · exact hd.sound

lemma Leaves.holds (h : Sound sha256 me fs) (hleaves : Leaves sha256 me a fs fs') {root : Node}
    (hroot : Holds fs root) : Holds fs' root := by
  rcases hleaves.continues h with rfl | ⟨d, -, hd⟩
  · exact hroot
  · exact hd.holds root hroot

lemma Reaches.sound (h : Sound sha256 me fs) (hrun : Reaches sha256 me fs fs') :
    Sound sha256 me fs' := by
  induction hrun with
  | refl => exact h
  | tail _ hstep ih =>
      obtain ⟨a, hleaves⟩ := hstep
      exact hleaves.sound ih

lemma Reaches.holds (h : Sound sha256 me fs) (hrun : Reaches sha256 me fs fs') {root : Node}
    (hroot : Holds fs root) : Holds fs' root := by
  induction hrun with
  | refl => exact hroot
  | tail hrun hstep ih =>
      obtain ⟨a, hleaves⟩ := hstep
      exact hleaves.holds (Reaches.sound h hrun) ih

/-! ## What a client is served -/

/-- The same target serves the same tree: releases do not change. -/
lemma Continues.served_eq (h : Sound sha256 me fs) (hd : Continues sha256 me digest fs fs')
    (htarget : fs'.target = fs.target) : fs'.served = fs.served := by
  cases hslot : fs.target with
  | none => rw [Fs.served, Fs.served, htarget, hslot]
  | some slot =>
      have hwhole := h.target slot hslot
      cases slot with
      | tree root => rw [Fs.served, Fs.served, htarget, hslot]
      | link absolute parts =>
          obtain ⟨d, rfl, rfl, hrelease⟩ := hwhole
          obtain ⟨root, hroot⟩ := Option.isSome_iff_exists.mp hrelease
          rw [served_pointer (htarget.trans hslot), served_pointer hslot, hroot]
          exact hd.releases d root hroot
      | other => exact hwhole.elim

/-! ## What an attempt achieves that is left alone -/

lemma servedDirectory_of_walkTree {requireIndex : Bool} {root : Node} {d : Text}
    (h : walkTree sha256 me requireIndex root = .ok d) : servedDirectory me root = true := by
  cases root with
  | directory uid mode entries =>
      rw [walkTree] at h
      obtain ⟨⟨⟩, hcheck, -⟩ := Run.exists_of_bind_eq_ok h
      rw [servedDirectory, checkMode_eq_ok.mpr (checkMode_eq_ok.mp hcheck)]
      rfl
  | file uid mode content => cases h
  | special => cases h

lemma isReleaseName_of_walkTree {requireIndex : Bool} {root : Node} {d : Text}
    (h : walkTree sha256 me requireIndex root = .ok d) : isReleaseName (releaseName d) = true := by
  obtain ⟨hlength, hhex⟩ := walkTree_hexadecimal h
  have htake : (releaseName d).take 8 = "release-".toList := by
    unfold releaseName
    exact List.take_left' (by decide)
  have hdrop : (releaseName d).drop 8 = d := by
    unfold releaseName
    exact List.drop_left' (by decide)
  have hlen : (releaseName d).length = 72 := by
    unfold releaseName
    rw [List.length_append, hlength]
    rfl
  rw [isReleaseName, hlen, htake, hdrop]
  simp only [beq_self_eq_true, Bool.true_and, List.all_eq_true, List.contains_eq_mem,
    decide_eq_true_eq]
  exact hhex

lemma succeeds_walked {requireIndex : Bool} {root : Node} {d : Text} {Q : Text → Fs → Prop}
    (h : walkTree sha256 me requireIndex root = .ok d) (hQ : Q d fs) :
    Succeeds (walked sha256 me requireIndex root) fs Q := by
  rw [walked, succeeds_ofOption, h]
  exact ⟨d, rfl, hQ⟩

lemma succeeds_releaseDigest (h : Sound sha256 me fs) {d : Text} {Q : Text → Fs → Prop}
    (hrelease : (fs.releases (releaseName d)).isSome) (hQ : Q d fs) :
    Succeeds (releaseDigest sha256 me (releaseName d)) fs Q := by
  obtain ⟨root, hroot⟩ := Option.isSome_iff_exists.mp hrelease
  have hwalk := h.releases d root hroot
  simp only [releaseDigest, succeeds_bind, succeeds_get, succeeds_ofOption, succeeds_require,
    succeeds_pure]
  exact ⟨root, hroot, servedDirectory_of_walkTree hwalk, succeeds_walked hwalk ⟨rfl, hQ⟩⟩

lemma succeeds_managedRelease (h : Sound sha256 me fs) {d : Text} {Q : Option Text → Fs → Prop}
    (hrelease : (fs.releases (releaseName d)).isSome) (hQ : Q (some (releaseName d)) fs) :
    Succeeds (managedRelease me (pointer (releaseName d))) fs Q := by
  obtain ⟨root, hroot⟩ := Option.isSome_iff_exists.mp hrelease
  have hwalk := h.releases d root hroot
  simp only [pointer, managedRelease, succeeds_bind, succeeds_get, succeeds_ofOption,
    succeeds_require, succeeds_pure]
  exact ⟨⟨trivial, rfl, rfl⟩, releaseName d, rfl, isReleaseName_of_walkTree hwalk, root, hroot,
    servedDirectory_of_walkTree hwalk, hQ⟩

/-- A round of the recovery comes to its end; a tree has its release then. -/
lemma succeeds_recoverOrphan (h : Sound sha256 me fs) {orphan : Text × Slot}
    (horphan : orphan ∈ fs.nexts) :
    Succeeds (recoverOrphan sha256 me orphan) fs fun _ t =>
      t.target = fs.target ∧ (∀ id, t.releases (stagingName id) = fs.releases (stagingName id)) ∧
      (∀ p ∈ t.nexts, p ∈ fs.nexts) ∧
      ∀ root d, orphan.2 = .tree root → walkTree sha256 me true root = .ok d →
        (t.releases (releaseName d)).isSome := by
  obtain ⟨name, slot⟩ := orphan
  obtain ⟨hhex, hwhole⟩ := h.nexts _ horphan
  rw [recoverOrphan, succeeds_bind, succeeds_require]
  refine ⟨hhex, ?_⟩
  cases slot with
  | other => exact hwhole.elim
  | link absolute parts =>
      obtain ⟨d, rfl, rfl, hrelease⟩ := hwhole
      refine succeeds_bind.mpr (succeeds_managedRelease h hrelease ?_)
      rw [succeeds_bind, succeeds_ofOption]
      refine ⟨_, rfl, succeeds_bind.mpr (succeeds_releaseDigest h hrelease ?_)⟩
      refine succeeds_effect.mpr ⟨rfl, fun _ => rfl, fun p hp => (mem_unlinkNext.mp hp).1, ?_⟩
      rintro root _ ⟨⟩
  | tree root =>
      obtain ⟨d, hd⟩ := hwhole
      have hunique : ∀ root' d', Slot.tree root = .tree root' →
          walkTree sha256 me true root' = .ok d' → d = d' := by
        rintro root' d' ⟨⟩ hd'
        exact Except.ok.inj (hd.symm.trans hd')
      refine succeeds_bind.mpr (succeeds_walked hd ?_)
      rw [succeeds_bind, succeeds_get]
      cases hexisting : fs.releases (releaseName d) with
      | none =>
          refine succeeds_effect.mpr ⟨rfl, fun id => ?_, fun p hp => (mem_unlinkNext.mp hp).1, ?_⟩
          · have hne : stagingName id ≠ releaseName d := stagingName_ne_releaseName
            show (fs.putRelease (releaseName d) root).releases (stagingName id) = _
            exact releases_putRelease_of_ne hne root
          · intro root' d' hroot' hd'
            obtain rfl := hunique root' d' hroot' hd'
            rw [Fs.archiveNext, Fs.unlinkNext, releases_putRelease_self]
            rfl
      | some existing =>
          have hrelease : (fs.releases (releaseName d)).isSome := by
            rw [hexisting]
            rfl
          rw [succeeds_bind, succeeds_require]
          refine ⟨servedDirectory_of_walkTree (h.releases d existing hexisting), ?_⟩
          refine succeeds_bind.mpr (succeeds_releaseDigest h hrelease ?_)
          refine succeeds_require.mpr ⟨rfl, rfl, fun _ => rfl, fun p hp => hp, ?_⟩
          intro root' d' hroot' hd'
          obtain rfl := hunique root' d' hroot' hd'
          exact hrelease

/-- What the recovery leaves. -/
structure Recovered (sha256 : Sha256) (me : ℕ) (fs fs' : Fs) : Prop where
  sound : Sound sha256 me fs'
  target : fs'.target = fs.target
  staging : ∀ id, fs'.releases (stagingName id) = fs.releases (stagingName id)
  nexts : ∀ p ∈ fs'.nexts, p ∈ fs.nexts
  releases : ∀ d, (fs.releases (releaseName d)).isSome → (fs'.releases (releaseName d)).isSome

/-- **The recovery** comes to its end from every sound state, and archives every whole tree. -/
lemma succeeds_recover (h : Sound sha256 me fs) :
    Succeeds (recoverInterruptedExchanges sha256 me) fs fun _ t => Recovered sha256 me fs t ∧
      ∀ name root d, (name, Slot.tree root) ∈ fs.nexts → walkTree sha256 me true root = .ok d →
        (t.releases (releaseName d)).isSome := by
  rw [recoverInterruptedExchanges, succeeds_bind, succeeds_get]
  have hnodup : ((sortedBy Prod.fst fs.nexts).map Prod.fst).Nodup :=
    ((List.mergeSort_perm ..).map Prod.fst).nodup_iff.mpr h.nodup
  refine (succeeds_forEach_rest (R := fun orphans t => Recovered sha256 me fs t ∧
    (∀ p ∈ orphans, p ∈ t.nexts) ∧ (orphans.map Prod.fst).Nodup ∧
    ∀ name root d, (name, Slot.tree root) ∈ fs.nexts → walkTree sha256 me true root = .ok d →
      (name, Slot.tree root) ∈ orphans ∨ (t.releases (releaseName d)).isSome) ?_
    ⟨⟨h, rfl, fun _ => rfl, fun _ => id, fun _ => id⟩, fun p hp => mem_sortedBy.mp hp, hnodup,
      fun name root d hp _ => Or.inl (mem_sortedBy.mpr hp)⟩).mono ?_
  · rintro orphan orphans t ⟨ht, hmem, hnodup, harchived⟩
    rw [List.map_cons, List.nodup_cons] at hnodup
    have horphan := hmem _ List.mem_cons_self
    have hsafe : Safe (Continues sha256 me [] t) (recoverOrphan sha256 me orphan) t _ :=
      safe_recoverOrphan ht.sound horphan
    refine ((succeeds_recoverOrphan ht.sound horphan).and_safe hsafe).mono ?_
    rintro _ u ⟨⟨htarget, hstaging, hnexts, hrelease⟩, hu, hkept⟩
    have hmono : ∀ d, (t.releases (releaseName d)).isSome → (u.releases (releaseName d)).isSome := by
      intro d hd
      obtain ⟨root, hroot⟩ := Option.isSome_iff_exists.mp hd
      rw [hu.releases d root hroot]
      rfl
    refine ⟨⟨hu.sound, htarget.trans ht.target, fun id => (hstaging id).trans (ht.staging id),
      fun p hp => ht.nexts p (hnexts p hp), fun d hd => hmono d (ht.releases d hd)⟩, ?_, hnodup.2, ?_⟩
    · intro p hp
      refine hkept p (hmem p (List.mem_cons_of_mem _ hp)) ?_
      intro heq
      exact hnodup.1 (heq ▸ List.mem_map_of_mem hp)
    · intro name root d hp hd
      rcases harchived name root d hp hd with hin | hdone
      · rcases List.mem_cons.mp hin with rfl | hin
        · exact Or.inr (hrelease root d rfl hd)
        · exact Or.inl hin
      · exact Or.inr (hmono d hdone)
  · rintro _ t ⟨ht, -, -, harchived⟩
    refine ⟨ht, fun name root d hp hd => ?_⟩
    rcases harchived name root d hp hd with hin | hdone
    · exact absurd hin List.not_mem_nil
    · exact hdone

lemma succeeds_currentRelease (h : Sound sha256 me fs) :
    Succeeds (currentRelease sha256 me) fs fun current t => t = fs ∧
      ((∃ d, current = some (releaseName d) ∧ fs.target = some (pointer (releaseName d))) ∨
        (current = none ∧ ∀ slot ∈ fs.target, ∃ root, slot = .tree root)) := by
  rw [currentRelease, succeeds_bind, succeeds_get]
  cases htarget : fs.target with
  | none => exact succeeds_pure.mpr ⟨rfl, Or.inr ⟨rfl, by simp⟩⟩
  | some slot =>
      have hwhole := h.target slot htarget
      cases slot with
      | other => exact hwhole.elim
      | tree root =>
          refine succeeds_bind.mpr (succeeds_pure.mpr (succeeds_pure.mpr ⟨rfl, Or.inr ⟨rfl, ?_⟩⟩))
          rintro slot ⟨⟩
          exact ⟨root, rfl⟩
      | link absolute parts =>
          obtain ⟨d, rfl, rfl, hrelease⟩ := hwhole
          refine succeeds_bind.mpr (succeeds_managedRelease h hrelease ?_)
          refine succeeds_bind.mpr (succeeds_releaseDigest h hrelease ?_)
          exact succeeds_pure.mpr ⟨rfl, Or.inl ⟨d, rfl, rfl⟩⟩

/-- The digest is that of the tree which is the target. -/
lemma succeeds_initialDigest (h : Sound sha256 me fs) {current : Option Text}
    (hcurrent : current = none → ∀ slot ∈ fs.target, ∃ root, slot = .tree root) :
    Succeeds (initialDigest sha256 me current) fs fun initial t => t = fs ∧
      ∀ d ∈ initial, ∀ root, fs.target = some (.tree root) →
        walkTree sha256 me true root = .ok d := by
  rw [initialDigest, succeeds_bind, succeeds_get]
  cases current with
  | some name => exact succeeds_pure.mpr ⟨rfl, by simp⟩
  | none =>
      cases htarget : fs.target with
      | none => exact succeeds_pure.mpr ⟨rfl, by simp⟩
      | some slot =>
          obtain ⟨root, rfl⟩ := hcurrent rfl slot htarget
          obtain ⟨d, hd⟩ := h.target _ htarget
          have hdigest : ∀ e ∈ some d, ∀ root', some (Slot.tree root) = some (.tree root') →
              walkTree sha256 me true root' = .ok e := by
            rintro e ⟨⟩ root' ⟨⟩
            exact hd
          refine succeeds_bind.mpr (succeeds_walked hd ?_)
          cases hexisting : fs.releases (releaseName d) with
          | none => exact succeeds_pure.mpr ⟨rfl, hdigest⟩
          | some existing =>
              refine succeeds_bind.mpr (succeeds_releaseDigest h (by rw [hexisting]; rfl) ?_)
              exact succeeds_bind.mpr
                (succeeds_require.mpr ⟨rfl, succeeds_pure.mpr ⟨rfl, hdigest⟩⟩)

lemma succeeds_activeDigest (h : Sound sha256 me fs) {current : Option Text}
    (hcurrent : ∀ name, current = some name → ∃ d, name = releaseName d ∧
      (fs.releases (releaseName d)).isSome) :
    Succeeds (activeDigest sha256 me current) fs fun _ t => t = fs := by
  rw [activeDigest, succeeds_bind, succeeds_get]
  cases current with
  | none => exact succeeds_pure.mpr rfl
  | some name =>
      obtain ⟨d, rfl, hrelease⟩ := hcurrent name rfl
      obtain ⟨root, hroot⟩ := Option.isSome_iff_exists.mp hrelease
      have hwalk := walkTree_of_index (h.releases d root hroot)
      rw [succeeds_bind, succeeds_ofOption]
      exact ⟨root, hroot, succeeds_bind.mpr (succeeds_walked hwalk (succeeds_pure.mpr rfl))⟩

/-- The source does not change while it is published, and no name that is made up is taken. -/
structure Undisturbed (sha256 : Sha256) (a : Attempt) (digest : Text) (fs : Fs) : Prop where
  source : walkTree sha256 a.sourceUid true a.source = .ok digest
  copied : walkTree sha256 a.sourceUid true a.sourceCopied = .ok digest
  after : walkTree sha256 a.sourceUid true a.sourceAfter = .ok digest
  backend : a.backendMatches = true ∧ a.backendMatchesAgain = true
  staging : fs.releases (stagingName a.stagingId) = none
  pointer : a.pointerId ∉ fs.nexts.map Prod.fst

lemma Undisturbed.recovered (h : Undisturbed sha256 a digest fs) (hrec : Recovered sha256 me fs fs') :
    Undisturbed sha256 a digest fs' where
  source := h.source
  copied := h.copied
  after := h.after
  backend := h.backend
  staging := (hrec.staging _).trans h.staging
  pointer hmem := by
    obtain ⟨p, hp, hname⟩ := List.mem_map.mp hmem
    exact h.pointer (List.mem_map.mpr ⟨p, hrec.nexts p hp, hname⟩)

lemma succeeds_prepareRelease (h : Sound sha256 me fs) (ha : Undisturbed sha256 a digest fs) :
    Succeeds (prepareRelease sha256 me a digest) fs fun _ t =>
      t.target = fs.target ∧ t.nexts = fs.nexts := by
  rw [prepareRelease, succeeds_bind, succeeds_get]
  cases hexisting : fs.releases (releaseName digest) with
  | some existing =>
      rw [succeeds_bind, succeeds_require]
      refine ⟨servedDirectory_of_walkTree (h.releases digest existing hexisting), ?_⟩
      refine succeeds_bind.mpr (succeeds_releaseDigest h (by rw [hexisting]; rfl) ?_)
      exact succeeds_require.mpr ⟨rfl, rfl, rfl⟩
  | none =>
      show Succeeds (buildRelease sha256 me a digest) fs _
      rw [buildRelease, succeeds_bind, succeeds_get, if_neg (by simp [ha.staging])]
      have hpartials : Succeeds (forEach (fun root =>
          effect (Fs.putRelease (stagingName a.stagingId) root)) a.partials) fs
          fun _ t => t.target = fs.target ∧ t.nexts = fs.nexts := by
        refine succeeds_forEach_rest (R := fun _ (t : Fs) =>
          t.target = fs.target ∧ t.nexts = fs.nexts) ?_ ⟨rfl, rfl⟩
        intro root _ t ht
        exact succeeds_effect.mpr ht
      refine succeeds_bind.mpr (hpartials.mono ?_)
      intro _ t ht
      refine succeeds_bind.mpr (succeeds_effect.mpr ?_)
      rw [if_pos ⟨ha.copied, walkTree_copyTo me ha.copied, ha.after⟩]
      exact succeeds_effect.mpr ht

lemma succeeds_activate (h : Sound sha256 me fs) {initial : Option Text}
    (hbackend : a.backendMatchesAgain = true) (hfresh : a.pointerId ∉ fs.nexts.map Prod.fst)
    (hinitial : ∀ d ∈ initial, ∀ root, fs.target = some (.tree root) →
      walkTree sha256 me true root = .ok d)
    (hrelease : (fs.releases (releaseName digest)).isSome) :
    Succeeds (activate sha256 me a initial (releaseName digest)) fs fun _ t =>
      t.target = some (pointer (releaseName digest)) := by
  simp only [activate, succeeds_bind, succeeds_get, succeeds_require, succeeds_effect]
  refine ⟨hbackend, hfresh, ?_⟩
  have hlink : Continues sha256 me digest fs _ :=
    continues_linkNext h a.pointerId_isHex hfresh hrelease
  have hswap := hlink.trans (continues_swapIn hlink.sound List.mem_cons_self)
  cases htarget : fs.target with
  | none => exact succeeds_pure.mpr rfl
  | some slot =>
      cases slot with
      | link absolute parts => exact succeeds_effect.mpr rfl
      | other => exact (h.target _ htarget).elim
      | tree root =>
          obtain ⟨d, hd⟩ := h.target _ htarget
          simp only [archiveOld, succeeds_bind, succeeds_get]
          refine succeeds_walked hd (succeeds_require.mpr ⟨?_, ?_⟩)
          · intro e he
            exact Except.ok.inj (hd.symm.trans (hinitial e he root htarget))
          · cases hexisting : ((fs.linkNext a.pointerId (pointer (releaseName digest))).swapIn
                a.pointerId (pointer (releaseName digest))).releases (releaseName d) with
            | none => exact succeeds_effect.mpr rfl
            | some existing =>
                refine succeeds_bind.mpr
                  (succeeds_releaseDigest hswap.sound (by rw [hexisting]; rfl) ?_)
                exact succeeds_require.mpr ⟨rfl, rfl⟩

lemma succeeds_postflight (h : Sound sha256 me fs)
    (htarget : fs.target = some (pointer (releaseName digest))) :
    Succeeds (postflight sha256 me (releaseName digest) digest) fs fun _ _ => True := by
  obtain ⟨root, hserved, hwalk⟩ := serves_pointer h htarget
  rw [served_pointer htarget] at hserved
  rw [postflight, succeeds_bind, succeeds_get, succeeds_bind, succeeds_ofOption]
  refine ⟨_, htarget, succeeds_bind.mpr (succeeds_managedRelease h (by rw [hserved]; rfl) ?_)⟩
  simp only [succeeds_bind, succeeds_require, succeeds_ofOption]
  exact ⟨trivial, root, hserved, succeeds_walked hwalk ⟨rfl, trivial⟩⟩

/-- The exchange and the checks after it, from a state with the release. -/
lemma succeeds_activate_postflight (h : Sound sha256 me fs) {initial : Option Text}
    (message : Text) (hbackend : a.backendMatchesAgain = true)
    (hfresh : a.pointerId ∉ fs.nexts.map Prod.fst)
    (hinitial : ∀ d ∈ initial, ∀ root, fs.target = some (.tree root) →
      walkTree sha256 me true root = .ok d)
    (hrelease : (fs.releases (releaseName digest)).isSome) :
    Succeeds (do
      activate sha256 me a initial (releaseName digest)
      postflight sha256 me (releaseName digest) digest
      pure message) fs fun _ _ => True := by
  refine succeeds_bind.mpr (((succeeds_activate h hbackend hfresh hinitial hrelease).and_safe
    (safe_activate h a initial hrelease)).mono ?_)
  rintro _ t ⟨htarget, ht⟩
  refine succeeds_bind.mpr ((succeeds_postflight ht.sound htarget).mono ?_)
  exact fun _ _ _ => succeeds_pure.mpr trivial

/-- An attempt that is left alone comes to its end: the source itself, or a release that is there after
the recovery. -/
lemma succeeds_publish (h : Sound sha256 me fs) (ha : Undisturbed sha256 a digest fs)
    (hrestore : a.restore = none ∨ a.restore = some digest ∧
      ∀ t, Recovered sha256 me fs t →
        (∀ name root d, (name, Slot.tree root) ∈ fs.nexts → walkTree sha256 me true root = .ok d →
          (t.releases (releaseName d)).isSome) → (t.releases (releaseName digest)).isSome) :
    Succeeds (publish sha256 me a) fs fun _ t => Serves sha256 me t digest := by
  have hhex : isHex 64 digest = true := isHex_iff.mpr (walkTree_hexadecimal ha.source)
  suffices hend : Succeeds (publish sha256 me a) fs fun _ _ => True by
    refine (hend.and_safe (safe_publish h a)).mono ?_
    rintro _ t ⟨-, d, hsource, -, hserves⟩
    rwa [Except.ok.inj (ha.source.symm.trans hsource)]
  rw [publish, succeeds_bind, succeeds_ofOption, ha.source]
  refine ⟨digest, rfl, ?_⟩
  simp only [succeeds_bind, succeeds_require]
  refine ⟨?_, ha.backend.1, (succeeds_recover h).mono ?_⟩
  · rcases hrestore with hnone | ⟨hsome, -⟩
    · simp [hnone]
    · simp [hsome, hhex]
  rintro _ t ⟨hrec, harchived⟩
  have hundisturbed := ha.recovered hrec
  refine (succeeds_currentRelease hrec.sound).mono ?_
  rintro current _ ⟨rfl, hcurrent⟩
  refine (succeeds_initialDigest hrec.sound ?_).mono ?_
  · rintro rfl
    rcases hcurrent with ⟨d, ⟨⟩, -⟩ | ⟨-, htree⟩
    exact htree
  rintro initial _ ⟨rfl, hinitial⟩
  rename_i t
  have hactive : ∀ name, current = some name → ∃ d, name = releaseName d ∧
      (t.releases (releaseName d)).isSome := by
    rintro name rfl
    rcases hcurrent with ⟨d, hname, htarget⟩ | ⟨⟨⟩, -⟩
    obtain ⟨root, hserved, -⟩ := serves_pointer hrec.sound htarget
    rw [served_pointer htarget] at hserved
    exact ⟨d, Option.some.inj hname, by rw [hserved]; rfl⟩
  rcases hrestore with hnone | ⟨hsome, hretained⟩
  · rw [hnone]
    refine succeeds_bind.mpr ((succeeds_activeDigest hrec.sound hactive).mono ?_)
    rintro active _ rfl
    split_ifs
    · exact succeeds_pure.mpr trivial
    · refine succeeds_bind.mpr (((succeeds_prepareRelease hrec.sound hundisturbed).and_safe
        (safe_prepareRelease hrec.sound a)).mono ?_)
      rintro _ u ⟨⟨htarget, hnexts⟩, hu, hrelease⟩
      refine succeeds_activate_postflight hu.sound _ ha.backend.2 ?_ ?_ hrelease
      · rw [hnexts]
        exact hundisturbed.pointer
      · intro d hd root hroot
        exact hinitial d hd root (htarget ▸ hroot)
  · rw [hsome]
    have hrelease := hretained _ hrec harchived
    refine succeeds_bind.mpr (succeeds_releaseDigest hrec.sound hrelease ?_)
    rw [succeeds_bind, succeeds_require]
    refine ⟨rfl, ?_⟩
    split_ifs
    · exact succeeds_pure.mpr trivial
    · refine succeeds_bind.mpr ((succeeds_activeDigest hrec.sound hactive).mono ?_)
      rintro active _ rfl
      exact succeeds_activate_postflight hrec.sound _ ha.backend.2 hundisturbed.pointer hinitial hrelease

/-! ## Two pages -/

/-- A UI that is one page. -/
def onePage (content : List UInt8) : Node :=
  .directory 0 0o755 (.cons "index.html".toList (.file 0 0o644 content) .nil)

/-- Its records, sorted, when this is the digest of the page. -/
def onePageRecords (content : List UInt8) (digest : Text) : List Record :=
  [⟨"./".toList, 0, 0o755, "directory".toList⟩,
    ⟨"index.html".toList, content.length, 0o644, digest⟩]

def onePageEncoded (content : List UInt8) (digest : Text) : List UInt8 :=
  utf8 ((onePageRecords content digest).flatMap Record.encoded)

/-- `sha256` of no bytes. -/
def emptySha : Text :=
  ['e', '3', 'b', '0', 'c', '4', '4', '2', '9', '8', 'f', 'c', '1', 'c', '1', '4', '9', 'a', 'f',
    'b', 'f', '4', 'c', '8', '9', '9', '6', 'f', 'b', '9', '2', '4', '2', '7', 'a', 'e', '4', '1',
    'e', '4', '6', '4', '9', 'b', '9', '3', '4', 'c', 'a', '4', '9', '5', '9', '9', '1', 'b', '7',
    '8', '5', '2', 'b', '8', '5', '5']

/-- `sha256(b"1")`. -/
def oneSha : Text :=
  ['6', 'b', '8', '6', 'b', '2', '7', '3', 'f', 'f', '3', '4', 'f', 'c', 'e', '1', '9', 'd', '6',
    'b', '8', '0', '4', 'e', 'f', 'f', '5', 'a', '3', 'f', '5', '7', '4', '7', 'a', 'd', 'a', '4',
    'e', 'a', 'a', '2', '2', 'f', '1', 'd', '4', '9', 'c', '0', '1', 'e', '5', '2', 'd', 'd', 'b',
    '7', '8', '7', '5', 'b', '4', 'b']

def emptyPageSha : Text :=
  ['c', 'd', 'c', 'e', '5', 'e', '9', '7', '3', 'a', '7', '9', 'a', 'c', '0', '8', '5', '1', '5',
    '6', '2', '7', '4', '0', '5', '8', '8', 'c', 'd', 'c', 'b', '4', 'd', '9', '0', '5', '4', '8',
    'b', '8', '7', 'f', 'b', 'c', '6', '0', 'b', 'f', '3', 'c', '0', '7', '2', '8', '8', '6', '8',
    'b', '5', 'e', '0', 'a', '9', 'c']

def onePageSha : Text :=
  ['2', '1', 'c', '4', '9', '1', '3', '7', '3', '8', 'a', 'f', 'c', '5', '9', '0', '5', 'f', '7',
    '4', '3', 'b', '3', '4', '2', '8', 'f', 'b', 'c', '9', '9', 'f', '1', '4', 'f', '8', '0', '4',
    '8', 'b', '4', 'b', '7', '7', '8', '3', '0', 'e', '0', '2', '3', '7', 'e', '6', '2', '3', 'c',
    '3', '5', '3', '3', 'e', '8', '5']

/-- The digests of the two pages, and of what is hashed of a UI that is one of them. -/
def exampleHexdigest (bytes : List UInt8) : Text :=
  if bytes = [] then emptySha
  else if bytes = [49] then oneSha
  else if bytes = onePageEncoded [] emptySha then emptyPageSha
  else onePageSha

lemma isHex_exampleHexdigest (bytes : List UInt8) : isHex 64 (exampleHexdigest bytes) = true := by
  unfold exampleHexdigest
  split_ifs
  · decide +kernel
  · decide +kernel
  · decide +kernel
  · decide +kernel

def exampleSha : Sha256 where
  hexdigest := exampleHexdigest
  length_hexdigest bytes := (isHex_iff.mp (isHex_exampleHexdigest bytes)).1
  hexadecimal bytes := (isHex_iff.mp (isHex_exampleHexdigest bytes)).2

lemma walkTree_onePage {content : List UInt8} (h : content.length ≤ 1) :
    walkTree exampleSha 0 true (onePage content) =
      .ok (exampleHexdigest (onePageEncoded content (exampleHexdigest content))) := by
  have hperm : List.Perm [⟨"index.html".toList, content.length, 0o644, exampleHexdigest content⟩,
      ⟨"./".toList, 0, 0o755, "directory".toList⟩]
      (onePageRecords content (exampleHexdigest content)) := List.Perm.swap ..
  have hsorted : (onePageRecords content (exampleHexdigest content)).Pairwise
      fun r s => r.key < s.key := by
    refine List.pairwise_pair.mpr (Prod.Lex.toLex_lt_toLex.mpr (Or.inl ?_))
    show "./".toList < "index.html".toList
    decide
  have hfits : ¬(maxUiFileBytes < content.length ∨ maxUiTotalBytes < 0 + content.length) := by
    rw [maxUiFileBytes, maxUiTotalBytes]
    omega
  have hwalk : walkEntries exampleSha 0 [] (.cons "index.html".toList (.file 0 0o644 content) .nil)
      ⟨0, 0, []⟩ = .ok ⟨1, 0 + content.length,
        [⟨"index.html".toList, content.length, 0o644, exampleHexdigest content⟩]⟩ := by
    refine Run.guard_eq_ok.mpr ⟨by decide, Run.bind_eq_ok.mpr ⟨_, ?_, rfl⟩⟩
    refine Run.bind_eq_ok.mpr ⟨(), checkMode_eq_ok.mpr (by decide), ?_⟩
    exact Run.guard_eq_ok.mpr ⟨hfits, rfl⟩
  have hindex : ¬(true = true ∧ ∀ r ∈ [(⟨"index.html".toList, content.length, 0o644,
      exampleHexdigest content⟩ : Record)], r.path ≠ "index.html".toList) := by simp
  have hdigest : recordsDigest exampleSha [⟨"index.html".toList, content.length, 0o644,
      exampleHexdigest content⟩, ⟨"./".toList, 0, 0o755, "directory".toList⟩] =
      exampleHexdigest (onePageEncoded content (exampleHexdigest content)) := by
    rw [recordsDigest, sortedBy_eq_of_perm hperm hsorted, onePageEncoded, exampleSha]
  refine Run.bind_eq_ok.mpr ⟨(), checkMode_eq_ok.mpr (by decide), Run.bind_eq_ok.mpr ⟨_, hwalk, ?_⟩⟩
  exact Run.guard_eq_ok.mpr ⟨hindex, congrArg Except.ok hdigest⟩

lemma walkTree_emptyPage : walkTree exampleSha 0 true (onePage []) = .ok emptyPageSha := by
  rw [walkTree_onePage (by decide)]
  decide +kernel

lemma walkTree_page : walkTree exampleSha 0 true (onePage [49]) = .ok onePageSha := by
  rw [walkTree_onePage (by decide)]
  decide +kernel

/-- The first page stands under the target itself. -/
def unmanaged : Fs := ⟨some (.tree (onePage [])), fun _ => none, []⟩

lemma sound_unmanaged : Sound exampleSha 0 unmanaged where
  releases := by
    rintro d root ⟨⟩
  target := by
    rintro slot ⟨⟩
    exact ⟨_, walkTree_emptyPage⟩
  nexts := by
    rintro p ⟨⟩
  nodup := List.nodup_nil

def someId : Text := "00112233445566778899aabbccddeeff".toList

def otherId : Text := "ffeeddccbbaa99887766554433221100".toList

lemma isHex_someId : isHex 32 someId = true := rfl

lemma isHex_otherId : isHex 32 otherId = true := rfl

/-- A publication of a page that does not change. -/
def onePageAttempt (content : List UInt8) (restore : Option Text) : Attempt where
  sourceUid := 0
  source := onePage content
  partials := [.directory 0 0o700 .nil]
  sourceCopied := onePage content
  sourceAfter := onePage content
  restore := restore
  backendMatches := true
  backendMatchesAgain := true
  stagingId := someId
  pointerId := someId
  pointerId_isHex := isHex_someId

/-- The second page is published; the first is left where it was exchanged. -/
def interrupted : Fs where
  target := some (pointer (releaseName onePageSha))
  releases name := if name = releaseName onePageSha then some (onePage [49]) else none
  nexts := [(otherId, .tree (onePage []))]

lemma sound_interrupted : Sound exampleSha 0 interrupted where
  releases d root h := by
    have h : (if releaseName d = releaseName onePageSha then some (onePage [49]) else none) =
        some root := h
    split_ifs at h with hd
    rw [releaseName_inj.mp hd, ← Option.some.inj h]
    exact walkTree_page
  target := by
    rintro slot ⟨⟩
    exact whole_pointer (by simp [interrupted])
  nexts p hp := by
    obtain rfl := List.mem_singleton.mp hp
    exact ⟨isHex_otherId, _, walkTree_emptyPage⟩
  nodup := List.nodup_singleton _

lemma undisturbed_interrupted {content : List UInt8} {digest : Text} (restore : Option Text)
    (h : walkTree exampleSha 0 true (onePage content) = .ok digest) :
    Undisturbed exampleSha (onePageAttempt content restore) digest interrupted where
  source := h
  copied := h
  after := h
  backend := ⟨rfl, rfl⟩
  staging := by
    have hne : stagingName someId ≠ releaseName onePageSha := stagingName_ne_releaseName
    show (if stagingName someId = releaseName onePageSha then some (onePage [49]) else none) = none
    rw [if_neg hne]
  pointer := by
    show someId ∉ [otherId]
    decide

/-! ## Histories -/

/-- **The old UI or the new one.**  After any history of interrupted publications, one more publication
leaves a client, wherever it is cut off, with the tree that was served before it or with a whole tree
that has the digest of the source; and once something is served, something always is. -/
theorem served_old_or_new (h : Sound sha256 me fs₀) (hrun : Reaches sha256 me fs₀ fs)
    (hleaves : Leaves sha256 me a fs fs') :
    (fs'.served = fs.served ∨
      ∃ d, walkTree sha256 a.sourceUid true a.source = .ok d ∧ Serves sha256 me fs' d) ∧
    ((∃ d, Serves sha256 me fs₀ d) → ∃ d, Serves sha256 me fs' d) := by
  have hstep : ∀ {fs fs' : Fs} {a : Attempt}, Sound sha256 me fs → Leaves sha256 me a fs fs' →
      fs'.served = fs.served ∨
        ∃ d, walkTree sha256 a.sourceUid true a.source = .ok d ∧ Serves sha256 me fs' d := by
    intro fs fs' a hsound hleaves
    rcases hleaves.continues hsound with rfl | ⟨d, hsource, hd⟩
    · exact Or.inl rfl
    · rcases hd.target with htarget | htarget
      · exact Or.inl (hd.served_eq hsound htarget)
      · exact Or.inr ⟨d, hsource, serves_pointer hd.sound htarget⟩
  have hkeep : ∀ {fs fs' : Fs} {a : Attempt}, Sound sha256 me fs → Leaves sha256 me a fs fs' →
      (∃ d, Serves sha256 me fs d) → ∃ d, Serves sha256 me fs' d := by
    rintro fs fs' a hsound hleaves ⟨d, root, hserved, hroot⟩
    rcases hstep hsound hleaves with hsame | ⟨e, -, hserves⟩
    · exact ⟨d, root, hsame.trans hserved, hroot⟩
    · exact ⟨e, hserves⟩
  have hsound := Reaches.sound h hrun
  refine ⟨hstep hsound hleaves, fun hserves => hkeep hsound hleaves ?_⟩
  clear hleaves hsound
  induction hrun with
  | refl => exact hserves
  | tail hrun hnext ih =>
      obtain ⟨b, hleaves⟩ := hnext
      exact hkeep (Reaches.sound h hrun) hleaves ih

/-- The second page is published over the first. -/
theorem onePageAttempt_served_old_or_new : ∃ fs,
    Leaves exampleSha 0 (onePageAttempt [49] none) unmanaged fs ∧ Serves exampleSha 0 fs onePageSha ∧
    (fs.served = unmanaged.served ∨
      ∃ d, walkTree exampleSha 0 true (onePage [49]) = .ok d ∧ Serves exampleSha 0 fs d) ∧
    ((∃ d, Serves exampleSha 0 unmanaged d) → ∃ d, Serves exampleSha 0 fs d) := by
  have hundisturbed : Undisturbed exampleSha (onePageAttempt [49] none) onePageSha unmanaged :=
    ⟨walkTree_page, walkTree_page, walkTree_page, ⟨rfl, rfl⟩, rfl, List.not_mem_nil⟩
  obtain ⟨message, fs, hresult, hserves⟩ :=
    succeeds_publish sound_unmanaged hundisturbed (Or.inl rfl)
  have hleaves : Leaves exampleSha 0 (onePageAttempt [49] none) unmanaged fs :=
    Or.inr (Or.inr ⟨message, hresult⟩)
  exact ⟨fs, hleaves, hserves, served_old_or_new sound_unmanaged .refl hleaves⟩


/-- **Nothing blocks a later publication.**  After any history of interrupted publications, an attempt
whose source stays as it is and which is not cut off serves that source. -/
theorem publish_succeeds_of_reaches (h : Sound sha256 me fs₀) (hrun : Reaches sha256 me fs₀ fs)
    (ha : Undisturbed sha256 a digest fs) (hrestore : a.restore = none) :
    Succeeds (publish sha256 me a) fs fun _ t => Serves sha256 me t digest :=
  succeeds_publish (Reaches.sound h hrun) ha (Or.inl hrestore)

/-- The first page is published again, over the second. -/
theorem interrupted_publish_succeeds :
    Sound exampleSha 0 interrupted ∧ Succeeds (publish exampleSha 0 (onePageAttempt [] none)) interrupted
      fun _ t => Serves exampleSha 0 t emptyPageSha :=
  ⟨sound_interrupted, publish_succeeds_of_reaches sound_interrupted .refl
    (undisturbed_interrupted none walkTree_emptyPage) rfl⟩

end FwRouter.Installer
