import FwRouter.Installer.UiPublication

/-!
# What a publication keeps

`Sound` is the invariant of the directory between and during publications: every release has the
digest in its name, and whatever is served or left over is either such a release or a whole tree.
`continues_publish` says of every publication, wherever it is cut off, that it keeps this, that it
loses no tree, and what it serves.
-/

namespace FwRouter.Installer

open Py Sorting Interruptible Interruptible.Prog

variable {sha256 : Sha256} {me : ℕ}

/-! ## The invariant -/

/-- A whole tree, or a link to a release. -/
def Whole (sha256 : Sha256) (me : ℕ) (fs : Fs) : Slot → Prop
  | .tree root => ∃ digest, walkTree sha256 me true root = .ok digest
  | .link absolute parts => ∃ digest, absolute = false ∧ parts = [releasesName, releaseName digest]
      ∧ (fs.releases (releaseName digest)).isSome
  | .other => False

/-- **The invariant.** -/
structure Sound (sha256 : Sha256) (me : ℕ) (fs : Fs) : Prop where
  releases : ∀ digest root, fs.releases (releaseName digest) = some root →
    walkTree sha256 me true root = .ok digest
  target : ∀ slot ∈ fs.target, Whole sha256 me fs slot
  nexts : ∀ p ∈ fs.nexts, isHex 32 p.1 = true ∧ Whole sha256 me fs p.2
  nodup : (fs.nexts.map Prod.fst).Nodup

/-- The tree stands in the directory: it is served from the target itself, is left over from an
interrupted exchange, or is a release. -/
def Holds (fs : Fs) (root : Node) : Prop :=
  fs.target = some (.tree root) ∨ (∃ name, (name, Slot.tree root) ∈ fs.nexts) ∨
    ∃ digest, fs.releases (releaseName digest) = some root

/-- What `fs'` keeps of `fs`, where at most the release `digest` was put into service. -/
structure Continues (sha256 : Sha256) (me : ℕ) (digest : Text) (fs fs' : Fs) : Prop where
  sound : Sound sha256 me fs'
  releases : ∀ d root, fs.releases (releaseName d) = some root →
    fs'.releases (releaseName d) = some root
  holds : ∀ root, Holds fs root → Holds fs' root
  target : fs'.target = fs.target ∨ fs'.target = some (pointer (releaseName digest))

variable {digest : Text} {fs fs' fs'' : Fs}

lemma Continues.refl (h : Sound sha256 me fs) : Continues sha256 me digest fs fs :=
  ⟨h, fun _ _ => id, fun _ => id, Or.inl rfl⟩

lemma Continues.trans (h : Continues sha256 me digest fs fs')
    (h' : Continues sha256 me digest fs' fs'') : Continues sha256 me digest fs fs'' where
  sound := h'.sound
  releases d root hd := h'.releases d root (h.releases d root hd)
  holds root hroot := h'.holds root (h.holds root hroot)
  target := by
    rcases h'.target with ht | ht
    · rw [ht]
      exact h.target
    · exact Or.inr ht

/-- A round that continues the state it finds, for all states that continue one another. -/
lemma Continues.safe_next {α : Type} {p : Prog Fs α}
    (h : Continues sha256 me digest fs fs')
    (hp : Safe (Continues sha256 me digest fs') p fs' fun _ => Continues sha256 me digest fs') :
    Safe (Continues sha256 me digest fs) p fs' fun _ => Continues sha256 me digest fs :=
  hp.mono (fun _ => h.trans) fun _ _ => h.trans

/-! ## Names -/

lemma releaseName_inj {d e : Text} : releaseName d = releaseName e ↔ d = e := by
  unfold releaseName
  exact ⟨List.append_cancel_left, congrArg _⟩

lemma isHex_iff {length : ℕ} {t : Text} : isHex length t = true ↔
    t.length = length ∧ ∀ c ∈ t, c ∈ "0123456789abcdef".toList := by
  simp only [isHex, Bool.and_eq_true, beq_iff_eq, List.all_eq_true, List.contains_eq_mem,
    decide_eq_true_eq]

lemma stagingName_ne_releaseName {id d : Text} : stagingName id ≠ releaseName d := by
  intro h
  have hhead : (stagingName id).take 1 = (releaseName d).take 1 := by rw [h]
  unfold stagingName releaseName at hhead
  rw [List.take_append_of_le_length (by decide), List.take_append_of_le_length (by decide)] at hhead
  exact absurd hhead (by decide)

lemma releases_putRelease_of_ne {name other : Text} (h : other ≠ name) (root : Node) :
    (fs.putRelease name root).releases other = fs.releases other := by
  show Function.update fs.releases name (some root) other = _
  exact Function.update_of_ne h _ _

lemma releases_removeStaging (id d : Text) :
    (fs.removeRelease (stagingName id)).releases (releaseName d) = fs.releases (releaseName d) := by
  show Function.update fs.releases (stagingName id) none (releaseName d) = _
  exact Function.update_of_ne stagingName_ne_releaseName.symm _ _

lemma releases_putRelease_self (name : Text) (root : Node) :
    (fs.putRelease name root).releases name = some root :=
  Function.update_self ..

lemma Whole.mono {slot : Slot} (h : Whole sha256 me fs slot)
    (hmono : ∀ d, (fs.releases (releaseName d)).isSome → (fs'.releases (releaseName d)).isSome) :
    Whole sha256 me fs' slot := by
  cases slot with
  | tree root => exact h
  | link absolute parts =>
      obtain ⟨d, habsolute, hparts, hrelease⟩ := h
      exact ⟨d, habsolute, hparts, hmono d hrelease⟩
  | other => exact h

lemma mem_unlinkNext {name : Text} {p : Text × Slot} :
    p ∈ (fs.unlinkNext name).nexts ↔ p ∈ fs.nexts ∧ p.1 ≠ name := by
  simp [Fs.unlinkNext]

lemma nodup_unlinkNext (h : (fs.nexts.map Prod.fst).Nodup) (name : Text) :
    ((fs.unlinkNext name).nexts.map Prod.fst).Nodup :=
  (List.filter_sublist.map Prod.fst).nodup h

lemma Sound.slot_unique (h : Sound sha256 me fs) {name : Text} {slot slot' : Slot}
    (hs : (name, slot) ∈ fs.nexts) (hs' : (name, slot') ∈ fs.nexts) : slot = slot' :=
  congrArg Prod.snd (List.inj_on_of_nodup_map h.nodup hs hs' rfl)

/-! ## What each change keeps -/

/-- A change that touches no release keeps the releases and what is whole. -/
lemma Continues.of_releases (h : Sound sha256 me fs) (hreleases : fs'.releases = fs.releases)
    (htarget : fs'.target = fs.target ∨ fs'.target = some (pointer (releaseName digest)))
    (hwhole : ∀ slot ∈ fs'.target, Whole sha256 me fs slot)
    (hnexts : ∀ p ∈ fs'.nexts, isHex 32 p.1 = true ∧ Whole sha256 me fs p.2)
    (hnodup : (fs'.nexts.map Prod.fst).Nodup) (hholds : ∀ root, Holds fs root → Holds fs' root) :
    Continues sha256 me digest fs fs' := by
  have hmono : ∀ d, (fs.releases (releaseName d)).isSome → (fs'.releases (releaseName d)).isSome := by
    intro d hd
    rwa [hreleases]
  exact {
    sound := {
      releases := fun d root hd => h.releases d root (hreleases ▸ hd)
      target := fun slot hslot => (hwhole slot hslot).mono hmono
      nexts := fun p hp => ⟨(hnexts p hp).1, (hnexts p hp).2.mono hmono⟩
      nodup := hnodup }
    releases := fun d root hd => hreleases ▸ hd
    holds := hholds
    target := htarget }

/-- A link that is left over holds nothing of its own. -/
lemma continues_unlinkNext (h : Sound sha256 me fs) {name : Text} {absolute : Bool}
    {parts : List Text} (hlink : (name, .link absolute parts) ∈ fs.nexts) :
    Continues sha256 me digest fs (fs.unlinkNext name) := by
  refine .of_releases h rfl (Or.inl rfl) h.target ?_ (nodup_unlinkNext h.nodup name) ?_
  · intro p hp
    exact h.nexts p (mem_unlinkNext.mp hp).1
  · rintro root (htarget | ⟨other, hother⟩ | hrelease)
    · exact Or.inl htarget
    · refine Or.inr (Or.inl ⟨other, mem_unlinkNext.mpr ⟨hother, ?_⟩⟩)
      rintro rfl
      cases h.slot_unique hlink hother
    · exact Or.inr (Or.inr hrelease)

/-- Something is put under a name in the release directory that no release has. -/
lemma continues_update (h : Sound sha256 me fs) {name : Text} (value : Option Node)
    (hname : ∀ d, fs.releases (releaseName d) = none ∧
      (∀ root, value = some root → walkTree sha256 me true root = .ok d) ∨ releaseName d ≠ name) :
    Continues sha256 me digest fs { fs with releases := Function.update fs.releases name value } := by
  have hkeep : ∀ d root, fs.releases (releaseName d) = some root →
      Function.update fs.releases name value (releaseName d) = some root := by
    intro d root hd
    rcases hname d with ⟨hnone, -⟩ | hne
    · rw [hnone] at hd
      cases hd
    · rwa [Function.update_of_ne hne]
  have hmono : ∀ d, (fs.releases (releaseName d)).isSome →
      (Function.update fs.releases name value (releaseName d)).isSome := by
    intro d hd
    obtain ⟨root, hroot⟩ := Option.isSome_iff_exists.mp hd
    rw [hkeep d root hroot]
    rfl
  refine {
    sound := {
      releases := ?_
      target := fun slot hslot => (h.target slot hslot).mono hmono
      nexts := fun p hp => ⟨(h.nexts p hp).1, (h.nexts p hp).2.mono hmono⟩
      nodup := h.nodup }
    releases := hkeep
    holds := ?_
    target := Or.inl rfl }
  · intro d root hd
    by_cases hne : releaseName d = name
    · rcases hname d with ⟨-, hvalue⟩ | hne'
      · refine hvalue root ?_
        simpa [hne] using hd
      · exact absurd hne hne'
    · exact h.releases d root (by simpa [Function.update_of_ne hne] using hd)
  · rintro root (htarget | hnext | ⟨d, hrelease⟩)
    · exact Or.inl htarget
    · exact Or.inr (Or.inl hnext)
    · exact Or.inr (Or.inr ⟨d, hkeep d root hrelease⟩)

lemma continues_putStaging (h : Sound sha256 me fs) (id : Text) (root : Node) :
    Continues sha256 me digest fs (fs.putRelease (stagingName id) root) :=
  continues_update h (some root) fun _ => Or.inr stagingName_ne_releaseName.symm

lemma continues_removeStaging (h : Sound sha256 me fs) (id : Text) :
    Continues sha256 me digest fs (fs.removeRelease (stagingName id)) :=
  continues_update h none fun _ => Or.inr stagingName_ne_releaseName.symm

/-- A tree is put under the name of its digest, which is free. -/
lemma continues_putRelease (h : Sound sha256 me fs) {d : Text} {root : Node}
    (hfree : fs.releases (releaseName d) = none) (hroot : walkTree sha256 me true root = .ok d) :
    Continues sha256 me digest fs (fs.putRelease (releaseName d) root) := by
  refine continues_update h (some root) ?_
  intro e
  by_cases he : e = d
  · subst he
    exact Or.inl ⟨hfree, fun root' heq => Option.some.inj heq ▸ hroot⟩
  · exact Or.inr (fun heq => he (releaseName_inj.mp heq))

lemma continues_renameStaging (h : Sound sha256 me fs) (id : Text) {d : Text} {root : Node}
    (hfree : fs.releases (releaseName d) = none) (hroot : walkTree sha256 me true root = .ok d) :
    Continues sha256 me digest fs (fs.renameStaging (stagingName id) (releaseName d) root) := by
  have hremove : Continues sha256 me digest fs _ := continues_removeStaging h id
  refine hremove.trans (continues_putRelease hremove.sound ?_ hroot)
  rwa [releases_removeStaging]

/-- A whole tree that is left over becomes the release of its digest. -/
lemma continues_archiveNext (h : Sound sha256 me fs) {name d : Text} {root : Node}
    (hnext : (name, .tree root) ∈ fs.nexts) (hfree : fs.releases (releaseName d) = none)
    (hroot : walkTree sha256 me true root = .ok d) :
    Continues sha256 me digest fs (fs.archiveNext name (releaseName d) root) := by
  have hput : Continues sha256 me digest fs _ := continues_putRelease h hfree hroot
  refine hput.trans (.of_releases hput.sound rfl (Or.inl rfl) hput.sound.target ?_
    (nodup_unlinkNext h.nodup name) ?_)
  · intro p hp
    exact hput.sound.nexts p (mem_unlinkNext.mp hp).1
  · rintro root' (htarget | ⟨other, hother⟩ | hrelease)
    · exact Or.inl htarget
    · by_cases heq : other = name
      · subst heq
        obtain rfl : root' = root := Slot.tree.inj (h.slot_unique hother hnext)
        exact Or.inr (Or.inr ⟨d, releases_putRelease_self ..⟩)
      · exact Or.inr (Or.inl ⟨other, mem_unlinkNext.mpr ⟨hother, heq⟩⟩)
    · exact Or.inr (Or.inr hrelease)

lemma whole_pointer {d : Text} (h : (fs.releases (releaseName d)).isSome) :
    Whole sha256 me fs (pointer (releaseName d)) :=
  ⟨d, rfl, rfl, h⟩

lemma continues_linkNext (h : Sound sha256 me fs) {name d : Text} (hhex : isHex 32 name = true)
    (hfresh : name ∉ fs.nexts.map Prod.fst) (hrelease : (fs.releases (releaseName d)).isSome) :
    Continues sha256 me digest fs (fs.linkNext name (pointer (releaseName d))) := by
  refine .of_releases h rfl (Or.inl rfl) h.target ?_ (List.nodup_cons.mpr ⟨hfresh, h.nodup⟩) ?_
  · intro p hp
    rcases List.mem_cons.mp hp with rfl | hp
    · exact ⟨hhex, whole_pointer hrelease⟩
    · exact h.nexts p hp
  · rintro root (htarget | ⟨other, hother⟩ | hreleased)
    · exact Or.inl htarget
    · exact Or.inr (Or.inl ⟨other, List.mem_cons_of_mem _ hother⟩)
    · exact Or.inr (Or.inr hreleased)

/-- **The exchange**: what was served goes under the name of the pointer. -/
lemma continues_swapIn (h : Sound sha256 me fs) {name : Text}
    (hnext : (name, pointer (releaseName digest)) ∈ fs.nexts) :
    Continues sha256 me digest fs (fs.swapIn name (pointer (releaseName digest))) := by
  have hmem : ∀ {p : Text × Slot}, p ∈ (fs.swapIn name (pointer (releaseName digest))).nexts ↔
      (p.1 = name ∧ fs.target = some p.2) ∨ (p ∈ fs.nexts ∧ p.1 ≠ name) := by
    rintro ⟨other, slot⟩
    cases htarget : fs.target with
    | none => simp [Fs.swapIn, htarget]
    | some old => simp [Fs.swapIn, htarget, eq_comm (a := slot)]
  refine .of_releases h rfl (Or.inr rfl) ?_ ?_ ?_ ?_
  · intro slot hslot
    obtain rfl := Option.mem_some_iff.mp hslot
    exact (h.nexts _ hnext).2
  · intro p hp
    rcases hmem.mp hp with ⟨hname, htarget⟩ | ⟨hp, -⟩
    · exact ⟨hname ▸ (h.nexts _ hnext).1, h.target _ htarget⟩
    · exact h.nexts p hp
  · have hrest := nodup_unlinkNext h.nodup name
    cases htarget : fs.target with
    | none => simpa [Fs.swapIn, htarget, Fs.unlinkNext] using hrest
    | some slot =>
        simp only [Fs.swapIn, htarget, Option.map_some, Option.toList_some, List.singleton_append,
          List.map_cons, List.nodup_cons]
        refine ⟨?_, hrest⟩
        simp
  · rintro root (htarget | ⟨other, hother⟩ | hrelease)
    · exact Or.inr (Or.inl ⟨name, hmem.mpr (Or.inl ⟨rfl, htarget⟩)⟩)
    · refine Or.inr (Or.inl ⟨other, hmem.mpr (Or.inr ⟨hother, ?_⟩)⟩)
      rintro rfl
      have hslot := h.slot_unique hnext hother
      cases hslot
    · exact Or.inr (Or.inr hrelease)

/-! ## What each part keeps

A part that only reads leaves the state as it is, and its result says what it has read.
-/

variable {I : Fs → Prop}

lemma safe_walked {requireIndex : Bool} {root : Node} {Q : Text → Fs → Prop} :
    Safe I (walked sha256 me requireIndex root) fs Q ↔
      ∀ d, walkTree sha256 me requireIndex root = .ok d → Q d fs := by
  rw [walked, safe_ofOption]
  cases walkTree sha256 me requireIndex root <;> simp [Except.toOption]

lemma safe_releaseDigest {name : Text} {Q : Text → Fs → Prop}
    (hQ : ∀ d root, name = releaseName d → fs.releases name = some root →
      walkTree sha256 me true root = .ok d → Q d fs) :
    Safe I (releaseDigest sha256 me name) fs Q := by
  simp only [releaseDigest, safe_bind, safe_get, safe_ofOption, safe_require, safe_walked, safe_pure]
  intro root hroot _ d hwalk hname
  exact hQ d root hname hroot hwalk

lemma safe_managedRelease {slot : Slot} {Q : Option Text → Fs → Prop}
    (hnone : Q none fs)
    (hsome : ∀ name root, slot = pointer name → fs.releases name = some root → Q (some name) fs) :
    Safe I (managedRelease me slot) fs Q := by
  cases slot with
  | tree root => exact safe_pure.mpr hnone
  | other => exact safe_pure.mpr hnone
  | link absolute parts =>
      simp only [managedRelease, safe_bind, safe_get, safe_ofOption, safe_require, safe_pure]
      rintro ⟨rfl, hlength, hhead⟩ name hlast - root hroot -
      refine hsome name root ?_ hroot
      obtain ⟨first, second, rfl⟩ := List.length_eq_two.mp hlength
      obtain rfl := Option.some.inj hhead
      obtain rfl := Option.some.inj hlast
      rfl

/-- A round of the recovery: a link is removed, a tree is archived or left. -/
lemma safe_recoverOrphan {orphan : Text × Slot} (h : Sound sha256 me fs)
    (horphan : orphan ∈ fs.nexts) :
    Safe (Continues sha256 me digest fs) (recoverOrphan sha256 me orphan) fs fun _ t =>
      Continues sha256 me digest fs t ∧ ∀ p ∈ fs.nexts, p.1 ≠ orphan.1 → p ∈ t.nexts := by
  obtain ⟨name, slot⟩ := orphan
  rw [recoverOrphan, safe_bind, safe_require]
  intro _
  cases slot with
  | other => exact safe_require.mpr False.elim
  | link absolute parts =>
      simp only [safe_bind, safe_ofOption, safe_effect]
      have hkeep : Continues sha256 me digest fs _ := continues_unlinkNext h horphan
      have hrest : ∀ p ∈ fs.nexts, p.1 ≠ name → p ∈ (fs.unlinkNext name).nexts :=
        fun p hp hne => mem_unlinkNext.mpr ⟨hp, hne⟩
      refine safe_managedRelease ?_ ?_
      · intro _ hnone
        cases hnone
      · intro release root _ _ release' _
        exact safe_releaseDigest fun _ _ _ _ _ => ⟨hkeep, hkeep, hrest⟩
  | tree root =>
      simp only [recoverTree, safe_bind, safe_get, safe_walked]
      intro d hd
      cases hexisting : fs.releases (releaseName d) with
      | none =>
          have hkeep : Continues sha256 me digest fs _ :=
            continues_archiveNext h horphan hexisting hd
          exact safe_effect.mpr ⟨hkeep, hkeep, fun p hp hne => mem_unlinkNext.mpr ⟨hp, hne⟩⟩
      | some existing =>
          simp only [safe_bind, safe_require]
          intro _
          exact safe_releaseDigest fun _ _ _ _ _ _ => ⟨.refl h, fun p hp _ => hp⟩

lemma safe_recover (h : Sound sha256 me fs) :
    Safe (Continues sha256 me digest fs) (recoverInterruptedExchanges sha256 me) fs fun _ t =>
      Continues sha256 me digest fs t := by
  rw [recoverInterruptedExchanges, safe_bind, safe_get]
  have hnodup : ((sortedBy Prod.fst fs.nexts).map Prod.fst).Nodup :=
    ((List.mergeSort_perm ..).map Prod.fst).nodup_iff.mpr h.nodup
  -- the orphans that are still to come stay where they are
  refine (safe_forEach_rest (R := fun orphans t => Continues sha256 me digest fs t ∧
    (∀ p ∈ orphans, p ∈ t.nexts) ∧ (orphans.map Prod.fst).Nodup) ?_
    ⟨.refl h, fun p hp => mem_sortedBy.mp hp, hnodup⟩).mono (fun _ => id) fun _ _ ht => ht.1
  rintro orphan orphans t ⟨ht, hmem, hnodup⟩
  rw [List.map_cons, List.nodup_cons] at hnodup
  refine (safe_recoverOrphan ht.sound (hmem _ List.mem_cons_self)).mono (fun _ => ht.trans) ?_
  rintro _ u ⟨hu, hkept⟩
  refine ⟨ht.trans hu, fun p hp => ?_, hnodup.2⟩
  refine hkept p (hmem p (List.mem_cons_of_mem _ hp)) ?_
  intro heq
  exact hnodup.1 (heq ▸ List.mem_map_of_mem hp)

lemma safe_currentRelease {Q : Option Text → Fs → Prop}
    (hnone : Q none fs)
    (hsome : ∀ d root, fs.target = some (pointer (releaseName d)) →
      fs.releases (releaseName d) = some root → walkTree sha256 me true root = .ok d →
      Q (some (releaseName d)) fs) :
    Safe I (currentRelease sha256 me) fs Q := by
  rw [currentRelease, safe_bind, safe_get]
  cases htarget : fs.target with
  | none => exact safe_pure.mpr hnone
  | some slot =>
      refine safe_bind.mpr (safe_managedRelease (safe_pure.mpr hnone) ?_)
      rintro name root rfl hroot
      refine safe_bind.mpr (safe_releaseDigest ?_)
      rintro d root rfl hroot hwalk
      exact safe_pure.mpr (hsome d root htarget hroot hwalk)

lemma safe_initialDigest {current : Option Text} {Q : Option Text → Fs → Prop}
    (hQ : ∀ initial, Q initial fs) :
    Safe I (initialDigest sha256 me current) fs Q := by
  rw [initialDigest, safe_bind, safe_get]
  cases current with
  | some name => exact safe_pure.mpr (hQ none)
  | none =>
      cases htarget : fs.target with
      | none => exact safe_pure.mpr (hQ none)
      | some slot =>
          cases slot with
          | link absolute parts => simp
          | other => simp
          | tree root =>
              refine safe_bind.mpr (safe_walked.mpr ?_)
              intro d _
              cases fs.releases (releaseName d) with
              | none => exact safe_pure.mpr (hQ _)
              | some existing =>
                  refine safe_bind.mpr (safe_releaseDigest ?_)
                  intro d' root' _ _ _
                  rw [safe_bind, safe_require]
                  exact fun _ => safe_pure.mpr (hQ _)

lemma safe_activeDigest {current : Option Text} {Q : Option Text → Fs → Prop}
    (hnone : Q none fs)
    (hsome : ∀ name root d, current = some name → fs.releases name = some root →
      walkTree sha256 me false root = .ok d → Q (some d) fs) :
    Safe I (activeDigest sha256 me current) fs Q := by
  rw [activeDigest, safe_bind, safe_get]
  cases current with
  | none => exact safe_pure.mpr hnone
  | some name =>
      simp only [safe_bind, safe_ofOption, safe_walked, safe_pure]
      exact fun root hroot d hd => hsome name root d rfl hroot hd

/-- What is put under a private name does not count. -/
lemma safe_abandon (h : Continues sha256 me digest fs fs') (id : Text) {Q : Unit → Fs → Prop} :
    Safe (Continues sha256 me digest fs) (abandon (stagingName id)) fs' Q := by
  rw [abandon, safe_bind, safe_effect, safe_require]
  exact ⟨h.trans (continues_removeStaging h.sound id), False.elim⟩

/-- **The new release** appears whole, and with the digest of the source. -/
lemma safe_prepareRelease (h : Sound sha256 me fs) (a : Attempt) :
    Safe (Continues sha256 me digest fs) (prepareRelease sha256 me a digest) fs fun _ t =>
      Continues sha256 me digest fs t ∧ (t.releases (releaseName digest)).isSome := by
  rw [prepareRelease, safe_bind, safe_get]
  cases hexisting : fs.releases (releaseName digest) with
  | some existing =>
      simp only [safe_bind, safe_require]
      intro _
      exact safe_releaseDigest fun _ _ _ _ _ _ => ⟨.refl h, by rw [hexisting]; rfl⟩
  | none =>
      show Safe _ (buildRelease sha256 me a digest) fs _
      rw [buildRelease, safe_bind, safe_get]
      by_cases htaken : (fs.releases (stagingName a.stagingId)).isSome = true
      · rw [if_pos htaken]
        exact safe_abandon (.refl h) a.stagingId
      rw [if_neg htaken]
      -- while the copy grows no release has its name
      let J : Fs → Prop := fun t => Continues sha256 me digest fs t ∧
        t.releases (releaseName digest) = none
      have hput : ∀ t root, J t → J (t.putRelease (stagingName a.stagingId) root) := by
        rintro t root ⟨ht, hfree⟩
        refine ⟨ht.trans (continues_putStaging ht.sound _ _), ?_⟩
        rwa [releases_putRelease_of_ne stagingName_ne_releaseName.symm]
      have hpartials : Safe J (forEach (fun root =>
          effect (Fs.putRelease (stagingName a.stagingId) root)) a.partials) fs fun _ => J :=
        safe_forEach ⟨.refl h, hexisting⟩
          (fun root _ t ht => safe_effect.mpr ⟨hput t root ht, hput t root ht⟩)
      refine safe_bind.mpr (hpartials.mono (fun t ht => ht.1) ?_)
      intro _ t ht
      have hcopied := hput t (a.sourceCopied.copyTo me) ht
      refine safe_bind.mpr (safe_effect.mpr ⟨hcopied.1, ?_⟩)
      split_ifs with hdigests
      · have hkeep := hcopied.1.trans
          (continues_renameStaging hcopied.1.sound a.stagingId hcopied.2 hdigests.2.1)
        refine safe_effect.mpr ⟨hkeep, hkeep, ?_⟩
        rw [Fs.renameStaging, releases_putRelease_self]
        rfl
      · exact safe_abandon hcopied.1 a.stagingId

/-- The tree that was served becomes a release, or stays where it is. -/
lemma safe_archiveOld (h : Sound sha256 me fs) {name : Text} {root : Node} {initial : Option Text}
    (hnext : (name, .tree root) ∈ fs.nexts) :
    Safe (Continues sha256 me digest fs) (archiveOld sha256 me name initial root) fs fun _ =>
      Continues sha256 me digest fs := by
  simp only [archiveOld, safe_bind, safe_get, safe_walked, safe_require]
  intro d hd _
  cases hexisting : fs.releases (releaseName d) with
  | none =>
      have hkeep : Continues sha256 me digest fs _ := continues_archiveNext h hnext hexisting hd
      exact safe_effect.mpr ⟨hkeep, hkeep⟩
  | some existing =>
      simp only [safe_bind, safe_require]
      exact safe_releaseDigest fun _ _ _ _ _ _ => .refl h

/-- **The exchange and what follows it.** -/
lemma safe_activate (h : Sound sha256 me fs) (a : Attempt)
    (initial : Option Text) (hrelease : (fs.releases (releaseName digest)).isSome) :
    Safe (Continues sha256 me digest fs) (activate sha256 me a initial (releaseName digest)) fs
      fun _ => Continues sha256 me digest fs := by
  simp only [activate, safe_bind, safe_get, safe_require, safe_effect]
  intro _ hfresh
  have hlink : Continues sha256 me digest fs _ :=
    continues_linkNext h a.pointerId_isHex hfresh hrelease
  have hswap := hlink.trans (continues_swapIn hlink.sound List.mem_cons_self)
  refine ⟨hlink, hswap, ?_⟩
  cases htarget : fs.target with
  | none => exact safe_pure.mpr hswap
  | some slot =>
      have hnext : (a.pointerId, slot) ∈ ((fs.linkNext a.pointerId
          (pointer (releaseName digest))).swapIn a.pointerId (pointer (releaseName digest))).nexts := by
        simp [Fs.swapIn, Fs.linkNext, htarget]
      cases slot with
      | tree root => exact hswap.safe_next (safe_archiveOld hswap.sound hnext)
      | link absolute parts =>
          have hunlink := hswap.trans (continues_unlinkNext hswap.sound hnext)
          exact safe_effect.mpr ⟨hunlink, hunlink⟩
      | other => exact (h.target _ htarget).elim

/-! ## The whole publication -/

/-- The tree that a client of the target is served. -/
def Fs.served (fs : Fs) : Option Node :=
  match fs.target with
  | some (.tree root) => some root
  | some (.link false [dir, name]) => if dir = releasesName then fs.releases name else none
  | _ => none

/-- What is served is whole, and has this digest. -/
def Serves (sha256 : Sha256) (me : ℕ) (fs : Fs) (digest : Text) : Prop :=
  ∃ root, fs.served = some root ∧ walkTree sha256 me true root = .ok digest

lemma served_pointer {name : Text} (h : fs.target = some (pointer name)) :
    fs.served = fs.releases name := by
  rw [Fs.served, h]
  exact if_pos rfl

lemma serves_pointer (h : Sound sha256 me fs)
    (htarget : fs.target = some (pointer (releaseName digest))) : Serves sha256 me fs digest := by
  obtain ⟨d, -, hparts, hrelease⟩ := h.target _ htarget
  obtain rfl : digest = d := by
    have hname : releaseName digest = releaseName d := by
      simpa using congrArg (fun parts : List Text => parts.getLast?) hparts
    exact releaseName_inj.mp hname
  obtain ⟨root, hroot⟩ := Option.isSome_iff_exists.mp hrelease
  exact ⟨root, (served_pointer htarget).trans hroot, h.releases _ _ hroot⟩

lemma safe_postflight {release : Text} {Q : Unit → Fs → Prop}
    (hQ : Serves sha256 me fs digest → Q () fs) :
    Safe I (postflight sha256 me release digest) fs Q := by
  simp only [postflight, safe_bind, safe_get, safe_ofOption]
  intro slot hslot
  refine safe_managedRelease ?_ ?_
  · simp only [safe_require]
    intro hnone
    cases hnone
  · rintro name root rfl hroot
    simp only [safe_require, safe_walked]
    rintro heq root' hroot' d hd rfl
    obtain rfl := Option.some.inj heq
    exact hQ ⟨root', (served_pointer hslot).trans hroot', hd⟩

/-- What a publication of a source with this digest leaves in every state and achieves at its end. -/
lemma safe_restoreRelease (h : Sound sha256 me fs) (a : Attempt) {current initial : Option Text}
    (hcurrent : ∀ name, current = some name → fs.target = some (pointer name)) :
    Safe (Continues sha256 me digest fs) (restoreRelease sha256 me a digest digest current initial) fs
      fun _ t => Continues sha256 me digest fs t ∧ Serves sha256 me t digest := by
  rw [restoreRelease, safe_bind]
  refine safe_releaseDigest ?_
  intro d root _ hroot _
  rw [safe_bind, safe_require]
  rintro rfl
  have hrelease : (fs.releases (releaseName d)).isSome := by
    rw [hroot]
    rfl
  by_cases hactive : current = some (releaseName d)
  · rw [if_pos hactive]
    exact safe_pure.mpr ⟨.refl h, serves_pointer h (hcurrent _ hactive)⟩
  · rw [if_neg hactive, safe_bind]
    have hactivate : ∀ _ : Option Text, Safe (Continues sha256 me d fs) (do
        activate sha256 me a initial (releaseName d)
        postflight sha256 me (releaseName d) d
        pure ("Restored UI release ".toList ++ d)) fs
        fun _ t => Continues sha256 me d fs t ∧ Serves sha256 me t d := by
      intro _
      refine safe_bind.mpr ((safe_activate h a initial hrelease).mono (fun _ => id) ?_)
      intro _ t ht
      exact safe_bind.mpr (safe_postflight fun hserves => safe_pure.mpr ⟨ht, hserves⟩)
    exact safe_activeDigest (hactivate none) fun _ _ d' _ _ _ => hactivate (some d')

lemma safe_publishRelease (h : Sound sha256 me fs) (a : Attempt) {current initial : Option Text}
    (hcurrent : ∀ name, current = some name → ∃ d, name = releaseName d ∧
      fs.target = some (pointer name)) :
    Safe (Continues sha256 me digest fs) (publishRelease sha256 me a digest current initial) fs
      fun _ t => Continues sha256 me digest fs t ∧ Serves sha256 me t digest := by
  have hpublish : Safe (Continues sha256 me digest fs) (do
      prepareRelease sha256 me a digest
      activate sha256 me a initial (releaseName digest)
      postflight sha256 me (releaseName digest) digest
      pure ("Published UI release ".toList ++ digest)) fs
      fun _ t => Continues sha256 me digest fs t ∧ Serves sha256 me t digest := by
    refine safe_bind.mpr ((safe_prepareRelease h a).mono (fun _ => id) ?_)
    rintro _ t ⟨ht, hrelease⟩
    refine safe_bind.mpr ((safe_activate ht.sound a initial hrelease).mono (fun _ => ht.trans) ?_)
    intro _ u hu
    exact safe_bind.mpr (safe_postflight fun hserves => safe_pure.mpr ⟨ht.trans hu, hserves⟩)
  rw [publishRelease, safe_bind]
  refine safe_activeDigest ?_ ?_
  · rw [if_neg (by simp)]
    exact hpublish
  · intro name root d hname hroot hwalk
    by_cases hactive : some d = some digest
    · rw [if_pos hactive]
      obtain ⟨d', rfl, htarget⟩ := hcurrent name hname
      -- the name says the digest, and without the index it is the same
      obtain rfl : d' = d :=
        Except.ok.inj ((walkTree_of_index (h.releases d' root hroot)).symm.trans hwalk)
      exact safe_pure.mpr ⟨.refl h, Option.some.inj hactive ▸ serves_pointer h htarget⟩
    · rw [if_neg hactive]
      exact hpublish

/-- **A publication, wherever it is cut off**, keeps the invariant and every tree, and puts nothing but
the release of its source into service; if it comes to its end, that is what is served. -/
theorem safe_publish (h : Sound sha256 me fs) (a : Attempt) :
    Safe (fun t => ∃ d, walkTree sha256 a.sourceUid true a.source = .ok d ∧
        Continues sha256 me d fs t) (publish sha256 me a) fs
      fun _ t => ∃ d, walkTree sha256 a.sourceUid true a.source = .ok d ∧
        Continues sha256 me d fs t ∧ Serves sha256 me t d := by
  rw [publish, safe_bind, safe_ofOption]
  intro d hsource
  have hsource : walkTree sha256 a.sourceUid true a.source = .ok d := by
    cases hwalk : walkTree sha256 a.sourceUid true a.source with
    | error e => rw [hwalk] at hsource; cases hsource
    | ok d' => rw [hwalk] at hsource; rw [Option.some.inj hsource]
  simp only [safe_bind, safe_require]
  intro hrestore _
  have hrecover : Safe (Continues sha256 me d fs) (recoverInterruptedExchanges sha256 me) fs
      fun _ => Continues sha256 me d fs := safe_recover h
  refine hrecover.mono (fun t ht => ⟨d, hsource, ht⟩) ?_
  intro _ t ht
  have hlift : ∀ {p : Prog Fs Text}, Safe (Continues sha256 me d t) p t
      (fun _ u => Continues sha256 me d t u ∧ Serves sha256 me u d) →
      Safe (fun u => ∃ e, walkTree sha256 a.sourceUid true a.source = .ok e ∧
          Continues sha256 me e fs u) p t
        fun _ u => ∃ e, walkTree sha256 a.sourceUid true a.source = .ok e ∧
          Continues sha256 me e fs u ∧ Serves sha256 me u e := by
    intro p hp
    exact hp.mono (fun u hu => ⟨d, hsource, ht.trans hu⟩)
      fun _ u hu => ⟨d, hsource, ht.trans hu.1, hu.2⟩
  have hrest : ∀ {p : Prog Fs Text} (current initial : Option Text),
      (∀ name, current = some name → ∃ e, name = releaseName e ∧ t.target = some (pointer name)) →
      (a.restore = none → p = publishRelease sha256 me a d current initial) →
      (∀ digest, a.restore = some digest → p = restoreRelease sha256 me a d digest current initial) →
      Safe (Continues sha256 me d t) p t fun _ u => Continues sha256 me d t u ∧ Serves sha256 me u d := by
    intro p current initial hcurrent hpublish hrestored
    cases hr : a.restore with
    | none =>
        rw [hpublish hr]
        exact safe_publishRelease ht.sound a hcurrent
    | some digest =>
        rw [hrestored digest hr]
        obtain rfl : d = digest := (hrestore digest hr).2
        exact safe_restoreRelease ht.sound a fun name hname => (hcurrent name hname).choose_spec.2
  refine safe_currentRelease ?_ ?_
  · exact safe_initialDigest fun initial => hlift (hrest none initial (by simp) (fun hr => by rw [hr])
      fun digest hr => by rw [hr])
  · intro e root htarget _ _
    refine safe_initialDigest fun initial => hlift (hrest _ initial ?_ (fun hr => by rw [hr])
      fun digest hr => by rw [hr])
    rintro name ⟨⟩
    exact ⟨e, rfl, htarget⟩

end FwRouter.Installer
