import Mathlib

/-!
# First fit

Keys ask for places one after the other.  Every key has a list of places in the order it would
take them (its probe list), and gets the first that is still free; a key that holds a place from
before may keep it instead.  `place` does both: without kept places it is plain first fit.

`nodup_place` says that no place is given twice.  `place_keeping_iff` compares the two uses on the
same keys: keeping old places gives what plain first fit gives exactly when plain first fit moves
no key off its old place and puts no new key on a place that is held.
-/

namespace FirstFit

variable {κ π : Type} [DecidableEq π]

/-- The first place of the probe list that is not taken. -/
def firstFree (taken probe : List π) : Option π := probe.find? fun p => decide (p ∉ taken)

/-- Every key keeps its place, or takes the first free one of its probe list; `none` when a key
finds all its places taken. -/
def place (probe : κ → List π) (kept : κ → Option π) : List π → List κ → Option (List (κ × π))
  | _, [] => some []
  | taken, k :: ks =>
      match kept k with
      | some p => (place probe kept taken ks).map ((k, p) :: ·)
      | none =>
          (firstFree taken (probe k)).bind fun p =>
            (place probe kept (p :: taken) ks).map ((k, p) :: ·)

/-- Plain first fit: nothing is kept, nothing is taken before. -/
def plain (probe : κ → List π) (ks : List κ) : Option (List (κ × π)) :=
  place probe (fun _ => none) [] ks

/-! ## The first free place -/

lemma firstFree_eq_some {taken probe : List π} {p : π} (h : firstFree taken probe = some p) :
    p ∈ probe ∧ p ∉ taken :=
  ⟨List.mem_of_find?_eq_some h, by simpa using List.find?_some h⟩

lemma firstFree_eq_none {taken probe : List π} :
    firstFree taken probe = none ↔ ∀ p ∈ probe, p ∈ taken := by
  simp [firstFree, List.find?_eq_none]

/-- The first free place stays the first free place when others are taken. -/
lemma firstFree_mono {taken taken' probe : List π} {p : π} (h : firstFree taken probe = some p)
    (hsub : taken ⊆ taken') (hp : p ∉ taken') : firstFree taken' probe = some p := by
  obtain ⟨hfree, before, after, rfl, hbefore⟩ := List.find?_eq_some_iff_append.mp h
  refine List.find?_eq_some_iff_append.mpr ⟨by simpa using hp, before, after, rfl, ?_⟩
  intro q hq
  have htaken : q ∈ taken := by simpa using hbefore q hq
  simpa using hsub htaken

/-! ## What a placement gives -/

section Place

variable {probe : κ → List π} {kept : κ → Option π}

/-- One step of a placement: the first key has kept its place, or has taken a free one. -/
lemma place_cons {taken : List π} {k : κ} {ks : List κ} {placed : List (κ × π)} :
    place probe kept taken (k :: ks) = some placed ↔
      (∃ p rest, kept k = some p ∧ place probe kept taken ks = some rest ∧
          placed = (k, p) :: rest) ∨
        ∃ p rest, kept k = none ∧ firstFree taken (probe k) = some p ∧
          place probe kept (p :: taken) ks = some rest ∧ placed = (k, p) :: rest := by
  have hflip : ∀ p rest, (k, p) :: rest = placed ↔ placed = (k, p) :: rest := fun _ _ => eq_comm
  cases hk : kept k with
  | none => simp [place, hk, Option.bind_eq_some_iff, hflip]
  | some p => simp [place, hk, hflip]

lemma map_fst_place : ∀ {ks : List κ} {taken : List π} {placed : List (κ × π)},
    place probe kept taken ks = some placed → placed.map Prod.fst = ks := by
  intro ks
  induction ks with
  | nil =>
      intro taken placed h
      obtain rfl : [] = placed := by simpa [place] using h
      rfl
  | cons k ks ih =>
      intro taken placed h
      rcases place_cons.mp h with ⟨p, rest, -, hrest, rfl⟩ | ⟨p, rest, -, -, hrest, rfl⟩
      · simp [ih hrest]
      · simp [ih hrest]

/-- A key of a placement has its kept place, or one of its probe list that was not taken. -/
lemma mem_place : ∀ {ks : List κ} {taken : List π} {placed : List (κ × π)},
    place probe kept taken ks = some placed → ∀ {k : κ} {p : π}, (k, p) ∈ placed →
      kept k = some p ∨ kept k = none ∧ p ∈ probe k ∧ p ∉ taken := by
  intro ks
  induction ks with
  | nil =>
      intro taken placed h k p hmem
      obtain rfl : [] = placed := by simpa [place] using h
      simp at hmem
  | cons j ks ih =>
      intro taken placed h k p hmem
      rcases place_cons.mp h with ⟨q, rest, hj, hrest, rfl⟩ | ⟨q, rest, hj, hq, hrest, rfl⟩
      · rcases List.mem_cons.mp hmem with heq | hmem
        · obtain ⟨rfl, rfl⟩ := Prod.mk.inj heq
          exact Or.inl hj
        · exact ih hrest hmem
      · rcases List.mem_cons.mp hmem with heq | hmem
        · obtain ⟨rfl, rfl⟩ := Prod.mk.inj heq
          exact Or.inr ⟨hj, firstFree_eq_some hq⟩
        · rcases ih hrest hmem with hkept | ⟨hkept, hprobe, hfree⟩
          · exact Or.inl hkept
          · exact Or.inr ⟨hkept, hprobe, fun hin => hfree (List.mem_cons_of_mem _ hin)⟩

/-- A placement that fails has given out places until a key found none. -/
lemma place_eq_none : ∀ {ks : List κ} {taken : List π}, place probe kept taken ks = none →
    ∃ n < ks.length, ∃ placed, place probe kept taken (ks.take n) = some placed ∧
      ∃ k ∈ ks, ∀ p ∈ probe k, p ∈ taken ∨ p ∈ placed.map Prod.snd := by
  intro ks
  induction ks with
  | nil =>
      intro taken h
      simp [place] at h
  | cons k ks ih =>
      intro taken h
      rw [place] at h
      cases hk : kept k with
      | some q =>
          rw [hk] at h
          rcases ih (Option.map_eq_none_iff.mp h) with ⟨n, hn, placed, hplace, j, hj, hfull⟩
          refine ⟨n + 1, by simpa using hn, (k, q) :: placed, ?_, j, List.mem_cons_of_mem _ hj, ?_⟩
          · rw [List.take_succ_cons, place_cons]
            exact Or.inl ⟨q, placed, hk, hplace, rfl⟩
          · exact fun p hp => (hfull p hp).imp_right (List.mem_cons_of_mem _)
      | none =>
          rw [hk] at h
          cases hfree : firstFree taken (probe k) with
          | none =>
              refine ⟨0, by simp, [], by simp [place], k, List.mem_cons_self, fun p hp => ?_⟩
              exact Or.inl (firstFree_eq_none.mp hfree p hp)
          | some q =>
              rw [hfree] at h
              rcases ih (Option.map_eq_none_iff.mp h) with ⟨n, hn, placed, hplace, j, hj, hfull⟩
              refine ⟨n + 1, by simpa using hn, (k, q) :: placed, ?_, j,
                List.mem_cons_of_mem _ hj, ?_⟩
              · rw [List.take_succ_cons, place_cons]
                exact Or.inr ⟨q, placed, hk, hfree, hplace, rfl⟩
              · intro p hp
                rcases hfull p hp with hp | hp
                · rcases List.mem_cons.mp hp with rfl | hp
                  · exact Or.inr List.mem_cons_self
                  · exact Or.inl hp
                · exact Or.inr (List.mem_cons_of_mem _ hp)

/-- **No place is given twice**, when the kept places are taken beforehand and no two keys keep
the same one. -/
theorem nodup_place : ∀ {ks : List κ} {taken : List π} {placed : List (κ × π)}, ks.Nodup →
    (∀ k p, kept k = some p → p ∈ taken) →
    (∀ j k p, kept j = some p → kept k = some p → j = k) →
    place probe kept taken ks = some placed → (placed.map Prod.snd).Nodup := by
  intro ks
  induction ks with
  | nil =>
      intro taken placed _ _ _ h
      obtain rfl : [] = placed := by simpa [place] using h
      simp
  | cons k ks ih =>
      intro taken placed hnodup hreserved hinj h
      obtain ⟨hk, hnodup⟩ := List.nodup_cons.mp hnodup
      rcases place_cons.mp h with ⟨p, rest, hkeep, hrest, rfl⟩ | ⟨p, rest, -, hp, hrest, rfl⟩
      · refine List.nodup_cons.mpr ⟨?_, ih hnodup hreserved hinj hrest⟩
        intro hmem
        obtain ⟨⟨j, q⟩, hj, rfl⟩ := List.mem_map.mp hmem
        rcases mem_place hrest hj with hj' | ⟨-, -, hfree⟩
        · -- another key cannot keep the same place
          have hjk : j = k := hinj j k q hj' hkeep
          have hjmem : j ∈ ks := map_fst_place hrest ▸ List.mem_map_of_mem hj
          exact hk (hjk ▸ hjmem)
        · exact hfree (hreserved k q hkeep)
      · have hreserved' : ∀ j q, kept j = some q → q ∈ p :: taken := fun j q hq =>
          List.mem_cons_of_mem _ (hreserved j q hq)
        refine List.nodup_cons.mpr ⟨?_, ih hnodup hreserved' hinj hrest⟩
        intro hmem
        obtain ⟨⟨j, q⟩, hj, rfl⟩ := List.mem_map.mp hmem
        rcases mem_place hrest hj with hj' | ⟨-, -, hfree⟩
        · exact (firstFree_eq_some hp).2 (hreserved j q hj')
        · exact hfree List.mem_cons_self

end Place

/-! ## Keeping places against plain first fit -/

/-- The place a key gets respects what was held before: a key that held a place has the same one,
and a key that held none has one that nobody held. -/
def Respects (kept : κ → Option π) (held : List π) (k : κ) (p : π) : Prop :=
  (kept k).elim (p ∉ held) (p = ·)

instance (kept : κ → Option π) (held : List π) (k : κ) (p : π) :
    Decidable (Respects kept held k p) := by
  unfold Respects
  cases kept k with
  | none => exact inferInstanceAs (Decidable (p ∉ held))
  | some q => exact inferInstanceAs (Decidable (p = q))

/-- If plain first fit respects what was held, keeping the old places gives the same.  The two
sets of taken places differ only by places that are held. -/
lemma place_of_respects {probe : κ → List π} {kept : κ → Option π} {held : List π}
    (hheld : ∀ k p, kept k = some p → p ∈ held) :
    ∀ {ks : List κ} {taken taken' : List π} {placed : List (κ × π)},
      held ⊆ taken' → taken ⊆ taken' → (∀ p ∈ taken', p ∈ held ∨ p ∈ taken) →
      place probe (fun _ => none) taken ks = some placed →
      (∀ k p, (k, p) ∈ placed → Respects kept held k p) →
      place probe kept taken' ks = some placed := by
  intro ks
  induction ks with
  | nil =>
      intro taken taken' placed _ _ _ h _
      simpa [place] using h
  | cons k ks ih =>
      intro taken taken' placed hin hsub hback h hresp
      rcases place_cons.mp h with ⟨_, _, hnone, -⟩ | ⟨p, rest, -, hp, hrest, rfl⟩
      · simp at hnone
      have hhead : Respects kept held k p := hresp k p List.mem_cons_self
      have htail : ∀ j q, (j, q) ∈ rest → Respects kept held j q := fun j q hj =>
        hresp j q (List.mem_cons_of_mem _ hj)
      cases hk : kept k with
      | none =>
          have hfree : p ∉ taken' := by
            intro hmem
            rcases hback p hmem with hmem | hmem
            · rw [Respects, hk] at hhead
              exact hhead hmem
            · exact (firstFree_eq_some hp).2 hmem
          refine place_cons.mpr (Or.inr ⟨p, rest, hk, firstFree_mono hp hsub hfree, ?_, rfl⟩)
          refine ih (List.subset_cons_of_subset _ hin) ?_ ?_ hrest htail
          · exact List.cons_subset_cons p hsub
          · intro q hq
            rcases List.mem_cons.mp hq with rfl | hq
            · exact Or.inr List.mem_cons_self
            · exact (hback q hq).imp_right (List.mem_cons_of_mem _)
      | some q =>
          obtain rfl : p = q := by
            rw [Respects, hk] at hhead
            exact hhead
          refine place_cons.mpr (Or.inl ⟨p, rest, hk, ?_, rfl⟩)
          refine ih hin ?_ ?_ hrest htail
          · exact List.cons_subset.mpr ⟨hin (hheld k p hk), hsub⟩
          · intro r hr
            exact (hback r hr).imp_right (List.mem_cons_of_mem _)

/-- **Keeping old places is plain first fit** exactly when plain first fit respects what was
held. -/
theorem place_keeping_iff {probe : κ → List π} {kept : κ → Option π} {held : List π}
    (hheld : ∀ k p, kept k = some p → p ∈ held) {ks : List κ} {placed : List (κ × π)}
    (h : plain probe ks = some placed) :
    place probe kept held ks = some placed ↔ ∀ k p, (k, p) ∈ placed → Respects kept held k p := by
  constructor
  · intro hkeep k p hmem
    rcases mem_place hkeep hmem with hk | ⟨hk, -, hfree⟩
    · simp [Respects, hk]
    · simpa [Respects, hk] using hfree
  · refine place_of_respects hheld (List.Subset.refl _) (List.nil_subset _) ?_ h
    exact fun p hp => Or.inl hp

end FirstFit
