import Mathlib.Data.List.Induction

/-!
# Dropping what is covered

A list is walked in the order of a rank, and an element is kept unless it is kept already or one
that is kept covers it.  When covering is transitive and only elements of smaller rank cover, what
remains are the elements nothing in the list covers (`mem_foldl_keep_iff`): the order among equal
ranks does not show.  What is dropped is covered by what is kept (`exists_kept`).
-/

namespace FwRouter.Subsumption

variable {α : Type} [DecidableEq α] {covers : α → α → Bool} {rank : α → Nat} {l : List α}

/-- One turn of the walk. -/
def keep (covers : α → α → Bool) (kept : List α) (v : α) : List α :=
  if v ∈ kept ∨ kept.any (fun p => covers p v) = true then kept else kept ++ [v]

omit [DecidableEq α] in
/-- Below every element something uncovered covers it, or it is uncovered itself. -/
lemma exists_uncovered (htrans : ∀ p ∈ l, ∀ q ∈ l, ∀ v ∈ l, covers p q → covers q v → covers p v)
    (hrank : ∀ p ∈ l, ∀ v ∈ l, covers p v → rank p < rank v) :
    ∀ n, ∀ p ∈ l, rank p ≤ n → ∃ q ∈ l, (q = p ∨ covers q p) ∧ ∀ r ∈ l, covers r q = false := by
  intro n
  induction n with
  | zero =>
      intro p hp hn
      refine ⟨p, hp, Or.inl rfl, fun r hr => Bool.eq_false_iff.mpr fun hcov => ?_⟩
      have := hrank r hr p hp hcov
      omega
  | succ n ih =>
      intro p hp hn
      by_cases h : ∃ r ∈ l, covers r p = true
      · rcases h with ⟨r, hr, hcov⟩
        have hlt := hrank r hr p hp hcov
        rcases ih r hr (by omega) with ⟨q, hq, hqr, hmin⟩
        refine ⟨q, hq, Or.inr ?_, hmin⟩
        rcases hqr with rfl | hqr
        · exact hcov
        · exact htrans q hq r hr p hp hqr hcov
      · push Not at h
        exact ⟨p, hp, Or.inl rfl, fun r hr => Bool.eq_false_iff.mpr (h r hr)⟩

/-- **What the walk keeps.**  The elements that nothing in the list covers. -/
theorem mem_foldl_keep_iff
    (htrans : ∀ p ∈ l, ∀ q ∈ l, ∀ v ∈ l, covers p q → covers q v → covers p v)
    (hrank : ∀ p ∈ l, ∀ v ∈ l, covers p v → rank p < rank v)
    (hsorted : l.Pairwise fun p v => rank p ≤ rank v) (v : α) :
    v ∈ l.foldl (keep covers) [] ↔ v ∈ l ∧ ∀ p ∈ l, covers p v = false := by
  -- along the walk; an element that comes later cannot cover an earlier one
  suffices h : ∀ done rest, l = done ++ rest → ∀ v,
      v ∈ done.foldl (keep covers) [] ↔ v ∈ done ∧ ∀ p ∈ l, covers p v = false by
    exact h l [] (List.append_nil l).symm v
  intro done
  induction done using List.reverseRecOn with
  | nil => simp
  | append_singleton done u ih =>
      intro rest hl v
      have hl' : l = done ++ ([u] ++ rest) := by rw [hl, List.append_assoc]
      have ih := ih _ hl'
      have hu : u ∈ l := by rw [hl']; simp
      have hdone : ∀ p ∈ done, p ∈ l := fun p hp => by rw [hl']; simp [hp]
      -- whatever covers `u` stands before it
      have hbefore : ∀ p ∈ l, covers p u = true → p ∈ done := by
        intro p hp hcov
        have hlt := hrank p hp u hu hcov
        rw [hl'] at hp hsorted
        rcases List.mem_append.mp hp with hp | hp
        · exact hp
        · exfalso
          rcases List.mem_cons.mp hp with rfl | hp
          · omega
          · have := List.rel_of_pairwise_cons (List.pairwise_append.mp hsorted).2.1 hp
            omega
      have hany : ((done.foldl (keep covers) []).any fun p => covers p u) = true ↔
          ∃ p ∈ l, covers p u = true := by
        rw [List.any_eq_true]
        constructor
        · rintro ⟨p, hp, hcov⟩
          exact ⟨p, hdone p ((ih p).mp hp).1, hcov⟩
        · rintro ⟨p, hp, hcov⟩
          rcases exists_uncovered htrans hrank _ p hp (Nat.le_refl _) with ⟨q, hq, hqp, hmin⟩
          have hqu : covers q u = true := by
            rcases hqp with rfl | hqp
            · exact hcov
            · exact htrans q hq p hp u hu hqp hcov
          exact ⟨q, (ih q).mpr ⟨hbefore q hq hqu, hmin⟩, hqu⟩
      rw [List.foldl_append, List.foldl_cons, List.foldl_nil, keep]
      split_ifs with h
      · rw [ih v, List.mem_append, List.mem_singleton]
        constructor
        · exact fun h => ⟨Or.inl h.1, h.2⟩
        · rintro ⟨hv | rfl, hmin⟩
          · exact ⟨hv, hmin⟩
          · rcases h with h | h
            · exact (ih v).mp h
            · rcases hany.mp h with ⟨p, hp, hcov⟩
              rw [hmin p hp] at hcov
              cases hcov
      · push Not at h
        rw [List.mem_append, List.mem_singleton, ih v, List.mem_append, List.mem_singleton]
        constructor
        · rintro (⟨hv, hmin⟩ | rfl)
          · exact ⟨Or.inl hv, hmin⟩
          · refine ⟨Or.inr rfl, fun p hp => Bool.eq_false_iff.mpr fun hcov => ?_⟩
            exact h.2 (hany.mpr ⟨p, hp, hcov⟩)
        · rintro ⟨hv | rfl, hmin⟩
          · exact Or.inl ⟨hv, hmin⟩
          · exact Or.inr rfl

/-- Everything in the list is kept or covered by something that is kept. -/
lemma exists_kept
    (htrans : ∀ p ∈ l, ∀ q ∈ l, ∀ v ∈ l, covers p q → covers q v → covers p v)
    (hrank : ∀ p ∈ l, ∀ v ∈ l, covers p v → rank p < rank v)
    (hsorted : l.Pairwise fun p v => rank p ≤ rank v) {v : α} (hv : v ∈ l) :
    ∃ q ∈ l.foldl (keep covers) [], q = v ∨ covers q v := by
  rcases exists_uncovered htrans hrank _ v hv (Nat.le_refl _) with ⟨q, hq, hqv, hmin⟩
  exact ⟨q, (mem_foldl_keep_iff htrans hrank hsorted q).mpr ⟨hq, hmin⟩, hqv⟩

lemma nodup_foldl_keep (l : List α) : (l.foldl (keep covers) []).Nodup := by
  refine List.foldlRecOn (motive := fun kept : List α => kept.Nodup) _ _ List.nodup_nil
    fun kept hkept v _ => ?_
  rw [keep]
  split_ifs with h
  · exact hkept
  · push Not at h
    refine List.nodup_append.mpr ⟨hkept, by simp, fun a ha b hb heq => h.1 ?_⟩
    rwa [← List.mem_singleton.mp hb, ← heq]

end FwRouter.Subsumption
