import Mathlib

/-!
# Grouping by a key

A dictionary of lists, filled with `setdefault(key, []).append(x)`, holds the elements of the list
group by group, the groups in the order in which their keys first appear.  Nothing is lost and
nothing is doubled: the groups, one after the other, are the list in another order
(`flatten_groups_perm`).
-/

namespace FwRouter.Grouping

variable {α κ : Type} [BEq κ] [LawfulBEq κ] [DecidableEq κ] {key : α → κ} {l : List α}

/-- The groups, in the order of the first appearance of their keys. -/
def groups (key : α → κ) (l : List α) : List (List α) :=
  (l.map key).eraseDups.map fun k => l.filter fun x => key x = k

omit [DecidableEq κ] in
lemma nodup_eraseDups : ∀ {keys : List κ}, keys.eraseDups.Nodup
  | [] => List.nodup_nil
  | k :: keys => by
      rw [List.eraseDups_cons, List.nodup_cons, List.mem_eraseDups]
      exact ⟨by simp, nodup_eraseDups⟩
termination_by keys => keys.length
decreasing_by exact Nat.lt_succ_of_le (List.length_filter_le _ _)

/-- Distinct keys pick disjoint parts of the list. -/
lemma flatMap_filter_perm : ∀ {keys : List κ}, keys.Nodup →
    List.Perm (keys.flatMap fun k => l.filter fun x => key x = k) (l.filter fun x => key x ∈ keys)
  | [], _ => by simp
  | k :: keys, h => by
      rcases List.nodup_cons.mp h with ⟨hk, hkeys⟩
      have hsplit := List.filter_append_perm (fun x => decide (key x = k))
        (l.filter fun x => key x ∈ k :: keys)
      have hfirst : (l.filter fun x => key x ∈ k :: keys).filter (fun x => decide (key x = k)) =
          l.filter fun x => key x = k := by
        rw [List.filter_filter]
        refine List.filter_congr fun x _ => ?_
        rw [Bool.eq_iff_iff]
        simp only [Bool.and_eq_true, decide_eq_true_eq, List.mem_cons]
        exact ⟨fun h => h.1, fun h => ⟨h, Or.inl h⟩⟩
      have hrest : (l.filter fun x => key x ∈ k :: keys).filter (fun x => !decide (key x = k)) =
          l.filter fun x => key x ∈ keys := by
        rw [List.filter_filter]
        refine List.filter_congr fun x _ => ?_
        rw [Bool.eq_iff_iff]
        simp only [Bool.and_eq_true, Bool.not_eq_true', decide_eq_false_iff_not, decide_eq_true_eq,
          List.mem_cons]
        constructor
        · rintro ⟨hne, rfl | hx⟩
          · exact absurd rfl hne
          · exact hx
        · intro hx
          exact ⟨fun heq => hk (heq ▸ hx), Or.inr hx⟩
      rw [hfirst, hrest] at hsplit
      rw [List.flatMap_cons]
      exact ((flatMap_filter_perm hkeys).append_left _).trans hsplit

/-- **The groups are a partition.** -/
theorem flatten_groups_perm (key : α → κ) (l : List α) : List.Perm (groups key l).flatten l := by
  have hall : (l.filter fun x => key x ∈ (l.map key).eraseDups) = l := by
    refine List.filter_eq_self.mpr fun x hx => decide_eq_true ?_
    rw [List.mem_eraseDups]
    exact List.mem_map_of_mem hx
  have h := @flatMap_filter_perm α κ _ _ _ key l (l.map key).eraseDups nodup_eraseDups
  rw [hall] at h
  rwa [groups, ← List.flatMap_def]

lemma ne_nil_of_mem_groups {g : List α} (h : g ∈ groups key l) : g ≠ [] := by
  rcases List.mem_map.mp h with ⟨k, hk, rfl⟩
  rcases List.mem_map.mp (List.mem_eraseDups.mp hk) with ⟨x, hx, rfl⟩
  exact List.ne_nil_of_mem (List.mem_filter.mpr ⟨hx, decide_eq_true rfl⟩)

lemma mem_of_mem_groups {g : List α} (h : g ∈ groups key l) {x : α} (hx : x ∈ g) : x ∈ l :=
  (flatten_groups_perm key l).subset (List.mem_flatten.mpr ⟨g, h, hx⟩)

lemma exists_mem_groups {x : α} (h : x ∈ l) : ∃ g ∈ groups key l, x ∈ g :=
  List.mem_flatten.mp ((flatten_groups_perm key l).symm.subset h)

lemma sum_length_groups (key : α → κ) (l : List α) :
    ((groups key l).map List.length).sum = l.length := by
  rw [← List.length_flatten, (flatten_groups_perm key l).length_eq]

end FwRouter.Grouping
