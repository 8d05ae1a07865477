import Mathlib.Data.List.Sort
import Mathlib.Order.Basic

/-!
# The newest items of a table

A query that orders a table by a time and cuts the answer at `n` rows.  The rows of one time come in
the order of the table, and the cut may go through them.  Everything that can be said of such an
answer is said time by time (`filter_newest`): of the items of a time it has the first ones, as many
as the newer items leave room for.

So the answer of a later window is what is left of the answer of an earlier one (`newest_filter`).
Whether an item is in the answer for some order of the table, or for every one, is a matter of
counting the newer items and those of its own time (`exists_perm_first`, `exists_perm_absent`,
`mem_newest_of_room`).
-/

namespace FwRouter.Newest

variable {α β : Type} [LinearOrder β] (key : α → β)

/-- `ORDER BY key DESC`. -/
def newestFirst (l : List α) : List α := l.mergeSort fun a b => decide (key b ≤ key a)

/-- `ORDER BY key DESC LIMIT n`. -/
def newest (n : ℕ) (l : List α) : List α := (newestFirst key l).take n

variable {key} {l l' : List α} {n : ℕ}

/-! ## Sorted lists -/

lemma perm_newestFirst : (newestFirst key l).Perm l := List.mergeSort_perm _ _

lemma pairwise_newestFirst : (newestFirst key l).Pairwise fun a b => key b ≤ key a := by
  refine (List.pairwise_mergeSort ?_ ?_ l).imp of_decide_eq_true
  · intro a b c hab hbc
    exact decide_eq_true (le_trans (of_decide_eq_true hbc) (of_decide_eq_true hab))
  · intro a b
    rcases le_total (key a) (key b) with h | h
    · simp [h]
    · simp [h]

/-- The items of one key stay in their order. -/
lemma filter_newestFirst (k : β) :
    (newestFirst key l).filter (fun a => decide (key a = k)) =
      l.filter fun a => decide (key a = k) := by
  have hsorted : (l.filter fun a => decide (key a = k)).Pairwise fun a b =>
      decide (key b ≤ key a) = true := by
    refine List.pairwise_of_forall_mem_list fun a ha b hb => ?_
    have ha := of_decide_eq_true (List.mem_filter.mp ha).2
    have hb := of_decide_eq_true (List.mem_filter.mp hb).2
    exact decide_eq_true (by rw [ha, hb])
  have hsub : (l.filter fun a => decide (key a = k)).Sublist (newestFirst key l) := by
    refine List.sublist_mergeSort ?_ ?_ hsorted List.filter_sublist
    · intro a b c hab hbc
      exact decide_eq_true (le_trans (of_decide_eq_true hbc) (of_decide_eq_true hab))
    · intro a b
      rcases le_total (key a) (key b) with h | h
      · simp [h]
      · simp [h]
  have hfilter := hsub.filter fun a => decide (key a = k)
  rw [List.filter_filter] at hfilter
  simp only [Bool.and_self] at hfilter
  exact (hfilter.eq_of_length (perm_newestFirst.filter _).length_eq.symm).symm

/-- **Sorted lists are equal time by time.** -/
lemma eq_of_filter_eq (hl : l.Pairwise fun a b => key b ≤ key a)
    (hl' : l'.Pairwise fun a b => key b ≤ key a)
    (h : ∀ k, l.filter (fun a => decide (key a = k)) = l'.filter fun a => decide (key a = k)) :
    l = l' := by
  have hmem : ∀ {l₁ l₂ : List α}, (∀ k, l₁.filter (fun a => decide (key a = k)) =
      l₂.filter fun a => decide (key a = k)) → ∀ a ∈ l₁, a ∈ l₂ := by
    intro l₁ l₂ hfilter a ha
    have hmem : a ∈ l₁.filter fun b => decide (key b = key a) :=
      List.mem_filter.mpr ⟨ha, decide_eq_true rfl⟩
    rw [hfilter] at hmem
    exact List.mem_of_mem_filter hmem
  induction l generalizing l' with
  | nil =>
      cases l' with
      | nil => rfl
      | cons b l' => exact absurd (hmem (fun k => (h k).symm) b List.mem_cons_self) List.not_mem_nil
  | cons a l ih =>
      cases l' with
      | nil => exact absurd (hmem h a List.mem_cons_self) List.not_mem_nil
      | cons b l' =>
          have hkey : key a = key b := by
            refine le_antisymm ?_ ?_
            · rcases List.mem_cons.mp (hmem h a List.mem_cons_self) with rfl | ha
              · exact le_rfl
              · exact List.rel_of_pairwise_cons hl' ha
            · rcases List.mem_cons.mp (hmem (fun k => (h k).symm) b List.mem_cons_self) with rfl | hb
              · exact le_rfl
              · exact List.rel_of_pairwise_cons hl hb
          have hhead := h (key a)
          rw [List.filter_cons_of_pos (by simp), List.filter_cons_of_pos (by simp [hkey])] at hhead
          obtain rfl : a = b := (List.cons.inj hhead).1
          refine congrArg (a :: ·) (ih (List.pairwise_cons.mp hl).2 (List.pairwise_cons.mp hl').2 ?_)
          intro k
          have hk := h k
          by_cases hak : key a = k
          · rw [List.filter_cons_of_pos (by simp [hak]), List.filter_cons_of_pos (by simp [hak])] at hk
            exact (List.cons.inj hk).2
          · rw [List.filter_cons_of_neg (by simp [hak]), List.filter_cons_of_neg (by simp [hak])] at hk
            exact hk

/-- In a sorted list the items from a key on come first. -/
lemma filter_append_filter (hl : l.Pairwise fun a b => key b ≤ key a) (p : β → Bool)
    (hp : ∀ k k', k ≤ k' → p k = true → p k' = true) :
    (l.filter fun a => p (key a)) ++ (l.filter fun a => !p (key a)) = l := by
  induction l with
  | nil => rfl
  | cons a l ih =>
      have hrest := ih (List.pairwise_cons.mp hl).2
      by_cases ha : p (key a) = true
      · have hfirst : (a :: l).filter (fun a => p (key a)) = a :: l.filter fun a => p (key a) :=
          List.filter_cons_of_pos ha
        rw [hfirst, List.filter_cons_of_neg (by simp [ha]), List.cons_append, hrest]
      · have hnone : ∀ b ∈ a :: l, ¬ p (key b) = true := by
          intro b hb hpb
          rcases List.mem_cons.mp hb with rfl | hb
          · exact ha hpb
          · exact ha (hp _ _ (List.rel_of_pairwise_cons hl hb) hpb)
        rw [List.filter_eq_nil_iff.mpr hnone, List.nil_append, List.filter_eq_self]
        intro b hb
        simpa using hnone b hb

/-! ## The answer -/

/-- The items of a key that the newer ones leave room for. -/
lemma filter_newest (k : β) :
    (newest key n l).filter (fun a => decide (key a = k)) =
      (l.filter fun a => decide (key a = k)).take (n - l.countP fun a => decide (k < key a)) := by
  have hsorted : (newestFirst key l).Pairwise fun a b => key b ≤ key a := pairwise_newestFirst
  have hcount : ((newestFirst key l).filter fun a => decide (k < key a)).length =
      l.countP fun a => decide (k < key a) := by
    rw [← List.countP_eq_length_filter]
    exact perm_newestFirst.countP_eq _
  have hnewer := filter_append_filter hsorted (fun x => decide (k < x)) fun x y hxy hx =>
    decide_eq_true (lt_of_lt_of_le (of_decide_eq_true hx) hxy)
  have hrest := filter_append_filter (hsorted.filter fun a => !decide (k < key a))
    (fun x => decide (k ≤ x)) fun x y hxy hx => decide_eq_true (le_trans (of_decide_eq_true hx) hxy)
  have hties : ((newestFirst key l).filter fun a => !decide (k < key a)).filter
      (fun a => decide (k ≤ key a)) = l.filter fun a => decide (key a = k) := by
    rw [List.filter_filter, ← filter_newestFirst]
    refine List.filter_congr fun a _ => ?_
    rcases lt_trichotomy k (key a) with h | h | h
    · simp [h, h.ne']
    · simp [h]
    · simp [h.not_ge, h.ne]
  rw [hties] at hrest
  rw [newest]
  conv_lhs => rw [← hnewer, ← hrest]
  rw [List.take_append, List.take_append, List.filter_append, List.filter_append, hcount]
  have hfirst : (((newestFirst key l).filter fun a => decide (k < key a)).take n).filter
      (fun a => decide (key a = k)) = [] := by
    refine List.filter_eq_nil_iff.mpr fun a ha => ?_
    have := of_decide_eq_true (List.mem_filter.mp (List.mem_of_mem_take ha)).2
    simpa using this.ne'
  have hmiddle : ∀ m, ((l.filter fun a => decide (key a = k)).take m).filter
      (fun a => decide (key a = k)) = (l.filter fun a => decide (key a = k)).take m := by
    intro m
    refine List.filter_eq_self.mpr fun a ha => ?_
    exact (List.mem_filter.mp (List.mem_of_mem_take ha)).2
  have hlast : ∀ m, ((((newestFirst key l).filter fun a => !decide (k < key a)).filter
      fun a => !decide (k ≤ key a)).take m).filter (fun a => decide (key a = k)) = [] := by
    intro m
    refine List.filter_eq_nil_iff.mpr fun a ha => ?_
    have := (List.mem_filter.mp (List.mem_of_mem_take ha)).2
    simp only [Bool.not_eq_true', decide_eq_false_iff_not, not_le] at this
    simpa using this.ne
  rw [hfirst, hmiddle, hlast, List.nil_append, List.append_nil]

lemma pairwise_newest : (newest key n l).Pairwise fun a b => key b ≤ key a :=
  pairwise_newestFirst.sublist (List.take_sublist _ _)

lemma mem_of_mem_newest {a : α} (h : a ∈ newest key n l) : a ∈ l :=
  perm_newestFirst.mem_iff.mp (List.mem_of_mem_take h)

lemma nodup_newest (h : l.Nodup) : (newest key n l).Nodup :=
  (perm_newestFirst.nodup_iff.mpr h).sublist (List.take_sublist _ _)

/-- **A window keeps what is in it.**  The newest items from a key on are the newest ones, from the
key on. -/
lemma newest_filter (c : β) :
    newest key n (l.filter fun a => decide (c ≤ key a)) =
      (newest key n l).filter fun a => decide (c ≤ key a) := by
  refine eq_of_filter_eq pairwise_newest (pairwise_newest.filter _) fun k => ?_
  rw [filter_newest, List.filter_filter, List.countP_filter]
  by_cases hk : c ≤ k
  · have htie : (fun a => decide (key a = k) && decide (c ≤ key a)) = fun a => decide (key a = k) := by
      funext a
      by_cases ha : key a = k
      · simp [ha, hk]
      · simp [ha]
    have hnewer : (fun a => decide (k < key a) && decide (c ≤ key a)) =
        fun a => decide (k < key a) := by
      funext a
      by_cases ha : k < key a
      · simp [ha, hk.trans ha.le]
      · simp [ha]
    rw [List.filter_filter, htie, hnewer, filter_newest]
  · have hnone : ∀ {l₁ : List α}, l₁.filter (fun a => decide (key a = k) && decide (c ≤ key a)) = [] := by
      intro l₁
      refine List.filter_eq_nil_iff.mpr fun a _ ha => ?_
      simp only [Bool.and_eq_true, decide_eq_true_eq] at ha
      exact hk (ha.1 ▸ ha.2)
    rw [List.filter_filter, hnone, hnone, List.take_nil]

/-! ## Room in the answer -/

variable (key l) in
/-- The items newer than a key. -/
def newer (k : β) : ℕ := l.countP fun a => decide (k < key a)

variable (key l) in
/-- The items of a key, and the newer ones. -/
def upTo (k : β) : ℕ := l.countP fun a => decide (k ≤ key a)

lemma newer_perm (h : l.Perm l') (k : β) : newer key l k = newer key l' k := h.countP_eq _

lemma upTo_perm (h : l.Perm l') (k : β) : upTo key l k = upTo key l' k := h.countP_eq _

lemma upTo_eq (k : β) :
    upTo key l k = newer key l k + (l.filter fun a => decide (key a = k)).length := by
  rw [upTo, newer, ← List.countP_eq_length_filter]
  induction l with
  | nil => rfl
  | cons a l ih =>
      rw [List.countP_cons, List.countP_cons, List.countP_cons, ih]
      rcases lt_trichotomy k (key a) with h | h | h
      · simp [h, h.le, h.ne']
        omega
      · simp [h]
        omega
      · simp [h.not_ge, h.not_gt, h.ne]

lemma mem_filter_key {a : α} (h : a ∈ l) : a ∈ l.filter fun b => decide (key b = key a) :=
  List.mem_filter.mpr ⟨h, decide_eq_true rfl⟩

lemma mem_newest_iff {a : α} : a ∈ newest key n l ↔
    a ∈ (l.filter fun b => decide (key b = key a)).take (n - newer key l (key a)) := by
  rw [newer, ← filter_newest, List.mem_filter]
  simp

lemma newer_lt_of_mem {a : α} (h : a ∈ newest key n l) : newer key l (key a) < n := by
  rw [mem_newest_iff] at h
  by_contra hle
  rw [Nat.sub_eq_zero_of_le (not_lt.mp hle), List.take_zero] at h
  exact absurd h List.not_mem_nil

/-- Where there is room for all items of its key, an item is in the answer. -/
lemma mem_newest_of_room {a : α} (ha : a ∈ l) (h : upTo key l (key a) ≤ n) : a ∈ newest key n l := by
  rw [mem_newest_iff, List.take_of_length_le]
  · exact mem_filter_key ha
  · rw [upTo_eq] at h
    omega

/-- Where there is room, the first item of its key is in the answer, before the others. -/
lemma filter_newest_first [DecidableEq α] {a : α} (ha : a ∈ l) (h : newer key l (key a) < n) :
    ∃ rest, (newest key n (a :: l.erase a)).filter (fun b => decide (key b = key a)) = a :: rest := by
  have hperm : l.Perm (a :: l.erase a) := List.perm_cons_erase ha
  rw [newer_perm hperm, newer] at h
  rw [filter_newest, List.filter_cons_of_pos (by simp)]
  obtain ⟨m, hm⟩ : ∃ m, n - (a :: l.erase a).countP (fun b => decide (key a < key b)) = m + 1 :=
    ⟨n - (a :: l.erase a).countP (fun b => decide (key a < key b)) - 1, by omega⟩
  rw [hm, List.take_succ_cons]
  exact ⟨_, rfl⟩

/-- Where there is not room for all items of its key, the last one is not in the answer. -/
lemma not_mem_newest_last [DecidableEq α] (hl : l.Nodup) {a : α} (ha : a ∈ l)
    (h : n < upTo key l (key a)) : a ∉ newest key n (l.erase a ++ [a]) := by
  have hperm : l.Perm (l.erase a ++ [a]) :=
    (List.perm_cons_erase ha).trans (List.perm_append_singleton a _).symm
  intro hmem
  rw [upTo_perm hperm, upTo_eq, List.filter_append] at h
  rw [mem_newest_iff, List.filter_append, List.filter_cons_of_pos (by simp), List.filter_nil,
    List.take_append_of_le_length] at hmem
  · have hmem := List.mem_of_mem_filter (List.mem_of_mem_take hmem)
    exact hl.not_mem_erase hmem
  · simp at h
    omega

end FwRouter.Newest
