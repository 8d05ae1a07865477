import Mathlib.Data.List.Sort
import Mathlib.Data.List.FinRange

/-!
# Stable sorting by a key

`sortedBy` sorts by a key whose values can all be compared.  Its first element is the leftmost
minimum (`head?_sortedBy_cons`, `le_of_head?_sortedBy`), and the input's order shows in it only where
minima tie (`head?_sortedBy_perm`).

A key of the program may have values whose comparison raises.  What a sort does then depends on
which items it compares, so a `ComparisonSort` is a decision tree over the indices: it is known only
that it sorts stably when every comparison is answered.  `run_eq_none_of_orders` is the adversary's
argument: if two orders agree with all comparisons that are defined, and order some pair in opposite
ways, then every comparison sort comes upon a comparison that raises.
-/

namespace FwRouter.Sorting

variable {α β : Type} [LinearOrder β]

/-! ## Sorting by a total key -/

/-- `sorted(l, key=key)`. -/
def sortedBy (key : α → β) (l : List α) : List α := l.mergeSort fun a b => decide (key a ≤ key b)

lemma mem_sortedBy {key : α → β} {l : List α} {a : α} : a ∈ sortedBy key l ↔ a ∈ l :=
  List.mem_mergeSort

lemma sortedBy_eq_nil_iff {key : α → β} {l : List α} : sortedBy key l = [] ↔ l = [] := by
  rw [← List.length_eq_zero_iff, sortedBy, List.length_mergeSort, List.length_eq_zero_iff]

lemma key_trans (key : α → β) (a b c : α) (hab : decide (key a ≤ key b) = true)
    (hbc : decide (key b ≤ key c) = true) : decide (key a ≤ key c) = true :=
  decide_eq_true (le_trans (of_decide_eq_true hab) (of_decide_eq_true hbc))

lemma key_total (key : α → β) (a b : α) :
    (decide (key a ≤ key b) || decide (key b ≤ key a)) = true := by
  rcases le_total (key a) (key b) with h | h
  · simp [h]
  · simp [h]

lemma pairwise_sortedBy (key : α → β) (l : List α) :
    (sortedBy key l).Pairwise fun a b => key a ≤ key b :=
  (List.pairwise_mergeSort (key_trans key) (key_total key) l).imp of_decide_eq_true

/-- A list in strict order is what sorting makes of its rearrangements. -/
lemma sortedBy_eq_of_perm {key : α → β} {l l' : List α} (hperm : l.Perm l')
    (h : l'.Pairwise fun a b => key a < key b) : sortedBy key l = l' := by
  have hperm : (sortedBy key l).Perm l' := (List.mergeSort_perm ..).trans hperm
  refine List.Perm.eq_of_pairwise ?_ (pairwise_sortedBy key l) (h.imp le_of_lt) hperm
  intro a b ha hb hab hba
  have hnodup : (l'.map key).Nodup := List.pairwise_map.mpr (h.imp ne_of_lt)
  exact List.inj_on_of_nodup_map hnodup (hperm.subset ha) hb (le_antisymm hab hba)

lemma mem_of_head?_sortedBy {key : α → β} {l : List α} {a : α}
    (h : (sortedBy key l).head? = some a) : a ∈ l :=
  mem_sortedBy.mp (List.mem_of_head? h)

/-- The first element of the sorted list has the least key. -/
lemma le_of_head?_sortedBy {key : α → β} {l : List α} {a b : α}
    (h : (sortedBy key l).head? = some a) (hb : b ∈ l) : key a ≤ key b := by
  have hsorted := pairwise_sortedBy key l
  rcases List.head?_eq_some_iff.mp h with ⟨rest, hrest⟩
  rw [hrest] at hsorted
  have hmem : b ∈ a :: rest := hrest ▸ mem_sortedBy.mpr hb
  rcases List.mem_cons.mp hmem with rfl | hmem
  · exact le_rfl
  · exact List.rel_of_pairwise_cons hsorted hmem

/-- Of the elements with the least key the leftmost comes first. -/
lemma head?_sortedBy_cons {key : α → β} {l : List α} {a : α} (h : ∀ b ∈ l, key a ≤ key b) :
    (sortedBy key (a :: l)).head? = some a := by
  rcases List.mergeSort_cons (key_trans key) (key_total key) a l with ⟨l₁, l₂, hcons, hl, hbefore⟩
  rw [sortedBy, hcons]
  rcases l₁ with _ | ⟨b, l₁⟩
  · rfl
  · have hb : b ∈ l.mergeSort fun a b => decide (key a ≤ key b) := by
      rw [hl]
      exact List.mem_cons_self
    have hb : b ∈ l := List.mem_mergeSort.mp hb
    have hnot := hbefore b List.mem_cons_self
    rw [decide_eq_true (h b hb)] at hnot
    exact absurd hnot (by decide)

lemma head?_sortedBy_of_unique {key : α → β} {l : List α} {a : α} (ha : a ∈ l)
    (h : ∀ b ∈ l, key b ≤ key a → b = a) : (sortedBy key l).head? = some a := by
  rcases hhead : (sortedBy key l).head? with _ | b
  · rw [List.head?_eq_none_iff, sortedBy_eq_nil_iff] at hhead
    exact absurd (hhead ▸ ha) List.not_mem_nil
  · rw [h b (mem_of_head?_sortedBy hhead) (le_of_head?_sortedBy hhead ha)]

/-- **Where minima do not tie, the order of the input does not matter.** -/
lemma head?_sortedBy_perm {key : α → β} {l l' : List α} (hperm : l.Perm l')
    (h : ∀ a ∈ l, ∀ b ∈ l, (∀ c ∈ l, key a ≤ key c) → (∀ c ∈ l, key b ≤ key c) → a = b) :
    (sortedBy key l).head? = (sortedBy key l').head? := by
  rcases hhead : (sortedBy key l).head? with _ | a
  · rw [List.head?_eq_none_iff, sortedBy_eq_nil_iff] at hhead
    subst hhead
    rw [← hperm.nil_eq, sortedBy_eq_nil_iff.mpr rfl]
    rfl
  · have hleast : ∀ c ∈ l, key a ≤ key c := fun c hc => le_of_head?_sortedBy hhead hc
    refine (head?_sortedBy_of_unique (hperm.mem_iff.mp (mem_of_head?_sortedBy hhead)) ?_).symm
    intro b hb hba
    have hb := hperm.mem_iff.mpr hb
    exact h b hb a (mem_of_head?_sortedBy hhead) (fun c hc => hba.trans (hleast c hc)) hleast

/-! ## Sorts that compare -/

/-- What is left of a sort of `n` items: its result, or the next comparison and what follows each
answer. -/
inductive Plan (n : ℕ)
  | done (order : List (Fin n))
  | ask (i j : Fin n) (yes no : Plan n)

variable {n : ℕ}

/-- The result under the answers of `lt`; a comparison without an answer raises. -/
def Plan.run (lt : Fin n → Fin n → Option Bool) : Plan n → Option (List (Fin n))
  | .done order => some order
  | .ask i j yes no =>
      match lt i j with
      | none => none
      | some true => yes.run lt
      | some false => no.run lt

/-- The comparisons of a key. -/
def byKey (key : Fin n → β) (i j : Fin n) : Option Bool := some (decide (key i < key j))

/-- An algorithm that sorts by comparisons, and stably. -/
structure ComparisonSort where
  plan : ∀ n, Plan n
  stable : ∀ {β : Type} [LinearOrder β] (n : ℕ) (key : Fin n → β),
    (plan n).run (byKey key) = some (sortedBy key (List.finRange n))

/-- `lt` has the answers that the key gives, as far as it has any. -/
def Agrees (lt : Fin n → Fin n → Option Bool) (key : Fin n → β) : Prop :=
  ∀ i j b, lt i j = some b → b = decide (key i < key j)

lemma Plan.run_byKey {lt : Fin n → Fin n → Option Bool} {key : Fin n → β} (h : Agrees lt key)
    {p : Plan n} {order : List (Fin n)} (hrun : p.run lt = some order) :
    p.run (byKey key) = some order := by
  induction p with
  | done order' => exact hrun
  | ask i j yes no ihyes ihno =>
      unfold Plan.run at hrun ⊢
      rcases hlt : lt i j with _ | b
      · rw [hlt] at hrun
        exact absurd hrun (by simp)
      · rw [hlt] at hrun
        rw [byKey, ← h i j b hlt]
        cases b with
        | true => exact ihyes hrun
        | false => exact ihno hrun

/-- Where every comparison is answered as the key answers it, the sort is the sort by the key. -/
lemma ComparisonSort.run_of_answers (sort : ComparisonSort) (lt : Fin n → Fin n → Option Bool)
    (key : Fin n → β) (h : ∀ i j, lt i j = byKey key i j) :
    (sort.plan n).run lt = some (sortedBy key (List.finRange n)) := by
  have hlt : lt = byKey key := funext fun i => funext fun j => h i j
  rw [hlt, sort.stable]

/-- **A pair that cannot be ordered is found.**  If the defined comparisons agree with two keys that
order `i` and `j` in opposite ways, then every comparison sort raises: otherwise its result would
be sorted by both keys. -/
theorem ComparisonSort.run_eq_none_of_orders (sort : ComparisonSort)
    {lt : Fin n → Fin n → Option Bool} (key₁ key₂ : Fin n → β) (h₁ : Agrees lt key₁)
    (h₂ : Agrees lt key₂) {i j : Fin n} (hij : key₁ i < key₁ j) (hji : key₂ j < key₂ i) :
    (sort.plan n).run lt = none := by
  rcases hrun : (sort.plan n).run lt with _ | order
  · rfl
  · have hsorted₁ := (Plan.run_byKey h₁ hrun).symm.trans (sort.stable n key₁)
    have hsorted₂ := (Plan.run_byKey h₂ hrun).symm.trans (sort.stable n key₂)
    have hle₁ := pairwise_sortedBy key₁ (List.finRange n)
    have hle₂ := pairwise_sortedBy key₂ (List.finRange n)
    rw [← Option.some.inj hsorted₁] at hle₁
    rw [← Option.some.inj hsorted₂] at hle₂
    have hmem : ∀ k, k ∈ order := fun k => by
      rw [Option.some.inj hsorted₁]
      exact mem_sortedBy.mpr (List.mem_finRange k)
    rcases List.append_of_mem (hmem i) with ⟨before, after, rfl⟩
    rcases List.mem_append.mp (hmem j) with hj | hj
    · exact absurd ((List.pairwise_append.mp hle₁).2.2 j hj i List.mem_cons_self) (not_le.mpr hij)
    · rcases List.mem_cons.mp hj with rfl | hj
      · exact absurd hij (lt_irrefl _)
      · exact absurd (List.rel_of_pairwise_cons (List.pairwise_append.mp hle₂).2.1 hj)
          (not_le.mpr hji)

/-! ## Sorting a list -/

/-- What `sorted` makes of `l` when `lt` compares its items; `none` is an exception. -/
def ComparisonSort.sorted (sort : ComparisonSort) (lt : α → α → Option Bool) (l : List α) :
    Option (List α) :=
  ((sort.plan l.length).run fun i j => lt (l.get i) (l.get j)).map fun order => order.map l.get

/-- A key under which all items can be compared gives the sort by that key. -/
lemma ComparisonSort.sorted_of_key (sort : ComparisonSort) {lt : α → α → Option Bool} {key : α → β}
    {l : List α} (h : ∀ a ∈ l, ∀ b ∈ l, lt a b = some (decide (key a < key b))) :
    sort.sorted lt l = some (sortedBy key l) := by
  have hrun := sort.run_of_answers (fun i j => lt (l.get i) (l.get j)) (fun i => key (l.get i))
    fun i j => h _ (l.get_mem i) _ (l.get_mem j)
  rw [ComparisonSort.sorted, hrun, Option.map_some, sortedBy, sortedBy]
  rw [List.map_mergeSort (s := fun a b => decide (key a ≤ key b)) fun i _ j _ => rfl]
  rw [List.map_get_finRange]

/-- Two keys that agree with the defined comparisons and order some pair in opposite ways: the sort
raises. -/
lemma ComparisonSort.sorted_eq_none (sort : ComparisonSort) {lt : α → α → Option Bool}
    (key₁ key₂ : α → β) {l : List α}
    (h₁ : ∀ a ∈ l, ∀ b ∈ l, ∀ r, lt a b = some r → r = decide (key₁ a < key₁ b))
    (h₂ : ∀ a ∈ l, ∀ b ∈ l, ∀ r, lt a b = some r → r = decide (key₂ a < key₂ b)) {a b : α}
    (ha : a ∈ l) (hb : b ∈ l) (hab : key₁ a < key₁ b) (hba : key₂ b < key₂ a) :
    sort.sorted lt l = none := by
  rcases List.get_of_mem ha with ⟨i, rfl⟩
  rcases List.get_of_mem hb with ⟨j, rfl⟩
  rw [ComparisonSort.sorted]
  rw [sort.run_eq_none_of_orders (fun i => key₁ (l.get i)) (fun i => key₂ (l.get i))
    (fun i j r => h₁ _ (l.get_mem i) _ (l.get_mem j) r)
    (fun i j r => h₂ _ (l.get_mem i) _ (l.get_mem j) r) hab hba]
  rfl

/-! ## Insertion sort -/

/-- Insert `i` before the first item that is not below it. -/
def insertPlan (i : Fin n) : List (Fin n) → (List (Fin n) → Plan n) → Plan n
  | [], next => next [i]
  | j :: rest, next =>
      .ask j i (insertPlan i rest fun order => next (j :: order)) (next (i :: j :: rest))

/-- Sort the items from the last to the first. -/
def insertionPlan : List (Fin n) → (List (Fin n) → Plan n) → Plan n
  | [], next => next []
  | i :: rest, next => insertionPlan rest fun order => insertPlan i order next

lemma run_insertPlan {key : Fin n → β} {i : Fin n} {below above : List (Fin n)}
    (hbelow : ∀ j ∈ below, key j < key i) (habove : ∀ j ∈ above, key i ≤ key j)
    (next : List (Fin n) → Plan n) :
    (insertPlan i (below ++ above) next).run (byKey key) =
      (next (below ++ i :: above)).run (byKey key) := by
  induction below generalizing next with
  | nil =>
      rcases above with _ | ⟨j, above⟩
      · rfl
      · have hle := not_lt.mpr (habove j List.mem_cons_self)
        rw [List.nil_append, List.nil_append, insertPlan, Plan.run, byKey, decide_eq_false hle]
  | cons j below ih =>
      have hlt := hbelow j List.mem_cons_self
      rw [List.cons_append, insertPlan, Plan.run, byKey, decide_eq_true hlt]
      exact ih (fun k hk => hbelow k (List.mem_cons_of_mem j hk)) _

lemma run_insertionPlan (key : Fin n → β) (l : List (Fin n)) (next : List (Fin n) → Plan n) :
    (insertionPlan l next).run (byKey key) = (next (sortedBy key l)).run (byKey key) := by
  induction l generalizing next with
  | nil =>
      rw [insertionPlan, sortedBy, List.mergeSort_nil]
  | cons i l ih =>
      rcases List.mergeSort_cons (key_trans key) (key_total key) i l with
        ⟨below, above, hcons, hl, hbelow⟩
      have hsorted := pairwise_sortedBy key (i :: l)
      rw [insertionPlan, ih, sortedBy, sortedBy, hcons, hl]
      rw [sortedBy, hcons] at hsorted
      refine run_insertPlan (fun j hj => ?_) (fun j hj => ?_) next
      · have hnot := hbelow j hj
        rw [Bool.not_eq_true', decide_eq_false_iff_not] at hnot
        exact not_le.mp hnot
      · exact List.rel_of_pairwise_cons (List.pairwise_append.mp hsorted).2.1 hj

/-- Insertion sort is a comparison sort. -/
def ComparisonSort.insertion : ComparisonSort where
  plan n := insertionPlan (List.finRange n) .done
  stable n key := run_insertionPlan key (List.finRange n) .done

end FwRouter.Sorting
