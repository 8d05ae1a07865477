import Mathlib

/-!
# Taking turns

A round robin serves the queues of a list one item at a time, until its room is used up.  An item has
its turn when `turn` others were served (`getElem?_serve`, `turn_of_serve`): the items of the same
index in the earlier queues go first, and those of a smaller index in all.

A cursor goes around the keys of a linear order, from the greatest one back to the least.  Where each
step goes no further than the first key that it leaves out, nothing is overtaken, and as many steps as
there are keys take all of them (`exists_taken`).
-/

namespace FwRouter.Rotation

/-! ## A round robin -/

section RoundRobin

variable {α : Type}

/-- One pass: an item of each queue, while there is room. -/
def pass : ℕ → List (List α) → List α × List (List α)
  | _, [] => ([], [])
  | room, [] :: queues =>
      let (served, rest) := pass room queues
      (served, [] :: rest)
  | 0, (x :: queue) :: queues =>
      let (served, rest) := pass 0 queues
      (served, (x :: queue) :: rest)
  | room + 1, (x :: queue) :: queues =>
      let (served, rest) := pass room queues
      (x :: served, queue :: rest)

/-- The passes; each one that is made uses up room. -/
def serveFrom : ℕ → ℕ → List (List α) → List α
  | 0, _, _ => []
  | fuel + 1, room, queues =>
      if room = 0 ∨ queues.all List.isEmpty then []
      else
        let (served, rest) := pass room queues
        served ++ serveFrom fuel (room - served.length) rest

/-- As many items as there is room for. -/
def serve (room : ℕ) (queues : List (List α)) : List α := serveFrom room room queues

/-- The first items of the queues. -/
def heads (queues : List (List α)) : List α := queues.filterMap List.head?

/-- The item with the index `m` of the queue with the index `i`. -/
def At (queues : List (List α)) (i m : ℕ) (x : α) : Prop :=
  ∃ queue, queues[i]? = some queue ∧ queue[m]? = some x

/-- The number of items that are served before that one. -/
def turn (queues : List (List α)) (i m : ℕ) : ℕ :=
  ((queues.take i).map fun queue => min queue.length (m + 1)).sum +
    ((queues.drop i).map fun queue => min queue.length m).sum

variable {queues : List (List α)} {room fuel i m t : ℕ} {x : α}

@[simp] lemma heads_nil : heads ([] : List (List α)) = [] := rfl

@[simp] lemma heads_cons_nil : heads ([] :: queues) = heads queues := by
  rw [heads, List.filterMap_cons, List.head?_nil, heads]

@[simp] lemma heads_cons_cons {queue : List α} :
    heads ((x :: queue) :: queues) = x :: heads queues := by
  rw [heads, List.filterMap_cons, List.head?_cons, heads]

/-! ### One pass -/

lemma pass_fst (room : ℕ) (queues : List (List α)) : (pass room queues).1 = (heads queues).take room := by
  fun_induction pass room queues with
  | case1 => simp
  | case2 room queues served rest h ih => simpa [h] using ih
  | case3 x queue queues served rest h ih => simpa [h] using ih
  | case4 room x queue queues served rest h ih => simpa [h] using ih

lemma pass_snd (h : (heads queues).length ≤ room) : (pass room queues).2 = queues.map List.tail := by
  fun_induction pass room queues with
  | case1 => rfl
  | case2 room queues served rest hpass ih =>
      rw [hpass] at ih
      simpa using ih (by simpa using h)
  | case3 x queue queues served rest hpass ih => simp at h
  | case4 room x queue queues served rest hpass ih =>
      rw [hpass] at ih
      simpa using ih (by simpa using h)

lemma pass_perm (room : ℕ) (queues : List (List α)) :
    ((pass room queues).1 ++ (pass room queues).2.flatten).Perm queues.flatten := by
  fun_induction pass room queues with
  | case1 => exact List.Perm.refl _
  | case2 room queues served rest h ih => simpa [h] using ih
  | case3 x queue queues served rest h ih =>
      rw [h] at ih
      have hmove : (served ++ (x :: queue ++ rest.flatten)).Perm
          (x :: queue ++ (served ++ rest.flatten)) := by
        rw [← List.append_assoc, ← List.append_assoc]
        exact List.perm_append_comm.append_right _
      simpa using hmove.trans (ih.append_left _)
  | case4 room x queue queues served rest h ih =>
      rw [h] at ih
      have hmove : (served ++ (queue ++ rest.flatten)).Perm (queue ++ (served ++ rest.flatten)) := by
        rw [← List.append_assoc, ← List.append_assoc]
        exact List.perm_append_comm.append_right _
      simpa using hmove.trans (ih.append_left _)

lemma heads_eq_nil_iff : heads queues = [] ↔ queues.all List.isEmpty = true := by
  rw [heads, List.filterMap_eq_nil_iff, List.all_eq_true]
  refine forall₂_congr fun queue _ => ?_
  rw [List.head?_eq_none_iff, List.isEmpty_iff]

/-! ### All passes -/

lemma serveFrom_succ (hroom : room ≠ 0) (hqueues : heads queues ≠ []) :
    serveFrom (fuel + 1) room queues = (pass room queues).1 ++
      serveFrom fuel (room - (pass room queues).1.length) (pass room queues).2 := by
  rw [serveFrom, if_neg]
  rintro (h | h)
  · exact hroom h
  · exact hqueues (heads_eq_nil_iff.mpr h)

lemma serveFrom_nil (h : room = 0 ∨ heads queues = []) : serveFrom fuel room queues = [] := by
  cases fuel with
  | zero => rfl
  | succ fuel => rw [serveFrom, if_pos (h.imp_right heads_eq_nil_iff.mp)]

/-- What is served is a part of the queues: all of them, or as much as there is room for. -/
lemma serveFrom_perm (h : room ≤ fuel) : ∃ rest, (serveFrom fuel room queues ++ rest).Perm queues.flatten ∧
    (rest = [] ∨ (serveFrom fuel room queues).length = room) := by
  induction fuel generalizing room queues with
  | zero => exact ⟨_, List.Perm.refl _, Or.inr (Nat.le_zero.mp h).symm⟩
  | succ fuel ih =>
      by_cases hroom : room = 0
      · rw [serveFrom_nil (Or.inl hroom)]
        exact ⟨_, List.Perm.refl _, Or.inr hroom.symm⟩
      by_cases hqueues : heads queues = []
      · rw [serveFrom_nil (Or.inr hqueues)]
        have hempty : queues.flatten = [] := by
          rw [List.flatten_eq_nil_iff]
          intro queue hqueue
          exact List.isEmpty_iff.mp (List.all_eq_true.mp (heads_eq_nil_iff.mp hqueues) queue hqueue)
        exact ⟨[], by rw [hempty]; exact List.Perm.refl _, Or.inl rfl⟩
      · rw [serveFrom_succ hroom hqueues]
        have hserved := pass_fst room queues
        have hlength : (pass room queues).1.length = min room (heads queues).length := by
          rw [hserved, List.length_take]
        have hpos : 0 < (heads queues).length := List.length_pos_iff.mpr hqueues
        obtain ⟨rest, hperm, hrest⟩ :=
          @ih (pass room queues).2 (room - (pass room queues).1.length) (by omega)
        refine ⟨rest, ?_, hrest.imp_right fun hrest => ?_⟩
        · rw [List.append_assoc]
          exact (hperm.append_left _).trans (pass_perm room queues)
        · rw [List.length_append, hrest]
          omega

lemma serve_perm (room : ℕ) (queues : List (List α)) :
    ∃ rest, (serve room queues ++ rest).Perm queues.flatten ∧
      (rest = [] ∨ (serve room queues).length = room) := serveFrom_perm le_rfl

lemma length_serveFrom_le : (serveFrom fuel room queues).length ≤ room := by
  induction fuel generalizing room queues with
  | zero => exact Nat.zero_le _
  | succ fuel ih =>
      by_cases hnil : room = 0 ∨ heads queues = []
      · rw [serveFrom_nil hnil]
        exact Nat.zero_le _
      · obtain ⟨hroom, hqueues⟩ := not_or.mp hnil
        have hlength : (pass room queues).1.length ≤ room := by
          rw [pass_fst, List.length_take]
          exact min_le_left _ _
        have hrest := @ih (pass room queues).2 (room - (pass room queues).1.length)
        rw [serveFrom_succ hroom hqueues, List.length_append]
        omega

lemma length_serve_le : (serve room queues).length ≤ room := length_serveFrom_le

/-! ### Turns -/

lemma at_zero_cons {queue : List α} : At (queue :: queues) 0 m x ↔ queue[m]? = some x := by
  simp [At]

lemma at_succ_cons {queue : List α} : At (queue :: queues) (i + 1) m x ↔ At queues i m x := by
  simp [At]

lemma at_map_tail : At (queues.map List.tail) i m x ↔ At queues i (m + 1) x := by
  simp [At]

lemma turn_zero : turn queues i 0 = (heads (queues.take i)).length := by
  have hheads : ∀ l : List (List α), (l.map fun queue => min queue.length 1).sum = (heads l).length := by
    intro l
    induction l with
    | nil => rfl
    | cons queue l ih =>
        cases queue with
        | nil => simpa using ih
        | cons x queue =>
            simp only [List.map_cons, List.sum_cons, List.length_cons, heads_cons_cons]
            omega
  have hrest : ((queues.drop i).map fun queue => min queue.length 0).sum = 0 := by simp
  rw [turn, hrest, Nat.add_zero]
  exact hheads _

lemma turn_succ : turn queues i (m + 1) = (heads queues).length + turn (queues.map List.tail) i m := by
  have hpass : ∀ (k : ℕ) (l : List (List α)), (l.map fun queue => min queue.length (k + 1)).sum =
      (heads l).length + ((l.map List.tail).map fun queue => min queue.length k).sum := by
    intro k l
    induction l with
    | nil => rfl
    | cons queue l ih =>
        cases queue with
        | nil => simpa using ih
        | cons x queue =>
            simp only [List.map_cons, List.sum_cons, List.length_cons, heads_cons_cons,
              List.tail_cons] at ih ⊢
            omega
  have hheads : (heads queues).length =
      (heads (queues.take i)).length + (heads (queues.drop i)).length := by
    rw [← List.length_append, heads, heads, heads, ← List.filterMap_append, List.take_append_drop]
  rw [turn, turn, hpass (m + 1) (queues.take i), hpass m (queues.drop i), hheads, ← List.map_take,
    ← List.map_drop]
  omega

lemma getElem?_heads (h : At queues i 0 x) : (heads queues)[turn queues i 0]? = some x := by
  rw [turn_zero]
  induction queues generalizing i with
  | nil => simp [At] at h
  | cons queue queues ih =>
      cases i with
      | zero =>
          cases queue with
          | nil => simp [At] at h
          | cons y queue => simpa [At] using h
      | succ i =>
          have hi := ih (at_succ_cons.mp h)
          cases queue with
          | nil => simpa using hi
          | cons y queue => simpa using hi

lemma turn_of_heads (h : (heads queues)[t]? = some x) : ∃ i, At queues i 0 x ∧ turn queues i 0 = t := by
  simp only [turn_zero]
  induction queues generalizing t with
  | nil => simp at h
  | cons queue queues ih =>
      cases queue with
      | nil =>
          rw [heads_cons_nil] at h
          rcases ih h with ⟨i, hat, hturn⟩
          exact ⟨i + 1, at_succ_cons.mpr hat, by simpa using hturn⟩
      | cons y queue =>
          rw [heads_cons_cons] at h
          cases t with
          | zero => exact ⟨0, at_zero_cons.mpr (by simpa using h), rfl⟩
          | succ t =>
              rcases ih (by simpa using h) with ⟨i, hat, hturn⟩
              exact ⟨i + 1, at_succ_cons.mpr hat, by simpa using hturn⟩

/-- A pass for which there is room serves the first items, and the others are served after it. -/
lemma serveFrom_of_room (hroom : (heads queues).length ≤ room) (hqueues : heads queues ≠ []) :
    serveFrom (fuel + 1) room queues =
      heads queues ++ serveFrom fuel (room - (heads queues).length) (queues.map List.tail) := by
  have hpos : 0 < (heads queues).length := List.length_pos_iff.mpr hqueues
  rw [serveFrom_succ (by omega) hqueues, pass_fst, pass_snd hroom, List.take_of_length_le hroom]

/-- A pass that uses up the room is the last one. -/
lemma serveFrom_of_full (hroom : room < (heads queues).length) :
    serveFrom (fuel + 1) room queues = (heads queues).take room := by
  by_cases hzero : room = 0
  · rw [serveFrom_nil (Or.inl hzero), hzero, List.take_zero]
  · have hqueues : heads queues ≠ [] := List.ne_nil_of_length_pos (by omega)
    have hlength : (pass room queues).1.length = room := by
      rw [pass_fst, List.length_take]
      omega
    rw [serveFrom_succ hzero hqueues, hlength, Nat.sub_self, serveFrom_nil (Or.inl rfl),
      List.append_nil, pass_fst]

lemma getElem?_serveFrom (hfuel : room ≤ fuel) (h : At queues i m x) (hturn : turn queues i m < room) :
    (serveFrom fuel room queues)[turn queues i m]? = some x := by
  induction fuel generalizing room queues m with
  | zero => omega
  | succ fuel ih =>
      by_cases hroom : room < (heads queues).length
      · rw [serveFrom_of_full hroom, List.getElem?_take_of_lt hturn]
        cases m with
        | zero => exact getElem?_heads h
        | succ m =>
            rw [turn_succ] at hturn
            omega
      · have hqueues : heads queues ≠ [] := by
          intro hnil
          rcases h with ⟨queue, hqueue, hx⟩
          have hempty := List.all_eq_true.mp (heads_eq_nil_iff.mp hnil) queue
            (List.mem_of_getElem? hqueue)
          rw [List.isEmpty_iff.mp hempty] at hx
          simp at hx
        have hpos : 0 < (heads queues).length := List.length_pos_iff.mpr hqueues
        rw [serveFrom_of_room (not_lt.mp hroom) hqueues]
        cases m with
        | zero =>
            have hx := getElem?_heads h
            rw [List.getElem?_append_left (List.getElem?_eq_some_iff.mp hx).1, hx]
        | succ m =>
            rw [turn_succ] at hturn ⊢
            rw [List.getElem?_append_right (Nat.le_add_right _ _), Nat.add_sub_cancel_left]
            exact ih (by omega) (at_map_tail.mpr h) (by omega)

lemma turn_of_serveFrom (h : (serveFrom fuel room queues)[t]? = some x) :
    ∃ i m, At queues i m x ∧ turn queues i m = t := by
  induction fuel generalizing room queues t with
  | zero => simp [serveFrom] at h
  | succ fuel ih =>
      by_cases hroom : room < (heads queues).length
      · rw [serveFrom_of_full hroom, List.getElem?_take] at h
        split_ifs at h
        rcases turn_of_heads h with ⟨i, hat, hturn⟩
        exact ⟨i, 0, hat, hturn⟩
      · by_cases hqueues : heads queues = []
        · rw [serveFrom_nil (Or.inr hqueues)] at h
          simp at h
        · rw [serveFrom_of_room (not_lt.mp hroom) hqueues] at h
          by_cases ht : t < (heads queues).length
          · rw [List.getElem?_append_left ht] at h
            rcases turn_of_heads h with ⟨i, hat, hturn⟩
            exact ⟨i, 0, hat, hturn⟩
          · rw [List.getElem?_append_right (not_lt.mp ht)] at h
            rcases ih h with ⟨i, m, hat, hturn⟩
            refine ⟨i, m + 1, at_map_tail.mp hat, ?_⟩
            rw [turn_succ, hturn]
            omega

/-- **An item whose turn comes while there is room** is served at its turn. -/
theorem getElem?_serve (h : At queues i m x) (hturn : turn queues i m < room) :
    (serve room queues)[turn queues i m]? = some x := getElem?_serveFrom le_rfl h hturn

/-- **Whatever is served** is served at its turn. -/
theorem turn_of_serve (h : (serve room queues)[t]? = some x) :
    ∃ i m, At queues i m x ∧ turn queues i m = t := turn_of_serveFrom h

lemma turn_lt (h : At queues i m x) : turn queues i m < queues.flatten.length := by
  rcases h with ⟨queue, hqueue, hx⟩
  have hle : ∀ (k : ℕ) (l : List (List α)),
      (l.map fun queue => min queue.length k).sum ≤ (l.map List.length).sum := fun k l =>
    List.sum_le_sum fun queue _ => min_le_left _ _
  have hm : m < queue.length := (List.getElem?_eq_some_iff.mp hx).1
  have hdrop : queues.drop i = queue :: queues.drop (i + 1) := by
    obtain ⟨hi, rfl⟩ := List.getElem?_eq_some_iff.mp hqueue
    exact List.drop_eq_getElem_cons hi
  have hsplit : queues.flatten.length =
      ((queues.take i).map List.length).sum + ((queues.drop i).map List.length).sum := by
    rw [List.length_flatten, ← List.sum_append, ← List.map_append, List.take_append_drop]
  rw [turn, hsplit, hdrop]
  simp only [List.map_cons, List.sum_cons]
  have hbefore := hle (m + 1) (queues.take i)
  have hafter := hle m (queues.drop (i + 1))
  omega

end RoundRobin

/-! ## A cursor -/

section Cursor

variable {κ : Type} [LinearOrder κ] {c c' x y : κ}

/-- Counting on from `c`, `x` comes before `y`: the keys up to `c` come last. -/
def Ahead (c x y : κ) : Prop := (c < x ∧ y ≤ c) ∨ ((c < x ↔ c < y) ∧ x < y)

instance (c x y : κ) : Decidable (Ahead c x y) := inferInstanceAs (Decidable (_ ∨ _))

lemma Ahead.irrefl : ¬ Ahead c x x := by
  rintro (⟨hlt, hle⟩ | ⟨-, hlt⟩)
  · exact absurd hlt (not_lt.mpr hle)
  · exact lt_irrefl x hlt

lemma Ahead.not_cursor : ¬ Ahead c c x := by
  rintro (⟨hlt, -⟩ | ⟨hiff, hlt⟩)
  · exact lt_irrefl c hlt
  · exact lt_irrefl c (hiff.mpr hlt)

/-- What comes before `x` from a later cursor that has not passed `x` did so before. -/
lemma Ahead.of_later (hcursor : Ahead c c' x) (h : Ahead c' y x) : Ahead c y x := by
  unfold Ahead at *
  grind

/-- **Where nothing is overtaken** all keys are taken: a cursor that moves to one of them, and stays
ahead of each one that it leaves out, has as many steps as there are keys to take them all. -/
theorem exists_taken (keys : Finset κ) (cursor : ℕ → κ) (taken : ℕ → κ → Prop)
    (hmem : ∀ k < keys.card, cursor (k + 1) ∈ keys)
    (hkeep : ∀ k < keys.card, ∀ y ∈ keys, ¬ taken k y → Ahead (cursor k) (cursor (k + 1)) y)
    (hx : x ∈ keys) : ∃ k < keys.card, taken k x := by
  by_contra hnever
  push Not at hnever
  -- the keys before `x` get fewer with every step
  have hfewer : ∀ k ≤ keys.card, (keys.filter fun y => Ahead (cursor k) y x).card + k < keys.card := by
    intro k
    induction k with
    | zero =>
        intro _
        refine Finset.card_lt_card (Finset.filter_ssubset.mpr ⟨x, hx, Ahead.irrefl⟩)
    | succ k ih =>
        intro hk
        have hahead := hkeep k hk x hx (hnever k hk)
        have hless : (keys.filter fun y => Ahead (cursor (k + 1)) y x).card <
            (keys.filter fun y => Ahead (cursor k) y x).card := by
          refine Finset.card_lt_card (Finset.ssubset_iff_of_subset (fun y hy => ?_) |>.mpr
            ⟨cursor (k + 1), ?_, ?_⟩)
          · rw [Finset.mem_filter] at hy ⊢
            exact ⟨hy.1, hahead.of_later hy.2⟩
          · exact Finset.mem_filter.mpr ⟨hmem k hk, hahead⟩
          · exact fun hin => Ahead.not_cursor (Finset.mem_filter.mp hin).2
        have := ih (Nat.le_of_succ_le hk)
        omega
  have := hfewer keys.card le_rfl
  omega

end Cursor

end FwRouter.Rotation
