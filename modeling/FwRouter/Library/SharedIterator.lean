import Mathlib.Data.List.Basic

/-!
# One iterator, several readers

`any(p(x) for x in it)` reads an iterator up to its first hit and leaves the rest to the next reader.
A loop of such searches over one iterator looks for the wanted elements one behind the other.  The
greedy choice of the first hit is no loss: the loop succeeds exactly if the wanted list is a
subsequence of what the iterator had, repeated elements counted (`foundInTurn_iff`).
-/

namespace FwRouter.SharedIterator

variable {α : Type} [DecidableEq α]

/-- `any(x == wanted for x in it)`: what `it` has left, and `none` if it ran out. -/
def restAfter (wanted : α) : List α → Option (List α)
  | [] => none
  | x :: it => if x = wanted then some it else restAfter wanted it

/-- `all(any(x == w for x in it) for w in wanted)`. -/
def foundInTurn : List α → List α → Bool
  | [], _ => true
  | w :: wanted, it =>
      match restAfter w it with
      | none => false
      | some rest => foundInTurn wanted rest

/-- A search skips what comes before the first hit. -/
lemma restAfter_eq_some {w : α} {it rest : List α} :
    restAfter w it = some rest ↔ ∃ skipped, w ∉ skipped ∧ it = skipped ++ w :: rest := by
  induction it with
  | nil => simp [restAfter]
  | cons x it ih =>
      rw [restAfter]
      by_cases hx : x = w
      · subst hx
        rw [if_pos rfl]
        constructor
        · intro h
          obtain rfl := Option.some.inj h
          exact ⟨[], List.not_mem_nil, rfl⟩
        · rintro ⟨skipped, hskipped, h⟩
          cases skipped with
          | nil => rw [(List.cons.inj h).2]
          | cons y skipped =>
              obtain rfl := (List.cons.inj h).1
              exact absurd List.mem_cons_self hskipped
      · rw [if_neg hx, ih]
        constructor
        · rintro ⟨skipped, hskipped, rfl⟩
          refine ⟨x :: skipped, ?_, rfl⟩
          rw [List.mem_cons, not_or]
          exact ⟨fun h => hx h.symm, hskipped⟩
        · rintro ⟨skipped, hskipped, h⟩
          cases skipped with
          | nil => exact absurd (List.cons.inj h).1 hx
          | cons y skipped =>
              exact ⟨skipped, fun hmem => hskipped (List.mem_cons_of_mem _ hmem), (List.cons.inj h).2⟩

lemma restAfter_eq_none {w : α} {it : List α} : restAfter w it = none ↔ w ∉ it := by
  induction it with
  | nil => simp [restAfter]
  | cons x it ih =>
      rw [restAfter, List.mem_cons, not_or]
      by_cases hx : x = w
      · simp [hx]
      · rw [if_neg hx, ih]
        exact ⟨fun h => ⟨fun hw => hx hw.symm, h⟩, fun h => h.2⟩

omit [DecidableEq α] in
/-- What matches behind elements that are not wanted matches behind the first wanted one. -/
lemma cons_sublist_skipped {w : α} {wanted skipped rest : List α} (h : w ∉ skipped) :
    (w :: wanted).Sublist (skipped ++ w :: rest) ↔ wanted.Sublist rest := by
  induction skipped with
  | nil => exact List.cons_sublist_cons
  | cons x skipped ih =>
      rw [List.mem_cons, not_or] at h
      rw [← ih h.2]
      constructor
      · intro hsub
        cases hsub with
        | cons _ hsub => exact hsub
        | cons_cons _ _ => exact absurd rfl h.1
      · exact fun hsub => hsub.cons x

/-- **The greedy searches find every subsequence.** -/
theorem foundInTurn_iff {wanted it : List α} :
    foundInTurn wanted it = true ↔ wanted.Sublist it := by
  induction wanted generalizing it with
  | nil => simp [foundInTurn]
  | cons w wanted ih =>
      rw [foundInTurn]
      cases hrest : restAfter w it with
      | none =>
          have hnone := restAfter_eq_none.mp hrest
          constructor
          · intro h
            cases h
          · exact fun h => absurd (h.subset List.mem_cons_self) hnone
      | some rest =>
          obtain ⟨skipped, hskipped, rfl⟩ := restAfter_eq_some.mp hrest
          rw [cons_sublist_skipped hskipped]
          exact ih

end FwRouter.SharedIterator
