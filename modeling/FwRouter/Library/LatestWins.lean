import Mathlib

/-!
# Latest-wins registers

A register holds the entry with the greatest stamp that it was offered, and of the entries with that
stamp the one that was offered last: an entry replaces the held one if its stamp is not below.
-/

namespace LatestWins

variable {α β : Type} [LinearOrder β] (stamp : α → β)

/-- The register after an offer. -/
def offer (held : Option α) (a : α) : Option α :=
  match held with
  | none => some a
  | some b => if stamp b ≤ stamp a then some a else some b

/-- `a` is the last entry of `as` among those with the greatest stamp. -/
structure Latest (as : List α) (a : α) : Prop where
  greatest : ∀ b ∈ as, stamp b ≤ stamp a
  last : (as.filter fun b => stamp b = stamp a).getLast? = some a

variable {stamp}

lemma Latest.mem {as : List α} {a : α} (h : Latest stamp as a) : a ∈ as :=
  (List.mem_filter.mp (List.mem_of_getLast? h.last)).1

lemma Latest.snoc_of_le {as : List α} {a b : α} (h : Latest stamp as b) (hle : stamp b ≤ stamp a) :
    Latest stamp (as ++ [a]) a := by
  constructor
  · intro c hc
    rcases List.mem_append.mp hc with hc | hc
    · exact (h.greatest c hc).trans hle
    · rw [List.mem_singleton.mp hc]
  · rw [List.filter_append, List.getLast?_append]
    simp

lemma Latest.snoc_of_lt {as : List α} {a b : α} (h : Latest stamp as b) (hlt : stamp a < stamp b) :
    Latest stamp (as ++ [a]) b := by
  constructor
  · intro c hc
    rcases List.mem_append.mp hc with hc | hc
    · exact h.greatest c hc
    · rw [List.mem_singleton.mp hc]
      exact hlt.le
  · rw [List.filter_append, List.getLast?_append, h.last]
    simp [hlt.ne]

lemma offer_ne_none (held : Option α) (a : α) : offer stamp held a ≠ none := by
  unfold offer
  split
  · simp
  · split_ifs <;> simp

lemma eq_nil_of_offers {as : List α} (h : as.foldl (offer stamp) none = none) : as = [] := by
  cases as using List.reverseRecOn with
  | nil => rfl
  | append_singleton as a =>
      rw [List.foldl_append] at h
      exact absurd h (offer_ne_none _ a)

/-- **The register holds the latest of its offers.** -/
theorem latest_of_offers {as : List α} {a : α} (h : as.foldl (offer stamp) none = some a) :
    Latest stamp as a := by
  induction as using List.reverseRecOn generalizing a with
  | nil => cases h
  | append_singleton as b ih =>
      rw [List.foldl_append] at h
      cases hheld : as.foldl (offer stamp) none with
      | none =>
          rw [hheld] at h
          obtain rfl := Option.some.inj h
          rw [eq_nil_of_offers hheld]
          exact ⟨by simp, by simp⟩
      | some c =>
          rw [hheld] at h
          simp only [List.foldl_cons, List.foldl_nil, offer] at h
          split at h
          · rename_i hle
            obtain rfl := Option.some.inj h
            exact (ih hheld).snoc_of_le hle
          · rename_i hlt
            obtain rfl := Option.some.inj h
            exact (ih hheld).snoc_of_lt (not_le.mp hlt)

end LatestWins
