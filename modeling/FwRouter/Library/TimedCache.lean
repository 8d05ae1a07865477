import Mathlib

/-!
# A copy with a deadline

A cache keeps at most one copy of a value that lives elsewhere, and serves the copy instead of the
source until a deadline.  Nothing tells the cache that the source has changed, so a read may answer
with an earlier value; `copy_of_live_uses` says which copies can survive a stretch of time in which
the source is fixed, and `coherent_uses_of_expired` and `coherent_uses_of_drop` when none can.
-/

namespace TimedCache

structure Copy (τ α : Type) where
  value : α
  expiresAt : τ

/-- The clock and the copy. -/
structure Cache (τ α : Type) where
  now : τ
  slot : Option (Copy τ α)

/-- What happens to a cache between two changes of its source. -/
inductive Use (τ : Type)
  | wait (d : τ)
  | read
  | drop
  deriving DecidableEq

variable {τ α : Type}

section Serving

variable [LinearOrder τ]

/-- The copy that would be served. -/
def Cache.live (c : Cache τ α) : Option α :=
  (c.slot.filter fun s => decide (c.now < s.expiresAt)).map Copy.value

/-- **What a read answers** when the source holds `source`. -/
def Cache.served (source : α) (c : Cache τ α) : α := c.live.getD source

/-- A read answers with the source. -/
def Cache.Coherent (source : α) (c : Cache τ α) : Prop := ∀ v ∈ c.live, v = source

lemma served_eq_iff {source : α} {c : Cache τ α} : c.served source = source ↔ c.Coherent source := by
  unfold Cache.served Cache.Coherent
  cases c.live with
  | none => simp
  | some v => simp

end Serving

variable [AddCommMonoid τ] [LinearOrder τ]

/-- A read loads the source where no copy is served; `fits` says which values are kept. -/
def Cache.read (ttl : τ) (fits : α → Bool) (source : α) (c : Cache τ α) : Cache τ α :=
  match c.live with
  | some _ => c
  | none => { c with slot := if fits source then some ⟨source, c.now + ttl⟩ else none }

def Cache.drop (c : Cache τ α) : Cache τ α := { c with slot := none }

def Cache.use (ttl : τ) (fits : α → Bool) (source : α) (c : Cache τ α) : Use τ → Cache τ α
  | .wait d => { c with now := c.now + d }
  | .read => c.read ttl fits source
  | .drop => c.drop

def Cache.uses (ttl : τ) (fits : α → Bool) (source : α) (c : Cache τ α) (us : List (Use τ)) :
    Cache τ α :=
  us.foldl (Cache.use ttl fits source) c

/-- The time that passes. -/
def waited : List (Use τ) → τ
  | [] => 0
  | .wait d :: us => d + waited us
  | .read :: us => waited us
  | .drop :: us => waited us

variable {ttl : τ} {fits : α → Bool} {source : α} {c : Cache τ α}

/-! ## Copies that survive -/

/-- **A copy that is served at the end and is not the source** was there from the start, nothing
dropped it, and its deadline lies after all the waiting. -/
theorem copy_of_live_uses {v : α} {us : List (Use τ)}
    (h : (c.uses ttl fits source us).live = some v) (hv : v ≠ source) :
    Use.drop ∉ us ∧ ∃ s ∈ c.slot, s.value = v ∧ c.now + waited us < s.expiresAt := by
  induction us generalizing c with
  | nil =>
      obtain ⟨s, hs, rfl⟩ := Option.map_eq_some_iff.mp h
      obtain ⟨hs, hnow⟩ := Option.filter_eq_some_iff.mp hs
      have hnow := of_decide_eq_true hnow
      refine ⟨List.not_mem_nil, s, hs, rfl, ?_⟩
      rwa [waited, add_zero]
  | cons u us ih =>
      obtain ⟨hdrop, s, hs, hval, hnow⟩ := ih (c := c.use ttl fits source u) h
      cases u with
      | wait d =>
          refine ⟨by simpa using hdrop, s, hs, hval, ?_⟩
          rwa [waited, ← add_assoc]
      | drop => cases hs
      | read =>
          refine ⟨by simpa using hdrop, s, ?_, hval, ?_⟩
          · unfold Cache.use Cache.read at hs
            cases hlive : c.live with
            | some v => simpa [hlive] using hs
            | none =>
                -- a fresh copy holds the source
                simp only [hlive] at hs
                split_ifs at hs
                · obtain rfl := Option.mem_some_iff.mp hs
                  exact absurd hval.symm hv
                · cases hs
          · have hclock : (c.use ttl fits source .read).now = c.now := by
              unfold Cache.use Cache.read
              cases c.live <;> rfl
            rwa [hclock] at hnow

/-- Reads answer with the source once every copy has run out. -/
theorem coherent_uses_of_expired {us : List (Use τ)}
    (h : ∀ s ∈ c.slot, s.expiresAt ≤ c.now + waited us) :
    (c.uses ttl fits source us).Coherent source := by
  intro v hv
  by_contra hne
  obtain ⟨-, s, hs, -, hnow⟩ := copy_of_live_uses hv hne
  exact absurd hnow (not_lt.mpr (h s hs))

/-- Reads answer with the source once the copy was dropped. -/
theorem coherent_uses_of_drop {us : List (Use τ)} (h : Use.drop ∈ us) :
    (c.uses ttl fits source us).Coherent source := by
  intro v hv
  by_contra hne
  exact (copy_of_live_uses hv hne).1 h

/-! ## Clocks -/

/-- The same cache on a clock that is `d` ahead. -/
def Cache.shift (d : τ) (c : Cache τ α) : Cache τ α where
  now := c.now + d
  slot := c.slot.map fun s => ⟨s.value, s.expiresAt + d⟩

/-- No copy is served for longer than the limit. -/
def Cache.Timely (ttl : τ) (c : Cache τ α) : Prop := ∀ s ∈ c.slot, s.expiresAt ≤ c.now + ttl

variable [IsOrderedCancelAddMonoid τ]

lemma live_shift (d : τ) (c : Cache τ α) : (c.shift d).live = c.live := by
  obtain ⟨now, slot⟩ := c
  cases slot with
  | none => rfl
  | some s => by_cases h : now < s.expiresAt <;> simp [Cache.live, Cache.shift, Option.filter, h]

lemma use_shift (d : τ) (u : Use τ) :
    (c.shift d).use ttl fits source u = (c.use ttl fits source u).shift d := by
  cases u with
  | wait e => simp [Cache.use, Cache.shift, add_right_comm]
  | drop => rfl
  | read =>
      unfold Cache.use Cache.read
      rw [live_shift]
      cases c.live with
      | some v => rfl
      | none => by_cases h : fits source = true <;> simp [Cache.shift, h, add_right_comm]

/-- Only the time that passes matters, not where the clock stands. -/
lemma uses_shift (d : τ) (us : List (Use τ)) :
    (c.shift d).uses ttl fits source us = (c.uses ttl fits source us).shift d := by
  induction us generalizing c with
  | nil => rfl
  | cons u us ih =>
      show ((c.shift d).use ttl fits source u).uses ttl fits source us = _
      rw [use_shift]
      exact ih

lemma served_shift (d : τ) : (c.shift d).served source = c.served source := by
  rw [Cache.served, Cache.served, live_shift]

lemma timely_uses (hpos : ∀ d : τ, 0 ≤ d) (hc : c.Timely ttl) (us : List (Use τ)) :
    (c.uses ttl fits source us).Timely ttl := by
  induction us generalizing c with
  | nil => exact hc
  | cons u us ih =>
      refine ih (c := c.use ttl fits source u) ?_
      intro s hs
      cases u with
      | wait d =>
          calc s.expiresAt ≤ c.now + ttl := hc s hs
            _ ≤ c.now + d + ttl := add_le_add_left (le_add_of_nonneg_right (hpos d)) ttl
      | drop => cases hs
      | read =>
          unfold Cache.use Cache.read at hs ⊢
          cases hlive : c.live with
          | some v =>
              simp only [hlive] at hs ⊢
              exact hc s hs
          | none =>
              simp only [hlive] at hs ⊢
              split_ifs at hs
              · obtain rfl := Option.mem_some_iff.mp hs
                exact le_rfl
              · cases hs

end TimedCache
