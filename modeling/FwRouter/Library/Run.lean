import Mathlib

/-!
# Runs of a state machine

A run folds a step function over a list of labels.  `Along step ok` says that every label of a run
meets a condition on the state it finds; `Along.invariant` is the one induction over runs: what
holds at the start and is kept by every step that meets the condition holds at the end.  The
invariant may speak of the labels executed so far, so that it can relate the present state to the
history that produced it.

A step is often a transaction: a computation that may raise and is then rolled back.
-/

namespace Run

/-! ## Transactions -/

/-- A computation that succeeds has succeeded in its first part. -/
lemma exists_of_bind_eq_ok {ε α β : Type} {x : Except ε α} {f : α → Except ε β} {b : β}
    (h : x >>= f = .ok b) : ∃ a, x = .ok a ∧ f a = .ok b := by
  cases x with
  | error e => cases h
  | ok a => exact ⟨a, rfl, h⟩

lemma bind_eq_ok {ε α β : Type} {x : Except ε α} {f : α → Except ε β} {b : β} :
    x >>= f = .ok b ↔ ∃ a, x = .ok a ∧ f a = .ok b := by
  constructor
  · exact exists_of_bind_eq_ok
  · rintro ⟨a, rfl, h⟩
    exact h

/-- A loop that succeeds has succeeded in its first round. -/
lemma foldlM_cons_eq_ok {ε σ α : Type} {f : σ → α → Except ε σ} {a : α} {as : List α} {s s' : σ} :
    (a :: as).foldlM f s = .ok s' ↔ ∃ m, f s a = .ok m ∧ as.foldlM f m = .ok s' := by
  rw [List.foldlM_cons, bind_eq_ok]

lemma foldlM_append_eq_ok {ε σ α : Type} {f : σ → α → Except ε σ} {as bs : List α} {s s' : σ} :
    (as ++ bs).foldlM f s = .ok s' ↔ ∃ m, as.foldlM f s = .ok m ∧ bs.foldlM f m = .ok s' := by
  rw [List.foldlM_append, bind_eq_ok]

/-- A computation that succeeds has passed its guards. -/
lemma guard_eq_ok {ε α : Type} {p : Prop} [Decidable p] {e : ε} {x : Except ε α} {b : α} :
    (if p then .error e else x) = .ok b ↔ ¬p ∧ x = .ok b := by
  by_cases hp : p
  · simp [hp]
  · simp [hp]

/-- A loop succeeds if every round, from a state with the invariant, succeeds and keeps it. -/
lemma foldlM_eq_ok {ε σ α : Type} {I : σ → Prop} {f : σ → α → Except ε σ} {as : List α} {s : σ}
    (hs : I s) (hround : ∀ a ∈ as, ∀ s, I s → ∃ s', f s a = .ok s' ∧ I s') :
    ∃ s', as.foldlM f s = .ok s' ∧ I s' := by
  induction as generalizing s with
  | nil => exact ⟨s, rfl, hs⟩
  | cons a as ih =>
      obtain ⟨s₁, hfirst, hs₁⟩ := hround a List.mem_cons_self s hs
      obtain ⟨s', hrest, hs'⟩ := ih hs₁ fun b hb => hround b (List.mem_cons_of_mem _ hb)
      refine ⟨s', ?_, hs'⟩
      rw [List.foldlM_cons, hfirst]
      exact hrest

/-- A computation over a list succeeds where it succeeds on each element. -/
lemma mapM_eq_ok {ε α β : Type} {f : α → Except ε β} {as : List α} {bs : List β} :
    as.mapM f = .ok bs ↔ List.Forall₂ (fun a b => f a = .ok b) as bs := by
  induction as generalizing bs with
  | nil =>
      constructor
      · intro h
        obtain rfl := Except.ok.inj h
        exact .nil
      · rintro ⟨⟩
        rfl
  | cons a as ih =>
      rw [List.mapM_cons]
      constructor
      · intro h
        obtain ⟨b, hb, h⟩ := exists_of_bind_eq_ok h
        obtain ⟨bs', hbs, h⟩ := exists_of_bind_eq_ok h
        obtain rfl := Except.ok.inj h
        exact .cons hb (ih.mp hbs)
      · rintro (_ | ⟨hb, hbs⟩)
        rw [hb, ih.mpr hbs]
        rfl

/-- The same for a computation that fails without a reason. -/
lemma mapM_eq_some {α β : Type} {f : α → Option β} {as : List α} {bs : List β} :
    as.mapM f = some bs ↔ List.Forall₂ (fun a b => f a = some b) as bs := by
  induction as generalizing bs with
  | nil =>
      constructor
      · intro h
        obtain rfl := Option.some.inj h
        exact .nil
      · rintro ⟨⟩
        rfl
  | cons a as ih =>
      rw [List.mapM_cons]
      constructor
      · intro h
        obtain ⟨b, hb, h⟩ := Option.bind_eq_some_iff.mp h
        obtain ⟨bs', hbs, h⟩ := Option.bind_eq_some_iff.mp h
        obtain rfl := Option.some.inj h
        exact .cons hb (ih.mp hbs)
      · rintro (_ | ⟨hb, hbs⟩)
        rw [hb, ih.mpr hbs]
        rfl

/-- In two lists related element by element, each result comes from an input. -/
lemma exists_input {α β : Type} {R : α → β → Prop} {as : List α} {bs : List β}
    (h : List.Forall₂ R as bs) {b : β} (hb : b ∈ bs) : ∃ a ∈ as, R a b := by
  induction h with
  | nil => cases hb
  | @cons a b' as bs hab _ ih =>
      rcases List.mem_cons.mp hb with rfl | hb
      · exact ⟨a, List.mem_cons_self, hab⟩
      · obtain ⟨a', ha', hf⟩ := ih hb
        exact ⟨a', List.mem_cons_of_mem _ ha', hf⟩

lemma exists_of_mem_mapM {ε α β : Type} {f : α → Except ε β} {as : List α} {bs : List β}
    (h : as.mapM f = .ok bs) {b : β} (hb : b ∈ bs) : ∃ a ∈ as, f a = .ok b :=
  exists_input (mapM_eq_ok.mp h) hb

/-- The state after a transaction: what it leaves, or the state before it when it raises. -/
def orRollback {ε ρ σ : Type} (f : σ → Except ε (ρ × σ)) (s : σ) : σ :=
  match f s with
  | .ok done => done.2
  | .error _ => s

lemma orRollback_cases {ε ρ σ : Type} (f : σ → Except ε (ρ × σ)) (s : σ) :
    ((∃ e, f s = .error e) ∧ orRollback f s = s) ∨ ∃ r, f s = .ok (r, orRollback f s) := by
  rw [orRollback]
  cases f s with
  | error e => exact Or.inl ⟨⟨e, rfl⟩, rfl⟩
  | ok done => exact Or.inr ⟨done.1, rfl⟩

/-- What a transaction keeps when it succeeds, it keeps. -/
lemma orRollback_keeps {ε ρ σ : Type} {f : σ → Except ε (ρ × σ)} {s : σ} {I : σ → Prop}
    (hs : I s) (hok : ∀ r s', f s = .ok (r, s') → I s') : I (orRollback f s) := by
  rcases orRollback_cases f s with ⟨-, hsame⟩ | ⟨r, hdone⟩
  · rw [hsame]
    exact hs
  · exact hok r _ hdone

/-! ## Runs -/

variable {σ α : Type} {step : σ → α → σ} {ok : σ → α → Prop}

/-- Every label of the run meets `ok` in the state it is executed in. -/
def Along (step : σ → α → σ) (ok : σ → α → Prop) : σ → List α → Prop
  | _, [] => True
  | s, a :: as => ok s a ∧ Along step ok (step s a) as

instance decidableAlong [∀ s a, Decidable (ok s a)] : ∀ s as, Decidable (Along step ok s as)
  | _, [] => isTrue trivial
  | s, a :: as =>
      have := decidableAlong (step s a) as
      inferInstanceAs (Decidable (_ ∧ _))

lemma along_append : ∀ {s : σ} {as bs : List α},
    Along step ok s (as ++ bs) ↔ Along step ok s as ∧ Along step ok (as.foldl step s) bs
  | _, [], _ => by simp [Along]
  | s, a :: as, bs => by simp [Along, along_append, and_assoc]

/-- A run meets the condition if each of its steps does. -/
lemma along_iff_prefix : ∀ {s : σ} {as : List α},
    Along step ok s as ↔ ∀ done a, done ++ [a] <+: as → ok (done.foldl step s) a
  | s, [] => by simp [Along]
  | s, b :: as => by
      rw [Along, along_iff_prefix]
      constructor
      · rintro ⟨hb, hrun⟩ done a hdone
        cases done with
        | nil =>
            obtain rfl : a = b := by simpa using hdone
            exact hb
        | cons c done =>
            obtain ⟨rfl, hrest⟩ := List.cons_prefix_cons.mp hdone
            exact hrun done a hrest
      · intro hall
        exact ⟨hall [] b (by simp), fun done a hdone =>
          hall (b :: done) a (List.cons_prefix_cons.mpr ⟨rfl, hdone⟩)⟩

/-- **The rule for runs.** -/
theorem Along.invariant {I : List α → σ → Prop}
    (hstep : ∀ h s a, I h s → ok s a → I (h ++ [a]) (step s a)) :
    ∀ {as h : List α} {s : σ}, I h s → Along step ok s as → I (h ++ as) (as.foldl step s) := by
  intro as
  induction as with
  | nil =>
      intro h s hinv _
      simpa using hinv
  | cons a as ih =>
      intro h s hinv hrun
      have := ih (hstep h s a hinv hrun.1) hrun.2
      rwa [List.append_assoc] at this

/-- The rule for invariants of the state alone. -/
theorem Along.keeps {I : σ → Prop} (hstep : ∀ s a, I s → ok s a → I (step s a))
    {as : List α} {s : σ} (hs : I s) (hrun : Along step ok s as) : I (as.foldl step s) :=
  Along.invariant (I := fun _ s => I s) (h := []) (fun _ => hstep) hs hrun

/-! ## The states of a run -/

/-- The state after the first `i` labels. -/
def stateAt (step : σ → α → σ) (s₀ : σ) (as : List α) (i : ℕ) : σ := (as.take i).foldl step s₀

variable {s₀ : σ} {as : List α} {i j : ℕ}

lemma stateAt_succ {a : α} (h : as[i]? = some a) :
    stateAt step s₀ as (i + 1) = step (stateAt step s₀ as i) a := by
  rw [stateAt, stateAt, List.take_add_one, h, List.foldl_append]
  rfl

lemma stateAt_succ_of_none (h : as[i]? = none) :
    stateAt step s₀ as (i + 1) = stateAt step s₀ as i := by
  rw [stateAt, stateAt, List.take_add_one, h, Option.toList_none, List.append_nil]

/-- A label of a run meets the condition where it stands. -/
lemma Along.stateAt {a : α} (h : Along step ok s₀ as) (hi : as[i]? = some a) : ok (stateAt step s₀ as i) a := by
  induction as generalizing s₀ i with
  | nil => cases hi
  | cons b as ih =>
      cases i with
      | zero =>
          obtain rfl := Option.some.inj hi
          exact h.1
      | succ i => exact ih h.2 hi

/-- What every label of a stretch keeps holds at its end. -/
theorem stateAt_keeps {I : σ → Prop} (hij : i ≤ j) (hi : I (stateAt step s₀ as i))
    (hstep : ∀ k a, i ≤ k → k < j → as[k]? = some a → I (stateAt step s₀ as k) →
      I (step (stateAt step s₀ as k) a)) : I (stateAt step s₀ as j) := by
  induction j, hij using Nat.le_induction with
  | base => exact hi
  | succ j hij ih =>
      have hj := ih fun k a hik hkj => hstep k a hik (by omega)
      cases hget : as[j]? with
      | none =>
          rw [stateAt_succ_of_none hget]
          exact hj
      | some a =>
          rw [stateAt_succ hget]
          exact hstep j a hij (by omega) hget hj

end Run
