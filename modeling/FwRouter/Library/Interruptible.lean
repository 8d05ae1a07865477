import Mathlib

/-!
# Programs that may be cut off

A program changes a state by one atomic effect after the other.  It may refuse to go on, and it may
be cut off after any of its effects; either way the effects it has had remain.  A `Prog` is therefore
given by what its run from a state shows: the states after each of its effects, and its result, if it
comes to one.

There is one rule for each of the things that are said of a program.  `Safe I p s Q`: whatever state
the run is cut off in satisfies `I`, and a result satisfies `Q`.  `Succeeds p s Q`: the run that is not
cut off comes to a result, which satisfies `Q`.  Both have an equation for every construct, so that they
are computed along the text of a program; a loop has an invariant.
-/

namespace Interruptible

variable {σ α β ι : Type}

/-- What the run of a program shows. -/
structure Trace (σ α : Type) where
  /-- The states after each effect. -/
  visited : List σ
  /-- The result with the last state; `none` where the program has refused to go on. -/
  result : Option (α × σ)

/-- The trace of a first part, followed by the trace of the rest. -/
def Trace.andThen (t : Trace σ α) (f : α → σ → Trace σ β) : Trace σ β :=
  match t.result with
  | none => ⟨t.visited, none⟩
  | some (a, s) => ⟨t.visited ++ (f a s).visited, (f a s).result⟩

def Prog (σ α : Type) : Type := σ → Trace σ α

namespace Prog

protected def pure (a : α) : Prog σ α := fun s => ⟨[], some (a, s)⟩

protected def bind (p : Prog σ α) (f : α → Prog σ β) : Prog σ β := fun s => (p s).andThen f

instance : Monad (Prog σ) where
  pure := Prog.pure
  bind := Prog.bind

/-- Reads the state. -/
def get : Prog σ σ := fun s => ⟨[], some (s, s)⟩

/-- Refuses to go on unless `c` holds. -/
def require (c : Prop) [Decidable c] : Prog σ Unit :=
  fun s => ⟨[], if c then some ((), s) else none⟩

/-- Refuses to go on without a value. -/
def ofOption (o : Option α) : Prog σ α := fun s => ⟨[], o.map fun a => (a, s)⟩

/-- One atomic effect. -/
def effect (f : σ → σ) : Prog σ Unit := fun s => ⟨[f s], some ((), f s)⟩

/-- A part that is run under a condition only. -/
def runIf (c : Prop) [Decidable c] (p : Prog σ Unit) : Prog σ Unit := if c then p else pure ()

/-- One round for every element of a list. -/
def forEach (body : ι → Prog σ Unit) : List ι → Prog σ Unit
  | [] => pure ()
  | i :: is => body i >>= fun _ => forEach body is

/-! ## Running a program -/

lemma run_bind {p : Prog σ α} {f : α → Prog σ β} {a : α} {s t : σ} (hp : p s = ⟨[], some (a, t)⟩) :
    (p >>= f) s = f a t := by
  show (p s).andThen f = f a t
  rw [hp]
  rfl

lemma run_bind_some {p : Prog σ α} {f : α → Prog σ β} {a : α} {s t : σ} {visited : List σ}
    (hp : p s = ⟨visited, some (a, t)⟩) :
    (p >>= f) s = ⟨visited ++ (f a t).visited, (f a t).result⟩ := by
  show (p s).andThen f = _
  rw [hp]
  rfl

/-- Two runs that agree on the first part agree. -/
lemma run_bind_congr {p : Prog σ α} (f : α → Prog σ β) {s t : σ} (hp : p s = p t) :
    (p >>= f) s = (p >>= f) t := by
  show (p s).andThen f = (p t).andThen f
  rw [hp]

lemma run_get (f : σ → Prog σ β) (s : σ) : (get >>= f) s = f s s := rfl

lemma run_effect (f : σ → σ) (g : Unit → Prog σ β) (s : σ) :
    (effect f >>= g) s = ⟨f s :: (g () (f s)).visited, (g () (f s)).result⟩ := rfl

lemma run_ofOption_some {o : Option α} {a : α} (h : o = some a) (f : α → Prog σ β) (s : σ) :
    (ofOption o >>= f) s = f a s := by
  subst h
  rfl

lemma run_ofOption_none {o : Option α} (h : o = none) (f : α → Prog σ β) (s : σ) :
    (ofOption o >>= f) s = ⟨[], none⟩ := by
  subst h
  rfl

lemma run_require (c : Prop) [Decidable c] (f : Unit → Prog σ β) (s : σ) :
    (require c >>= f) s = if c then f () s else ⟨[], none⟩ := by
  by_cases hc : c
  · rw [if_pos hc]
    exact run_bind (congrArg (Trace.mk []) (if_pos hc))
  · rw [if_neg hc]
    show Trace.andThen ⟨[], if c then some ((), s) else none⟩ f = ⟨[], none⟩
    rw [if_neg hc]
    rfl

/-! ## What a run that may be cut off leaves -/

/-- **Safety under interruption.**  Every state in which the run may be cut off after an effect
satisfies `I`, and a result satisfies `Q`. -/
def Safe (I : σ → Prop) (p : Prog σ α) (s : σ) (Q : α → σ → Prop) : Prop :=
  (∀ t ∈ (p s).visited, I t) ∧ ∀ a t, (p s).result = some (a, t) → Q a t

variable {I J : σ → Prop} {s : σ}

@[simp] lemma safe_pure {a : α} {Q : α → σ → Prop} : Safe I (pure a) s Q ↔ Q a s := by
  constructor
  · rintro ⟨-, hQ⟩
    exact hQ a s rfl
  · intro hQ
    refine ⟨fun t ht => absurd ht List.not_mem_nil, ?_⟩
    rintro b t heq
    obtain ⟨rfl, rfl⟩ := Prod.mk.inj (Option.some.inj heq)
    exact hQ

@[simp] lemma safe_bind {p : Prog σ α} {f : α → Prog σ β} {Q : β → σ → Prop} :
    Safe I (p >>= f) s Q ↔ Safe I p s fun a t => Safe I (f a) t Q := by
  have hrun : (p >>= f) s = (p s).andThen f := rfl
  unfold Safe
  rw [hrun]
  unfold Trace.andThen
  rcases hresult : (p s).result with _ | ⟨a, t⟩
  · simp
  · simp only [List.mem_append, Option.some.injEq, Prod.mk.injEq]
    constructor
    · rintro ⟨hI, hQ⟩
      refine ⟨fun u hu => hI u (Or.inl hu), ?_⟩
      rintro b u ⟨rfl, rfl⟩
      exact ⟨fun v hv => hI v (Or.inr hv), hQ⟩
    · rintro ⟨hI, hrest⟩
      obtain ⟨hI', hQ⟩ := hrest a t ⟨rfl, rfl⟩
      exact ⟨fun u hu => hu.elim (hI u) (hI' u), hQ⟩

@[simp] lemma safe_get {Q : σ → σ → Prop} : Safe I get s Q ↔ Q s s :=
  safe_pure (a := s)

@[simp] lemma safe_require {c : Prop} [Decidable c] {Q : Unit → σ → Prop} :
    Safe I (require c) s Q ↔ (c → Q () s) := by
  unfold Safe require
  by_cases hc : c
  · simp only [if_pos hc]
    exact (safe_pure (I := I) (a := ())).trans ⟨fun h _ => h, fun h => h hc⟩
  · simp [hc]

@[simp] lemma safe_ofOption {o : Option α} {Q : α → σ → Prop} :
    Safe I (ofOption o) s Q ↔ ∀ a, o = some a → Q a s := by
  unfold Safe ofOption
  cases o with
  | none => simp
  | some a => simp

@[simp] lemma safe_effect {f : σ → σ} {Q : Unit → σ → Prop} :
    Safe I (effect f) s Q ↔ I (f s) ∧ Q () (f s) := by
  have hunit : (∀ a : Unit, Q a (f s)) ↔ Q () (f s) := ⟨fun h => h (), fun h _ => h⟩
  unfold Safe effect
  simp [hunit]

@[simp] lemma safe_runIf {c : Prop} [Decidable c] {p : Prog σ Unit} {Q : Unit → σ → Prop} :
    Safe I (runIf c p) s Q ↔ (c → Safe I p s Q) ∧ (¬c → Q () s) := by
  unfold runIf
  split_ifs with hc
  · exact ⟨fun h => ⟨fun _ => h, fun h' => absurd hc h'⟩, fun h => h.1 hc⟩
  · exact safe_pure.trans ⟨fun h => ⟨fun h' => absurd h' hc, fun _ => h⟩, fun h => h.2 hc⟩

lemma Safe.mono {p : Prog σ α} {Q Q' : α → σ → Prop} (h : Safe I p s Q)
    (hI : ∀ t, I t → J t) (hQ : ∀ a t, Q a t → Q' a t) : Safe J p s Q' :=
  ⟨fun t ht => hI t (h.1 t ht), fun a t ht => hQ a t (h.2 a t ht)⟩

/-- A loop keeps what every round keeps, and may be cut off in no other state. -/
lemma safe_forEach {body : ι → Prog σ Unit} {is : List ι} (hs : I s)
    (hround : ∀ i ∈ is, ∀ t, I t → Safe I (body i) t fun _ => I) :
    Safe I (forEach body is) s fun _ => I := by
  induction is generalizing s with
  | nil => exact safe_pure.mpr hs
  | cons i is ih =>
      refine safe_bind.mpr ((hround i List.mem_cons_self s hs).mono (fun _ => id) ?_)
      intro _ t ht
      exact ih ht fun j hj => hround j (List.mem_cons_of_mem _ hj)

/-- The same, where the invariant speaks of the elements that are still to come. -/
lemma safe_forEach_rest {body : ι → Prog σ Unit} {R : List ι → σ → Prop}
    (hround : ∀ i is t, R (i :: is) t → Safe I (body i) t fun _ => R is) :
    ∀ {is : List ι} {s : σ}, R is s → Safe I (forEach body is) s fun _ => R []
  | [], _, hs => safe_pure.mpr hs
  | i :: is, s, hs => by
      refine safe_bind.mpr ((hround i is s hs).mono (fun _ => id) ?_)
      intro _ t ht
      exact safe_forEach_rest hround ht

/-! ## What a run that is not cut off achieves -/

/-- **Success.**  The run that is not cut off comes to a result, and the result satisfies `Q`. -/
def Succeeds (p : Prog σ α) (s : σ) (Q : α → σ → Prop) : Prop :=
  ∃ a t, (p s).result = some (a, t) ∧ Q a t

@[simp] lemma succeeds_pure {a : α} {Q : α → σ → Prop} : Succeeds (pure a) s Q ↔ Q a s := by
  constructor
  · rintro ⟨b, t, heq, hQ⟩
    obtain ⟨rfl, rfl⟩ := Prod.mk.inj (Option.some.inj heq)
    exact hQ
  · intro hQ
    exact ⟨a, s, rfl, hQ⟩

@[simp] lemma succeeds_bind {p : Prog σ α} {f : α → Prog σ β} {Q : β → σ → Prop} :
    Succeeds (p >>= f) s Q ↔ Succeeds p s fun a t => Succeeds (f a) t Q := by
  have hrun : (p >>= f) s = (p s).andThen f := rfl
  unfold Succeeds
  rw [hrun]
  unfold Trace.andThen
  rcases hresult : (p s).result with _ | ⟨a, t⟩
  · simp
  · constructor
    · rintro ⟨b, u, heq, hQ⟩
      exact ⟨a, t, rfl, b, u, heq, hQ⟩
    · rintro ⟨a', t', heq, b, u, hrest, hQ⟩
      obtain ⟨rfl, rfl⟩ := Prod.mk.inj (Option.some.inj heq)
      exact ⟨b, u, hrest, hQ⟩

@[simp] lemma succeeds_get {Q : σ → σ → Prop} : Succeeds get s Q ↔ Q s s :=
  succeeds_pure (a := s)

@[simp] lemma succeeds_require {c : Prop} [Decidable c] {Q : Unit → σ → Prop} :
    Succeeds (require c) s Q ↔ c ∧ Q () s := by
  have hunit : (∃ a : Unit, Q a s) ↔ Q () s := ⟨fun ⟨_, h⟩ => h, fun h => ⟨(), h⟩⟩
  unfold Succeeds require
  by_cases hc : c
  · simp [hc, hunit]
  · simp [hc]

@[simp] lemma succeeds_ofOption {o : Option α} {Q : α → σ → Prop} :
    Succeeds (ofOption o) s Q ↔ ∃ a, o = some a ∧ Q a s := by
  unfold Succeeds ofOption
  cases o with
  | none => simp
  | some a => simp

@[simp] lemma succeeds_effect {f : σ → σ} {Q : Unit → σ → Prop} :
    Succeeds (effect f) s Q ↔ Q () (f s) := by
  have hunit : (∃ a : Unit, Q a (f s)) ↔ Q () (f s) := ⟨fun ⟨_, h⟩ => h, fun h => ⟨(), h⟩⟩
  unfold Succeeds effect
  simp [hunit]

@[simp] lemma succeeds_runIf {c : Prop} [Decidable c] {p : Prog σ Unit} {Q : Unit → σ → Prop} :
    Succeeds (runIf c p) s Q ↔ (c → Succeeds p s Q) ∧ (¬c → Q () s) := by
  unfold runIf
  split_ifs with hc
  · exact ⟨fun h => ⟨fun _ => h, fun h' => absurd hc h'⟩, fun h => h.1 hc⟩
  · exact succeeds_pure.trans ⟨fun h => ⟨fun h' => absurd h' hc, fun _ => h⟩, fun h => h.2 hc⟩

lemma Succeeds.mono {p : Prog σ α} {Q Q' : α → σ → Prop} (h : Succeeds p s Q)
    (hQ : ∀ a t, Q a t → Q' a t) : Succeeds p s Q' := by
  obtain ⟨a, t, hresult, hq⟩ := h
  exact ⟨a, t, hresult, hQ a t hq⟩

/-- What is safe and comes to a result satisfies both postconditions. -/
lemma Succeeds.and_safe {p : Prog σ α} {Q Q' : α → σ → Prop} (h : Succeeds p s Q)
    (hsafe : Safe I p s Q') : Succeeds p s fun a t => Q a t ∧ Q' a t := by
  obtain ⟨a, t, hresult, hq⟩ := h
  exact ⟨a, t, hresult, hq, hsafe.2 a t hresult⟩

/-- A loop comes to its end if every round does; the invariant speaks of the elements that are still to
come. -/
lemma succeeds_forEach_rest {body : ι → Prog σ Unit} {R : List ι → σ → Prop}
    (hround : ∀ i is t, R (i :: is) t → Succeeds (body i) t fun _ => R is) :
    ∀ {is : List ι} {s : σ}, R is s → Succeeds (forEach body is) s fun _ => R []
  | [], _, hs => succeeds_pure.mpr hs
  | i :: is, s, hs => by
      refine succeeds_bind.mpr ((hround i is s hs).mono ?_)
      intro _ t ht
      exact succeeds_forEach_rest hround ht

/-- A loop comes to its end if every round does; after the rounds for `done`, the state satisfies
`R done`. -/
lemma succeeds_forEach {body : ι → Prog σ Unit} {R : List ι → σ → Prop} {is : List ι} {done : List ι}
    (hs : R done s)
    (hround : ∀ i ∈ is, ∀ done t, R done t →
      Succeeds (body i) t fun _ u => R (done ++ [i]) u) :
    Succeeds (forEach body is) s fun _ t => R (done ++ is) t := by
  induction is generalizing s done with
  | nil =>
      rw [List.append_nil]
      exact succeeds_pure.mpr hs
  | cons i is ih =>
      refine succeeds_bind.mpr ((hround i List.mem_cons_self done s hs).mono ?_)
      intro _ t ht
      have hrest := ih ht fun j hj => hround j (List.mem_cons_of_mem _ hj)
      rwa [List.append_assoc] at hrest

end Prog

end Interruptible
