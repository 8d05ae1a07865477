import FwRouter.Library.Run

/-!
# Interleaved calls over a shared state

A call is a program of atomic actions on a state that other calls share.  `Prog` is the program
with its control flow spelled out: the next action and, for every reply the action may give, the
rest of the call.  A reply may be an exception; it ends the call unless the call catches it.

A `System` says what an action does, which program a call runs and which further calls an action
starts.  A label of a run starts a call or lets one call in progress execute its next action, so
that a run is an interleaving of calls, actions being atomic and everything between two actions of
one call being open to the others.

`Keeps` is the reasoning rule for one call: along every path of its program each action stands in a
phase that allows it, a phase being whatever the call remembers of its own actions and replies.
`step_cases` says once what a step of the whole system can do.
-/

namespace Interleave

variable {A E σ ε γ C ρ τ : Type} {R : A → Type}

/-! ## Programs -/

/-- A call in progress. -/
inductive Prog (R : A → Type) (ε ρ : Type) : Type
  | ret (r : Except ε ρ)
  | act (a : A) (k : Except ε (R a) → Prog R ε ρ)

namespace Prog

def bind : Prog R ε ρ → (ρ → Prog R ε τ) → Prog R ε τ
  | .ret (.ok r), f => f r
  | .ret (.error e), _ => .ret (.error e)
  | .act a k, f => .act a fun r => (k r).bind f

instance : Monad (Prog R ε) where
  pure r := .ret (.ok r)
  bind := Prog.bind

/-- Perform one action and reply what it replies. -/
def perform (a : A) : Prog R ε (R a) := .act a .ret

/-- `raise e`. -/
def raise (e : ε) : Prog R ε ρ := .ret (.error e)

/-- `try: p except e: handler(e)`. -/
def tryExcept : Prog R ε ρ → (ε → Prog R ε ρ) → Prog R ε ρ
  | .ret (.ok r), _ => .ret (.ok r)
  | .ret (.error e), h => h e
  | .act a k, h => .act a fun r => (k r).tryExcept h

/-- The action that the call executes next. -/
def next : Prog R ε ρ → Option A
  | .ret _ => none
  | .act a _ => some a

@[simp] lemma pure_def (r : ρ) : (pure r : Prog R ε ρ) = .ret (.ok r) := rfl

@[simp] lemma bind_ok (r : ρ) (f : ρ → Prog R ε τ) : (.ret (.ok r) >>= f) = f r := rfl

@[simp] lemma bind_error (e : ε) (f : ρ → Prog R ε τ) : (.ret (.error e) >>= f) = .ret (.error e) :=
  rfl

@[simp] lemma bind_act (a : A) (k : Except ε (R a) → Prog R ε ρ) (f : ρ → Prog R ε τ) :
    (.act a k >>= f) = .act a fun r => k r >>= f := rfl

/-- Every action that the program may come to perform satisfies `T`. -/
def Only (T : A → Prop) : Prog R ε ρ → Prop
  | .ret _ => True
  | .act a k => T a ∧ ∀ r, (k r).Only T

lemma Only.bind {T : A → Prop} {f : ρ → Prog R ε τ} (hf : ∀ r, (f r).Only T) :
    ∀ {p : Prog R ε ρ}, p.Only T → (p >>= f).Only T := by
  intro p
  induction p with
  | ret r =>
      intro _
      cases r with
      | ok r => exact hf r
      | error e => exact trivial
  | act a k ih =>
      rintro ⟨hT, hk⟩
      exact ⟨hT, fun r => ih r (hk r)⟩

lemma Only.tryExcept {T : A → Prop} {handler : ε → Prog R ε ρ} (hf : ∀ e, (handler e).Only T) :
    ∀ {p : Prog R ε ρ}, p.Only T → (p.tryExcept handler).Only T := by
  intro p
  induction p with
  | ret r =>
      intro _
      cases r with
      | ok r => exact trivial
      | error e => exact hf e
  | act a k ih =>
      rintro ⟨hT, hk⟩
      exact ⟨hT, fun r => ih r (hk r)⟩

lemma Only.perform {T : A → Prop} {a : A} (h : T a) :
    (Prog.perform a : Prog R ε (R a)).Only T :=
  ⟨h, fun _ => trivial⟩

end Prog

/-! ## The protocol of one call -/

section Protocol

variable (δ : γ → (a : A) → Except ε (R a) → γ) (G : γ → A → Prop)

/-- From phase `c` on the program performs an action only in a phase that allows it, and ends
in `Q`.  The phase moves by `δ` with every action and its reply. -/
def Keeps (Q : γ → Except ε ρ → Prop) : γ → Prog R ε ρ → Prop
  | c, .ret r => Q c r
  | c, .act a k => G c a ∧ ∀ r, Keeps Q (δ c a r) (k r)

variable {δ G}

lemma Keeps.mono {Q Q' : γ → Except ε ρ → Prop} (hQ : ∀ c r, Q c r → Q' c r) :
    ∀ {p : Prog R ε ρ} {c : γ}, Keeps δ G Q c p → Keeps δ G Q' c p := by
  intro p
  induction p with
  | ret r =>
      intro c h
      exact hQ c r h
  | act a k ih =>
      rintro c ⟨hG, hk⟩
      exact ⟨hG, fun r => ih r (hk r)⟩

/-- The rule for sequencing: the second part starts in the phase that the first part leaves. -/
lemma Keeps.bind {Q : γ → Except ε τ → Prop} {f : ρ → Prog R ε τ} :
    ∀ {p : Prog R ε ρ} {c : γ},
      Keeps δ G (fun c r => match r with
        | .ok r => Keeps δ G Q c (f r)
        | .error e => Q c (.error e)) c p →
      Keeps δ G Q c (p >>= f) := by
  intro p
  induction p with
  | ret r =>
      intro c h
      cases r with
      | ok r => exact h
      | error e => exact h
  | act a k ih =>
      rintro c ⟨hG, hk⟩
      exact ⟨hG, fun r => ih r (hk r)⟩

lemma Keeps.tryExcept {Q : γ → Except ε ρ → Prop} {handler : ε → Prog R ε ρ} :
    ∀ {p : Prog R ε ρ} {c : γ},
      Keeps δ G (fun c r => match r with
        | .ok r => Q c (.ok r)
        | .error e => Keeps δ G Q c (handler e)) c p →
      Keeps δ G Q c (p.tryExcept handler) := by
  intro p
  induction p with
  | ret r =>
      intro c h
      cases r with
      | ok r => exact h
      | error e => exact h
  | act a k ih =>
      rintro c ⟨hG, hk⟩
      exact ⟨hG, fun r => ih r (hk r)⟩

/-- A program whose actions are allowed in every phase keeps to the protocol. -/
lemma Keeps.of_only {T : A → Prop} {Q : γ → Except ε ρ → Prop} (hT : ∀ c a, T a → G c a)
    (hQ : ∀ c r, Q c r) : ∀ {p : Prog R ε ρ}, p.Only T → ∀ c, Keeps δ G Q c p := by
  intro p
  induction p with
  | ret r => exact fun _ c => hQ c r
  | act a k ih =>
      rintro ⟨ha, hk⟩ c
      exact ⟨hT c a ha, fun r => ih r (hk r) _⟩

end Protocol

/-! ## Interleavings -/

/-- What the actions do, which program a call runs, and which calls an action starts.  `E` is what
the environment decides when an action is executed. -/
structure System (A E σ ε C : Type) (R : A → Type) where
  exec : (a : A) → E → σ → Except ε (R a) × σ
  prog : C → Prog R ε Unit
  spawn : (a : A) → Except ε (R a) → List C

/-- The shared state and the calls in progress. -/
structure Config (σ ε : Type) (R : A → Type) where
  state : σ
  threads : List (Prog R ε Unit)

/-- Start a call, or let the `i`-th call execute its next action. -/
inductive Label (C E : Type)
  | call (c : C)
  | run (i : Nat) (e : E)

variable (S : System A E σ ε C R)

def System.step (g : Config σ ε R) : Label C E → Config σ ε R
  | .call c => { g with threads := g.threads ++ [S.prog c] }
  | .run i e =>
      match g.threads[i]? with
      | some (.act a k) =>
          let done := S.exec a e g.state
          { state := done.2
            threads := g.threads.set i (k done.1) ++ (S.spawn a done.1).map S.prog }
      | _ => g

/-- The condition `P` on the action that a call executes next; a call that is over meets it. -/
def AtNext (P : A → Prop) : Option (Prog R ε ρ) → Prop
  | some (.act a _) => P a
  | some (.ret _) => True
  | none => True

instance {P : A → Prop} [∀ a, Decidable (P a)] : ∀ p : Option (Prog R ε ρ), Decidable (AtNext P p)
  | some (.act a _) => inferInstanceAs (Decidable (P a))
  | some (.ret _) => isTrue trivial
  | none => isTrue trivial

/-- The condition `P` on the state, the other calls in progress and the action that is executed;
`O` on the calls that are started. -/
def Guarded (O : C → Prop) (P : σ → List (Prog R ε Unit) → A → Prop) (g : Config σ ε R) :
    Label C E → Prop
  | .call c => O c
  | .run i _ => AtNext (P g.state (g.threads.eraseIdx i)) g.threads[i]?

instance {O : C → Prop} {P : σ → List (Prog R ε Unit) → A → Prop} [∀ c, Decidable (O c)]
    [∀ s ts a, Decidable (P s ts a)] (g : Config σ ε R) :
    ∀ l : Label C E, Decidable (Guarded O P g l)
  | .call c => inferInstanceAs (Decidable (O c))
  | .run _ _ => inferInstanceAs (Decidable (AtNext _ _))

/-- **What a step can do.**  It leaves everything as it is, or starts a call, or executes the next
action of one call between the calls before and after it. -/
lemma step_cases {S : System A E σ ε C R} {O : C → Prop}
    {P : σ → List (Prog R ε Unit) → A → Prop} {g : Config σ ε R} {l : Label C E}
    (h : Guarded O P g l) :
    S.step g l = g ∨
      (∃ c, l = .call c ∧ O c ∧ S.step g l = ⟨g.state, g.threads ++ [S.prog c]⟩) ∨
      ∃ before a k after e, g.threads = before ++ .act a k :: after ∧
        l = .run before.length e ∧ P g.state (before ++ after) a ∧
        S.step g l = ⟨(S.exec a e g.state).2, before ++ k (S.exec a e g.state).1 :: after ++
          (S.spawn a (S.exec a e g.state).1).map S.prog⟩ := by
  cases l with
  | call c => exact Or.inr (Or.inl ⟨c, rfl, h, rfl⟩)
  | run i e =>
      cases hi : g.threads[i]? with
      | none => exact Or.inl (by simp [System.step, hi])
      | some p =>
          cases p with
          | ret r => exact Or.inl (by simp [System.step, hi])
          | act a k =>
              obtain ⟨hlt, hget⟩ := List.getElem?_eq_some_iff.mp hi
              have hsplit : g.threads = g.threads.take i ++ .act a k :: g.threads.drop (i + 1) := by
                rw [← hget, List.getElem_cons_drop, List.take_append_drop]
              have hlen : (g.threads.take i).length = i := by
                rw [List.length_take]
                omega
              have hP : P g.state (g.threads.eraseIdx i) a := by
                simpa only [Guarded, hi, AtNext] using h
              rw [List.eraseIdx_eq_take_drop_succ] at hP
              refine Or.inr (Or.inr ⟨_, a, k, _, e, hsplit, by rw [hlen], hP, ?_⟩)
              simp only [System.step, hi]
              rw [List.set_eq_take_append_cons_drop, if_pos hlt]

/-- The rule for properties of the shared state alone. -/
theorem invariant_state {I : σ → Prop} {O : C → Prop} {P : σ → List (Prog R ε Unit) → A → Prop}
    (hstep : ∀ s ts a e, I s → P s ts a → I (S.exec a e s).2) {g : Config σ ε R}
    {labels : List (Label C E)} (hg : I g.state)
    (hrun : Run.Along S.step (Guarded O P) g labels) : I (labels.foldl S.step g).state := by
  refine Run.Along.keeps (I := fun g => I g.state) ?_ hg hrun
  intro g l hI hok
  rcases step_cases (S := S) hok with h | ⟨c, -, -, h⟩ | ⟨before, a, k, after, e, -, -, hP, h⟩
  · rwa [h]
  · rwa [h]
  · rw [h]
    exact hstep _ _ _ _ hI hP

end Interleave
