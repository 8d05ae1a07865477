import FwRouter.Library.Interleave

/-!
# Histories and phases of the calls of a run

The history of a call is the list of the actions it has executed with their replies.  Folding the
moves of a protocol over it gives the phase that the call is in, so that an invariant of a run may
speak of the shared state and of the phases of all calls together.

`step_phaseAt` is the rule for such invariants: a step changes nothing of either, or it executes one
action of one call, in a phase that allows the action, and moves that phase alone.
-/

namespace Interleave

variable {A E σ ε γ C : Type} {R : A → Type}

/-- An action and its reply. -/
abbrev Event (R : A → Type) (ε : Type) : Type := (a : A) × Except ε (R a)

variable (S : System A E σ ε C R)

/-- What a step is for the `i`-th call. -/
def System.eventAt (g : Config σ ε R) (i : ℕ) : Label C E → Option (Event R ε)
  | .call _ => none
  | .run j e =>
      if j = i then
        match g.threads[i]? with
        | some (.act a _) => some ⟨a, (S.exec a e g.state).1⟩
        | _ => none
      else none

/-- The run starts without calls. -/
def System.configAt (s₀ : σ) (labels : List (Label C E)) (n : ℕ) : Config σ ε R :=
  Run.stateAt S.step ⟨s₀, []⟩ labels n

/-- What the `i`-th call has executed in the first `n` steps. -/
def System.historyAt (s₀ : σ) (labels : List (Label C E)) : ℕ → ℕ → List (Event R ε)
  | 0, _ => []
  | n + 1, i => System.historyAt s₀ labels n i ++
      (labels[n]?.bind (S.eventAt (S.configAt s₀ labels n) i)).toList

/-- The phase that a history leads to. -/
def phaseOf (δ : γ → (a : A) → Except ε (R a) → γ) (c₀ : γ) (events : List (Event R ε)) : γ :=
  events.foldl (fun c event => δ c event.1 event.2) c₀

/-- The phases of all calls after the first `n` steps. -/
def System.phaseAt (δ : γ → (a : A) → Except ε (R a) → γ) (c₀ : γ) (s₀ : σ)
    (labels : List (Label C E)) (n i : ℕ) : γ :=
  phaseOf δ c₀ (S.historyAt s₀ labels n i)

section Phases

variable {S} {δ : γ → (a : A) → Except ε (R a) → γ} {G : γ → A → Prop} {c₀ : γ} {s₀ : σ}
variable {Q : γ → Except ε Unit → Prop} {O : C → Prop} {P : σ → List (Prog R ε Unit) → A → Prop}
variable {labels : List (Label C E)}

lemma phaseOf_append (c : γ) (xs ys : List (Event R ε)) :
    phaseOf δ c (xs ++ ys) = phaseOf δ (phaseOf δ c xs) ys :=
  List.foldl_append

lemma guarded_of_along (hrun : Run.Along S.step (Guarded O P) ⟨s₀, []⟩ labels) {n : ℕ}
    {l : Label C E} (hn : labels[n]? = some l) : Guarded O P (S.configAt s₀ labels n) l := by
  refine Run.along_iff_prefix.mp hrun (labels.take n) l ?_
  rw [← Option.toList_some, ← hn, ← List.take_add_one]
  exact List.take_prefix _ _

/-- What a step does to the calls, without their phases. -/
lemma configAt_succ (hrun : Run.Along S.step (Guarded O P) ⟨s₀, []⟩ labels) (n : ℕ) :
    (S.configAt s₀ labels (n + 1) = S.configAt s₀ labels n ∧
      ∀ i, S.historyAt s₀ labels (n + 1) i = S.historyAt s₀ labels n i) ∨
    (∃ c, O c ∧ S.configAt s₀ labels (n + 1) =
        ⟨(S.configAt s₀ labels n).state, (S.configAt s₀ labels n).threads ++ [S.prog c]⟩ ∧
      ∀ i, S.historyAt s₀ labels (n + 1) i = S.historyAt s₀ labels n i) ∨
    ∃ i a k e, labels[n]? = some (.run i e) ∧
      (S.configAt s₀ labels n).threads[i]? = some (.act a k) ∧
      P (S.configAt s₀ labels n).state ((S.configAt s₀ labels n).threads.eraseIdx i) a ∧
      S.configAt s₀ labels (n + 1) = ⟨(S.exec a e (S.configAt s₀ labels n).state).2,
        (S.configAt s₀ labels n).threads.set i (k (S.exec a e (S.configAt s₀ labels n).state).1) ++
          (S.spawn a (S.exec a e (S.configAt s₀ labels n).state).1).map S.prog⟩ ∧
      ∀ j, S.historyAt s₀ labels (n + 1) j = S.historyAt s₀ labels n j ++
        if i = j then [⟨a, (S.exec a e (S.configAt s₀ labels n).state).1⟩] else [] := by
  cases hn : labels[n]? with
  | none =>
      refine Or.inl ⟨Run.stateAt_succ_of_none hn, fun i => ?_⟩
      simp only [System.historyAt, hn, Option.bind_none, Option.toList_none, List.append_nil]
  | some l =>
      have hstep : S.configAt s₀ labels (n + 1) = S.step (S.configAt s₀ labels n) l :=
        Run.stateAt_succ hn
      have hguard := guarded_of_along hrun hn
      cases l with
      | call c =>
          refine Or.inr (Or.inl ⟨c, hguard, hstep, fun i => ?_⟩)
          simp only [System.historyAt, hn, Option.bind_some, System.eventAt, Option.toList_none,
            List.append_nil]
      | run i e =>
          cases hi : (S.configAt s₀ labels n).threads[i]? with
          | none =>
              refine Or.inl ⟨by rw [hstep]; simp [System.step, hi], fun j => ?_⟩
              by_cases hij : i = j
              · subst hij
                simp [System.historyAt, hn, System.eventAt, hi]
              · simp [System.historyAt, hn, System.eventAt, hij]
          | some p =>
              cases p with
              | ret r =>
                  refine Or.inl ⟨by rw [hstep]; simp [System.step, hi], fun j => ?_⟩
                  by_cases hij : i = j
                  · subst hij
                    simp [System.historyAt, hn, System.eventAt, hi]
                  · simp [System.historyAt, hn, System.eventAt, hij]
              | act a k =>
                  have hP : P (S.configAt s₀ labels n).state
                      ((S.configAt s₀ labels n).threads.eraseIdx i) a := by
                    simpa only [Guarded, hi, AtNext] using hguard
                  refine Or.inr (Or.inr ⟨i, a, k, e, rfl, hi, hP, ?_, fun j => ?_⟩)
                  · rw [hstep]
                    simp only [System.step, hi]
                  · by_cases hij : i = j
                    · subst hij
                      simp [System.historyAt, hn, System.eventAt, hi]
                    · simp [System.historyAt, hn, System.eventAt, hij]

/-- Every call keeps to the protocol from the phase that its history has led to; a call that has
not been started has no history. -/
theorem keeps_phaseAt (hO : ∀ c, O c → Keeps δ G Q c₀ (S.prog c))
    (hspawn : ∀ a r, ∀ c ∈ S.spawn a r, O c)
    (hrun : Run.Along S.step (Guarded O P) ⟨s₀, []⟩ labels) (n : ℕ) :
    (∀ i p, (S.configAt s₀ labels n).threads[i]? = some p →
      Keeps δ G Q (S.phaseAt δ c₀ s₀ labels n i) p) ∧
    ∀ i, (S.configAt s₀ labels n).threads.length ≤ i → S.historyAt s₀ labels n i = [] := by
  induction n with
  | zero => exact ⟨fun i p hp => by simp [System.configAt, Run.stateAt] at hp, fun i _ => rfl⟩
  | succ n ih =>
      obtain ⟨hkeeps, hnone⟩ := ih
      rcases configAt_succ hrun n with ⟨hcfg, hhist⟩ | ⟨c, hc, hcfg, hhist⟩ |
        ⟨i, a, k, e, -, hi, -, hcfg, hhist⟩
      · rw [hcfg]
        exact ⟨fun i p hp => by simpa only [System.phaseAt, hhist] using hkeeps i p hp,
          fun i hi => (hhist i).trans (hnone i hi)⟩
      · rw [hcfg]
        refine ⟨fun i p hp => ?_, fun i hi => ?_⟩
        · rw [System.phaseAt, hhist]
          rw [List.getElem?_append] at hp
          split_ifs at hp with hlt
          · exact hkeeps i p hp
          · rw [hnone i (by omega)]
            rw [List.mem_singleton.mp (List.mem_of_getElem? hp)]
            exact hO c hc
        · rw [hhist]
          refine hnone i ?_
          rw [List.length_append] at hi
          omega
      · rw [hcfg]
        have hlen : i < (S.configAt s₀ labels n).threads.length :=
          (List.getElem?_eq_some_iff.mp hi).1
        refine ⟨fun j p hp => ?_, fun j hj => ?_⟩
        · rw [System.phaseAt, hhist, phaseOf_append]
          rw [List.getElem?_append, List.length_set] at hp
          split_ifs at hp with hlt
          · by_cases hij : i = j
            · subst hij
              rw [List.getElem?_set_self hlen] at hp
              cases hp
              rw [if_pos rfl]
              exact (hkeeps i _ hi).2 _
            · rw [List.getElem?_set_ne hij] at hp
              rw [if_neg hij]
              exact hkeeps j p hp
          · have hij : i ≠ j := by omega
            rw [if_neg hij, hnone j (by omega)]
            obtain ⟨c, hc, rfl⟩ := List.mem_map.mp (List.mem_of_getElem? hp)
            exact hO c (hspawn a _ c hc)
        · rw [List.length_append, List.length_set] at hj
          have hij : i ≠ j := by omega
          rw [hhist, if_neg hij, List.append_nil]
          exact hnone j (by omega)

/-- The step at which a call executes an action. -/
theorem run_phaseAt (hO : ∀ c, O c → Keeps δ G Q c₀ (S.prog c))
    (hspawn : ∀ a r, ∀ c ∈ S.spawn a r, O c)
    (hrun : Run.Along S.step (Guarded O P) ⟨s₀, []⟩ labels) {n i : ℕ} {e : E} {a : A}
    {k : Except ε (R a) → Prog R ε Unit} (hn : labels[n]? = some (.run i e))
    (hi : (S.configAt s₀ labels n).threads[i]? = some (.act a k)) :
    P (S.configAt s₀ labels n).state ((S.configAt s₀ labels n).threads.eraseIdx i) a ∧
      G (S.phaseAt δ c₀ s₀ labels n i) a ∧
      (S.configAt s₀ labels (n + 1)).state = (S.exec a e (S.configAt s₀ labels n).state).2 ∧
      S.phaseAt δ c₀ s₀ labels (n + 1) = Function.update (S.phaseAt δ c₀ s₀ labels n) i
        (δ (S.phaseAt δ c₀ s₀ labels n i) a (S.exec a e (S.configAt s₀ labels n).state).1) := by
  have hevent : S.historyAt s₀ labels (n + 1) i ≠ S.historyAt s₀ labels n i := by
    simp [System.historyAt, hn, System.eventAt, hi]
  rcases configAt_succ hrun n with ⟨-, hhist⟩ | ⟨c, -, -, hhist⟩ |
    ⟨i', a', k', e', hn', hi', hP, hcfg, hhist⟩
  · exact absurd (hhist i) hevent
  · exact absurd (hhist i) hevent
  · cases hn.symm.trans hn'
    cases hi.symm.trans hi'
    have hG := ((keeps_phaseAt hO hspawn hrun n).1 i _ hi).1
    refine ⟨hP, hG, by rw [hcfg], funext fun j => ?_⟩
    rw [System.phaseAt, hhist, phaseOf_append]
    by_cases hij : i = j
    · subst hij
      rw [Function.update_self, if_pos rfl]
      rfl
    · rw [Function.update_of_ne (Ne.symm hij), if_neg hij]
      rfl

/-- **What a step does to the state and the phases.** -/
theorem step_phaseAt (hO : ∀ c, O c → Keeps δ G Q c₀ (S.prog c))
    (hspawn : ∀ a r, ∀ c ∈ S.spawn a r, O c)
    (hrun : Run.Along S.step (Guarded O P) ⟨s₀, []⟩ labels) (n : ℕ) :
    ((S.configAt s₀ labels (n + 1)).state = (S.configAt s₀ labels n).state ∧
      S.phaseAt δ c₀ s₀ labels (n + 1) = S.phaseAt δ c₀ s₀ labels n) ∨
    ∃ i a k e, labels[n]? = some (.run i e) ∧
      (S.configAt s₀ labels n).threads[i]? = some (.act a k) ∧
      P (S.configAt s₀ labels n).state ((S.configAt s₀ labels n).threads.eraseIdx i) a ∧
      G (S.phaseAt δ c₀ s₀ labels n i) a ∧
      (S.configAt s₀ labels (n + 1)).state = (S.exec a e (S.configAt s₀ labels n).state).2 ∧
      S.phaseAt δ c₀ s₀ labels (n + 1) = Function.update (S.phaseAt δ c₀ s₀ labels n) i
        (δ (S.phaseAt δ c₀ s₀ labels n i) a (S.exec a e (S.configAt s₀ labels n).state).1) := by
  rcases configAt_succ hrun n with ⟨hcfg, hhist⟩ | ⟨c, -, hcfg, hhist⟩ |
    ⟨i, a, k, e, hn, hi, -, -, -⟩
  · exact Or.inl ⟨by rw [hcfg], funext fun i => by rw [System.phaseAt, hhist, System.phaseAt]⟩
  · exact Or.inl ⟨by rw [hcfg], funext fun i => by rw [System.phaseAt, hhist, System.phaseAt]⟩
  · exact Or.inr ⟨i, a, k, e, hn, hi, run_phaseAt hO hspawn hrun hn hi⟩

/-- The rule for invariants of the state and the phases. -/
theorem invariant_phaseAt {I : σ → (ℕ → γ) → Prop}
    (hO : ∀ c, O c → Keeps δ G Q c₀ (S.prog c)) (hspawn : ∀ a r, ∀ c ∈ S.spawn a r, O c)
    (hstep : ∀ s φ i a e ts, I s φ → G (φ i) a → P s ts a →
      I (S.exec a e s).2 (Function.update φ i (δ (φ i) a (S.exec a e s).1)))
    (hinit : I s₀ fun _ => c₀) (hrun : Run.Along S.step (Guarded O P) ⟨s₀, []⟩ labels) (n : ℕ) :
    I (S.configAt s₀ labels n).state (S.phaseAt δ c₀ s₀ labels n) := by
  induction n with
  | zero => exact hinit
  | succ n ih =>
      rcases step_phaseAt hO hspawn hrun n with ⟨hs, hφ⟩ | ⟨i, a, k, e, -, -, hP, hG, hs, hφ⟩
      · rwa [hs, hφ]
      · rw [hs, hφ]
        exact hstep _ _ i a e _ ih hG hP

end Phases

end Interleave
