import FwRouter.Provider.Switch

/-!
# Leaving Emergency Direct

A tick decides what to do with the incident long before it writes: one that found no Emergency
Direct may come to clear the incident, or to claim a confirmation of it, after another tick has
entered Emergency Direct.  The clearing is a plain read and write, and a claim for another binding
starts a new incident in the place of the stored one, so that either loses the override.

In every interleaving in which no tick is overtaken in this way, Emergency Direct is left by the
completion of a re-entry whose apply of the VPN path and whose probe after it both succeeded.
-/

namespace FwRouter.Provider

open Py Watchdog Interleave

/-- The stored incident is in Emergency Direct. -/
def Store.inEmergencyDirect (s : Store) : Bool := s.incident.any Marker.emergencyDirect

/-- A claim does not expect an incident in Emergency Direct, the clearing of an incident finds none
stored, and a reset finds the incident that it has read. -/
def NotOvertaken (s : Store) (_ : List (RecoveryProg Unit)) : Stmt → Prop
  | .claimPending expected _ => expected.any Marker.emergencyDirect = false
  | .writeCandidate _ => s.inEmergencyDirect = false
  | .resetCandidate preserved => s.incident = preserved.bind Candidate.recoveryPending
  | _ => True

instance (s : Store) (ts : List (RecoveryProg Unit)) : ∀ a, Decidable (NotOvertaken s ts a)
  | .claimPending expected _ =>
      inferInstanceAs (Decidable (expected.any Marker.emergencyDirect = false))
  | .writeCandidate _ => inferInstanceAs (Decidable (s.inEmergencyDirect = false))
  | .resetCandidate preserved =>
      inferInstanceAs (Decidable (s.incident = preserved.bind Candidate.recoveryPending))
  | .switchMember .. => isTrue trivial
  | .getRecoveryPending => isTrue trivial
  | .casPending .. => isTrue trivial
  | .completeRecoveryPending _ => isTrue trivial
  | .contextMatches _ => isTrue trivial
  | .applyOverride _ => isTrue trivial
  | .probe => isTrue trivial
  | .loadCandidate => isTrue trivial

/-! ## What a verified call has done -/

section History

variable {c : Held} {events : List (Event Stmt.Reply Empty)}

lemma applied_after {a : Stmt} {r : Except Empty a.Reply} (h : (c.after a r).applied = true) :
    c.applied = true ∨ (⟨a, r⟩ : Event Stmt.Reply Empty) = ⟨.applyOverride true, .ok true⟩ := by
  cases r with
  | error e => exact e.elim
  | ok r =>
      cases a with
      | claimPending expected value =>
          cases r with
          | none => exact Or.inl h
          | some n => exact Or.inl h
      | applyOverride reentry =>
          cases reentry with
          | false => exact Or.inl h
          | true =>
              obtain rfl : r = true := h
              exact Or.inr rfl
      | _ => exact Or.inl h

lemma verified_after {a : Stmt} {r : Except Empty a.Reply} (h : (c.after a r).verified = true) :
    c.verified = true ∨
      c.applied = true ∧ (⟨a, r⟩ : Event Stmt.Reply Empty) = ⟨.probe, .ok true⟩ := by
  cases r with
  | error e => exact e.elim
  | ok r =>
      cases a with
      | claimPending expected value =>
          cases r with
          | none => exact Or.inl h
          | some n => exact Or.inl h
      | applyOverride reentry =>
          cases reentry with
          | false => exact Or.inl h
          | true => exact absurd h Bool.false_ne_true
      | probe =>
          obtain ⟨happlied, hreached⟩ : c.applied = true ∧ r = true := by
            simpa [Held.after] using h
          subst hreached
          exact Or.inr ⟨happlied, rfl⟩
      | _ => exact Or.inl h

lemma applied_history (h : (phaseOf Held.after {} events).applied = true) :
    ∃ before after, events = before ++ ⟨.applyOverride true, .ok true⟩ :: after := by
  induction events using List.reverseRecOn with
  | nil => exact absurd h Bool.false_ne_true
  | append_singleton events event ih =>
      rw [phaseOf_append] at h
      rcases applied_after h with h | hevent
      · obtain ⟨before, after, rfl⟩ := ih h
        exact ⟨before, after ++ [event], by simp⟩
      · obtain rfl : event = ⟨.applyOverride true, .ok true⟩ := hevent
        exact ⟨events, [], rfl⟩

/-- A call that holds a verification has applied the VPN path and probed it after that. -/
lemma verified_history (h : (phaseOf Held.after {} events).verified = true) :
    ∃ before between after, events = before ++ ⟨.applyOverride true, .ok true⟩ :: between ++
      ⟨.probe, .ok true⟩ :: after := by
  induction events using List.reverseRecOn with
  | nil => exact absurd h Bool.false_ne_true
  | append_singleton events event ih =>
      rw [phaseOf_append] at h
      rcases verified_after h with h | ⟨happlied, hevent⟩
      · obtain ⟨before, between, after, rfl⟩ := ih h
        exact ⟨before, between, after ++ [event], by simp⟩
      · obtain ⟨before, between, rfl⟩ := applied_history happlied
        obtain rfl : event = ⟨.probe, .ok true⟩ := hevent
        exact ⟨before, between, [], rfl⟩

end History

/-! ## One step -/

section Step

variable {s : Store} {φ : ℕ → Held} {i : ℕ} {a : Stmt} {ok : Bool} {ts : List (RecoveryProg Unit)}

/-- No call has claimed an incident that was in Emergency Direct. -/
def NoneOvertook (φ : ℕ → Held) : Prop := ∀ i, (φ i).overtook = false

lemma overtook_after {c : Held} (hc : c.overtook = false) (ha : NotOvertaken s ts a)
    (r : Except Empty a.Reply) : (c.after a r).overtook = false := by
  cases r with
  | error e => exact e.elim
  | ok r =>
      cases a with
      | claimPending expected value =>
          cases r with
          | none => exact hc
          | some n => exact ha
      | applyOverride reentry =>
          cases reentry with
          | false => exact hc
          | true => exact hc
      | _ => exact hc

lemma NoneOvertook.execute (h : NoneOvertook φ) (ha : NotOvertaken s ts a)
    (r : Except Empty a.Reply) : NoneOvertook (Function.update φ i ((φ i).after a r)) := by
  intro j
  by_cases hji : j = i
  · subst hji
    rw [Function.update_self]
    exact overtook_after (h j) ha r
  · rw [Function.update_of_ne hji]
    exact h j

lemma inEmergencyDirect_of_incident {m : Marker} (h : s.incident = some m) :
    s.inEmergencyDirect = m.emergencyDirect := by
  rw [Store.inEmergencyDirect, h, Option.any_some]

/-- The only statement that ends Emergency Direct is the completion of a call that holds a
verification. -/
lemma completes_of_leaves (hφ : NoneOvertook φ) (hallowed : Allowed true (φ i) a)
    (ha : NotOvertaken s ts a) (hbefore : s.inEmergencyDirect = true)
    (hafter : (execute a ok s).2.inEmergencyDirect = false) :
    ∃ claimed, a = .completeRecoveryPending claimed ∧ (φ i).verified = true := by
  -- A statement that leaves the state as it is cannot have ended Emergency Direct.
  have hsame : (execute a ok s).2 ≠ s := by
    intro hs
    rw [hs, hbefore] at hafter
    cases hafter
  cases a with
  | claimPending expected value =>
      rcases execute_claimPending expected value ok s with hfail | ⟨hwas, -⟩
      · exact absurd (by rw [hfail]) hsame
      · rw [Store.inEmergencyDirect, hwas] at hbefore
        exact absurd (hbefore.symm.trans ha) (by simp)
  | casPending expected value =>
      rcases execute_casPending expected value ok s with hfail | ⟨hwas, his, -⟩
      · exact absurd (by rw [hfail]) hsame
      · rw [inEmergencyDirect_of_incident hwas] at hbefore
        rw [inEmergencyDirect_of_incident his, hallowed.emergency hbefore] at hafter
        cases hafter
  | completeRecoveryPending expected =>
      rcases execute_complete expected ok s with hfail | ⟨hwas, -⟩
      · exact absurd (by rw [hfail]) hsame
      · rw [inEmergencyDirect_of_incident hwas] at hbefore
        refine ⟨expected, rfl, ?_⟩
        rcases hallowed hbefore with hverified | hovertook
        · exact hverified
        · rw [hφ i] at hovertook
          cases hovertook
  | writeCandidate candidate => exact absurd (hbefore.symm.trans ha) (by simp)
  | resetCandidate preserved =>
      have hkept : (execute (.resetCandidate preserved) ok s).2.incident = s.incident :=
        Eq.symm ha
      rw [Store.inEmergencyDirect, hkept] at hafter
      exact absurd (hbefore.symm.trans hafter) (by simp)
  | _ => exact absurd rfl hsame

end Step

/-! ## Runs -/

/-- The `n`-th step of the run is the completion of a re-entry that has applied the VPN path and
probed it after that, both with success. -/
def LeftByReentry (U : Unicode) (labels : List (Label Call Bool)) (n : ℕ) : Prop :=
  ∃ i ok claimed, labels[n]? = some (.run i ok) ∧
    ((system U).configAt {} labels n).threads[i]?.bind Prog.next =
      some (.completeRecoveryPending claimed) ∧
    ∃ before between after, (system U).historyAt {} labels n i =
      before ++ ⟨.applyOverride true, .ok true⟩ :: between ++ ⟨.probe, .ok true⟩ :: after

/-- **Emergency Direct is left through a verified re-entry.**  In every interleaving of ticks and
recovery calls in which none is overtaken by an entry into Emergency Direct, the step after which
the stored incident is no longer in Emergency Direct is the completion of a verified re-entry. -/
theorem emergency_direct_left_by_reentry (U : Unicode) (labels : List (Label Call Bool))
    (hrun : Run.Along (system U).step (Guarded (fun _ => True) NotOvertaken) ⟨{}, []⟩ labels)
    (n : ℕ) (hbefore : (storeAt U labels n).inEmergencyDirect = true)
    (hafter : (storeAt U labels (n + 1)).inEmergencyDirect = false) :
    LeftByReentry U labels n := by
  have hkeeps : ∀ call, True → KeepsIncident true {} ((system U).prog call) :=
    fun call _ => keeps_prog U call
  have hspawn : ∀ a r, ∀ c ∈ (system U).spawn a r, True := fun _ _ _ _ => trivial
  have hnone : NoneOvertook (heldAt U labels n) :=
    invariant_phaseAt (I := fun _ φ => NoneOvertook φ) hkeeps hspawn
      (fun s φ i a ok ts h _ ha => h.execute ha _) (fun _ => rfl) hrun n
  rcases step_phaseAt hkeeps hspawn hrun n with ⟨hs, -⟩ |
    ⟨i, a, k, ok, hn, hi, ha, hallowed, hs, -⟩
  · rw [storeAt, hs, hbefore] at hafter
    cases hafter
  · rw [storeAt, hs] at hafter
    obtain ⟨claimed, rfl, hverified⟩ := completes_of_leaves hnone hallowed ha hbefore hafter
    exact ⟨i, ok, claimed, hn, by rw [hi]; rfl, verified_history hverified⟩

/-! ## Two runs -/

def verifiedReentry : ReentryArgs where
  timeoutMs := 5000
  writerGuardHeld := false
  now := 1000000
  exclusivePool := none
  captured _ := true
  prepared := true
  operationId := "op".toList
  startedAt := 1000000

/-- A tick that sees the connection respond, or else confirms a failure of it. -/
def tickOf (responseObserved : Bool) (decisionId : String) : Call := .tick
  { allowSwitch := true
    reentry := verifiedReentry
    signal := some ⟨responseObserved, some decisionId.toList, some "vpn-auto".toList,
      some "provider-group".toList⟩
    recover :=
      match confirmedFailure decisionId with
      | .recover q => some { q with second := { memberDown with status := .ok "unknown".toList } }
      | .tick _ => none }

/-- The first two confirmations. -/
def twiceConfirmed : List (Label Call Bool) :=
  .call (tickOf false "d1") :: proceed 0 6 ++ .call (tickOf false "d2") :: proceed 1 7

/-- The `i`-th call takes the third confirmation, finds no connection and enters Emergency
Direct. -/
def entering (i : ℕ) : List (Label Call Bool) :=
  .call (tickOf false "d3") :: proceed i 5 ++ .run i false :: proceed i 8

/-- Emergency Direct is entered, and the next tick re-enters the VPN path. -/
def reentered : List (Label Call Bool) :=
  twiceConfirmed ++ entering 2 ++ .call (tickOf true "d4") :: proceed 3 10

theorem reentered_left_by_reentry : LeftByReentry .ascii reentered 40 :=
  emergency_direct_left_by_reentry .ascii reentered (by decide +kernel) 40 (by decide +kernel)
    (by decide +kernel)

/-- A tick that found the second confirmation and a response to it is overtaken by the entry into
Emergency Direct and then clears the incident. -/
def clearedAfterEntry : List (Label Call Bool) :=
  twiceConfirmed ++ .call (tickOf true "d4") :: proceed 2 2 ++ entering 3 ++ proceed 2 2

def isCompletion : Option Stmt → Bool
  | some (.completeRecoveryPending _) => true
  | _ => false

theorem cleared_emergency_direct :
    (storeAt .ascii clearedAfterEntry 34).inEmergencyDirect = true ∧
      (storeAt .ascii clearedAfterEntry 35).inEmergencyDirect = false ∧
      ¬LeftByReentry .ascii clearedAfterEntry 34 := by
  refine ⟨by decide +kernel, by decide +kernel, ?_⟩
  rintro ⟨i, ok, claimed, hn, hnext, -⟩
  obtain ⟨rfl, rfl⟩ : 2 = i ∧ true = ok := by
    cases hn
    exact ⟨rfl, rfl⟩
  have hwrite : isCompletion (((system .ascii).configAt {} clearedAfterEntry 34).threads[2]?.bind
      Prog.next) = false := by decide +kernel
  rw [hnext] at hwrite
  cases hwrite

end FwRouter.Provider
