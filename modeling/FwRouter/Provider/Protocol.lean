import FwRouter.Provider.Recovery

/-!
# The protocol of the recovery calls

What every call of `provider_recovery.py` keeps to, whatever it is answered: a claim takes the next
confirmation of the incident it expects, every other compare-and-set keeps the incident's binding,
its confirmation and its Emergency Direct, only the second confirmation records an unconfirmed
switch, the provider is switched under a claim of the second confirmation and once for it, and an
incident in Emergency Direct is completed after an apply of the VPN path and a probe that both
succeeded, unless the claim took over an incident that already was in Emergency Direct.
-/

namespace FwRouter.Provider

open Py Watchdog Interleave

/-- What a call remembers of its own statements. -/
structure Held where
  /-- The claim of a second confirmation that no switch has used: its binding and its write. -/
  claim : Option ((Option Text × Option Int) × ℕ) := none
  /-- The call has claimed an incident that was in Emergency Direct. -/
  overtook : Bool := false
  /-- The last apply of the VPN path succeeded, and so did the last probe after it. -/
  applied : Bool := false
  verified : Bool := false

def Held.after (c : Held) : (a : Stmt) → Except Empty a.Reply → Held
  | .claimPending expected value, .ok (some n) =>
      { c with
        claim := if value.providerConfirmation = 2 then some (value.key, n) else none
        overtook := expected.any Marker.emergencyDirect }
  | .switchMember .., _ => { c with claim := none }
  | .applyOverride true, .ok ok => { c with applied := ok, verified := false }
  | .probe, .ok ok => { c with verified := c.applied && ok }
  | _, _ => c

/-- A claim takes the next confirmation of the incident of its binding, or the first of a new
one. -/
structure Claims (expected : Option Marker) (value : Marker) : Prop where
  same : ∀ m ∈ expected, m.key = value.key →
    value.providerConfirmation = min 3 (m.providerConfirmation + 1) ∧
      value.switchOutcomeUnconfirmed = m.switchOutcomeUnconfirmed
  new : (∀ m ∈ expected, m.key ≠ value.key) →
    value.providerConfirmation = 1 ∧ value.switchOutcomeUnconfirmed = false

/-- What the other compare-and-sets keep. -/
structure Advances (expected value : Marker) : Prop where
  key : value.key = expected.key
  confirmation : value.providerConfirmation = expected.providerConfirmation
  unconfirmed : value.switchOutcomeUnconfirmed = true →
    expected.switchOutcomeUnconfirmed = true ∨ expected.providerConfirmation = 2
  emergency : expected.emergencyDirect = true → value.emergencyDirect = true

/-- The statements that a call may execute; `ticks` admits the plain writes of a tick. -/
def Allowed (ticks : Bool) (c : Held) : Stmt → Prop
  | .claimPending expected value => Claims expected value
  | .casPending expected value => Advances expected value
  | .completeRecoveryPending expected =>
      expected.emergencyDirect = true → c.verified = true ∨ c.overtook = true
  | .switchMember sourceRef bindingRevision _ n =>
      c.claim = some ((some sourceRef, some bindingRevision), n)
  | .writeCandidate _ => ticks = true
  | .resetCandidate _ => ticks = true
  | _ => True

abbrev KeepsIncident (ticks : Bool) (c : Held) (p : RecoveryProg Unit) : Prop :=
  Keeps Held.after (Allowed ticks) (fun _ _ => True) c p

section Keeps

variable {ticks : Bool} {c : Held}

lemma keeps_perform {ρ : Type} {Q : Held → Except Empty ρ → Prop} {a : Stmt}
    {f : a.Reply → RecoveryProg ρ} (ha : Allowed ticks c a)
    (h : ∀ r, Keeps Held.after (Allowed ticks) Q (c.after a (.ok r)) (f r)) :
    Keeps Held.after (Allowed ticks) Q c (perform a >>= f) := by
  refine ⟨ha, fun r => ?_⟩
  cases r with
  | error e => exact e.elim
  | ok r => exact h r

lemma keeps_ite {ρ : Type} {Q : Held → Except Empty ρ → Prop} {b : Prop} [Decidable b]
    {p p' : RecoveryProg ρ} (h : b → Keeps Held.after (Allowed ticks) Q c p)
    (h' : ¬b → Keeps Held.after (Allowed ticks) Q c p') :
    Keeps Held.after (Allowed ticks) Q c (if b then p else p') := by
  split_ifs with hb
  · exact h hb
  · exact h' hb

/-- A call that returns unless it may go on. -/
lemma keeps_guard {b : Prop} [Decidable b] {p : RecoveryProg Unit}
    (h : ¬b → KeepsIncident ticks c p) : KeepsIncident ticks c (if b then pure () else p) :=
  keeps_ite (fun _ => trivial) h

lemma keeps_lastCas {expected value : Marker} (h : Advances expected value) :
    KeepsIncident ticks c (perform (.casPending expected value) >>= fun _ => pure ()) :=
  keeps_perform h fun _ => trivial

lemma keeps_confirmUnconfirmedSwitch (q : ConfirmationAnswers) (pending : Marker) :
    KeepsIncident ticks c (confirmUnconfirmedSwitch q pending) := by
  refine keeps_guard fun _ => keeps_guard fun _ => keeps_guard fun _ => ?_
  refine keeps_perform trivial fun owned => keeps_guard fun _ => ?_
  refine keeps_perform (a := .casPending _ _) ⟨rfl, rfl, Or.inl, id⟩ fun taken =>
    keeps_guard fun _ => ?_
  cases q.requestedMember with
  | none => exact trivial
  | some requested =>
      cases requested with
      | false => exact keeps_perform trivial fun _ => trivial
      | true =>
          refine keeps_guard fun _ => keeps_guard fun _ => ?_
          refine keeps_perform trivial fun owned => keeps_guard fun _ => ?_
          exact keeps_lastCas ⟨rfl, rfl, fun h => absurd h Bool.false_ne_true, id⟩

lemma keeps_enterEmergencyDirect (guardHeld : Bool) (pending : Marker) :
    KeepsIncident ticks c (enterEmergencyDirect guardHeld pending) := by
  refine keeps_guard fun _ => ?_
  refine keeps_perform trivial fun snapshot => keeps_perform trivial fun current => ?_
  refine keeps_guard fun _ => keeps_guard fun _ => ?_
  refine keeps_perform trivial fun owned => keeps_guard fun _ => ?_
  refine keeps_perform (a := .casPending _ _) ⟨rfl, rfl, Or.inl, fun _ => rfl⟩ fun taken =>
    keeps_guard fun _ => ?_
  refine keeps_perform trivial fun applied => keeps_perform trivial fun current => ?_
  refine keeps_guard fun _ => keeps_ite (fun _ => ?_) fun _ => ?_
  · refine keeps_perform trivial fun owned => keeps_guard fun _ => ?_
    exact keeps_lastCas ⟨rfl, rfl, Or.inl, fun _ => rfl⟩
  · exact keeps_lastCas ⟨rfl, rfl, Or.inl, fun _ => rfl⟩

section Second

variable {Q : Held → Except Empty (Option OperationResult) → Prop} {U : Unicode}
  {q : SwitchAnswers} {now : Instant} {binding : Binding} {pending : Marker} {n : ℕ}
  {evidenceCode : Text}

lemma keeps_recordPolicyDisabled (hQ : ∀ c r, Q c r) : Keeps Held.after (Allowed ticks) Q c
    (recordPolicyDisabled pending >>= fun _ => pure none) := by
  refine ⟨⟨rfl, rfl, Or.inl, id⟩, fun r => ?_⟩
  cases r with
  | error e => exact e.elim
  | ok taken => exact hQ _ _

lemma keeps_switchSelected (hQ : ∀ c r, Q c r)
    (hclaim : c.claim = some ((some binding.sourceRef, some binding.bindingRevision), n)) :
    Keeps Held.after (Allowed ticks) Q c
      (switchSelected U q now binding pending n evidenceCode) := by
  refine keeps_perform trivial fun owned => ?_
  refine keeps_ite (fun _ => hQ _ _) fun _ => keeps_ite (fun _ => hQ _ _) fun _ => ?_
  refine keeps_ite (fun _ => keeps_recordPolicyDisabled hQ) fun _ => ?_
  cases q.selected with
  | none => exact hQ _ _
  | some memberId =>
      refine keeps_perform (a := .switchMember ..) hclaim fun _ => ?_
      cases q.switched with
      | error exc => exact hQ _ _
      | ok result => exact hQ _ _

lemma keeps_switchDown (hQ : ∀ c r, Q c r)
    (hclaim : c.claim = some ((some binding.sourceRef, some binding.bindingRevision), n)) :
    Keeps Held.after (Allowed ticks) Q c
      (switchDown U q now binding pending n evidenceCode) := by
  refine keeps_ite (fun _ => keeps_recordPolicyDisabled hQ) fun _ => ?_
  refine keeps_ite (fun _ => keeps_switchSelected hQ hclaim) fun _ => ?_
  refine keeps_ite (fun _ => keeps_recordPolicyDisabled hQ) fun _ => ?_
  cases q.discovered with
  | error exc => exact hQ _ _
  | ok _ =>
      refine keeps_perform trivial fun owned => keeps_ite (fun _ => hQ _ _) fun _ => ?_
      exact keeps_switchSelected hQ hclaim

lemma keeps_secondConfirmation (hQ : ∀ c r, Q c r)
    (hclaim : c.claim = some ((some binding.sourceRef, some binding.bindingRevision), n)) :
    Keeps Held.after (Allowed ticks) Q c (secondConfirmation U q now binding pending n) := by
  refine keeps_ite (fun _ => keeps_recordPolicyDisabled hQ) fun _ => ?_
  refine keeps_ite (fun _ => hQ _ _) fun _ => ?_
  cases q.status with
  | error exc => exact hQ _ _
  | ok status =>
      refine keeps_perform trivial fun owned => keeps_ite (fun _ => hQ _ _) fun _ => ?_
      refine keeps_ite (fun _ => keeps_switchDown hQ hclaim) fun _ => ?_
      refine keeps_ite (fun _ => keeps_switchDown hQ hclaim) fun _ => ?_
      refine keeps_ite (fun _ => ?_) fun _ => hQ _ _
      cases q.refreshed with
      | error exc => exact hQ _ _
      | ok result => exact hQ _ _

end Second

/-- The outcome of a confirmation keeps the incident; only the second one can leave its switch
unconfirmed. -/
lemma advances_outcomePending (U : Unicode) (binding : Binding) (pending : Marker)
    (result : OperationResult) : Advances pending
      (outcomePending U binding pending pending.providerConfirmation result) := by
  rw [outcomePending]
  by_cases h : result.outcome = some "unconfirmed".toList ∧ pending.providerConfirmation = 2 ∧
      result.mutationAttempted = true
  · rw [if_pos h]
    exact ⟨rfl, rfl, fun _ => Or.inr h.2.1, id⟩
  · rw [if_neg h]
    exact ⟨rfl, rfl, Or.inl, id⟩

lemma keeps_thirdConfirmation (q : RecoverArgs) (pending : Marker)
    (hpending : pending.emergencyDirect = true → c.overtook = true) :
    KeepsIncident ticks c (thirdConfirmation q pending) := by
  refine keeps_guard fun _ => keeps_perform trivial fun reached => ?_
  refine keeps_ite (fun _ => keeps_guard fun _ => ?_) fun _ => keeps_enterEmergencyDirect _ _
  refine keeps_perform trivial fun owned => keeps_guard fun _ => ?_
  exact keeps_perform (a := .completeRecoveryPending _) (fun h => Or.inr (hpending h))
    fun _ => trivial

lemma keeps_confirm (U : Unicode) (q : RecoverArgs) (binding : Binding) (pending : Marker) (n : ℕ)
    (hclaim : pending.providerConfirmation = 2 →
      c.claim = some ((some binding.sourceRef, some binding.bindingRevision), n))
    (hpending : pending.emergencyDirect = true → c.overtook = true) :
    KeepsIncident ticks c (confirm U q binding pending pending.providerConfirmation n) := by
  refine keeps_ite (fun _ => ?_) fun _ => keeps_ite (fun hsecond => ?_) fun _ => ?_
  · exact keeps_lastCas (advances_outcomePending U binding pending _)
  · refine Keeps.bind (keeps_secondConfirmation (fun c r => ?_) (hclaim hsecond))
    cases r with
    | error e => exact e.elim
    | ok result =>
        cases result with
        | none => exact trivial
        | some result => exact keeps_lastCas (advances_outcomePending U binding pending result)
  · exact keeps_thirdConfirmation q pending hpending

/-- What the claim of a call makes of the incident that the call has read. -/
lemma claims_claimedMarker (q : RecoverArgs) (binding : Binding) (previous : Option Marker) :
    Claims previous (claimedMarker q binding (incidentFor binding previous)) := by
  cases previous with
  | none => exact ⟨fun m hm => absurd hm (by simp), fun _ => ⟨rfl, rfl⟩⟩
  | some m =>
      simp only [incidentFor, Option.getD_some]
      split_ifs with h
      · refine ⟨fun m' hm' hkey => ?_, fun _ => ⟨rfl, rfl⟩⟩
        cases hm'
        obtain ⟨hsource, hrevision⟩ := Prod.mk.injEq .. ▸ hkey
        rcases h with h | h
        · exact absurd hsource h
        · exact absurd hrevision h
      · refine ⟨fun m' hm' _ => ?_, fun hne => ?_⟩
        · cases hm'
          exact ⟨rfl, rfl⟩
        · rw [not_or, not_not, not_not] at h
          exact absurd (Prod.ext h.1 h.2) (hne m rfl)

lemma emergency_claimedMarker {q : RecoverArgs} {binding : Binding} {previous : Option Marker}
    (h : (claimedMarker q binding (incidentFor binding previous)).emergencyDirect = true) :
    previous.any Marker.emergencyDirect = true := by
  cases previous with
  | none =>
      simp only [incidentFor, Option.getD_none, claimedMarker] at h
      split_ifs at h
  | some m =>
      simp only [incidentFor, Option.getD_some, claimedMarker] at h
      split_ifs at h
      exact h

lemma keeps_considerIncident (U : Unicode) (q : RecoverArgs) (binding : Binding)
    (previous : Option Marker) : KeepsIncident ticks c (considerIncident U q binding previous) := by
  refine keeps_guard fun _ => ?_
  refine keeps_ite (fun _ => keeps_confirmUnconfirmedSwitch _ _) fun _ => ?_
  refine keeps_guard fun _ => keeps_guard fun _ => ?_
  refine keeps_perform trivial fun current => keeps_guard fun _ => ?_
  refine keeps_perform (a := .claimPending _ _) (claims_claimedMarker q binding previous)
    fun claim => ?_
  cases claim with
  | none => exact trivial
  | some n =>
      refine keeps_confirm U q binding _ n (fun hsecond => ?_) emergency_claimedMarker
      simp only [Held.after, hsecond, if_true]
      rfl

theorem keeps_confirmedProviderRecovery (U : Unicode) (q : RecoverArgs) :
    KeepsIncident ticks c (confirmedProviderRecovery U q) := by
  refine keeps_guard fun _ => ?_
  cases q.binding with
  | none => exact trivial
  | some binding =>
      refine keeps_ite (fun _ => keeps_perform trivial fun _ => trivial) fun _ => ?_
      refine keeps_guard fun _ => keeps_perform trivial fun previous => ?_
      exact keeps_considerIncident U q binding previous

/-! ### Re-entry -/

lemma keeps_restoreDirect {pending claimed : Marker} (h : Advances claimed pending) :
    KeepsIncident ticks c (restoreDirect pending claimed) := by
  have hunconfirmed :
      Advances claimed { pending with phase := some .emergencyDirectUnconfirmed } :=
    ⟨h.key, h.confirmation, h.unconfirmed, h.emergency⟩
  refine keeps_perform trivial fun owned => keeps_guard fun _ => ?_
  refine keeps_perform trivial fun fallback => keeps_ite (fun _ => ?_) fun _ => ?_
  · refine keeps_perform trivial fun owned => keeps_lastCas ?_
    split_ifs
    · exact h
    · exact hunconfirmed
  · exact keeps_lastCas hunconfirmed

lemma keeps_finishReentry {claimed : Marker} (h : c.verified = true) :
    KeepsIncident ticks c (finishReentry claimed) := by
  refine keeps_perform trivial fun owned => keeps_guard fun _ => ?_
  exact keeps_perform (a := .completeRecoveryPending _) (fun _ => Or.inl h) fun _ => trivial

lemma keeps_verifyReentry (q : ReentryArgs) (pending : Marker) :
    KeepsIncident ticks c (verifyReentry q pending) := by
  refine keeps_guard fun _ => keeps_perform trivial fun reached => keeps_guard fun _ => ?_
  refine keeps_perform trivial fun owned => keeps_guard fun _ => ?_
  refine keeps_perform (a := .casPending _ _) ⟨rfl, rfl, Or.inl, id⟩ fun taken =>
    keeps_guard fun _ => ?_
  refine keeps_perform trivial fun applied => keeps_perform trivial fun exactTarget => ?_
  refine keeps_ite (fun _ => keeps_lastCas ⟨rfl, rfl, Or.inl, id⟩) fun _ => ?_
  refine keeps_ite (fun _ => keeps_restoreDirect ⟨rfl, rfl, Or.inl, id⟩) fun happlied => ?_
  refine keeps_perform trivial fun reached => keeps_ite (fun hreached => ?_) fun _ => ?_
  · refine keeps_finishReentry ?_
    have happlied' : applied = true := by simpa using happlied
    simp only [Held.after, happlied', hreached, Bool.and_self]
  · exact keeps_restoreDirect ⟨rfl, rfl, Or.inl, id⟩

lemma keeps_repairDirect (q : ReentryArgs) (pending : Marker) :
    KeepsIncident ticks c (repairDirect q pending) := by
  refine keeps_perform trivial fun owned => keeps_guard fun _ => ?_
  refine keeps_perform trivial fun repaired => keeps_guard fun _ => ?_
  refine keeps_perform trivial fun owned => ?_
  refine keeps_ite (fun _ => keeps_lastCas ⟨rfl, rfl, Or.inl, id⟩) fun _ => ?_
  refine keeps_perform (a := .casPending _ _) ⟨rfl, rfl, Or.inl, id⟩ fun taken => ?_
  exact keeps_guard fun _ => keeps_guard fun _ => keeps_verifyReentry _ _

lemma keeps_reenter (q : ReentryArgs) (pending : Marker) :
    KeepsIncident ticks c (reenter q pending) :=
  keeps_guard fun _ => keeps_guard fun _ =>
    keeps_ite (fun _ => keeps_repairDirect q pending) fun _ => keeps_verifyReentry q pending

theorem keeps_tryVerifiedReentry (q : ReentryArgs) :
    KeepsIncident ticks c (tryVerifiedReentry q) := by
  refine keeps_guard fun _ => keeps_perform trivial fun stored => ?_
  cases emergencyOverride stored with
  | none => exact trivial
  | some pending =>
      refine keeps_guard fun _ => keeps_ite (fun _ => keeps_guard fun _ => ?_) fun _ => ?_
      · refine keeps_perform (a := .casPending _ _) ⟨rfl, rfl, Or.inl, id⟩ fun taken => ?_
        exact keeps_guard fun _ => keeps_reenter q _
      · exact keeps_reenter q pending

/-! ### Ticks -/

lemma keeps_clearRecovered : KeepsIncident true c clearRecovered := by
  refine keeps_perform trivial fun candidate => ?_
  refine keeps_perform (a := .writeCandidate _) rfl fun _ => ?_
  refine keeps_perform trivial fun existing => ?_
  exact ⟨rfl, fun _ => trivial⟩

theorem keeps_watchdogTick (U : Unicode) (t : Tick) : KeepsIncident true c (watchdogTick U t) := by
  refine keeps_perform trivial fun stored => ?_
  cases emergencyOverride stored with
  | some m => exact keeps_ite (fun _ => keeps_tryVerifiedReentry t.reentry) fun _ => trivial
  | none =>
      cases t.signal with
      | none => exact trivial
      | some g =>
          refine keeps_perform trivial fun pending => ?_
          refine keeps_ite (fun _ => keeps_clearRecovered) fun _ => ?_
          cases t.recover with
          | none => exact trivial
          | some q => exact keeps_confirmedProviderRecovery U q

end Keeps

/-- Every call keeps to the protocol; a recovery call never writes the candidate as a whole. -/
theorem keeps_prog (U : Unicode) (call : Call) : KeepsIncident true {} (call.prog U) := by
  cases call with
  | recover q => exact keeps_confirmedProviderRecovery U q
  | tick t => exact keeps_watchdogTick U t

end FwRouter.Provider
