import FwRouter.Provider.Protocol

/-!
# One provider switch per incident

A call switches the provider's member under a claim of the second confirmation, and an incident has
one second confirmation.  But the claim and the context are checked before the switch is called, and
the switch is called outside the writer guard: a call that pauses there may be overtaken by the
third confirmation of its incident, by the completion of that incident and by the second
confirmation of the next one, and then switches for an incident that is not its own.

In every interleaving in which no call is overtaken between its claim and its switch, two switches
for one binding are separated by a moment at which there is no incident for it, and no switch is
called while the stored incident has an unconfirmed one.
-/

namespace FwRouter.Provider

open Py Watchdog Interleave

/-! ## Runs -/

/-- The calls of `confirmed_provider_recovery`. -/
def IsRecovery : Call → Prop
  | .recover _ => True
  | .tick _ => False

instance : ∀ call, Decidable (IsRecovery call)
  | .recover _ => isTrue trivial
  | .tick _ => isFalse id

/-- When a switch is called, the last write of the incident is the call's claim. -/
def SwitchesOwnClaim (s : Store) (_ : List (RecoveryProg Unit)) : Stmt → Prop
  | .switchMember _ _ _ n => s.writes = n
  | _ => True

instance (s : Store) (ts : List (RecoveryProg Unit)) : ∀ a, Decidable (SwitchesOwnClaim s ts a)
  | .switchMember _ _ _ n => inferInstanceAs (Decidable (s.writes = n))
  | .getRecoveryPending => isTrue trivial
  | .claimPending .. => isTrue trivial
  | .casPending .. => isTrue trivial
  | .completeRecoveryPending _ => isTrue trivial
  | .contextMatches _ => isTrue trivial
  | .applyOverride _ => isTrue trivial
  | .probe => isTrue trivial
  | .loadCandidate => isTrue trivial
  | .writeCandidate _ => isTrue trivial
  | .resetCandidate _ => isTrue trivial

/-- The states of a run that starts with nothing stored. -/
abbrev storeAt (U : Unicode) (labels : List (Label Call Bool)) (n : ℕ) : Store :=
  ((system U).configAt {} labels n).state

/-- The binding for which the `n`-th step of a run calls the switch. -/
def switchedAt (U : Unicode) (labels : List (Label Call Bool)) (n : ℕ) : Option (Text × Int) :=
  match labels[n]? with
  | some (.run i _) =>
      match ((system U).configAt {} labels n).threads[i]?.bind Prog.next with
      | some (.switchMember sourceRef bindingRevision _ _) => some (sourceRef, bindingRevision)
      | _ => none
  | _ => none

/-- There is no incident for the binding. -/
def Store.Absent (s : Store) (key : Text × Int) : Prop :=
  ∀ m ∈ s.incident, m.key ≠ (some key.1, some key.2)

instance (s : Store) (key : Text × Int) : Decidable (s.Absent key) :=
  inferInstanceAs (Decidable (∀ m ∈ s.incident, _))

/-! ## The invariant -/

/-- An incident whose switch is unconfirmed has had its second confirmation; a claim that no switch
has used is unique, and while nothing has been written after it, its incident is stored. -/
structure ClaimsHeld (s : Store) (φ : ℕ → Held) : Prop where
  unconfirmed : ∀ m ∈ s.incident, m.switchOutcomeUnconfirmed = true → 2 ≤ m.providerConfirmation
  past : ∀ i K n, (φ i).claim = some (K, n) → n ≤ s.writes
  stored : ∀ i K, (φ i).claim = some (K, s.writes) → ∃ m, s.incident = some m ∧ m.key = K ∧
    m.providerConfirmation = 2 ∧ m.switchOutcomeUnconfirmed = false
  unique : ∀ i j K K' n, (φ i).claim = some (K, n) → (φ j).claim = some (K', n) → i = j

section Invariant

variable {s s' : Store} {φ φ' : ℕ → Held}

/-- A step that writes nothing and takes no claim. -/
lemma ClaimsHeld.forget (h : ClaimsHeld s φ)
    (hφ : ∀ i x, (φ' i).claim = some x → (φ i).claim = some x) : ClaimsHeld s φ' where
  unconfirmed := h.unconfirmed
  past i K n hi := h.past i K n (hφ i _ hi)
  stored i K hi := h.stored i K (hφ i _ hi)
  unique i j K K' n hi hj := h.unique i j K K' n (hφ i _ hi) (hφ j _ hj)

/-- A write that takes no claim leaves every claim in the past. -/
lemma ClaimsHeld.write (h : ClaimsHeld s φ) (hw : s'.writes = s.writes + 1)
    (hincident : ∀ m ∈ s'.incident, m.switchOutcomeUnconfirmed = true → 2 ≤ m.providerConfirmation)
    (hφ : ∀ i x, (φ' i).claim = some x → (φ i).claim = some x) : ClaimsHeld s' φ' where
  unconfirmed := hincident
  past i K n hi := by
    have := h.past i K n (hφ i _ hi)
    omega
  stored i K hi := by
    have := h.past i K _ (hφ i _ hi)
    omega
  unique i j K K' n hi hj := h.unique i j K K' n (hφ i _ hi) (hφ j _ hj)

/-- A claim that no statement of the call has taken is one it held. -/
lemma claim_of_update {i : ℕ} {c : Held} (hc : ∀ x, c.claim = some x → (φ i).claim = some x) :
    ∀ j x, (Function.update φ i c j).claim = some x → (φ j).claim = some x := by
  intro j x hx
  by_cases hij : j = i
  · subst hij
    rw [Function.update_self] at hx
    exact hc x hx
  · rwa [Function.update_of_ne hij] at hx

/-- The claim of a second confirmation finds the first one stored. -/
lemma ClaimsHeld.claim (h : ClaimsHeld s φ) {expected : Option Marker} {value : Marker}
    (hclaims : Claims expected value) (hwas : s.incident = expected)
    (his : s'.incident = some value) (hw : s'.writes = s.writes + 1) {i : ℕ} {c : Held}
    (hc : c.claim =
      if value.providerConfirmation = 2 then some (value.key, s.writes + 1) else none) :
    ClaimsHeld s' (Function.update φ i c) := by
  have hvalue : value.switchOutcomeUnconfirmed = true →
      2 ≤ value.providerConfirmation ∧ value.providerConfirmation ≠ 2 := by
    intro hflag
    by_cases hnew : ∀ m ∈ expected, m.key ≠ value.key
    · rw [(hclaims.new hnew).2] at hflag
      cases hflag
    · push Not at hnew
      obtain ⟨m, hm, hkey⟩ := hnew
      obtain ⟨hnext, hsame⟩ := hclaims.same m hm hkey
      have := h.unconfirmed m (by rw [hwas]; exact hm) (hsame ▸ hflag)
      omega
  have hother : ∀ j, j ≠ i → (Function.update φ i c j).claim = (φ j).claim := by
    intro j hj
    rw [Function.update_of_ne hj]
  have hself : ∀ K n, (Function.update φ i c i).claim = some (K, n) →
      value.providerConfirmation = 2 ∧ K = value.key ∧ n = s.writes + 1 := by
    intro K n hi
    rw [Function.update_self, hc] at hi
    split_ifs at hi with hsecond
    cases hi
    exact ⟨hsecond, rfl, rfl⟩
  have hlater : ∀ j K n, j ≠ i → (Function.update φ i c j).claim = some (K, n) →
      n ≤ s.writes := by
    intro j K n hj hjn
    rw [hother j hj] at hjn
    exact h.past j K n hjn
  refine ⟨?_, ?_, ?_, ?_⟩
  · intro m hm hflag
    rw [his] at hm
    cases hm
    exact (hvalue hflag).1
  · intro j K n hj
    by_cases hji : j = i
    · subst hji
      have := (hself K n hj).2.2
      omega
    · have := hlater j K n hji hj
      omega
  · intro j K hj
    by_cases hji : j = i
    · subst hji
      obtain ⟨hsecond, rfl, -⟩ := hself K _ hj
      refine ⟨value, his, rfl, hsecond, ?_⟩
      cases hflag : value.switchOutcomeUnconfirmed with
      | false => rfl
      | true => exact absurd hsecond (hvalue hflag).2
    · have := hlater j K _ hji hj
      omega
  · intro j k K K' n hj hk
    by_cases hji : j = i
    · subst hji
      by_cases hkj : k = j
      · exact hkj.symm
      · have := hlater k K' n hkj hk
        have := (hself K n hj).2.2
        omega
    · by_cases hki : k = i
      · subst hki
        have := hlater j K n hji hj
        have := (hself K' n hk).2.2
        omega
      · rw [hother j hji] at hj
        rw [hother k hki] at hk
        exact h.unique j k K K' n hj hk

/-- Every statement of a recovery call keeps the invariant. -/
theorem ClaimsHeld.execute (h : ClaimsHeld s φ) {i : ℕ} {a : Stmt} (ha : Allowed false (φ i) a)
    (ok : Bool) : ClaimsHeld (execute a ok s).2
      (Function.update φ i ((φ i).after a (execute a ok s).1)) := by
  cases a with
  | claimPending expected value =>
      rcases execute_claimPending expected value ok s with hfail | ⟨hwas, hreply, his, hw⟩
      · rw [hfail]
        exact h.forget (claim_of_update fun x hx => hx)
      · rw [hreply]
        exact h.claim ha hwas his hw rfl
  | casPending expected value =>
      rcases execute_casPending expected value ok s with hfail | ⟨hwas, his, hw⟩
      · rw [hfail]
        exact h.forget (claim_of_update fun x hx => hx)
      · refine h.write hw ?_ (claim_of_update fun x hx => hx)
        intro m hm hflag
        rw [his] at hm
        cases hm
        rw [ha.confirmation]
        rcases ha.unconfirmed hflag with hwasflag | hsecond
        · exact h.unconfirmed expected hwas hwasflag
        · omega
  | completeRecoveryPending expected =>
      rcases execute_complete expected ok s with hfail | ⟨-, his, hw⟩
      · rw [hfail]
        exact h.forget (claim_of_update fun x hx => hx)
      · refine h.write hw ?_ (claim_of_update fun x hx => hx)
        intro m hm
        rw [his] at hm
        cases hm
  | switchMember sourceRef bindingRevision memberId n =>
      exact h.forget (claim_of_update fun x hx => by cases hx)
  | applyOverride reentry =>
      refine h.forget (claim_of_update fun x hx => ?_)
      cases reentry with
      | false => exact hx
      | true => exact hx
  | writeCandidate candidate => cases ha
  | resetCandidate preserved => cases ha
  | _ => exact h.forget (claim_of_update fun x hx => hx)

end Invariant

/-! ## After a switch -/

/-- The switch of the incident for `K` has been called under the claim `n`: the incident is past its
first confirmation, and every claim that is still held is an older one. -/
structure Spent (K : Option Text × Option Int) (n : ℕ) (s : Store) (φ : ℕ → Held) : Prop where
  past : n ≤ s.writes
  stored : ∃ m, s.incident = some m ∧ m.key = K ∧ 2 ≤ m.providerConfirmation
  older : ∀ i n', (φ i).claim = some (K, n') → n' < n

section AfterSwitch

variable {s : Store} {φ : ℕ → Held} {i n : ℕ} {K : Option Text × Option Int}

lemma Spent.forget {φ' : ℕ → Held} (h : Spent K n s φ)
    (hφ : ∀ i x, (φ' i).claim = some x → (φ i).claim = some x) : Spent K n s φ' :=
  ⟨h.past, h.stored, fun i n' hi => h.older i n' (hφ i _ hi)⟩

lemma spent_of_switch (h : ClaimsHeld s φ) (hclaim : (φ i).claim = some (K, n))
    (hown : s.writes = n) {c : Held} (hc : c.claim = none) :
    Spent K n s (Function.update φ i c) := by
  subst hown
  obtain ⟨m, hm, hkey, hsecond, -⟩ := h.stored i K hclaim
  refine ⟨le_rfl, ⟨m, hm, hkey, by omega⟩, fun j n' hj => ?_⟩
  by_cases hji : j = i
  · subst hji
    rw [Function.update_self, hc] at hj
    cases hj
  · rw [Function.update_of_ne hji] at hj
    have hle := h.past j K n' hj
    have hne : n' ≠ s.writes := by
      rintro rfl
      exact hji (h.unique j i K K s.writes hj hclaim)
    omega

/-- As long as there is an incident for `K`, no statement takes a second confirmation for it
again. -/
lemma Spent.execute {a : Stmt} {ok : Bool} (h : Spent K n s φ) (ha : Allowed false (φ i) a)
    (hpresent : ∃ m, (execute a ok s).2.incident = some m ∧ m.key = K) :
    Spent K n (execute a ok s).2 (Function.update φ i ((φ i).after a (execute a ok s).1)) := by
  obtain ⟨m, hm, hkey, hsecond⟩ := h.stored
  cases a with
  | claimPending expected value =>
      rcases execute_claimPending expected value ok s with hfail | ⟨hwas, hreply, his, hw⟩
      · rw [hfail]
        exact h.forget (claim_of_update fun x hx => hx)
      · obtain ⟨m', hm', hkey'⟩ := hpresent
        rw [his] at hm'
        cases hm'
        have hnext := (ha.same m (hwas ▸ hm) (hkey.trans hkey'.symm)).1
        have hpast := h.past
        refine ⟨by omega, ⟨value, his, hkey', by omega⟩, fun j n' hj => h.older j n' ?_⟩
        refine claim_of_update (fun x hx => ?_) j _ hj
        rw [hreply] at hx
        simp only [Held.after, if_neg (show ¬value.providerConfirmation = 2 by omega)] at hx
        cases hx
  | casPending expected value =>
      rcases execute_casPending expected value ok s with hfail | ⟨hwas, his, hw⟩
      · rw [hfail]
        exact h.forget (claim_of_update fun x hx => hx)
      · cases hm.symm.trans hwas
        have hpast := h.past
        have hsame := ha.confirmation
        refine ⟨by omega, ⟨value, his, ha.key.trans hkey, by omega⟩, fun j n' hj => ?_⟩
        exact h.older j n' (claim_of_update (fun x hx => hx) j _ hj)
  | completeRecoveryPending expected =>
      rcases execute_complete expected ok s with hfail | ⟨-, his, -⟩
      · rw [hfail]
        exact h.forget (claim_of_update fun x hx => hx)
      · obtain ⟨m', hm', -⟩ := hpresent
        rw [his] at hm'
        cases hm'
  | switchMember sourceRef bindingRevision memberId n =>
      exact h.forget (claim_of_update fun x hx => by cases hx)
  | applyOverride reentry =>
      refine h.forget (claim_of_update fun x hx => ?_)
      cases reentry with
      | false => exact hx
      | true => exact hx
  | writeCandidate candidate => cases ha
  | resetCandidate preserved => cases ha
  | _ => exact h.forget (claim_of_update fun x hx => hx)

end AfterSwitch

/-! ## The switches of a run -/

section Switches

variable {U : Unicode} {labels : List (Label Call Bool)}

/-- The phases of the calls of a run. -/
abbrev heldAt (U : Unicode) (labels : List (Label Call Bool)) (n : ℕ) : ℕ → Held :=
  (system U).phaseAt Held.after {} {} labels n

lemma keeps_recoveryCall {call : Call} (h : IsRecovery call) :
    KeepsIncident false {} ((system U).prog call) := by
  cases call with
  | recover q => exact keeps_confirmedProviderRecovery U q
  | tick t => exact h.elim

/-- What a step of a run does to the incident and the claims. -/
lemma recovery_step (hrun : Run.Along (system U).step (Guarded IsRecovery SwitchesOwnClaim)
    ⟨{}, []⟩ labels) (n : ℕ) :
    (storeAt U labels (n + 1) = storeAt U labels n ∧
      heldAt U labels (n + 1) = heldAt U labels n) ∨
    ∃ i a k ok, labels[n]? = some (.run i ok) ∧
      ((system U).configAt {} labels n).threads[i]? = some (.act a k) ∧
      SwitchesOwnClaim (storeAt U labels n)
        (((system U).configAt {} labels n).threads.eraseIdx i) a ∧
      Allowed false (heldAt U labels n i) a ∧
      storeAt U labels (n + 1) = (execute a ok (storeAt U labels n)).2 ∧
      heldAt U labels (n + 1) = Function.update (heldAt U labels n) i
        ((heldAt U labels n i).after a (execute a ok (storeAt U labels n)).1) :=
  step_phaseAt (fun _ => keeps_recoveryCall) (fun _ _ _ h => absurd h (by simp [system])) hrun n

lemma claimsHeld_run (hrun : Run.Along (system U).step (Guarded IsRecovery SwitchesOwnClaim)
    ⟨{}, []⟩ labels) (n : ℕ) : ClaimsHeld (storeAt U labels n) (heldAt U labels n) := by
  refine invariant_phaseAt (S := system U) (P := SwitchesOwnClaim) (fun _ => keeps_recoveryCall)
    (fun _ _ _ h => absurd h (by simp [system])) ?_ ?_ hrun n
  · exact fun s φ i a ok ts h ha _ => h.execute ha ok
  · exact ⟨fun m hm => (by cases hm), fun i K n h => (by cases h), fun i K h => (by cases h),
      fun i j K K' n h => (by cases h)⟩

/-- A switch is called under a claim that nothing has been written after, and it uses up that
claim. -/
lemma switch_step (hrun : Run.Along (system U).step (Guarded IsRecovery SwitchesOwnClaim)
    ⟨{}, []⟩ labels) {n : ℕ} {key : Text × Int} (hn : switchedAt U labels n = some key) :
    ∃ i c, (heldAt U labels n i).claim =
        some ((some key.1, some key.2), (storeAt U labels n).writes) ∧
      storeAt U labels (n + 1) = storeAt U labels n ∧ c.claim = none ∧
      heldAt U labels (n + 1) = Function.update (heldAt U labels n) i c := by
  rw [switchedAt] at hn
  rcases hl : labels[n]? with _ | ⟨call | ⟨i, ok⟩⟩
  · rw [hl] at hn
    cases hn
  · rw [hl] at hn
    cases hn
  · rw [hl] at hn
    dsimp only at hn
    cases hi : ((system U).configAt {} labels n).threads[i]? with
    | none =>
        rw [hi] at hn
        cases hn
    | some p =>
        rw [hi] at hn
        cases p with
        | ret r => cases hn
        | act a k =>
            cases a with
            | switchMember sourceRef bindingRevision memberId m =>
                cases hn
                obtain ⟨hown, ha, hs, hφ⟩ := run_phaseAt (fun _ => keeps_recoveryCall)
                  (fun _ _ _ h => absurd h (by simp [system])) hrun hl hi
                exact ⟨i, _, hown ▸ ha, hs, rfl, hφ⟩
            | _ => cases hn

/-- From a switch on the claim stays used up, as long as there is an incident for the binding. -/
lemma spent_run (hrun : Run.Along (system U).step (Guarded IsRecovery SwitchesOwnClaim)
    ⟨{}, []⟩ labels) {i : ℕ} {key : Text × Int} (hi : switchedAt U labels i = some key) {j : ℕ}
    (hij : i + 1 ≤ j) (hpresent : ∀ m, i < m → m ≤ j → ¬(storeAt U labels m).Absent key) :
    Spent (some key.1, some key.2) (storeAt U labels i).writes (storeAt U labels j)
      (heldAt U labels j) := by
  induction j, hij using Nat.le_induction with
  | base =>
      obtain ⟨t, c, hclaim, hs, hc, hφ⟩ := switch_step hrun hi
      rw [hs, hφ]
      exact spent_of_switch (claimsHeld_run hrun i) hclaim rfl hc
  | succ j hij ih =>
      have hspent := ih fun m him hmj => hpresent m him (by omega)
      rcases recovery_step hrun j with ⟨hs, hφ⟩ | ⟨t, a, k, ok, -, -, -, ha, hs, hφ⟩
      · rw [hs, hφ]
        exact hspent
      · rw [hs, hφ]
        refine hspent.execute ha ?_
        have hlast := hpresent (j + 1) (by omega) le_rfl
        rw [hs, Store.Absent] at hlast
        push Not at hlast
        exact hlast

/-- **One switch per incident.**  In every interleaving of recovery calls, whatever they are
answered and wherever they stop, in which no call is overtaken between its claim and its switch, two
switches for a binding have a moment without an incident for it between them, and a switch is never
called while the stored incident has an unconfirmed switch. -/
theorem one_switch_per_incident (U : Unicode) (labels : List (Label Call Bool))
    (hrun : Run.Along (system U).step (Guarded IsRecovery SwitchesOwnClaim) ⟨{}, []⟩ labels)
    (key : Text × Int) :
    (∀ i j, i < j → switchedAt U labels i = some key → switchedAt U labels j = some key →
      ∃ m, i < m ∧ m ≤ j ∧ (storeAt U labels m).Absent key) ∧
    ∀ i, switchedAt U labels i = some key →
      ∀ m ∈ (storeAt U labels i).incident, m.switchOutcomeUnconfirmed = false := by
  refine ⟨fun i j hij hi hj => ?_, fun i hi m hm => ?_⟩
  · by_contra hpresent
    push Not at hpresent
    have hspent := spent_run hrun hi hij hpresent
    obtain ⟨t, c, hclaim, -⟩ := switch_step hrun hj
    have := hspent.older t _ hclaim
    have := hspent.past
    omega
  · obtain ⟨t, c, hclaim, -⟩ := switch_step hrun hi
    obtain ⟨m', hm', -, -, hflag⟩ := (claimsHeld_run hrun i).stored t _ hclaim
    cases hm.symm.trans hm'
    exact hflag

end Switches

/-! ## Two runs -/

/-- A provider that says its member is down and switches to another one. -/
def memberDown : SwitchAnswers where
  switchAllowed _ := true
  captured := true
  status := .ok "down".toList
  candidates := true
  discovered := .ok ()
  selected := some "nl-2".toList
  evidenceFresh := true
  switched := .ok { outcome := some "verified".toList, mutationAttempted := true }
  refreshed := .ok {}

/-- A confirmed failure of one provider binding. -/
def confirmedFailure (decisionId : String) : Call := .recover
  { logicalServerId := some "provider-group".toList
    pathKey := some "vpn-auto".toList
    decisionId := some decisionId.toList
    allowSwitch := true
    writerGuardHeld := false
    binding := some ⟨"sub".toList, 1, some "nl-1".toList⟩
    exclusivePool := none
    now := 1000000
    confirmation := ⟨true, true, none, false, false⟩
    firstCaptured := true
    firstRefreshed := deferred "provider_operation_busy"
    second := memberDown
    thirdCaptured := true
    entryGuardHeld := false }

/-- The call numbered `i` executes `n` statements. -/
def proceed (i n : ℕ) : List (Label Call Bool) := List.replicate n (.run i true)

/-- A confirmed failure, the `i`-th call of a run, and its first `n` statements. -/
def failing (i : ℕ) (decisionId : String) (n : ℕ) : List (Label Call Bool) :=
  .call (confirmedFailure decisionId) :: proceed i n

/-- The first two confirmations of an incident, then the third one, which finds the connection
restored, and the first two of the next incident. -/
def twoIncidents : List (Label Call Bool) :=
  failing 0 "d1" 4 ++ failing 1 "d2" 7 ++ failing 2 "d3" 6 ++ failing 3 "d4" 4 ++ failing 4 "d5" 7

theorem two_incidents_two_switches :
    switchedAt .ascii twoIncidents 11 = some ("sub".toList, 1) ∧
      switchedAt .ascii twoIncidents 31 = some ("sub".toList, 1) ∧
      ∃ m, 11 < m ∧ m ≤ 31 ∧ (storeAt .ascii twoIncidents m).Absent ("sub".toList, 1) := by
  have hfirst : switchedAt .ascii twoIncidents 11 = some ("sub".toList, 1) := by decide +kernel
  have hsecond : switchedAt .ascii twoIncidents 31 = some ("sub".toList, 1) := by decide +kernel
  have hrun : Run.Along (system .ascii).step (Guarded IsRecovery SwitchesOwnClaim) ⟨{}, []⟩
      twoIncidents := by decide +kernel
  exact ⟨hfirst, hsecond,
    (one_switch_per_incident .ascii twoIncidents hrun _).1 11 31 (by omega) hfirst hsecond⟩

/-- The call of the second confirmation stops before its switch.  The third confirmation completes
the incident, the next incident begins and its second confirmation is claimed; then both calls
switch. -/
def overtakenSwitch : List (Label Call Bool) :=
  failing 0 "d1" 4 ++ failing 1 "d2" 5 ++ failing 2 "d3" 6 ++ failing 3 "d4" 4 ++
    failing 4 "d5" 3 ++ proceed 1 2 ++ proceed 4 3

theorem two_switches_for_one_incident :
    Run.Along (system .ascii).step (Guarded IsRecovery fun _ _ _ => True) ⟨{}, []⟩
        overtakenSwitch ∧
      switchedAt .ascii overtakenSwitch 27 = some ("sub".toList, 1) ∧
      switchedAt .ascii overtakenSwitch 31 = some ("sub".toList, 1) ∧
      ∀ m < 32, 27 ≤ m → ¬(storeAt .ascii overtakenSwitch m).Absent ("sub".toList, 1) := by
  decide +kernel

end FwRouter.Provider
