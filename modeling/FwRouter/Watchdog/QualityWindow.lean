import FwRouter.Watchdog.Runs

/-!
# A full window before every quality failover

A run of `active_quality_degraded_confirmation` and `active_quality_recovery_confirmation` calls for
one server on one path.  The answer of a call says whether it recorded a check, and the checks
recorded since the last confirmation, recovery or creation of the candidate are those the next
decision may rest on.

* **What is stored.**  The candidate holds the last `max(2, window_checks)` of these checks, with
  their counts (`Tracks`).
* **What a confirmation needs.**  It therefore comes only on a full window with enough degraded
  checks in it, so that two failovers are a window of checks apart
  (`activeQualityDegraded_needs_full_window`).

Every write of a call follows its own read under one lock, so the conditional writes go through
(`compareAndWrite_self`).
-/

namespace FwRouter.Watchdog

open Py

/-! ## The last entries of a list -/

/-- Only the last `n` entries of a list matter to the last `n` entries after one more. -/
lemma rtake_append_rtake {α : Type} (n : ℕ) (l : List α) (a : α) :
    (l.rtake n ++ [a]).rtake n = (l ++ [a]).rtake n := by
  cases n with
  | zero => simp [List.rtake]
  | succ n =>
      rw [List.rtake_concat_succ, List.rtake_concat_succ]
      congr 1
      simp only [List.rtake, List.drop_drop, List.length_drop]
      congr 1
      omega

lemma length_rtake {α : Type} (n : ℕ) (l : List α) : (l.rtake n).length = min n l.length := by
  simp only [List.rtake, List.length_drop]
  omega

lemma map_rtake {α β : Type} (f : α → β) (n : ℕ) (l : List α) :
    (l.rtake n).map f = (l.map f).rtake n := by
  simp only [List.rtake, List.map_drop, List.length_map]

lemma getLast?_rtake_append {α : Type} {n : ℕ} (hn : 0 < n) (l : List α) (a : α) :
    ((l ++ [a]).rtake n).getLast? = some a := by
  obtain ⟨n, rfl⟩ := Nat.exists_eq_succ_of_ne_zero hn.ne'
  rw [List.rtake_concat_succ]
  exact List.getLast?_concat

/-! ## The recorded history -/

/-- A check at a new instant is appended, and the oldest entries fall out of the window. -/
lemma appendQualityHistory_of_new {history : List QualityCheck} {entry : QualityCheck} {n : ℕ}
    (hn : 0 < n) (hnew : ∀ last ∈ history.getLast?, last.checkedAt ≠ entry.checkedAt) :
    appendQualityHistory history entry n = (history ++ [entry]).rtake n := by
  have hmax : max 1 n = n := by omega
  rw [appendQualityHistory, hmax]
  cases hlast : history.getLast? with
  | none => rfl
  | some last =>
      dsimp only
      rw [if_neg (hnew last hlast)]
      rfl

lemma qualityHistoryBadCount_eq (history : List QualityCheck) :
    qualityHistoryBadCount history = (history.map QualityCheck.degraded).count true := by
  rw [qualityHistoryBadCount, List.count, List.countP_map, List.countP_eq_length_filter]
  congr 2
  funext e
  simp

lemma qualityHistoryGoodCount_eq (history : List QualityCheck) :
    qualityHistoryGoodCount history = (history.rtakeWhile fun e => !e.degraded).length := by
  rw [qualityHistoryGoodCount, List.rtakeWhile, List.length_reverse]

/-! ## Runs of calls -/

/-- The arguments that stay the same over a run. -/
structure QualityParameters where
  activeServerId : Text
  pathKey : Text
  confirmSeconds : Int
  badChecksRequired : Int
  windowChecks : Int
  windowBadChecks : Int
  recoveryChecksRequired : Int

/-- A call with what it reads anew: the traffic signal and the clock. -/
inductive QualityCall where
  | degraded (signal : TrafficSignal) (now : Instant)
  | recovery (signal : TrafficSignal) (now : Instant)

def QualityCall.now : QualityCall → Instant
  | .degraded _ now => now
  | .recovery _ now => now

/-- What a call answers. -/
inductive CheckAnswer where
  | degraded (answer : Confirmation)
  | recovery (answer : Recovery)

/-- What a call did with its check. -/
inductive CheckEvent where
  /-- The call was refused, or found nothing to recover from. -/
  | ignored
  | created
  | degraded
  | good
  | confirmed
  | recovered
deriving DecidableEq

/-- An answer tells what the call did. -/
def CheckAnswer.event : CheckAnswer → CheckEvent
  | .degraded answer =>
      if answer.confirmed then .confirmed
      else if answer.observedChecks = none then .ignored
      else if answer.reason = "first_active_quality_degraded_check".toList then .created
      else .degraded
  | .recovery answer =>
      if answer.recovered then .recovered else if answer.pending then .good else .ignored

/-- The call made a check of the server. -/
def CheckEvent.isCheck : CheckEvent → Bool
  | .ignored => false
  | _ => true

/-- The checks recorded since the last confirmation, recovery or creation of the candidate, whose
own check is the first; `true` is a degraded check. -/
def CheckEvent.record (checks : List Bool) : CheckEvent → List Bool
  | .ignored => checks
  | .created => [true]
  | .degraded => checks ++ [true]
  | .good => checks ++ [false]
  | .confirmed => []
  | .recovered => []

def recordedChecks (events : List CheckEvent) : List Bool := events.foldl CheckEvent.record []

variable {π : Type}

namespace QualityParameters

variable (p : QualityParameters)

def degradedArgs (signal : TrafficSignal) (now : Instant) : QualityArgs where
  activeServerId := p.activeServerId
  signal
  confirmSeconds := p.confirmSeconds
  badChecksRequired := p.badChecksRequired
  windowChecks := p.windowChecks
  windowBadChecks := p.windowBadChecks
  pathKey := p.pathKey
  now

def recoveryArgs (signal : TrafficSignal) (now : Instant) : RecoveryArgs where
  activeServerId := p.activeServerId
  signal
  recoveryChecksRequired := p.recoveryChecksRequired
  windowChecks := p.windowChecks
  pathKey := p.pathKey
  now

/-- `max(2, int(window_checks or 4))`. -/
def window : ℕ := (max 2 (orDefault p.windowChecks 4)).toNat

/-- `max(1, int(bad_checks_required or 2))`. -/
def requiredBadChecks : Int := max 1 (orDefault p.badChecksRequired 2)

/-- `max(1, min(required_window_checks, int(window_bad_checks or 3)))`. -/
def requiredWindowBadChecks : Int := max 1 (min p.window (orDefault p.windowBadChecks 3))

/-- The candidate is the one of this server and path. -/
def Holds (c : Candidate π) : Prop :=
  c.kind = some .activeQualityDegraded ∧
    c.pathKey = some (normalizedPathKey p.pathKey p.activeServerId) ∧
    c.serverId = some (strip p.activeServerId)

instance (c : Candidate π) : Decidable (p.Holds c) := inferInstanceAs (Decidable (_ ∧ _ ∧ _))

/-- The checks fill the window, and its last checks were degraded as often as required. -/
def FullWindow (checks : List Bool) : Prop :=
  p.window ≤ checks.length ∧
    p.requiredBadChecks ≤ ((checks.rtake p.window).count true : Int) ∧
    p.requiredWindowBadChecks ≤ ((checks.rtake p.window).count true : Int)

variable [DecidableEq π]

/-- One call. -/
def call (st : State π) : QualityCall → CheckAnswer × State π
  | .degraded signal now =>
      let (answer, st) := activeQualityDegradedConfirmation (p.degradedArgs signal now) st
      (.degraded answer, st)
  | .recovery signal now =>
      let (answer, st) := activeQualityRecoveryConfirmation (p.recoveryArgs signal now) st
      (.recovery answer, st)

/-- The state after a run of calls. -/
def run (st : State π) (calls : List QualityCall) : State π :=
  calls.foldl (fun st c => (p.call st c).2) st

/-- What the calls of a run did. -/
def events (st : State π) : List QualityCall → List CheckEvent
  | [] => []
  | c :: calls => (p.call st c).1.event :: events (p.call st c).2 calls

end QualityParameters

/-! ## What one call may do -/

namespace QualityParameters

variable (p : QualityParameters)

lemma two_le_window : 2 ≤ p.window := by
  rw [window]
  omega

lemma requiredWindowChecks_eq (signal : TrafficSignal) (now : Instant) :
    (p.degradedArgs signal now).requiredWindowChecks = (p.window : Int) := by
  rw [QualityArgs.requiredWindowChecks, window, Int.toNat_of_nonneg (by omega)]
  rfl

lemma requiredBadChecks_eq (signal : TrafficSignal) (now : Instant) :
    (p.degradedArgs signal now).requiredBadChecks = p.requiredBadChecks := rfl

lemma requiredWindowBadChecks_eq (signal : TrafficSignal) (now : Instant) :
    (p.degradedArgs signal now).requiredWindowBadChecks = p.requiredWindowBadChecks := by
  rw [QualityArgs.requiredWindowBadChecks, requiredWindowChecks_eq]
  rfl

/-- The candidate after a call that found `c` and recorded a check. -/
def extend (c : Candidate π) : QualityCall → Candidate π
  | .degraded signal now => (p.degradedArgs signal now).extend c
  | .recovery signal now => (p.recoveryArgs signal now).extend c

end QualityParameters

/-- The check that a call records, when it records one. -/
def QualityCall.isDegraded : QualityCall → Bool
  | .degraded _ _ => true
  | .recovery _ _ => false

/-- The candidate of this server and path that is under watch, with no incident pinned to it. -/
structure Watched (p : QualityParameters) (st : State π) (c : Candidate π) : Prop where
  candidate : st.candidate = some c
  holds : p.Holds c
  recoveryPending : c.recoveryPending = none

/-- The outcomes of a call: what it did, and the candidate after it. -/
inductive QualityOutcome (p : QualityParameters) (call : QualityCall) (st : State π) :
    CheckEvent → State π → Prop
  | ignored : QualityOutcome p call st .ignored st
  | created (signal : TrafficSignal) (hcall : call = .degraded signal call.now)
      (hfree : ∀ c, st.candidate = some c → ¬p.Holds c) (after : State π)
      (hafter : after.candidate = some (p.degradedArgs signal call.now).fresh) :
      QualityOutcome p call st .created after
  | recorded (c : Candidate π) (hc : Watched p st c) (after : State π)
      (hafter : after.candidate = some (p.extend c call)) :
      QualityOutcome p call st (if call.isDegraded then .degraded else .good) after
  | confirmed (c : Candidate π) (hc : Watched p st c) (hcall : call.isDegraded = true)
      (hbad : p.requiredBadChecks ≤ ((p.extend c call).badChecks.getD 0 : Int))
      (hwindow : p.window ≤ ((p.extend c call).qualityChecks.getD []).length)
      (hwindowBad : p.requiredWindowBadChecks ≤ ((p.extend c call).badChecks.getD 0 : Int))
      (after : State π) (hafter : after.candidate = none) :
      QualityOutcome p call st .confirmed after
  | recovered (c : Candidate π) (hc : Watched p st c) (after : State π)
      (hafter : after.candidate = none) : QualityOutcome p call st .recovered after

/-- With no incident pinned to it, a candidate is watched or belongs to something else. -/
lemma filter_holds_cases (p : QualityParameters) {st : State π}
    (hpend : ¬(st.candidate.bind Candidate.recoveryPending).isSome) :
    (st.candidate.filter (fun c => p.Holds c) = none ∧ ∀ c, st.candidate = some c → ¬p.Holds c) ∨
      ∃ c, st.candidate.filter (fun c => p.Holds c) = some c ∧ Watched p st c := by
  cases hc : st.candidate.filter (fun c => p.Holds c) with
  | none =>
      refine Or.inl ⟨rfl, fun c hcand => ?_⟩
      simpa using Option.filter_eq_none_iff.mp hc c hcand
  | some c =>
      obtain ⟨hcand, hholds⟩ := Option.filter_eq_some_iff.mp hc
      refine Or.inr ⟨c, rfl, hcand, by simpa using hholds, ?_⟩
      simpa [hcand] using hpend

section Outcomes

variable [DecidableEq π]

lemma degraded_outcome (p : QualityParameters) (signal : TrafficSignal) (now : Instant)
    (st : State π) :
    QualityOutcome p (.degraded signal now) st (p.call st (.degraded signal now)).1.event
      (p.call st (.degraded signal now)).2 := by
  rw [QualityParameters.call, activeQualityDegradedConfirmation]
  by_cases heval : (p.degradedArgs signal now).Evaluable
  · rw [if_neg (not_not.mpr heval)]
    by_cases hpend : (st.candidate.bind Candidate.recoveryPending).isSome
    · rw [if_pos hpend]
      exact .ignored
    · rw [if_neg hpend]
      rcases filter_holds_cases p hpend with ⟨hnone, hfree⟩ | ⟨c, hsome, hc⟩
      · change st.candidate.filter (fun c => c.kind = some (p.degradedArgs signal now).candidateKind ∧
          c.pathKey = some (p.degradedArgs signal now).path ∧
          c.serverId = some (p.degradedArgs signal now).server) = none at hnone
        rw [hnone]
        simp only [compareAndWrite_self]
        exact .created signal rfl hfree _ rfl
      · change st.candidate.filter (fun c => c.kind = some (p.degradedArgs signal now).candidateKind ∧
          c.pathKey = some (p.degradedArgs signal now).path ∧
          c.serverId = some (p.degradedArgs signal now).server) = some c at hsome
        rw [hsome]
        simp only [compareAndWrite_self, write_write, p.requiredBadChecks_eq,
          p.requiredWindowChecks_eq, p.requiredWindowBadChecks_eq]
        have hrecorded : ∀ after : State π,
            after.candidate = some (p.extend c (.degraded signal now)) →
              QualityOutcome p (.degraded signal now) st .degraded after := .recorded c hc
        by_cases hbad : (((p.degradedArgs signal now).extend c).badChecks.getD 0 : Int) <
            p.requiredBadChecks
        · rw [if_pos hbad]
          exact hrecorded _ rfl
        · rw [if_neg hbad]
          by_cases hwin : ((((p.degradedArgs signal now).extend c).qualityChecks.getD []).length :
              Int) < p.window ∨ (((p.degradedArgs signal now).extend c).badChecks.getD 0 : Int) <
                p.requiredWindowBadChecks
          · rw [if_pos hwin]
            exact hrecorded _ rfl
          · rw [if_neg hwin]
            obtain ⟨hfull, hwindowBad⟩ := not_or.mp hwin
            refine QualityOutcome.confirmed c hc rfl ?_ ?_ ?_ _ rfl
            · exact not_lt.mp hbad
            · exact_mod_cast not_lt.mp hfull
            · exact not_lt.mp hwindowBad
  · rw [if_pos heval]
    exact .ignored

lemma recovery_outcome (p : QualityParameters) (signal : TrafficSignal) (now : Instant)
    (st : State π) :
    QualityOutcome p (.recovery signal now) st (p.call st (.recovery signal now)).1.event
      (p.call st (.recovery signal now)).2 := by
  rw [QualityParameters.call, activeQualityRecoveryConfirmation]
  by_cases hpend : (st.candidate.bind Candidate.recoveryPending).isSome
  · rw [if_pos hpend]
    exact .ignored
  · rw [if_neg hpend]
    rcases filter_holds_cases p hpend with ⟨hnone, hfree⟩ | ⟨c, hsome, hc⟩
    · change st.candidate.filter (fun c => c.kind = some .activeQualityDegraded ∧
        c.pathKey = some (normalizedPathKey (p.recoveryArgs signal now).pathKey
          (p.recoveryArgs signal now).activeServerId) ∧
        c.serverId = some (strip (p.recoveryArgs signal now).activeServerId)) = none at hnone
      rw [hnone]
      exact .ignored
    · change st.candidate.filter (fun c => c.kind = some .activeQualityDegraded ∧
        c.pathKey = some (normalizedPathKey (p.recoveryArgs signal now).pathKey
          (p.recoveryArgs signal now).activeServerId) ∧
        c.serverId = some (strip (p.recoveryArgs signal now).activeServerId)) = some c at hsome
      rw [hsome]
      simp only [compareAndWrite_self]
      split_ifs
      · exact .recovered c hc _ rfl
      · have hrecorded : ∀ after : State π,
            after.candidate = some (p.extend c (.recovery signal now)) →
              QualityOutcome p (.recovery signal now) st .good after := .recorded c hc
        exact hrecorded _ rfl

lemma qualityOutcome (p : QualityParameters) (call : QualityCall) (st : State π) :
    QualityOutcome p call st (p.call st call).1.event (p.call st call).2 := by
  cases call with
  | degraded signal now => exact degraded_outcome p signal now st
  | recovery signal now => exact recovery_outcome p signal now st

end Outcomes

/-! ## What one call keeps -/

/-- The last check of a history is older than the calls to come. -/
def OlderThan (later : List Instant) (history : List QualityCheck) : Prop :=
  ∀ last ∈ history.getLast?, ∀ t ∈ later, last.checkedAt ≠ some t

/-- A candidate that holds the last window of the recorded checks and their counts. -/
structure Tracks (p : QualityParameters) (checks : List Bool) (c : Candidate π)
    (history : List QualityCheck) : Prop where
  holds : p.Holds c
  qualityChecks : c.qualityChecks = some history
  degraded : history.map QualityCheck.degraded = checks.rtake p.window
  badChecks : c.badChecks = some ((history.map QualityCheck.degraded).count true)
  goodChecks : c.goodChecks = some (history.rtakeWhile fun e => !e.degraded).length

/-- **The invariant of a run.**  Without recorded checks there is no candidate of this server and
path, and with some there is one that tracks them. -/
inductive Invariant (p : QualityParameters) (later : List Instant) :
    List Bool → State π → Prop
  | free {st : State π} (h : ∀ c, st.candidate = some c → ¬p.Holds c) : Invariant p later [] st
  | watched {checks : List Bool} {st : State π} (c : Candidate π) (history : List QualityCheck)
      (hc : st.candidate = some c) (htracks : Tracks p checks c history)
      (holder : OlderThan later history) : Invariant p later checks st

lemma Tracks.length_le {p : QualityParameters} {checks : List Bool} {c : Candidate π}
    {history : List QualityCheck} (h : Tracks p checks c history) : history.length ≤ p.window := by
  have := congrArg List.length h.degraded
  rw [List.length_map, length_rtake] at this
  omega

/-- Both calls extend the stored history by one entry of their own instant. -/
lemma exists_entry (p : QualityParameters) (call : QualityCall) {c : Candidate π}
    {history : List QualityCheck} (h : c.qualityChecks = some history) :
    ∃ entry : QualityCheck, entry.checkedAt = some call.now ∧ entry.degraded = call.isDegraded ∧
      ∀ longer, longer = appendQualityHistory history entry p.window →
        (p.extend c call).qualityChecks = some longer ∧
        (p.extend c call).badChecks = some (qualityHistoryBadCount longer) ∧
        (p.extend c call).goodChecks = some (qualityHistoryGoodCount longer) := by
  have hhistory : candidateQualityHistory c = history := by rw [candidateQualityHistory, h]
  cases call with
  | degraded signal now =>
      refine ⟨(p.degradedArgs signal now).entry, rfl, rfl, ?_⟩
      rintro longer rfl
      rw [← hhistory]
      exact ⟨rfl, rfl, rfl⟩
  | recovery signal now =>
      refine ⟨⟨some now, (p.extend c (.recovery signal now)).decisionId, false⟩, rfl, rfl, ?_⟩
      rintro longer rfl
      rw [← hhistory]
      exact ⟨rfl, rfl, rfl⟩

lemma holds_extend {p : QualityParameters} (call : QualityCall) {c : Candidate π}
    (h : p.Holds c) : p.Holds (p.extend c call) := by
  cases call with
  | degraded signal now => exact h
  | recovery signal now => exact h

/-- One more check is one more entry of the window. -/
lemma Tracks.extend {p : QualityParameters} {checks : List Bool} {c : Candidate π}
    {history : List QualityCheck} (h : Tracks p checks c history) {call : QualityCall}
    {later : List Instant} (holder : OlderThan (call.now :: later) history)
    (hclock : ∀ t ∈ later, call.now < t) :
    ∃ longer, Tracks p (checks ++ [call.isDegraded]) (p.extend c call) longer ∧
      OlderThan later longer := by
  obtain ⟨entry, hat, hdegraded, hextend⟩ := exists_entry p call h.qualityChecks
  have hwindow : 0 < p.window := by
    have := p.two_le_window
    omega
  have hnew : ∀ last ∈ history.getLast?, last.checkedAt ≠ entry.checkedAt := by
    intro last hlast
    rw [hat]
    exact holder last hlast call.now List.mem_cons_self
  have hlonger := appendQualityHistory_of_new hwindow hnew
  obtain ⟨hchecks, hbad, hgood⟩ := hextend _ rfl
  rw [hlonger] at hchecks hbad hgood
  refine ⟨(history ++ [entry]).rtake p.window, ⟨holds_extend call h.holds, hchecks, ?_, ?_, ?_⟩, ?_⟩
  · rw [map_rtake, List.map_append, h.degraded, List.map_singleton, hdegraded,
      rtake_append_rtake]
  · rw [hbad, qualityHistoryBadCount_eq]
  · rw [hgood, qualityHistoryGoodCount_eq]
  · intro last hlast t ht
    rw [getLast?_rtake_append hwindow] at hlast
    obtain rfl := Option.some.inj hlast
    rw [hat]
    intro hsame
    exact (hclock t ht).ne (Option.some.inj hsame)

/-- The check that creates the candidate is the first one recorded. -/
lemma tracks_fresh (p : QualityParameters) (signal : TrafficSignal) (now : Instant) :
    Tracks p [true] ((p.degradedArgs signal now).fresh : Candidate π)
      [(p.degradedArgs signal now).entry] where
  holds := ⟨rfl, rfl, rfl⟩
  qualityChecks := rfl
  degraded := by
    have hwindow : 1 - p.window = 0 := by
      have := p.two_le_window
      omega
    rw [List.rtake, List.length_singleton, hwindow]
    rfl
  badChecks := rfl
  goodChecks := rfl

/-- A candidate that tracks the checks and has the counts a confirmation asks for stands for a full
window of checks. -/
lemma Tracks.fullWindow {p : QualityParameters} {checks : List Bool} {c : Candidate π}
    {history : List QualityCheck} (h : Tracks p checks c history)
    (hbad : p.requiredBadChecks ≤ (c.badChecks.getD 0 : Int))
    (hwindow : p.window ≤ (c.qualityChecks.getD []).length)
    (hwindowBad : p.requiredWindowBadChecks ≤ (c.badChecks.getD 0 : Int)) :
    p.FullWindow checks := by
  have hcount : c.badChecks.getD 0 = (checks.rtake p.window).count true := by
    rw [h.badChecks, h.degraded]
    rfl
  rw [hcount] at hbad hwindowBad
  refine ⟨?_, hbad, hwindowBad⟩
  have hlength := congrArg List.length h.degraded
  rw [List.length_map, length_rtake] at hlength
  rw [h.qualityChecks] at hwindow
  simp only [Option.getD_some] at hwindow
  omega

variable [DecidableEq π]

/-- **One call.**  It keeps the invariant, and when it confirms, the window is full. -/
lemma Invariant.call {p : QualityParameters} {call : QualityCall} {later : List Instant}
    {checks : List Bool} {st : State π} (h : Invariant p (call.now :: later) checks st)
    (hclock : ∀ t ∈ later, call.now < t) :
    Invariant p later (CheckEvent.record checks (p.call st call).1.event) (p.call st call).2 ∧
      ((p.call st call).1.event = .confirmed → p.FullWindow (checks ++ [true])) := by
  have hout := qualityOutcome p call st
  generalize (p.call st call).1.event = event at hout ⊢
  generalize (p.call st call).2 = after at hout ⊢
  -- a watched candidate excludes the free state, and brings what it tracks
  have hwatched : ∀ c, Watched p st c → ∃ history, Tracks p checks c history ∧
      OlderThan (call.now :: later) history := by
    intro c hc
    cases h with
    | free hfree => exact absurd hc.holds (hfree c hc.candidate)
    | watched d history hd htracks holder =>
        obtain rfl : d = c := by simpa [hc.candidate] using hd.symm
        exact ⟨history, htracks, holder⟩
  have hgone : after.candidate = none → Invariant p later [] after := by
    intro hafter
    refine .free fun c hc => ?_
    rw [hafter] at hc
    cases hc
  cases hout with
  | ignored =>
      refine ⟨?_, by rintro ⟨⟩⟩
      cases h with
      | free hfree => exact .free hfree
      | watched c history hc htracks holder =>
          exact .watched c history hc htracks fun last hlast t ht =>
            holder last hlast t (List.mem_cons_of_mem _ ht)
  | created signal hcall hfree _ hafter =>
      refine ⟨.watched _ _ hafter (tracks_fresh p signal call.now) ?_, by rintro ⟨⟩⟩
      intro last hlast t ht hsame
      obtain rfl := Option.some.inj hlast
      exact (hclock t ht).ne (Option.some.inj hsame)
  | recorded c hc _ hafter =>
      obtain ⟨history, htracks, holder⟩ := hwatched c hc
      obtain ⟨longer, hlonger, holder⟩ := htracks.extend holder hclock
      cases hdegraded : call.isDegraded with
      | true =>
          rw [hdegraded] at hlonger
          exact ⟨.watched _ longer hafter hlonger holder, by rintro ⟨⟩⟩
      | false =>
          rw [hdegraded] at hlonger
          exact ⟨.watched _ longer hafter hlonger holder, by rintro ⟨⟩⟩
  | confirmed c hc hcall hbad hwindow hwindowBad _ hafter =>
      obtain ⟨history, htracks, holder⟩ := hwatched c hc
      obtain ⟨longer, hlonger, -⟩ := htracks.extend holder hclock
      rw [hcall] at hlonger
      exact ⟨hgone hafter, fun _ => hlonger.fullWindow hbad hwindow hwindowBad⟩
  | recovered c hc _ hafter => exact ⟨hgone hafter, by rintro ⟨⟩⟩

/-! ## Runs -/

/-- The calls of a run read ever later clocks. -/
def IncreasingClock (calls : List QualityCall) : Prop :=
  (calls.map QualityCall.now).Pairwise (· < ·)

instance (calls : List QualityCall) : Decidable (IncreasingClock calls) :=
  inferInstanceAs (Decidable (List.Pairwise _ _))

/-- **A whole run.**  The invariant holds after any first calls of a run, and every confirmation
found a full window. -/
lemma Invariant.run {p : QualityParameters} {calls : List QualityCall} {later : List Instant}
    {checks : List Bool} {st : State π}
    (h : Invariant p (calls.map QualityCall.now ++ later) checks st)
    (hclock : (calls.map QualityCall.now ++ later).Pairwise (· < ·)) :
    Invariant p later ((p.events st calls).foldl CheckEvent.record checks) (p.run st calls) ∧
      ∀ done rest, p.events st calls = done ++ .confirmed :: rest →
        p.FullWindow (done.foldl CheckEvent.record checks ++ [true]) := by
  induction calls generalizing checks st with
  | nil =>
      refine ⟨h, fun done rest hsplit => ?_⟩
      cases done with
      | nil => cases hsplit
      | cons e done => cases hsplit
  | cons call calls ih =>
      obtain ⟨hfirst, hclock⟩ := List.pairwise_cons.mp hclock
      obtain ⟨hafter, hconfirmed⟩ := h.call hfirst
      obtain ⟨hend, hrest⟩ := ih hafter hclock
      refine ⟨hend, fun done rest hsplit => ?_⟩
      cases done with
      | nil =>
          obtain ⟨hevent, -⟩ := List.cons.inj hsplit
          exact hconfirmed hevent
      | cons e done =>
          obtain ⟨hevent, hsplit⟩ := List.cons.inj hsplit
          rw [List.foldl_cons, ← hevent]
          exact hrest done rest hsplit

/-- Every recorded check was made by a call. -/
lemma length_foldl_record_le (events : List CheckEvent) (checks : List Bool) :
    (events.foldl CheckEvent.record checks).length ≤
      checks.length + events.countP CheckEvent.isCheck := by
  induction events generalizing checks with
  | nil => exact Nat.le_add_right _ _
  | cons e events ih =>
      have hrecord : (CheckEvent.record checks e).length ≤
          checks.length + if e.isCheck then 1 else 0 := by
        cases e <;> simp [CheckEvent.record, CheckEvent.isCheck]
      have := ih (CheckEvent.record checks e)
      rw [List.foldl_cons, List.countP_cons]
      omega

/-- **A quality failover needs a full window each time.**  In a run of calls for one server and path
that starts without a candidate of theirs and reads increasing clocks, a call that confirms finds,
with its own check, `max(2, window_checks)` checks recorded since the last confirmation, recovery or
creation of the candidate, and the required number of them degraded among the last ones; two
confirmations are that many checks apart; and after any number of calls the stored history is the
last window of the recorded checks, with their counts. -/
theorem activeQualityDegraded_needs_full_window (p : QualityParameters) (st : State π)
    (calls : List QualityCall) (hfree : ∀ c, st.candidate = some c → ¬p.Holds c)
    (hclock : IncreasingClock calls) :
    (p.windowChecks ≠ 0 → (p.window : Int) = max 2 p.windowChecks) ∧
    (∀ done rest, p.events st calls = done ++ .confirmed :: rest →
      p.FullWindow (recordedChecks done ++ [true])) ∧
    (∀ done mid rest, p.events st calls = done ++ .confirmed :: (mid ++ .confirmed :: rest) →
      p.window ≤ (mid ++ [.confirmed]).countP CheckEvent.isCheck) ∧
    (∀ done, done <+: calls → ∀ c, (p.run st done).candidate = some c → p.Holds c →
      ∃ history, c.qualityChecks = some history ∧ history.length ≤ p.window ∧
        history.map QualityCheck.degraded =
          (recordedChecks (p.events st done)).rtake p.window ∧
        c.badChecks = some (history.countP QualityCheck.degraded) ∧
        c.goodChecks = some (history.rtakeWhile fun e => !e.degraded).length) := by
  have hconfirmed : ∀ done rest, p.events st calls = done ++ .confirmed :: rest →
      p.FullWindow (recordedChecks done ++ [true]) := by
    have hstart : Invariant p (calls.map QualityCall.now ++ []) [] st := .free hfree
    refine (hstart.run ?_).2
    rwa [List.append_nil]
  refine ⟨fun hwindow => ?_, hconfirmed, fun done mid rest hsplit => ?_, ?_⟩
  · rw [QualityParameters.window, orDefault, if_neg hwindow, Int.toNat_of_nonneg (by omega)]
  · -- the checks that fill the window of the second confirmation came after the first
    have hfull := hconfirmed (done ++ .confirmed :: mid) rest (by simpa using hsplit)
    have hlength := hfull.1
    have hmid := length_foldl_record_le mid []
    rw [recordedChecks, List.foldl_append, List.foldl_cons, List.length_append] at hlength
    rw [List.countP_append]
    simp only [CheckEvent.record, List.length_nil, List.length_singleton, Nat.zero_add] at hlength hmid
    have hone : [CheckEvent.confirmed].countP CheckEvent.isCheck = 1 := rfl
    omega
  · rintro done ⟨rest, rfl⟩ c hc hholds
    have hstart : Invariant p (done.map QualityCall.now ++ rest.map QualityCall.now) [] st :=
      .free hfree
    have hend := (hstart.run (by rwa [IncreasingClock, List.map_append] at hclock)).1
    rw [← recordedChecks] at hend
    generalize recordedChecks (p.events st done) = checks at hend ⊢
    generalize p.run st done = after at hend hc
    cases hend with
    | free hnone => exact absurd hholds (hnone c hc)
    | watched d history hd htracks holder =>
        obtain rfl : d = c := by simpa [hd] using hc
        refine ⟨history, htracks.qualityChecks, htracks.length_le, htracks.degraded, ?_,
          htracks.goodChecks⟩
        rw [htracks.badChecks, List.count, List.countP_map]
        congr 2
        funext e
        simp

/-- A window of three checks, two of which must be degraded. -/
def exampleParameters : QualityParameters where
  activeServerId := "vless-1".toList
  pathKey := "vpn:auto".toList
  confirmSeconds := 180
  badChecksRequired := 2
  windowChecks := 3
  windowBadChecks := 2
  recoveryChecksRequired := 3

def exampleSignal : TrafficSignal where
  lastCollectedAt := "10:00".toList
  decisionId := []
  trafficStalled := false
  responseObserved := true

def exampleCalls : List QualityCall :=
  [.degraded exampleSignal 10, .recovery exampleSignal 20, .degraded exampleSignal 30,
    .degraded exampleSignal 40, .degraded exampleSignal 50, .degraded exampleSignal 60]

/-- A good check counts as a check; both confirmations come with the third one. -/
theorem exampleCalls_need_full_window :
    exampleParameters.FullWindow [true, false, true] ∧
      exampleParameters.window ≤
        [CheckEvent.created, .degraded, .confirmed].countP CheckEvent.isCheck := by
  have hevents : exampleParameters.events ({} : State Unit) exampleCalls =
      [.created, .good, .confirmed, .created, .degraded, .confirmed] := by decide
  obtain ⟨-, hfull, hapart, -⟩ := activeQualityDegraded_needs_full_window exampleParameters
    ({} : State Unit) exampleCalls (by rintro c ⟨⟩) (by decide)
  exact ⟨hfull [.created, .good] _ hevents,
    hapart [.created, .good] [.created, .degraded] [] hevents⟩

end FwRouter.Watchdog
