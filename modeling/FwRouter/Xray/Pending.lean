import FwRouter.Python.Value
import FwRouter.Library.Run

/-!
# Pending Xray convergence

`services/xray_vpn_auto_pending.py`: one JSON row says whether Xray has to converge, and to which
revision.  A mark loads and writes the row in its caller's write transaction.  A worker's call loads
the row first and writes it later, with an `UPDATE` that is fenced by the revision; between the two
the row is open to everybody.

The row is kept as the record that the calls write, and instants as microseconds; `none` stands for
an absent row.
-/

namespace FwRouter.Xray

open Py Run

/-! ## The row -/

inductive PendingStatus
  | pending
  | running
  | applied
  | failed
  | deferred
  deriving DecidableEq

structure Pending where
  revision : ℤ
  pending : Bool
  status : PendingStatus
  dueAt : Option ℤ
  trigger : Text
  updatedAt : ℤ
  attemptCount : ℤ
  lastAttemptAt : Option ℤ
  lastErrorCode : Option Text
  nextRetryAt : Option ℤ
  appliedRevision : ℤ
  workflow : Option Dict

def xrayVpnAutoDebounceSeconds : ℤ := 180
def xrayVpnAutoRetrySeconds : ℤ := 60

def seconds (n : ℤ) : ℤ := n * 1000000

/-- The revision of the stored row, `0` without one. -/
def storedRevision (row : Option Pending) : ℤ := (row.map (·.revision)).getD 0

def isPending (row : Option Pending) : Bool := row.any (·.pending)

/-- `_save_if_revision`: whether the row was written, and the row. -/
def saveIfRevision (value : Pending) (revision : ℤ) (row : Option Pending) :
    Bool × Option Pending :=
  match row with
  | some stored =>
      if stored.revision = revision ∧ stored.pending then (true, some value) else (false, row)
  | none => (false, row)

/-! ## Marks -/

structure Mark where
  trigger : Text
  now : ℤ
  immediate : Bool
  workflow : Option Dict
  supersedeFixedWorkflow : Bool

/-- The row is pending for the workflow of a fixed server. -/
def Pending.fixedWorkflow (p : Pending) : Bool :=
  p.pending && p.workflow.any fun w => (w.get "kind").isText "global_fixed_server".toList

/-- A mark that finds the workflow of a fixed server pending returns its row. -/
def Mark.absorbed (m : Mark) (row : Option Pending) : Bool :=
  row.any (·.fixedWorkflow) && !m.supersedeFixedWorkflow

/-- What a mark writes when it is not absorbed. -/
def Mark.value (m : Mark) (row : Option Pending) : Pending where
  revision := max 0 (storedRevision row) + 1
  pending := true
  status := .pending
  dueAt := some (m.now + seconds (if m.immediate then 0 else xrayVpnAutoDebounceSeconds))
  trigger := (if m.trigger = [] then "manual_preferences".toList else m.trigger).take 64
  updatedAt := m.now
  attemptCount := 0
  lastAttemptAt := none
  lastErrorCode := none
  nextRetryAt := none
  appliedRevision := (row.map (·.appliedRevision)).getD 0
  workflow := m.workflow

/-- The row after `mark_xray_vpn_auto_pending`, which is also what it returns. -/
def markXrayVpnAutoPending (m : Mark) (row : Option Pending) : Option Pending :=
  if m.absorbed row then row else some (m.value row)

/-! ## Calls of the workers -/

inductive Op
  | beginAttempt
  | deferRevision
  | finishRevision (ok : Bool) (errorCode : Option Text)
  | completeRevision

/-- The calls that clear `pending`. -/
def Op.completes : Op → Bool
  | .finishRevision ok _ => ok
  | .completeRevision => true
  | _ => false

/-- What the call makes of the row that it has loaded. -/
def Op.update (revision now : ℤ) (state : Pending) : Op → Pending
  | .beginAttempt =>
      { state with
        status := .running
        attemptCount := state.attemptCount + 1
        lastAttemptAt := some now
        nextRetryAt := none
        updatedAt := now }
  | .deferRevision =>
      { state with status := .deferred, dueAt := none, nextRetryAt := none, updatedAt := now }
  | .finishRevision true _ =>
      { state with
        pending := false
        status := .applied
        dueAt := none
        nextRetryAt := none
        lastErrorCode := none
        appliedRevision := revision
        updatedAt := now }
  | .finishRevision false errorCode =>
      { state with
        pending := true
        status := .failed
        dueAt := some now
        lastErrorCode :=
          some ((if errorCode.getD [] = [] then "XRAY_VPN_AUTO_RECONCILE_FAILED".toList
            else errorCode.getD []).take 96)
        nextRetryAt := some (now + seconds xrayVpnAutoRetrySeconds)
        updatedAt := now }
  | .completeRevision =>
      { state with
        pending := false
        status := .applied
        dueAt := none
        nextRetryAt := none
        lastErrorCode := none
        appliedRevision := revision
        updatedAt := now
        workflow := none }

/-- The rest of a call after it has loaded `loaded`: whether it wrote, and the row. -/
def Op.save (op : Op) (revision now : ℤ) (loaded row : Option Pending) : Bool × Option Pending :=
  match loaded with
  | some state =>
      if state.pending ∧ state.revision = revision then
        saveIfRevision (op.update revision now state) revision row
      else (false, row)
  | none => (false, row)

/-! ## Interleavings -/

/-- The row, and what each worker has loaded for the call it is in. -/
structure World where
  row : Option Pending
  loaded : ℕ → Option Pending

inductive Event
  /-- A committed mark. -/
  | mark (m : Mark)
  /-- A worker's call loads the row. -/
  | load (worker : ℕ)
  /-- The call goes on to write, and is committed. -/
  | save (worker : ℕ) (op : Op) (revision now : ℤ)

/-- The event is a call that writes the row. -/
def Event.writes (w : World) : Event → Bool
  | .save worker op revision now => (op.save revision now (w.loaded worker) w.row).1
  | _ => false

def step (w : World) : Event → World
  | .mark m => { w with row := markXrayVpnAutoPending m w.row }
  | .load worker => { w with loaded := Function.update w.loaded worker w.row }
  | .save worker op revision now =>
      { row := (op.save revision now (w.loaded worker) w.row).2
        loaded := Function.update w.loaded worker none }

/-- Event `i` is a mark that is not absorbed by a fixed workflow. -/
def Raises (w₀ : World) (events : List Event) (i : ℕ) : Prop :=
  ∃ m, events[i]? = some (.mark m) ∧ m.absorbed (stateAt step w₀ events i).row = false

/-- Event `i` is a `_begin_attempt` of the revision that succeeds. -/
def Begins (w₀ : World) (events : List Event) (i : ℕ) (revision : ℤ) : Prop :=
  ∃ worker now, events[i]? = some (.save worker .beginAttempt revision now) ∧
    Event.writes (stateAt step w₀ events i) (.save worker .beginAttempt revision now)

/-- No row that is stored or loaded has applied more than its revision. -/
structure WellFormed (w : World) : Prop where
  row : ∀ p ∈ w.row, p.appliedRevision ≤ p.revision
  loaded : ∀ worker, ∀ p ∈ w.loaded worker, p.appliedRevision ≤ p.revision

/-! ## One event -/

variable {w : World}

lemma Mark.value_revision (m : Mark) (row : Option Pending) :
    (m.value row).revision = max 0 (storedRevision row) + 1 := rfl

lemma Mark.value_appliedRevision (m : Mark) (row : Option Pending) :
    (m.value row).appliedRevision = (row.map (·.appliedRevision)).getD 0 := rfl

lemma Op.update_revision (op : Op) (revision now : ℤ) (state : Pending) :
    (op.update revision now state).revision = state.revision := by
  cases op with
  | finishRevision ok _ => cases ok <;> rfl
  | _ => rfl

lemma Op.update_appliedRevision (op : Op) (revision now : ℤ) (state : Pending) :
    (op.update revision now state).appliedRevision =
      if op.completes then revision else state.appliedRevision := by
  cases op with
  | finishRevision ok _ => cases ok <;> rfl
  | _ => rfl

lemma Op.update_pending (op : Op) (revision now : ℤ) {state : Pending} (h : state.pending) :
    (op.update revision now state).pending = !op.completes := by
  cases op with
  | finishRevision ok _ => cases ok <;> rfl
  | completeRevision => rfl
  | _ => exact h

/-- **What a call can write.**  It writes only over a pending row of its revision, and only what it
makes of a pending row of that revision. -/
lemma Op.save_cases (op : Op) (revision now : ℤ) (loaded row : Option Pending) :
    op.save revision now loaded row = (false, row) ∨
      ∃ state stored, loaded = some state ∧ row = some stored ∧ state.pending ∧
        state.revision = revision ∧ stored.revision = revision ∧ stored.pending ∧
        op.save revision now loaded row = (true, some (op.update revision now state)) := by
  cases loaded with
  | none => exact Or.inl rfl
  | some state =>
      rw [Op.save]
      by_cases hstate : state.pending ∧ state.revision = revision
      · rw [if_pos hstate]
        cases row with
        | none => exact Or.inl rfl
        | some stored =>
            rw [saveIfRevision]
            by_cases hstored : stored.revision = revision ∧ stored.pending
            · rw [if_pos hstored]
              exact Or.inr ⟨state, stored, rfl, rfl, hstate.1, hstate.2, hstored.1, hstored.2, rfl⟩
            · rw [if_neg hstored]
              exact Or.inl rfl
      · rw [if_neg hstate]
        exact Or.inl rfl

lemma storedRevision_step (e : Event) :
    storedRevision (step w e).row =
      match e with
      | .mark m =>
          if m.absorbed w.row then storedRevision w.row else max 0 (storedRevision w.row) + 1
      | _ => storedRevision w.row := by
  cases e with
  | mark m =>
      simp only [step, markXrayVpnAutoPending]
      split
      · rfl
      · rfl
  | load worker => rfl
  | save worker op revision now =>
      simp only [step]
      rcases op.save_cases revision now (w.loaded worker) w.row with h |
        ⟨state, stored, -, hrow, -, hstate, hstored, -, h⟩
      · rw [h]
      · rw [h, hrow]
        simp [storedRevision, Op.update_revision, hstate, hstored]

lemma storedRevision_le_step (e : Event) :
    storedRevision w.row ≤ storedRevision (step w e).row := by
  rw [storedRevision_step]
  cases e with
  | mark m =>
      simp only
      split
      · exact le_rfl
      · omega
  | load worker => exact le_rfl
  | save worker op revision now => exact le_rfl

lemma WellFormed.step (h : WellFormed w) (e : Event) : WellFormed (step w e) := by
  cases e with
  | mark m =>
      refine ⟨?_, h.loaded⟩
      intro p hp
      simp only [Xray.step, markXrayVpnAutoPending] at hp
      split at hp
      · exact h.row p hp
      · obtain rfl := Option.some.inj hp
        rw [Mark.value_revision, Mark.value_appliedRevision]
        cases hrow : w.row with
        | none => simp [storedRevision]
        | some stored =>
            have hstored := h.row stored hrow
            simp only [storedRevision, Option.map_some, Option.getD_some]
            omega
  | load worker =>
      refine ⟨h.row, ?_⟩
      intro other p hp
      by_cases hother : other = worker
      · subst hother
        exact h.row p (by simpa [Xray.step] using hp)
      · exact h.loaded other p (by simpa [Xray.step, hother] using hp)
  | save worker op revision now =>
      constructor
      · intro p hp
        simp only [Xray.step] at hp
        rcases op.save_cases revision now (w.loaded worker) w.row with hsame |
          ⟨state, stored, hloaded, -, -, hstate, -, -, hwrite⟩
        · rw [hsame] at hp
          exact h.row p hp
        · rw [hwrite] at hp
          obtain rfl := Option.some.inj hp
          have := h.loaded worker state hloaded
          rw [Op.update_revision, Op.update_appliedRevision]
          split
          · omega
          · exact this
      · intro other p hp
        by_cases hother : other = worker
        · simp [Xray.step, hother] at hp
        · exact h.loaded other p (by simpa [Xray.step, hother] using hp)

/-- An event that clears `pending` is a completion of the stored revision. -/
lemma step_clears {e : Event} (hbefore : isPending w.row) (hafter : ¬isPending (step w e).row) :
    ∃ worker op revision now, e = .save worker op revision now ∧ op.completes ∧
      storedRevision w.row = revision := by
  cases e with
  | mark m =>
      simp only [step, markXrayVpnAutoPending] at hafter
      split at hafter
      · exact absurd hbefore hafter
      · exact absurd rfl hafter
  | load worker => exact absurd hbefore hafter
  | save worker op revision now =>
      refine ⟨worker, op, revision, now, rfl, ?_⟩
      simp only [step] at hafter
      rcases op.save_cases revision now (w.loaded worker) w.row with h |
        ⟨state, stored, -, hrow, hstate, -, hstored, -, h⟩
      · rw [h] at hafter
        exact absurd hbefore hafter
      · rw [h] at hafter
        simp only [isPending, Option.any_some, Op.update_pending _ _ _ hstate] at hafter
        refine ⟨by simpa using hafter, ?_⟩
        simp [hrow, storedRevision, hstored]

/-! ## Histories -/

variable {w₀ : World} {events : List Event} {i j k : ℕ}

variable (w₀ events) in
lemma storedRevision_mono (hij : i ≤ j) :
    storedRevision (stateAt step w₀ events i).row ≤ storedRevision (stateAt step w₀ events j).row :=
  stateAt_keeps (I := fun w : World => storedRevision (stateAt step w₀ events i).row ≤ storedRevision w.row)
    hij le_rfl fun _ e _ _ _ hle => hle.trans (storedRevision_le_step e)

lemma storedRevision_of_begins {revision : ℤ} (h : Begins w₀ events i revision) :
    storedRevision (stateAt step w₀ events i).row = revision := by
  obtain ⟨worker, now, -, hwrites⟩ := h
  rw [Event.writes] at hwrites
  rcases Op.save_cases .beginAttempt revision now ((stateAt step w₀ events i).loaded worker)
    (stateAt step w₀ events i).row with h | ⟨state, stored, -, hrow, -, -, hstored, -, -⟩
  · rw [h] at hwrites
    cases hwrites
  · simp [hrow, storedRevision, hstored]

lemma storedRevision_of_raises (h : Raises w₀ events i) :
    storedRevision (stateAt step w₀ events i).row < storedRevision (stateAt step w₀ events (i + 1)).row := by
  obtain ⟨m, hi, habsorbed⟩ := h
  rw [stateAt_succ hi, storedRevision_step]
  simp only [habsorbed]
  rw [if_neg (by decide)]
  omega

/-- Between two marks that are not absorbed the revision stays. -/
lemma storedRevision_of_quiet (hij : i ≤ j) (hquiet : ∀ l, i ≤ l → l < j → ¬Raises w₀ events l) :
    storedRevision (stateAt step w₀ events j).row = storedRevision (stateAt step w₀ events i).row := by
  refine stateAt_keeps
    (I := fun w : World => storedRevision w.row = storedRevision (stateAt step w₀ events i).row) hij rfl ?_
  intro k e hik hkj hk hsame
  rw [← hsame, storedRevision_step]
  cases e with
  | mark m =>
      have habsorbed : m.absorbed (stateAt step w₀ events k).row = true := by
        by_contra hne
        exact hquiet k hik hkj ⟨m, hk, Bool.eq_false_iff.mpr hne⟩
      exact if_pos habsorbed
  | load worker => rfl
  | save worker op revision now => rfl

/-- **A call of a revision that is out of date writes nothing.**  When a mark that is not absorbed
comes after the begin of an attempt, no call for the attempt's revision touches the row. -/
lemma stale_save {revision now : ℤ} {worker : ℕ} {op : Op}
    (hbegins : Begins w₀ events i revision) (hraises : Raises w₀ events j) (hij : i < j)
    (hjk : j < k) (hk : events[k]? = some (.save worker op revision now)) :
    (stateAt step w₀ events (k + 1)).row = (stateAt step w₀ events k).row := by
  have hi := storedRevision_of_begins hbegins
  have hbefore := storedRevision_mono w₀ events hij.le
  have hraised := storedRevision_of_raises hraises
  have hafter := storedRevision_mono w₀ events (show j + 1 ≤ k from hjk)
  rw [stateAt_succ hk]
  simp only [step]
  rcases op.save_cases revision now ((stateAt step w₀ events k).loaded worker)
    (stateAt step w₀ events k).row with h | ⟨state, stored, -, hrow, -, -, hstored, -, -⟩
  · rw [h]
  · have hstored' : storedRevision (stateAt step w₀ events k).row = revision := by
      simp [hrow, storedRevision, hstored]
    omega

/-- **No request for convergence is lost**, but for the marks that a pending fixed workflow absorbs.
The revision never decreases and bounds what is applied; a mark that comes after the begin of an
attempt makes every later call of that attempt void; and `pending` is cleared only by a completion
whose revision is the one that the last mark wrote, so that every attempt at it began after that
mark. -/
theorem pending_request_not_lost (w₀ : World) (h₀ : WellFormed w₀) (events : List Event) :
    (∀ i j, i ≤ j → storedRevision (stateAt step w₀ events i).row ≤
      storedRevision (stateAt step w₀ events j).row) ∧
    (∀ i, ∀ p ∈ (stateAt step w₀ events i).row, p.appliedRevision ≤ p.revision) ∧
    (∀ i j k worker op revision now, Begins w₀ events i revision → i < j → Raises w₀ events j →
      j < k → events[k]? = some (.save worker op revision now) →
      (stateAt step w₀ events (k + 1)).row = (stateAt step w₀ events k).row) ∧
    (∀ k, isPending (stateAt step w₀ events k).row →
      ¬isPending (stateAt step w₀ events (k + 1)).row →
      ∃ worker op revision now, events[k]? = some (.save worker op revision now) ∧ op.completes ∧
        storedRevision (stateAt step w₀ events k).row = revision ∧
        (∀ j, Raises w₀ events j → j < k → (∀ l, j < l → l < k → ¬Raises w₀ events l) →
          storedRevision (stateAt step w₀ events (j + 1)).row = revision) ∧
        (∀ i j, Begins w₀ events i revision → i < k → Raises w₀ events j → j < k → j < i)) := by
  refine ⟨fun i j hij => storedRevision_mono w₀ events hij, ?_, ?_, ?_⟩
  · intro i
    have hwf : WellFormed (stateAt step w₀ events i) :=
      stateAt_keeps (Nat.zero_le i) h₀ fun _ e _ _ _ h => h.step e
    exact hwf.row
  · intro i j k worker op revision now hbegins hij hraises hjk hk
    exact stale_save hbegins hraises hij hjk hk
  · intro k hbefore hafter
    cases hk : events[k]? with
    | none =>
        rw [stateAt_succ_of_none hk] at hafter
        exact absurd hbefore hafter
    | some e =>
        rw [stateAt_succ hk] at hafter
        obtain ⟨worker, op, revision, now, rfl, hcompletes, hstored⟩ := step_clears hbefore hafter
        refine ⟨worker, op, revision, now, rfl, hcompletes, hstored, ?_, ?_⟩
        · intro j _ hjk hquiet
          rw [← hstored]
          exact (storedRevision_of_quiet (Nat.succ_le_of_lt hjk) fun l hl => hquiet l hl).symm
        · intro i j hbegins _ hraises hjk
          by_contra hij
          have hne : i ≠ j := by
            rintro rfl
            obtain ⟨_, _, hi, -⟩ := hbegins
            obtain ⟨_, hi', -⟩ := hraises
            exact absurd (hi.symm.trans hi') (by simp)
          -- a mark in between would have made this completion void
          have hsame := stale_save hbegins hraises (by omega) hjk hk
          rw [stateAt_succ hk] at hsame
          rw [hsame] at hafter
          exact hafter hbefore

/-- No row yet, and no call under way. -/
def idleWorld : World := ⟨none, fun _ => none⟩

lemma idleWorld_wellFormed : WellFormed idleWorld :=
  ⟨by simp [idleWorld], by simp [idleWorld]⟩

/-- A generic mark. -/
def preferencesMark : Mark where
  trigger := "server_preferences".toList
  now := 0
  immediate := false
  workflow := none
  supersedeFixedWorkflow := false

/-- The mark of a fixed server. -/
def fixedServerMark : Mark where
  trigger := "global_fixed_server".toList
  now := 0
  immediate := true
  workflow := some [("kind".toList, .str "global_fixed_server".toList)]
  supersedeFixedWorkflow := true

/-- A worker attempts what `first` asked for; `second` is committed before the worker completes. -/
def markDuringAttempt (first second : Mark) (completion : Op) : List Event :=
  [.mark first, .load 0, .save 0 .beginAttempt 1 0, .mark second, .load 0, .save 0 completion 1 0]

/-- A preference that is changed during an attempt is not lost. -/
theorem preference_during_attempt_kept :
    WellFormed idleWorld ∧
      (stateAt step idleWorld
        (markDuringAttempt preferencesMark preferencesMark (.finishRevision true none)) 6).row =
      (stateAt step idleWorld
        (markDuringAttempt preferencesMark preferencesMark (.finishRevision true none)) 5).row := by
  refine ⟨idleWorld_wellFormed, ?_⟩
  refine (pending_request_not_lost idleWorld idleWorld_wellFormed _).2.2.1 2 3 5 0
    (.finishRevision true none) 1 0 ⟨0, 0, rfl, ?_⟩ (by decide) ⟨preferencesMark, rfl, ?_⟩
    (by decide) rfl
  · rfl
  · rfl

/-- A generic mark during the attempt of a fixed workflow is absorbed, and the completion of the
attempt clears `pending` although the mark was committed after the attempt began. -/
theorem absorbed_mark_cleared :
    let events := markDuringAttempt fixedServerMark preferencesMark .completeRevision
    Begins idleWorld events 2 1 ∧ events[3]? = some (.mark preferencesMark) ∧
      events[5]? = some (.save 0 .completeRevision 1 0) ∧
      isPending (stateAt step idleWorld events 5).row = true ∧
      isPending (stateAt step idleWorld events 6).row = false := by
  refine ⟨⟨0, 0, rfl, ?_⟩, rfl, rfl, ?_, ?_⟩
  · rfl
  · rfl
  · rfl

end FwRouter.Xray
