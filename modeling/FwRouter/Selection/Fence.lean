import FwRouter.Python.Value
import FwRouter.Library.KeyedTable
import FwRouter.Library.Run

/-!
# The fence of the vpn-auto selection

`services/vpn_auto_selection_state.py`: the active server of vpn-auto, the provenance of its
selection and a revision are read and written together, in write transactions of which SQLite runs
one at a time.  A transaction makes one call and is committed or rolled back; a call may also raise,
or miss and return `None`.

The column `value_json` is kept as what `json.loads` makes of it, `none` where that raises: what is
written there is the `json.dumps` of a value.
-/

namespace FwRouter.Selection

open Py

/-! ## State -/

/-- The rows behind the fence.  `activeAutoServerId` is the column of the one row of
`routing_global_state`, if there is that row; `servers` are the ids that it may refer to. -/
structure SelectionState where
  settings : List (Text × Option Value)
  activeAutoServerId : Option (Option Text)
  servers : List Text

def selectionRevisionKey : Text := "routing.auto_selection_revision".toList
def selectionProvenanceKey : Text := "routing.auto_selection_provenance".toList

inductive SelectionError
  | revisionMalformed
  | provenanceMalformed
  | integrityError
  deriving DecidableEq

/-- `_read_json_int`. -/
def readJsonInt : Option Value → Except SelectionError ℤ
  | some (.int n) => if n < 0 then .error .revisionMalformed else .ok n
  | _ => .error .revisionMalformed

def readSelectionRevision (s : SelectionState) : Except SelectionError ℤ :=
  match s.settings.lookup selectionRevisionKey with
  | none => .ok 0
  | some stored => readJsonInt stored

/-- The stored provenance; `none` where it is no object. -/
def readProvenance (s : SelectionState) : Option Dict :=
  match s.settings.lookup selectionProvenanceKey with
  | none => some []
  | some stored => stored.bind Value.asDict

/-- `text or None`. -/
def orNone (t : Text) : Option Text := if t = [] then none else some t

structure Fence where
  revision : ℤ
  activeServerId : Option Text
  decisionId : Option Text
  provenanceServerId : Option Text
  routingStatePresent : Bool
  deriving DecidableEq

variable (reprText : Text → Text)

/-- `str(provenance.get(key) or "").strip() or None`. -/
def provenanceField (provenance : Dict) (key : String) : Option Text :=
  orNone (strip ((provenance.get key).textOr reprText))

def readSelectionFence (s : SelectionState) : Except SelectionError Fence :=
  match readProvenance s with
  | none => .error .provenanceMalformed
  | some provenance => do
      let revision ← readSelectionRevision s
      return {
        revision := revision
        activeServerId := s.activeAutoServerId.bind fun active => orNone (strip (active.getD []))
        decisionId := provenanceField reprText provenance "decision_id"
        provenanceServerId := provenanceField reprText provenance "selected_server_id"
        routingStatePresent := s.activeAutoServerId.isSome }

/-! ## Calls -/

/-- `INSERT … ON CONFLICT(key) DO UPDATE` of a JSON value. -/
def writeSetting (key : Text) (value : Value) (s : SelectionState) : SelectionState :=
  { s with settings := KeyedTable.assign key (some value) s.settings }

def advanceSelectionRevision (expectedRevision : Option ℤ) (s : SelectionState) :
    Except SelectionError (Option ℤ × SelectionState) := do
  let current ← readSelectionRevision s
  if ∃ expected ∈ expectedRevision, current ≠ expected then return (none, s)
  else return (some (current + 1), writeSetting selectionRevisionKey (.int (current + 1)) s)

structure Commitment where
  expectedRevision : ℤ
  expectedActiveServerId : Option Text
  expectedProvenanceDecisionId : Option Text
  serverId : Text
  provenance : Dict

def commitActiveSelection (c : Commitment) (s : SelectionState) :
    Except SelectionError (Option ℤ × SelectionState) := do
  let current ← readSelectionRevision s
  if current ≠ c.expectedRevision then return (none, s)
  else
    match s.activeAutoServerId, readProvenance s with
    | some active, some provenance =>
        if strip (active.getD []) ≠ strip (c.expectedActiveServerId.getD []) then return (none, s)
        else if provenanceField reprText provenance "decision_id" ≠
            orNone (strip (c.expectedProvenanceDecisionId.getD [])) then return (none, s)
        else if c.serverId ∉ s.servers then .error .integrityError
        else
          return (some (current + 1),
            writeSetting selectionRevisionKey (.int (current + 1))
              (writeSetting selectionProvenanceKey (.dict c.provenance)
                { s with activeAutoServerId := some (some c.serverId) }))
    | _, _ => return (none, s)

inductive Call
  | advance (expectedRevision : Option ℤ)
  | commit (c : Commitment)

def Call.run : Call → SelectionState → Except SelectionError (Option ℤ × SelectionState)
  | .advance expected => advanceSelectionRevision expected
  | .commit c => commitActiveSelection reprText c

/-- The revision that a call is fenced with. -/
def Call.fence : Call → Option ℤ
  | .advance expected => expected
  | .commit c => some c.expectedRevision

def Call.commitment : Call → Option Commitment
  | .advance _ => none
  | .commit c => some c

/-! ## Transactions -/

/-- One call, and whether the caller commits. -/
structure Transaction where
  call : Call
  commits : Bool

/-- The number that a committed call returned. -/
def Transaction.won (s : SelectionState) (tx : Transaction) : Option ℤ :=
  match tx.call.run reprText s with
  | .ok (some n, _) => if tx.commits then some n else none
  | _ => none

def step (s : SelectionState) (tx : Transaction) : SelectionState :=
  match tx.call.run reprText s with
  | .ok (_, s') => if tx.commits then s' else s
  | .error _ => s

/-- The committed calls of a history that returned a number, with the number. -/
def winners (s : SelectionState) : List Transaction → List (Transaction × ℤ)
  | [] => []
  | tx :: txs =>
      ((tx.won reprText s).map fun n => (tx, n)).toList ++ winners (step reprText s tx) txs

/-- The commitment of the last committed `commit_active_selection` of a history. -/
def lastCommitment (s : SelectionState) (txs : List Transaction) : Option Commitment :=
  ((winners reprText s txs).filterMap fun w => w.1.call.commitment).getLast?

structure WellFormed (s : SelectionState) : Prop where
  revision : ∃ r, readSelectionRevision s = .ok r
  provenance : ∃ d, readProvenance s = some d

/-! ## One call -/

variable {reprText} {s s' : SelectionState}

lemma readSelectionRevision_write (n : ℤ) (hn : 0 ≤ n) (s : SelectionState) :
    readSelectionRevision (writeSetting selectionRevisionKey (.int n) s) = .ok n := by
  rw [readSelectionRevision, writeSetting, KeyedTable.lookup_assign_self]
  exact if_neg (by omega)

lemma readProvenance_writeRevision (v : Value) (s : SelectionState) :
    readProvenance (writeSetting selectionRevisionKey v s) = readProvenance s := by
  rw [readProvenance, writeSetting, KeyedTable.lookup_assign_of_ne (by decide), readProvenance]

lemma readProvenance_write (d : Dict) (s : SelectionState) :
    readProvenance (writeSetting selectionProvenanceKey (.dict d) s) = some d := by
  rw [readProvenance, writeSetting, KeyedTable.lookup_assign_self]
  rfl

lemma nonneg_of_readSelectionRevision {r : ℤ} (h : readSelectionRevision s = .ok r) : 0 ≤ r := by
  rw [readSelectionRevision] at h
  split at h
  · cases h
    exact le_rfl
  · unfold readJsonInt at h
    split at h
    · split_ifs at h with hneg
      cases h
      omega
    · cases h

lemma Call.run_none {c : Call} (h : c.run reprText s = .ok (none, s')) : s' = s := by
  cases c with
  | advance expected =>
      obtain ⟨r, -, h⟩ := Run.exists_of_bind_eq_ok h
      split at h
      · cases h
        rfl
      · cases h
  | commit c =>
      obtain ⟨r, -, h⟩ := Run.exists_of_bind_eq_ok h
      split at h
      · cases h
        rfl
      · split at h
        · split at h
          · cases h
            rfl
          · split at h
            · cases h
              rfl
            · split at h
              · cases h
              · cases h
        · cases h
          rfl

/-- **A call that returns a number** found the revision it was fenced with and raised it by one; an
advance leaves the selection, a commit replaces it. -/
lemma Call.run_some {c : Call} {n : ℤ} (h : c.run reprText s = .ok (some n, s')) :
    ∃ r, readSelectionRevision s = .ok r ∧ n = r + 1 ∧ (∀ expected ∈ c.fence, expected = r) ∧
      readSelectionRevision s' = .ok (r + 1) ∧
      match c.commitment with
      | none => s'.activeAutoServerId = s.activeAutoServerId ∧ readProvenance s' = readProvenance s
      | some d => s'.activeAutoServerId = some (some d.serverId) ∧
          readProvenance s' = some d.provenance := by
  cases c with
  | advance expected =>
      obtain ⟨r, hr, h⟩ := Run.exists_of_bind_eq_ok h
      have hnonneg := nonneg_of_readSelectionRevision hr
      split at h
      · cases h
      · rename_i hfence
        cases h
        refine ⟨r, hr, rfl, ?_, readSelectionRevision_write _ (by omega) s, rfl,
          readProvenance_writeRevision _ s⟩
        intro e he
        by_contra hne
        exact hfence ⟨e, he, fun heq => hne heq.symm⟩
  | commit d =>
      obtain ⟨r, hr, h⟩ := Run.exists_of_bind_eq_ok h
      have hnonneg := nonneg_of_readSelectionRevision hr
      split at h
      · cases h
      · rename_i hfence
        split at h
        · split at h
          · cases h
          · split at h
            · cases h
            · split at h
              · cases h
              · cases h
                refine ⟨r, hr, rfl, ?_, readSelectionRevision_write _ (by omega) _, rfl, ?_⟩
                · intro e he
                  obtain rfl := Option.some.inj he
                  exact (not_not.mp hfence).symm
                · rw [readProvenance_writeRevision, readProvenance_write]
        · cases h

/-! ## One transaction -/

/-- A transaction that wins has made the call. -/
lemma Transaction.run_of_won {tx : Transaction} {n : ℤ} (h : tx.won reprText s = some n) :
    tx.call.run reprText s = .ok (some n, step reprText s tx) := by
  unfold Transaction.won at h
  unfold step
  split at h
  · rename_i hrun
    split_ifs at h with hcommits
    cases h
    simp [hrun, hcommits]
  · cases h

/-- A transaction that does not win (it misses, raises or is rolled back) leaves the state. -/
lemma step_of_lost {tx : Transaction} (h : tx.won reprText s = none) :
    step reprText s tx = s := by
  unfold Transaction.won at h
  unfold step
  cases hrun : tx.call.run reprText s with
  | error e => rfl
  | ok result =>
      obtain ⟨returned, s'⟩ := result
      by_cases hcommits : tx.commits
      · cases returned with
        | none => simpa [hcommits] using Call.run_none hrun
        | some n => simp [hrun, hcommits] at h
      · simp [hcommits]

variable (reprText) in
lemma step_revision (tx : Transaction) {r : ℤ} (hr : readSelectionRevision s = .ok r) :
    match tx.won reprText s with
    | none => step reprText s tx = s
    | some n => n = r + 1 ∧ readSelectionRevision (step reprText s tx) = .ok (r + 1) := by
  cases hwon : tx.won reprText s with
  | none => exact step_of_lost hwon
  | some n =>
      obtain ⟨r', hr', hn, -, hafter, -⟩ := Call.run_some (Transaction.run_of_won hwon)
      obtain rfl : r = r' := Except.ok.inj (hr.symm.trans hr')
      exact ⟨hn, hafter⟩

lemma WellFormed.step {tx : Transaction} (h : WellFormed s) :
    WellFormed (step reprText s tx) := by
  cases hwon : tx.won reprText s with
  | none =>
      rw [step_of_lost hwon]
      exact h
  | some n =>
      obtain ⟨r, -, -, -, hafter, hselection⟩ := Call.run_some (Transaction.run_of_won hwon)
      refine ⟨⟨r + 1, hafter⟩, ?_⟩
      cases hc : tx.call.commitment with
      | none =>
          rw [hc] at hselection
          rw [hselection.2]
          exact h.provenance
      | some c =>
          rw [hc] at hselection
          exact ⟨_, hselection.2⟩

variable (reprText) in
lemma WellFormed.run (txs : List Transaction) (h : WellFormed s) :
    WellFormed (txs.foldl (Selection.step reprText) s) := by
  induction txs generalizing s with
  | nil => exact h
  | cons tx txs ih => exact ih h.step

/-! ## Histories -/

variable (reprText) in
/-- The numbers of the winners of a history ascend from the revision that it starts at, and each
winner was fenced with the number before its own. -/
lemma winners_ascend (txs : List Transaction) {r : ℤ} (hr : readSelectionRevision s = .ok r) :
    (winners reprText s txs).Pairwise (fun v w => v.2 < w.2) ∧
      ∀ w ∈ winners reprText s txs, r < w.2 ∧ ∀ expected ∈ w.1.call.fence, expected + 1 = w.2 := by
  induction txs generalizing s r with
  | nil => exact ⟨List.Pairwise.nil, by simp [winners]⟩
  | cons tx txs ih =>
      rw [winners]
      cases hwon : tx.won reprText s with
      | none =>
          rw [step_of_lost hwon]
          exact ih hr
      | some n =>
          obtain ⟨r', hr', rfl, hfence, hafter, -⟩ := Call.run_some (Transaction.run_of_won hwon)
          obtain rfl : r = r' := Except.ok.inj (hr.symm.trans hr')
          obtain ⟨hpairs, hlater⟩ := ih hafter
          refine ⟨List.pairwise_cons.mpr ⟨fun w hw => (hlater w hw).1, hpairs⟩, ?_⟩
          intro w hw
          rcases List.mem_cons.mp hw with rfl | hw
          · exact ⟨by simp, fun e he => by rw [hfence e he]⟩
          · obtain ⟨hgt, hw⟩ := hlater w hw
            exact ⟨by omega, hw⟩

/-- At most one winner of a history was fenced with `expected`. -/
lemma winners_fenced_le_one (txs : List Transaction) {r : ℤ}
    (hr : readSelectionRevision s = .ok r) (expected : ℤ) :
    ((winners reprText s txs).filter fun w => w.1.call.fence = some expected).length ≤ 1 := by
  obtain ⟨hpairs, hwins⟩ := winners_ascend reprText txs hr
  have hpairs' := hpairs.filter fun w => w.1.call.fence = some expected
  have hnumber : ∀ w ∈ (winners reprText s txs).filter fun w => w.1.call.fence = some expected,
      w.2 = expected + 1 := by
    intro w hw
    rw [List.mem_filter] at hw
    exact ((hwins w hw.1).2 expected (of_decide_eq_true hw.2)).symm
  generalize (winners reprText s txs).filter (fun w => w.1.call.fence = some expected) = ws
    at hpairs' hnumber
  match ws with
  | [] => simp
  | [w] => simp
  | v :: w :: ws =>
      -- two winners with one fence would have one number
      have hlt := (List.pairwise_cons.mp hpairs').1 w (by simp)
      rw [hnumber v (by simp), hnumber w (by simp)] at hlt
      exact absurd hlt (lt_irrefl _)

/-- The selection is that of the last commitment, or the one that the history started with. -/
lemma selection_run (reprText : Text → Text) (s : SelectionState) (txs : List Transaction) :
    match lastCommitment reprText s txs with
    | none => (txs.foldl (step reprText) s).activeAutoServerId = s.activeAutoServerId ∧
        readProvenance (txs.foldl (step reprText) s) = readProvenance s
    | some c => (txs.foldl (step reprText) s).activeAutoServerId = some (some c.serverId) ∧
        readProvenance (txs.foldl (step reprText) s) = some c.provenance := by
  induction txs generalizing s with
  | nil => exact ⟨rfl, rfl⟩
  | cons tx txs ih =>
      have hrest := ih (step reprText s tx)
      rw [lastCommitment] at hrest ⊢
      rw [winners, List.foldl_cons]
      cases hwon : tx.won reprText s with
      | none =>
          rw [step_of_lost hwon] at hrest ⊢
          exact hrest
      | some n =>
          obtain ⟨r, -, -, -, -, hselection⟩ := Call.run_some (Transaction.run_of_won hwon)
          simp only [Option.map_some, Option.toList_some, List.cons_append, List.nil_append]
          cases hc : tx.call.commitment with
          | none =>
              rw [hc] at hselection
              simp only [List.filterMap_cons, hc]
              split at hrest
              · rename_i hnone
                rw [hnone]
                exact ⟨hrest.1.trans hselection.1, hrest.2.trans hselection.2⟩
              · rename_i d hsome
                rw [hsome]
                exact hrest
          | some c =>
              rw [hc] at hselection
              simp only [List.filterMap_cons, hc, List.getLast?_cons]
              split at hrest
              · rename_i hnone
                rw [hnone]
                exact ⟨hrest.1.trans hselection.1, hrest.2.trans hselection.2⟩
              · rename_i d hsome
                rw [hsome]
                exact hrest

/-- **The fence is a compare-and-swap.**  In every history of transactions from well-formed settings:
a call that misses leaves the state, and so does a transaction that is rolled back or raises; a call
that is committed with a number finds the revision one below that number and leaves the number; of
the calls fenced with one revision at most one wins; and the fence that is read at the end is the
selection of the last commitment, whatever advances came after it. -/
theorem selection_fence_linearizable (reprText : Text → Text) (s₀ : SelectionState)
    (h₀ : WellFormed s₀) (txs : List Transaction) :
    (∀ done tx, done ++ [tx] <+: txs →
      ∃ r, readSelectionRevision (done.foldl (step reprText) s₀) = .ok r ∧
        (∀ s', tx.call.run reprText (done.foldl (step reprText) s₀) = .ok (none, s') →
          s' = done.foldl (step reprText) s₀) ∧
        match tx.won reprText (done.foldl (step reprText) s₀) with
        | none => (done ++ [tx]).foldl (step reprText) s₀ = done.foldl (step reprText) s₀
        | some n => n = r + 1 ∧
            readSelectionRevision ((done ++ [tx]).foldl (step reprText) s₀) = .ok (r + 1)) ∧
    (∀ expected,
      ((winners reprText s₀ txs).filter fun w => w.1.call.fence = some expected).length ≤ 1) ∧
    ∃ fence, readSelectionFence reprText (txs.foldl (step reprText) s₀) = .ok fence ∧
      match lastCommitment reprText s₀ txs with
      | none => (txs.foldl (step reprText) s₀).activeAutoServerId = s₀.activeAutoServerId ∧
          readProvenance (txs.foldl (step reprText) s₀) = readProvenance s₀
      | some c =>
          (txs.foldl (step reprText) s₀).activeAutoServerId = some (some c.serverId) ∧
          readProvenance (txs.foldl (step reprText) s₀) = some c.provenance ∧
          fence.activeServerId = orNone (strip c.serverId) ∧
          fence.decisionId = provenanceField reprText c.provenance "decision_id" ∧
          fence.provenanceServerId = provenanceField reprText c.provenance "selected_server_id" := by
  refine ⟨?_, ?_, ?_⟩
  · intro done tx _
    obtain ⟨r, hr⟩ := (h₀.run reprText done).revision
    refine ⟨r, hr, fun s' hrun => Call.run_none hrun, ?_⟩
    rw [List.foldl_append]
    exact step_revision reprText tx hr
  · intro expected
    obtain ⟨r, hr⟩ := h₀.revision
    exact winners_fenced_le_one txs hr expected
  · obtain ⟨⟨r, hr⟩, d, hd⟩ := h₀.run reprText txs
    have hselection := selection_run reprText s₀ txs
    refine ⟨_, by rw [readSelectionFence, hd, hr]; rfl, ?_⟩
    split at hselection
    · exact hselection
    · rename_i c _
      obtain ⟨hactive, hprovenance⟩ := hselection
      obtain rfl : d = c.provenance := Option.some.inj (hd.symm.trans hprovenance)
      exact ⟨hactive, hprovenance, by rw [hactive]; rfl, rfl, rfl⟩

/-- A row that has no selection yet, and one server. -/
def unselected : SelectionState where
  settings := []
  activeAutoServerId := some none
  servers := ["se-1".toList]

/-- Two workers that have read revision `0` and commit, and an advance after them. -/
def contention : List Transaction :=
  let commitment : Commitment := {
    expectedRevision := 0
    expectedActiveServerId := none
    expectedProvenanceDecisionId := none
    serverId := "se-1".toList
    provenance := [("decision_id".toList, .str "d1".toList)] }
  [⟨.commit commitment, true⟩, ⟨.commit commitment, true⟩, ⟨.advance none, true⟩]

lemma unselected_wellFormed : WellFormed unselected := ⟨⟨0, rfl⟩, [], rfl⟩

theorem contention_linearizable :
    WellFormed unselected ∧
      ((winners id unselected contention).filter fun w => w.1.call.fence = some 0).length ≤ 1 ∧
      (contention.foldl (step id) unselected).activeAutoServerId = some (some "se-1".toList) := by
  obtain ⟨-, hone, fence, -, hselection⟩ :=
    selection_fence_linearizable id unselected unselected_wellFormed contention
  refine ⟨unselected_wellFormed, hone 0, ?_⟩
  exact hselection.1

end FwRouter.Selection
