import FwRouter.Python.Value
import FwRouter.Library.Run

/-!
# The priority of a server in vpn-auto

`update_server_preferences` and `replace_vpn_auto_servers` write `server_preferences`.  A call reads
first and writes later, under the writer guard; other calls may write in between.  An update computes
its assignments from what it has read, and does not look at the row again: a priority that was set by
hand in between is overwritten, and a column that already had the wanted value is left out.  A
replacement decides in its statements, and keeps what was set by hand.
-/

namespace FwRouter.Preferences

open Py

/-! ## Rows -/

/-- `vpn_auto_priority_origin`. -/
inductive Origin
  | auto
  | manual
  | legacy
  deriving DecidableEq

/-- The columns of `server_preferences` that the calls write, with their defaults. -/
structure PreferenceRow where
  vpnAuto : Bool := false
  vpnAutoPriority : ℤ := 0
  vpnAutoPriorityOrigin : Origin := .legacy
  globalList : Bool := true
  deriving DecidableEq

/-- `server_preferences`, by `server_id`. -/
abbrev Table := Text → Option PreferenceRow

/-- The row of a server, or the defaults. -/
def Table.row (table : Table) (serverId : Text) : PreferenceRow := (table serverId).getD {}

/-- One assignment of an `UPDATE`. -/
inductive Assignment
  | vpnAuto (value : Bool)
  | priority (value : ℤ)
  | origin (value : Origin)
  | globalList (value : Bool)
  deriving DecidableEq

/-- The column, as `changed_fields` names it. -/
def Assignment.field : Assignment → String
  | .vpnAuto _ => "vpn_auto"
  | .priority _ => "vpn_auto_priority"
  | .origin _ => "vpn_auto_priority_origin"
  | .globalList _ => "global_list"

def Assignment.apply (row : PreferenceRow) : Assignment → PreferenceRow
  | .vpnAuto value => { row with vpnAuto := value }
  | .priority value => { row with vpnAutoPriority := value }
  | .origin value => { row with vpnAutoPriorityOrigin := value }
  | .globalList value => { row with globalList := value }

def assign (assignments : List Assignment) (row : PreferenceRow) : PreferenceRow :=
  assignments.foldl Assignment.apply row

/-- What a call returns. -/
structure Reply where
  ok : Bool
  changed : Bool
  changedFields : List String
  errorCode : Option String
  deriving DecidableEq

def Reply.refused (code : String) : Reply := ⟨false, false, [], some code⟩

def Reply.unchanged : Reply := ⟨true, false, [], none⟩

/-- How a call goes on when its guarded transaction is not refused: the transaction raises and is rolled
back, the call raises later, the reconcile of Mihomo fails, or it returns. -/
inductive Finish
  | rolledBack
  | raised
  | reconcileFailed
  | done
  deriving DecidableEq

/-- The reply to a change, and the table; `none` where the call raises. -/
def Finish.reply (finish : Finish) (changedFields : List String) (before after : Table) :
    Option Reply × Table :=
  match finish with
  | .rolledBack => (none, before)
  | .raised => (none, after)
  | .reconcileFailed => (some ⟨false, true, changedFields, some "MIHOMO_RECONCILE_FAILED"⟩, after)
  | .done => (some ⟨true, true, changedFields, none⟩, after)

/-! ## `update_server_preferences` -/

structure UpdateRequest where
  serverId : Text
  vpnAuto : Option Bool
  vpnAutoPriority : Option Value
  globalList : Option Bool

/-- What is read before the guard: the answer of `_validate_global_fixed_server`, the servers in the order
of `list_servers`, and whether the server's vpn-auto intent is editable. -/
structure UpdateReads where
  validation : Option String
  listing : List Text
  editable : Bool

/-- `get_server`, which looks at the first 1000 servers only; the defaults where it finds none. -/
def getServer (reads : UpdateReads) (table : Table) (serverId : Text) : PreferenceRow :=
  if serverId ∈ reads.listing.take 1000 then table.row serverId else {}

/-- `_normalize_vpn_auto_priority`. -/
def normalizeVpnAutoPriority : Value → Option ℤ
  | .int value => if value < -1 ∨ 5 < value then none else some value
  | _ => none

/-- An update that waits for the guard: what it has read, and the arguments. -/
structure PendingUpdate where
  serverId : Text
  current : PreferenceRow
  vpnAuto : Option Bool
  priority : Option ℤ
  globalList : Option Bool
  deriving DecidableEq

namespace PendingUpdate

variable (pending : PendingUpdate)

/-- `priority_is_echo`: the interface sends the priority that it has been shown. -/
def priorityIsEcho : Bool :=
  pending.vpnAuto.isSome && decide (pending.priority = some pending.current.vpnAutoPriority)

/-- The priority of an `explicit_priority_change`. -/
def explicitPriority : Option ℤ := if pending.priorityIsEcho then none else pending.priority

/-- `wants_auto_change or wants_priority_change`. -/
def wantsChange : Bool :=
  pending.vpnAuto.any (fun value => decide (pending.current.vpnAuto ≠ value)) ||
    pending.priority.any fun value => decide (pending.current.vpnAutoPriority ≠ value)

/-- The assignments of a switch of `vpn_auto`; turning it on or off moves an automatic priority. -/
def autoAssignments : List Assignment :=
  match pending.vpnAuto with
  | none => []
  | some value =>
      (if pending.current.vpnAuto ≠ value then [.vpnAuto value] else []) ++
      (if value = true ∧ pending.current.vpnAuto = false ∧ pending.explicitPriority = none ∧
          pending.current.vpnAutoPriority = 0 ∧ pending.current.vpnAutoPriorityOrigin ≠ .manual then
        [.priority 1, .origin .auto] else []) ++
      (if value = false ∧ pending.explicitPriority = none ∧ pending.current.vpnAutoPriority = 1 ∧
          pending.current.vpnAutoPriorityOrigin = .auto then [.priority 0] else [])

/-- The assignments of an explicit priority. -/
def priorityAssignments : List Assignment :=
  match pending.explicitPriority with
  | none => []
  | some value =>
      (if pending.current.vpnAutoPriority ≠ value then [.priority value] else []) ++
      (if pending.current.vpnAutoPriorityOrigin ≠ .manual then [.origin .manual] else [])

def globalListAssignments : List Assignment :=
  match pending.globalList with
  | none => []
  | some value => if pending.current.globalList ≠ value then [.globalList value] else []

def assignments : List Assignment :=
  pending.autoAssignments ++ pending.priorityAssignments ++ pending.globalListAssignments

end PendingUpdate

/-- The part of `update_server_preferences` before the guard. -/
def beginUpdate (request : UpdateRequest) (reads : UpdateReads) (table : Table) :
    Except Reply PendingUpdate :=
  let serverId := strip request.serverId
  if serverId = [] then .error (.refused "SERVER_ID_EMPTY")
  else if request.vpnAuto = none ∧ request.vpnAutoPriority.isNone ∧ request.globalList = none then
    .error (.refused "SERVER_PREFERENCES_EMPTY")
  else match reads.validation with
    | some code => .error (.refused code)
    | none =>
        let pending : PendingUpdate := {
          serverId := serverId
          current := getServer reads table serverId
          vpnAuto := request.vpnAuto
          priority := request.vpnAutoPriority.bind normalizeVpnAutoPriority
          globalList := request.globalList }
        if request.vpnAutoPriority.isSome ∧ pending.priority = none then
          .error (.refused "VPN_AUTO_PRIORITY_INVALID")
        else if pending.wantsChange = true ∧ reads.editable = false then
          .error (.refused "VPN_AUTO_EXCLUSIVE_SOURCE")
        else if pending.assignments = [] then .error .unchanged
        else .ok pending

/-- What a guarded transaction reads beside the table. -/
structure GuardReads where
  fixedWorkflowPending : Bool
  /-- `_preference_target_error`. -/
  targetError : Text → Option String
  /-- `_configured_auto_intent_is_editable`. -/
  editable : Text → Bool
  /-- `server_is_in_exclusive_pool`. -/
  inPool : Text → Bool
  finish : Finish

/-- The guarded transaction of `update_server_preferences`, and what follows it. -/
def commitUpdate (pending : PendingUpdate) (reads : GuardReads) (table : Table) : Option Reply × Table :=
  if reads.fixedWorkflowPending then (some (.refused "FIXED_WORKFLOW_PENDING"), table)
  else match reads.targetError pending.serverId with
    | some code => (some (.refused code), table)
    | none =>
        if pending.wantsChange = true ∧ reads.editable pending.serverId = false then
          (some (.refused "VPN_AUTO_EXCLUSIVE_SOURCE"), table)
        else reads.finish.reply (pending.assignments.map Assignment.field) table
          (Function.update table pending.serverId
            (some (assign pending.assignments (table.row pending.serverId))))

/-! ## `replace_vpn_auto_servers` -/

/-- What is read before the guard: the answers of the validation, of the exclusive pool, and the servers
that are eligible. -/
structure ReplaceReads where
  validation : Text → Option String
  inPool : Text → Bool
  currentServerIds : List Text

/-- `_unique_server_ids`. -/
def uniqueServerIds (serverIds : List Text) : List Text :=
  serverIds.foldl (fun result serverId =>
    let normalized := strip serverId
    if normalized = [] ∨ normalized ∈ result then result else result ++ [normalized]) []

/-- The part of `replace_vpn_auto_servers` before the guard. -/
def beginReplace (serverIds : List Text) (reads : ReplaceReads) : Except Reply (List Text) :=
  let serverIds := uniqueServerIds serverIds
  if serverIds.any fun serverId => (reads.validation serverId).isSome then
    .error (.refused "VPN_AUTO_SERVER_INVALID")
  else if serverIds.any fun serverId => !reads.inPool serverId then
    .error (.refused "VPN_AUTO_EXCLUSIVE_SOURCE")
  else if (∀ serverId ∈ reads.currentServerIds, serverId ∈ serverIds) ∧
      ∀ serverId ∈ serverIds, serverId ∈ reads.currentServerIds then .error .unchanged
  else .ok serverIds

/-- The first `UPDATE`: a member leaves, and its automatic priority with it. -/
def leave (row : PreferenceRow) : PreferenceRow :=
  { row with
    vpnAuto := false
    vpnAutoPriority := if row.vpnAutoPriority = 1 ∧ row.vpnAutoPriorityOrigin = .auto then 0
      else row.vpnAutoPriority }

/-- The second `UPDATE`: a member joins, with an automatic priority unless it was set by hand. -/
def join (row : PreferenceRow) : PreferenceRow :=
  let automatic := row.vpnAutoPriority = 0 ∧ row.vpnAutoPriorityOrigin ≠ .manual
  { row with
    vpnAuto := true
    vpnAutoPriority := if automatic then 1 else row.vpnAutoPriority
    vpnAutoPriorityOrigin := if automatic then .auto else row.vpnAutoPriorityOrigin }

/-- The statements of `replace_vpn_auto_servers`. -/
def replaceMembers (serverIds : List Text) (inPool : Text → Bool) (table : Table) : Table := fun serverId =>
  let left := (table serverId).map fun row =>
    if row.vpnAuto = true ∧ inPool serverId = true then leave row else row
  if serverId ∈ serverIds then some (join (left.getD {})) else left

/-- The guarded transaction of `replace_vpn_auto_servers`, and what follows it. -/
def commitReplace (serverIds : List Text) (reads : GuardReads) (table : Table) : Option Reply × Table :=
  if reads.fixedWorkflowPending then (some (.refused "FIXED_WORKFLOW_PENDING"), table)
  else if serverIds.any fun serverId => !reads.inPool serverId then
    (some (.refused "VPN_AUTO_EXCLUSIVE_SOURCE"), table)
  else if serverIds.any fun serverId => (reads.targetError serverId).isSome then
    (some (.refused "VPN_AUTO_SERVER_INVALID"), table)
  else reads.finish.reply [] table (replaceMembers serverIds reads.inPool table)

/-! ## Interleavings -/

/-- The table and the calls that wait for the guard. -/
structure State where
  table : Table
  updates : ℕ → Option PendingUpdate
  replacements : ℕ → Option (List Text)

/-- One atomic step of a call: its reads, or its guarded transaction. -/
inductive Step
  | beginUpdate (call : ℕ) (request : UpdateRequest) (reads : UpdateReads)
  | commitUpdate (call : ℕ) (reads : GuardReads)
  | beginReplace (call : ℕ) (serverIds : List Text) (reads : ReplaceReads)
  | commitReplace (call : ℕ) (reads : GuardReads)

/-- What a step returns to the caller, and the state after it.  A call that has returned or raised does not
wait any more. -/
def execute (s : State) : Step → Option Reply × State
  | .beginUpdate call request reads =>
      match beginUpdate request reads s.table with
      | .error reply => (some reply, s)
      | .ok pending => (none, { s with updates := Function.update s.updates call (some pending) })
  | .commitUpdate call reads =>
      match s.updates call with
      | none => (none, s)
      | some pending =>
          let done := commitUpdate pending reads s.table
          (done.1, { s with table := done.2, updates := Function.update s.updates call none })
  | .beginReplace call serverIds reads =>
      match beginReplace serverIds reads with
      | .error reply => (some reply, s)
      | .ok serverIds =>
          (none, { s with replacements := Function.update s.replacements call (some serverIds) })
  | .commitReplace call reads =>
      match s.replacements call with
      | none => (none, s)
      | some serverIds =>
          let done := commitReplace serverIds reads s.table
          (done.1, { s with table := done.2, replacements := Function.update s.replacements call none })

def step (s : State) (a : Step) : State := (execute s a).2

/-- The priority has been set by hand, and this is it. -/
def Manual (table : Table) (serverId : Text) (priority : ℤ) : Prop :=
  (table.row serverId).vpnAutoPriority = priority ∧ (table.row serverId).vpnAutoPriorityOrigin = .manual

/-- The step is the transaction of an update with an explicit priority for the server. -/
def Sets (s : State) (a : Step) (serverId : Text) (priority : ℤ) : Prop :=
  ∃ call reads pending, a = .commitUpdate call reads ∧ s.updates call = some pending ∧
    pending.serverId = serverId ∧ pending.explicitPriority = some priority

/-- What an update has left out, or moves by itself, may still be left out or moved: the columns of an
explicit priority that were as wanted are so, and an automatic priority is not written over one that
has been set by hand. -/
def PendingUpdate.Current (pending : PendingUpdate) (row : PreferenceRow) : Prop :=
  match pending.explicitPriority with
  | some priority =>
      (pending.current.vpnAutoPriority = priority → row.vpnAutoPriority = priority) ∧
      (pending.current.vpnAutoPriorityOrigin = .manual → row.vpnAutoPriorityOrigin = .manual)
  | none => (∃ priority, .priority priority ∈ pending.assignments) → row.vpnAutoPriorityOrigin ≠ .manual

/-- The condition on a step. -/
def Current (s : State) : Step → Prop
  | .commitUpdate call _ => ∀ pending ∈ s.updates call, pending.Current (s.table.row pending.serverId)
  | _ => True

/-! ## One transaction -/

section Transaction

variable {pending : PendingUpdate} {row : PreferenceRow} {p : ℤ} {table : Table} {serverId : Text}

lemma assign_append (as bs : List Assignment) (row : PreferenceRow) :
    assign (as ++ bs) row = assign bs (assign as row) := List.foldl_append

/-- The columns of the priority. -/
def PreferenceRow.priorityColumns (row : PreferenceRow) : ℤ × Origin :=
  (row.vpnAutoPriority, row.vpnAutoPriorityOrigin)

/-- An assignment of one of the columns of the priority. -/
def Assignment.movesPriority : Assignment → Bool
  | .priority _ => true
  | .origin _ => true
  | _ => false

lemma assign_of_not_moves {as : List Assignment} (h : ∀ a ∈ as, a.movesPriority = false) :
    (assign as row).priorityColumns = row.priorityColumns := by
  induction as generalizing row with
  | nil => rfl
  | cons a as ih =>
      rw [List.forall_mem_cons] at h
      rw [assign, List.foldl_cons, ← assign, ih h.2]
      cases a with
      | vpnAuto value => rfl
      | globalList value => rfl
      | priority value => cases h.1
      | origin value => cases h.1

lemma globalListAssignments_not_moves : ∀ a ∈ pending.globalListAssignments, a.movesPriority = false := by
  intro a ha
  rw [PendingUpdate.globalListAssignments] at ha
  split at ha
  · cases ha
  · split_ifs at ha
    · rw [List.mem_singleton.mp ha]
      rfl
    · cases ha

/-- With an explicit priority, a switch moves none by itself. -/
lemma autoAssignments_not_moves (h : pending.explicitPriority = some p) :
    ∀ a ∈ pending.autoAssignments, a.movesPriority = false := by
  intro a ha
  rw [PendingUpdate.autoAssignments] at ha
  split at ha
  · cases ha
  · simp only [h, reduceCtorEq, false_and, and_false, if_false, List.append_nil] at ha
    split_ifs at ha
    · rw [List.mem_singleton.mp ha]
      rfl
    · cases ha

/-- An explicit priority is stored, if what has been left out is as wanted. -/
lemma assign_explicit (hexplicit : pending.explicitPriority = some p) (hcurrent : pending.Current row) :
    (assign pending.assignments row).priorityColumns = (p, .manual) := by
  rw [PendingUpdate.Current, hexplicit] at hcurrent
  rw [PendingUpdate.assignments, assign_append, assign_append,
    assign_of_not_moves globalListAssignments_not_moves, PendingUpdate.priorityAssignments, hexplicit]
  have hauto := @assign_of_not_moves row _ (autoAssignments_not_moves hexplicit)
  obtain ⟨hpriority, horigin⟩ := Prod.mk.inj hauto
  dsimp only
  rw [assign_append]
  by_cases hp : pending.current.vpnAutoPriority = p
  · by_cases ho : pending.current.vpnAutoPriorityOrigin = .manual
    · rw [if_neg (not_not.mpr hp), if_neg (not_not.mpr ho)]
      exact Prod.ext (hpriority.trans (hcurrent.1 hp)) (horigin.trans (hcurrent.2 ho))
    · rw [if_neg (not_not.mpr hp), if_pos ho]
      exact congrArg (Prod.mk · Origin.manual) (hpriority.trans (hcurrent.1 hp))
  · by_cases ho : pending.current.vpnAutoPriorityOrigin = .manual
    · rw [if_pos hp, if_neg (not_not.mpr ho)]
      exact congrArg (Prod.mk p) (horigin.trans (hcurrent.2 ho))
    · rw [if_pos hp, if_pos ho]
      rfl

/-- An update without an explicit priority moves the origin only along with the priority. -/
lemma not_moves_of_automatic (hexplicit : pending.explicitPriority = none)
    (hnone : ¬∃ priority, .priority priority ∈ pending.assignments) :
    ∀ a ∈ pending.assignments, a.movesPriority = false := by
  have hempty : pending.priorityAssignments = [] := by rw [PendingUpdate.priorityAssignments, hexplicit]
  have hauto : ∀ priority, .priority priority ∉ pending.autoAssignments := fun priority hmem =>
    hnone ⟨priority, List.mem_append_left _ (List.mem_append_left _ hmem)⟩
  intro a ha
  rw [PendingUpdate.assignments, hempty, List.append_nil, List.mem_append] at ha
  rcases ha with ha | ha
  · cases a with
    | vpnAuto value => rfl
    | globalList value => rfl
    | priority value => exact absurd ha (hauto value)
    | origin value =>
        refine absurd ?_ (hauto 1)
        rw [PendingUpdate.autoAssignments] at ha ⊢
        split at ha
        · cases ha
        · simp only [List.mem_append] at ha ⊢
          rcases ha with (ha | ha) | ha
          · split_ifs at ha <;> simp at ha
          · split_ifs at ha with hcond
            · exact Or.inl (Or.inr (by rw [if_pos hcond]; exact List.mem_cons_self))
            · cases ha
          · split_ifs at ha <;> simp at ha
  · exact globalListAssignments_not_moves a ha

/-- A transaction of an update is refused or rolled back, or it assigns. -/
lemma commitUpdate_cases (pending : PendingUpdate) (reads : GuardReads) (table : Table) :
    ((commitUpdate pending reads table).2 = table ∧
        ∀ reply ∈ (commitUpdate pending reads table).1, reply.changed = false) ∨
      (commitUpdate pending reads table).2 = Function.update table pending.serverId
        (some (assign pending.assignments (table.row pending.serverId))) := by
  have hrefused : ∀ code, ((some (Reply.refused code), table) : Option Reply × Table).2 = table ∧
      ∀ reply ∈ ((some (Reply.refused code), table) : Option Reply × Table).1, reply.changed = false := by
    intro code
    refine ⟨rfl, ?_⟩
    rintro reply ⟨⟩
    rfl
  rw [commitUpdate]
  by_cases hpending : reads.fixedWorkflowPending = true
  · rw [if_pos hpending]
    exact Or.inl (hrefused _)
  · rw [if_neg hpending]
    cases reads.targetError pending.serverId with
    | some code => exact Or.inl (hrefused _)
    | none =>
      dsimp only
      by_cases hpool : pending.wantsChange = true ∧ reads.editable pending.serverId = false
      · rw [if_pos hpool]
        exact Or.inl (hrefused _)
      · rw [if_neg hpool]
        cases reads.finish with
        | rolledBack => exact Or.inl ⟨rfl, nofun⟩
        | raised => exact Or.inr rfl
        | reconcileFailed => exact Or.inr rfl
        | done => exact Or.inr rfl

lemma commitReplace_cases (serverIds : List Text) (reads : GuardReads) (table : Table) :
    (commitReplace serverIds reads table).2 = table ∨
      (commitReplace serverIds reads table).2 = replaceMembers serverIds reads.inPool table := by
  unfold commitReplace
  split_ifs
  · exact Or.inl rfl
  · exact Or.inl rfl
  · exact Or.inl rfl
  · cases reads.finish with
    | rolledBack => exact Or.inl rfl
    | raised => exact Or.inr rfl
    | reconcileFailed => exact Or.inr rfl
    | done => exact Or.inr rfl

lemma manual_iff : Manual table serverId p ↔ (table.row serverId).priorityColumns = (p, .manual) := Prod.mk_inj.symm

lemma row_update_self {serverId : Text} {row : PreferenceRow} :
    Table.row (Function.update table serverId (some row)) serverId = row := by
  rw [Table.row, Function.update_self, Option.getD_some]

lemma row_update_of_ne {other : Text} {row : Option PreferenceRow} (h : serverId ≠ other) :
    Table.row (Function.update table other row) serverId = table.row serverId := by
  rw [Table.row, Function.update_of_ne h, ← Table.row]

lemma leave_of_manual (h : row.vpnAutoPriorityOrigin = .manual) :
    (leave row).priorityColumns = row.priorityColumns := by
  simp [leave, PreferenceRow.priorityColumns, h]

lemma join_of_manual (h : row.vpnAutoPriorityOrigin = .manual) :
    (join row).priorityColumns = row.priorityColumns := by
  simp [join, PreferenceRow.priorityColumns, h]

/-- A replacement keeps what was set by hand. -/
lemma manual_replaceMembers {serverIds : List Text} {inPool : Text → Bool} (h : Manual table serverId p) :
    Manual (replaceMembers serverIds inPool table) serverId p := by
  rw [manual_iff] at h ⊢
  cases hrow : table serverId with
  | none =>
      rw [Table.row, hrow] at h
      cases h
  | some row =>
      rw [Table.row, hrow, Option.getD_some] at h
      have hleft : ∀ row', row' = (if row.vpnAuto = true ∧ inPool serverId = true then leave row else row) →
          row'.priorityColumns = (p, .manual) := by
        rintro row' rfl
        split_ifs
        · exact (leave_of_manual (Prod.mk.inj h).2).trans h
        · exact h
      simp only [Table.row, replaceMembers, hrow, Option.map_some, Option.getD_some]
      split_ifs
      · rw [Option.getD_some, join_of_manual]
        · exact (leave_of_manual (Prod.mk.inj h).2).trans h
        · exact (Prod.mk.inj (hleft _ (by rw [if_pos ‹_›]))).2
      · rw [Option.getD_some, join_of_manual (Prod.mk.inj h).2]
        exact h
      · exact (leave_of_manual (Prod.mk.inj h).2).trans h
      · exact h

/-- An update without an explicit priority keeps what was set by hand. -/
lemma manual_assign (hcurrent : pending.Current (table.row serverId)) (hexplicit : pending.explicitPriority = none)
    (h : Manual table serverId p) :
    (assign pending.assignments (table.row serverId)).priorityColumns = (p, .manual) := by
  rw [PendingUpdate.Current, hexplicit] at hcurrent
  rw [assign_of_not_moves (not_moves_of_automatic hexplicit fun hmoves => hcurrent hmoves h.2)]
  exact manual_iff.mp h

end Transaction

/-! ## Runs -/

section Runs

variable {s s₀ : State} {steps : List Step} {a : Step} {serverId : Text} {p : ℤ}

/-- A step that does not set the priority keeps what was set by hand. -/
lemma step_keeps (hcurrent : Current s a)
    (hother : ∀ p', Sets s a serverId p' → (step s a).table = s.table) (h : Manual s.table serverId p) :
    Manual (step s a).table serverId p := by
  cases a with
  | beginUpdate call request reads =>
      simp only [step, execute]
      split <;> exact h
  | beginReplace call serverIds reads =>
      simp only [step, execute]
      split <;> exact h
  | commitReplace call reads =>
      simp only [step, execute]
      split
      · exact h
      · rename_i serverIds _
        rcases commitReplace_cases serverIds reads s.table with hsame | hdone
        · dsimp only
          rw [hsame]
          exact h
        · dsimp only
          rw [hdone]
          exact manual_replaceMembers h
  | commitUpdate call reads =>
      cases hpending : s.updates call with
      | none =>
          simp only [step, execute, hpending]
          exact h
      | some pending =>
          have hstep : (step s (.commitUpdate call reads)).table = (commitUpdate pending reads s.table).2 := by
            simp only [step, execute, hpending]
          by_cases hserver : pending.serverId = serverId
          · cases hexplicit : pending.explicitPriority with
            | some p' =>
                rw [hother p' ⟨call, reads, pending, rfl, hpending, hserver, hexplicit⟩]
                exact h
            | none =>
                rw [hstep]
                rcases commitUpdate_cases pending reads s.table with ⟨hsame, -⟩ | hdone
                · rw [hsame]
                  exact h
                · rw [hdone, hserver, manual_iff, row_update_self]
                  exact manual_assign (hserver ▸ hcurrent pending hpending) hexplicit h
          · rw [hstep]
            rcases commitUpdate_cases pending reads s.table with ⟨hsame, -⟩ | hdone
            · rw [hsame]
              exact h
            · rw [hdone, manual_iff, row_update_of_ne (Ne.symm hserver)]
              exact manual_iff.mp h

/-- A call with an explicit priority that returns a change has stored it. -/
lemma step_sets (hcurrent : Current s a) (hsets : Sets s a serverId p) {reply : Reply}
    (hreply : (execute s a).1 = some reply) (hchanged : reply.changed = true) :
    Manual (step s a).table serverId p := by
  obtain ⟨call, reads, pending, rfl, hpending, rfl, hexplicit⟩ := hsets
  simp only [execute, hpending] at hreply
  simp only [step, execute, hpending]
  rcases commitUpdate_cases pending reads s.table with ⟨-, hrefused⟩ | hdone
  · rw [hrefused reply hreply] at hchanged
    cases hchanged
  · rw [hdone, manual_iff, row_update_self]
    exact assign_explicit hexplicit (hcurrent pending hpending)

/-- **A priority that was set by hand stays.**  In every interleaving whose transactions find what they
rely on, the priority that a call has set is stored, as set by hand, until another call sets one. -/
theorem manual_priority_kept (hrun : Run.Along step Current s₀ steps) {i j : ℕ} (ha : steps[i]? = some a)
    (hsets : Sets (Run.stateAt step s₀ steps i) a serverId p) {reply : Reply}
    (hreply : (execute (Run.stateAt step s₀ steps i) a).1 = some reply) (hchanged : reply.changed = true)
    (hij : i < j)
    (hnone : ∀ k b, i < k → k < j → steps[k]? = some b → ∀ p', Sets (Run.stateAt step s₀ steps k) b serverId p' →
      (step (Run.stateAt step s₀ steps k) b).table = (Run.stateAt step s₀ steps k).table) :
    Manual (Run.stateAt step s₀ steps j).table serverId p := by
  refine Run.stateAt_keeps (I := fun s : State => Manual s.table serverId p) hij ?_ fun k b hik hkj hb hmanual => ?_
  · rw [Run.stateAt_succ ha]
    exact step_sets (hrun.stateAt ha) hsets hreply hchanged
  · exact step_keeps (hrun.stateAt hb) (hnone k b hik hkj hb) hmanual

end Runs

/-! ## Two calls on one server -/

def serverA : Text := ['a']

/-- A server with the default preferences. -/
def freshState : State := ⟨fun serverId => if serverId = serverA then some {} else none, fun _ => none, fun _ => none⟩

def openReads : UpdateReads := ⟨none, [serverA], true⟩

def openGuard : GuardReads := ⟨false, fun _ => none, fun _ => true, fun _ => true, .done⟩

/-- `vpn_auto_priority=3`. -/
def setThree : UpdateRequest := ⟨serverA, none, some (.int 3), none⟩

/-- `vpn_auto=True`. -/
def switchOn : UpdateRequest := ⟨serverA, some true, none, none⟩

/-- The priority is set, and vpn-auto is switched on afterwards. -/
def oneAfterTheOther : List Step :=
  [.beginUpdate 1 setThree openReads, .commitUpdate 1 openGuard, .beginUpdate 0 switchOn openReads,
    .commitUpdate 0 openGuard]

/-- The priority is set while vpn-auto is being switched on. -/
def oneInTheOther : List Step :=
  [.beginUpdate 0 switchOn openReads, .beginUpdate 1 setThree openReads, .commitUpdate 1 openGuard,
    .commitUpdate 0 openGuard]

def pendingThree : PendingUpdate := ⟨serverA, {}, none, some 3, none⟩

def pendingOn (current : PreferenceRow) : PendingUpdate := ⟨serverA, current, some true, none, none⟩

/-- The priority that was set before the switch is kept. -/
theorem manual_priority_kept_on :
    Manual (Run.stateAt step freshState oneAfterTheOther 4).table serverA 3 := by
  have hon : (Run.stateAt step freshState oneAfterTheOther 3).updates 0 =
      some (pendingOn ⟨false, 3, .manual, true⟩) := by decide
  refine @manual_priority_kept freshState oneAfterTheOther (.commitUpdate 1 openGuard) serverA 3 ?_ 1 4 rfl
    ⟨1, openGuard, pendingThree, rfl, by decide, rfl, by decide⟩
    ⟨true, true, ["vpn_auto_priority", "vpn_auto_priority_origin"], none⟩ (by decide) rfl (by decide) ?_
  · refine ⟨trivial, ?_, trivial, ?_, trivial⟩
    · intro pending hpending
      obtain rfl : pendingThree = pending := by
        have hstored : (Run.stateAt step freshState oneAfterTheOther 1).updates 1 = some pendingThree := by decide
        exact Option.some.inj (hstored.symm.trans hpending)
      exact ⟨fun h => absurd h (by decide), fun h => absurd h (by decide)⟩
    · intro pending hpending
      obtain rfl := Option.some.inj (hon.symm.trans hpending)
      rintro ⟨priority, hmem⟩
      exact absurd hmem (by simp [show (pendingOn ⟨false, 3, .manual, true⟩).assignments = [.vpnAuto true] by decide])
  · intro k b hk hk' hb p' hsets
    obtain rfl | rfl : k = 2 ∨ k = 3 := by omega
    · obtain rfl := Option.some.inj hb
      obtain ⟨_, _, _, hstep, -⟩ := hsets
      cases hstep
    · obtain rfl := Option.some.inj hb
      obtain ⟨_, _, pending, hstep, hpending, -, hexplicit⟩ := hsets
      cases hstep
      obtain rfl := Option.some.inj (hon.symm.trans hpending)
      cases hexplicit

/-- The switch overwrites the priority that was set in between. -/
theorem manual_priority_overwritten :
    Sets (Run.stateAt step freshState oneInTheOther 2) (.commitUpdate 1 openGuard) serverA 3 ∧
      (execute (Run.stateAt step freshState oneInTheOther 2) (.commitUpdate 1 openGuard)).1 =
        some ⟨true, true, ["vpn_auto_priority", "vpn_auto_priority_origin"], none⟩ ∧
      oneInTheOther[2]? = some (.commitUpdate 1 openGuard) ∧
      oneInTheOther[3]? = some (.commitUpdate 0 openGuard) ∧
      (∀ p, ¬Sets (Run.stateAt step freshState oneInTheOther 3) (.commitUpdate 0 openGuard) serverA p) ∧
      ¬Manual (Run.stateAt step freshState oneInTheOther 4).table serverA 3 := by
  refine ⟨⟨1, openGuard, pendingThree, rfl, by decide, rfl, by decide⟩, by decide, rfl, rfl, ?_, ?_⟩
  · rintro p ⟨call, reads, pending, hstep, hpending, -, hexplicit⟩
    cases hstep
    have hon : (Run.stateAt step freshState oneInTheOther 3).updates 0 = some (pendingOn {}) := by decide
    obtain rfl := Option.some.inj (hon.symm.trans hpending)
    cases hexplicit
  · have hrow : (Run.stateAt step freshState oneInTheOther 4).table.row serverA = ⟨true, 1, .auto, true⟩ := by
      decide
    rintro ⟨hpriority, -⟩
    rw [hrow] at hpriority
    exact absurd hpriority (by decide)

end FwRouter.Preferences
