import FwRouter.Transfer.Settings

/-!
# The routing after an import

The row of `routing_global_state` stays through an import, but its references to servers do not: they
are set to null when the servers are deleted.  The imported columns come from the snapshot, or from the
row as it was; the active server of vpn-auto is written back from what was read before the deletes.
-/

namespace FwRouter.Transfer

open Py Relational

variable {env : Env} {db db' : Database} {now : Text}

/-! ## The row through each statement -/

lemma routingRow_map {rows : List Row} {f : Row → Row} (hf : ∀ r, f r "id" = r "id") :
    (rows.map f).find? (fun r => decide (r "id" = .int 1)) =
      (rows.find? fun r => decide (r "id" = .int 1)).map f := by
  have hcomp : (fun r => decide (r "id" = .int 1)) ∘ f = fun r : Row => decide (r "id" = .int 1) := by
    funext r
    simp only [Function.comp, hf]
  rw [List.find?_map, hcomp]

lemma routingRow_updateWhere {f : Row → Row} (hf : ∀ r, f r "id" = r "id")
    (h : env.schema.updateWhere .routingGlobalState (fun r => decide (r "id" = .int 1)) f db = .ok db') :
    routingRow db' = (routingRow db).map f := by
  rw [Schema.updateWhere_eq_update h, routingRow, Function.update_self, routingRow]
  have hid : ∀ r : Row, (if decide (r "id" = .int 1) = true then f r else r) "id" = r "id" := by
    intro r
    split_ifs
    · exact hf r
    · rfl
  rw [routingRow_map hid]
  cases hrow : (db .routingGlobalState).find? fun r => decide (r "id" = .int 1) with
  | none => rfl
  | some r =>
      have hone := List.find?_some hrow
      simp only [Option.map_some, hone, if_true]

/-- The columns that refer to a server. -/
def serverColumns : List String :=
  ["desired_fixed_server_id", "applied_fixed_server_id", "active_auto_server_id"]

/-- What the deletes leave of the row: its references may be null now. -/
structure Detached (r r' : Row) : Prop where
  active : r' "active_auto_server_id" = r "active_auto_server_id" ∨ r' "active_auto_server_id" = .null
  other : ∀ c ∉ serverColumns, r' c = r c

lemma Detached.trans {r r' r'' : Row} (h : Detached r r') (h' : Detached r' r'') : Detached r r'' := by
  refine ⟨?_, fun c hc => (h'.other c hc).trans (h.other c hc)⟩
  rcases h'.active with hkept | hlost
  · rw [hkept]
    exact h.active
  · exact Or.inr hlost

lemma routing_delete {t : Table} (ht : t ≠ .routingGlobalState) {p : Row → Bool} :
    ∃ f : Row → Row, (∀ r, Detached r (f r)) ∧
      env.schema.delete t p db .routingGlobalState = (db .routingGlobalState).map f := by
  have hcascade : ∀ ref ∈ foreignKeys, ref.child = .routingGlobalState → ref.onDelete ≠ .cascade := by decide
  have hcolumns : ∀ ref ∈ foreignKeys, ref.child = .routingGlobalState →
      ∀ c ∈ ref.columns.map Prod.fst, c ∈ serverColumns := by decide
  refine ⟨env.schema.detached db t p .routingGlobalState, fun r => ⟨?_, fun c hc => ?_⟩,
    Schema.delete_of_no_cascade ht.symm hcascade⟩
  · by_cases hnull : env.schema.detached db t p .routingGlobalState r "active_auto_server_id" = .null
    · exact Or.inr hnull
    · exact Or.inl (Schema.detached_of_ne_null hnull)
  · exact Schema.detached_of_not_column fun ref href hchild hmem => hc (hcolumns ref href hchild c hmem)

lemma routing_foldl_delete {ts : List Table} (hts : .routingGlobalState ∉ ts) :
    ∃ f : Row → Row, (∀ r, Detached r (f r)) ∧
      ts.foldl (fun db t => env.schema.delete t (fun _ => true) db) db .routingGlobalState =
        (db .routingGlobalState).map f := by
  induction ts generalizing db with
  | nil => exact ⟨id, fun r => ⟨Or.inl rfl, fun _ _ => rfl⟩, by rw [List.map_id]; rfl⟩
  | cons t ts ih =>
      rw [List.mem_cons, not_or] at hts
      obtain ⟨f, hf, hdelete⟩ := @routing_delete env db t (Ne.symm hts.1) fun _ => true
      obtain ⟨g, hg, hrest⟩ := @ih (env.schema.delete t (fun _ => true) db) hts.2
      refine ⟨g ∘ f, fun r => (hf r).trans (hg (f r)), ?_⟩
      rw [List.foldl_cons, hrest, hdelete, List.map_map]

/-- A column that no statement of the list sets. -/
lemma lookup_cells_of_not_mem {sqlite : Sqlite} {codec : Codec} {columns : List Column} {row : Dict}
    {cells : List (String × Cell)} (h : columns.mapM (Column.cell sqlite codec now row) = .ok cells)
    {c : String} (hc : c ∉ columns.map Column.name) : cells.lookup c = none := by
  have hall := Run.mapM_eq_ok.mp h
  clear h
  induction hall with
  | nil => rfl
  | @cons d cell columns cells hd _ ih =>
      rw [List.map_cons, List.mem_cons, not_or] at hc
      have hname : cell.1 = d.name := cell_fst hd
      rw [List.lookup_cons, beq_false_of_ne (hname ▸ hc.1)]
      exact ih hc.2

/-- The row as it is, or a new one without an active server. -/
lemma ensureRouting_row (h : ensureRouting env now db = .ok db') :
    (routingRow db').isSome ∧ (activeAutoServerId db').getD .null = (activeAutoServerId db).getD .null := by
  unfold ensureRouting at h
  split_ifs at h with hsome
  · obtain rfl := Except.ok.inj h
    exact ⟨hsome, rfl⟩
  · have hnone : routingRow db = none := by simpa using hsome
    have hrow : routingRow db' = some (initialRouting now) := by
      rw [Schema.insert_ok (liftViolation_ok.mp h), routingRow, Function.update_self, List.find?_append,
        ← routingRow, hnone, Option.none_or]
      exact List.find?_cons_of_pos (decide_eq_true rfl)
    rw [activeAutoServerId, activeAutoServerId, hrow, hnone]
    exact ⟨rfl, rfl⟩

/-- The active server after `update_imported_routing_intent`. -/
lemma active_updateRouting {routing : Dict} {preserved : Option Text}
    (h : updateRouting env now routing preserved db = .ok db') :
    activeAutoServerId db' = some (preserved.elim ((activeAutoServerId db).getD .null) .text) := by
  obtain ⟨db₁, hensure, h⟩ := Run.exists_of_bind_eq_ok h
  obtain ⟨cells, hcells, h⟩ := Run.exists_of_bind_eq_ok h
  obtain ⟨-, h⟩ := Run.guard_eq_ok.mp h
  obtain ⟨hsome, hactive⟩ := ensureRouting_row hensure
  obtain ⟨r, hr⟩ := Option.isSome_iff_exists.mp hsome
  have hid : cells.lookup "id" = none := lookup_cells_of_not_mem hcells (by decide)
  rw [activeAutoServerId, routingRow_updateWhere _ (liftViolation_ok.mp h), hr, Option.map_some, Option.map_some]
  · dsimp only
    rw [if_pos rfl, hactive]
  · intro r
    rw [if_neg (by decide), hid]
    rfl

/-- An active server that the import writes back as it is: none, or an id that is its own `strip`. -/
def CleanActive (db : Database) : Prop :=
  (activeAutoServerId db).getD .null = .null ∨
    ∃ s, (activeAutoServerId db).getD .null = .text s ∧ s ≠ [] ∧ strip s = s

lemma strippedId_null : strippedId env.reprText .null = none := rfl

lemma strippedId_text {s : Text} (hs : s ≠ []) (hstrip : strip s = s) :
    strippedId env.reprText (.text s) = some s := by
  rw [strippedId, Cell.value, Value.textOr_str, hstrip, Selection.orNone, if_neg hs]

/-- The active server of the row is written back without its outer white space. -/
lemma active_importRouting_stripped {routing : Option Dict} {row : Row} {id : Text}
    (hid : strippedId env.reprText (row "active_auto_server_id") = some id)
    (h : importRouting env now routing (some row) db = .ok db') : activeAutoServerId db' = some (.text id) := by
  unfold importRouting at h
  split at h
  · rw [active_updateRouting h, Option.bind_some, hid, Option.elim_some]
  · rename_i hlocal
    obtain rfl := Option.some.inj hlocal
    rw [active_updateRouting h, hid, Option.elim_some]
  · rename_i hlocal
    cases hlocal

lemma active_importRouting {routing : Option Dict} {before : Database} (hclean : CleanActive before)
    {f : Row → Row} (hf : ∀ r, Detached r (f r)) (hrow : routingRow db = (routingRow before).map f)
    (h : importRouting env now routing (routingRow before) db = .ok db') :
    (activeAutoServerId db').getD .null = (activeAutoServerId before).getD .null := by
  -- what the preserved server is, and what the deletes have left where there is none
  have hpreserved : ∀ r, routingRow before = some r →
      (strippedId env.reprText (r "active_auto_server_id")).elim ((activeAutoServerId db).getD .null) .text =
        r "active_auto_server_id" := by
    intro r hr
    have hstored : (activeAutoServerId before).getD .null = r "active_auto_server_id" := by
      rw [activeAutoServerId, hr]
      rfl
    rcases hclean with hnull | ⟨s, htext, hs, hstrip⟩
    · rw [hstored] at hnull
      rw [hnull, strippedId_null, Option.elim_none, activeAutoServerId, hrow, hr, Option.map_some,
        Option.map_some, Option.getD_some]
      rcases (hf r).active with hkept | hlost
      · rw [hkept, hnull]
      · exact hlost
    · rw [hstored] at htext
      rw [htext, strippedId_text hs hstrip, Option.elim_some]
  unfold importRouting at h
  cases hbefore : routingRow before with
  | none =>
      have hnone : routingRow db = none := by rw [hrow, hbefore, Option.map_none]
      rw [hbefore] at h
      split at h
      · rw [active_updateRouting h, Option.bind_none, Option.elim_none, activeAutoServerId,
          activeAutoServerId, hnone, hbefore]
        rfl
      · rename_i hlocal
        cases hlocal
      · obtain rfl := Except.ok.inj h
        rw [activeAutoServerId, activeAutoServerId, hnone, hbefore]
  | some r =>
      have hstored : (activeAutoServerId before).getD .null = r "active_auto_server_id" := by
        rw [activeAutoServerId, hbefore]
        rfl
      rw [hbefore] at h
      rw [hstored]
      split at h
      · rw [active_updateRouting h, Option.bind_some, hpreserved r hbefore, Option.getD_some]
      · rename_i row _ hlocal
        obtain rfl := Option.some.inj hlocal
        rw [active_updateRouting h, hpreserved r hbefore, Option.getD_some]
      · rename_i hlocal
        cases hlocal

lemma lookup_reconcileCells {c : String} (hc : c ∉ ["apply_state", "error_code", "error_message", "updated_at"]) :
    (reconcileCells now).lookup c = none := by
  simp only [List.mem_cons, List.not_mem_nil, or_false, not_or] at hc
  rw [reconcileCells, List.lookup_cons, beq_false_of_ne hc.1, List.lookup_cons, beq_false_of_ne hc.2.1,
    List.lookup_cons, beq_false_of_ne hc.2.2.1, List.lookup_cons, beq_false_of_ne hc.2.2.2, List.lookup_nil]

/-- Marking the selection pending leaves the server and the mode alone. -/
lemma routing_markReconcile (h : markReconcile env now db = .ok db') {c : String}
    (hc : c ∉ ["apply_state", "error_code", "error_message", "updated_at"]) :
    (routingRow db').map (fun r => r c) = (routingRow db).map fun r => r c := by
  rw [markReconcile] at h
  split_ifs at h
  · have hcell : ∀ (r : Row) (c : String), c ∉ ["apply_state", "error_code", "error_message", "updated_at"] →
        ((reconcileCells now).lookup c).getD (r c) = r c := by
      intro r c hc
      rw [lookup_reconcileCells hc, Option.getD_none]
    have hupdate := liftViolation_ok.mp h
    have hrow := @routingRow_updateWhere env db db' (fun r c => ((reconcileCells now).lookup c).getD (r c))
      (fun r => hcell r "id" (by decide)) hupdate
    rw [hrow]
    cases routingRow db with
    | none => rfl
    | some r =>
        rw [Option.map_some, Option.map_some, Option.map_some]
        exact congrArg some (hcell r c hc)
  · obtain rfl := Except.ok.inj h
    rfl

end FwRouter.Transfer
