import FwRouter.Transfer.Effects

/-!
# The settings after an import

The table `settings` holds the revisions, the receipts and the provenance of the selection beside what is
imported.  An import keeps these rows: its delete spares them, its inserts leave them out, and what it
writes itself are the display settings, the two revisions, the marker of the subscription generation
and its own receipt.
-/

namespace FwRouter.Transfer

open Py Relational

variable {env : Env} {db db' : Database} {now key value k : Text}

/-! ## One statement -/

lemma sameKey_settings {cells : List (String × Cell)} (hkey : cells.lookup "key" = some (.text key)) (s : Row) :
    env.schema.sameKey .settings (rowOfCells cells) s = decide (s "key" = .text key) := by
  have hcell : rowOfCells cells "key" = .text key := by rw [rowOfCells, hkey, Option.getD_some]
  simp only [Schema.sameKey, Transfer.schema, primaryKey, List.all_cons, List.all_nil, Bool.and_true, hcell]
  by_cases h : s "key" = .text key
  · simp [h]
  · have h' : ¬Cell.text key = s "key" := fun heq => h heq.symm
    simp [h, h']

/-- A row of another key is found as before. -/
lemma find?_map_of_ne {rows : List Row} {f : Row → Row} {p : Row → Bool}
    (hkey : ∀ r, p r = true → r "key" ≠ .text k) (hf : ∀ r, p r = true → f r "key" = r "key") :
    (rows.map fun r => if p r then f r else r).find? (fun r => decide (r "key" = .text k)) =
      rows.find? fun r => decide (r "key" = .text k) := by
  induction rows with
  | nil => rfl
  | cons r rows ih =>
      rw [List.map_cons, List.find?_cons, List.find?_cons, ih]
      by_cases hp : p r = true
      · have hne := hkey r hp
        simp only [hp, if_true, hf r hp, hne, decide_false]
      · simp only [hp, if_false, Bool.false_eq_true]

lemma find?_map_self {rows : List Row} {f : Row → Row} (hf : ∀ r, r "key" = .text k → f r "key" = .text k) :
    (rows.map fun r => if decide (r "key" = .text k) = true then f r else r).find?
        (fun r => decide (r "key" = .text k)) =
      (rows.find? fun r => decide (r "key" = .text k)).map f := by
  induction rows with
  | nil => rfl
  | cons r rows ih =>
      rw [List.map_cons, List.find?_cons, List.find?_cons, ih]
      by_cases hr : r "key" = .text k
      · simp only [hr, decide_true, if_true, hf r hr, Option.map_some]
      · simp only [hr, decide_false, Bool.false_eq_true, if_false]

/-- A row that is appended under another key is not found. -/
lemma find?_append_of_ne {rows rows' : List Row} (h : ∀ r ∈ rows', r "key" ≠ .text k) :
    (rows ++ rows').find? (fun r => decide (r "key" = .text k)) =
      rows.find? fun r => decide (r "key" = .text k) := by
  have hnone : rows'.find? (fun r => decide (r "key" = .text k)) = none := by
    rw [List.find?_eq_none]
    intro r hr
    simpa using h r hr
  rw [List.find?_append, hnone, Option.or_none]

lemma settingRow_update (rows : List Row) : settingRow (Function.update db .settings rows) k =
    rows.find? fun r => decide (r "key" = .text k) := by
  rw [settingRow, Function.update_self]

lemma keeps_settingRow {t : Table} (ht : t ≠ .settings) {s : Statement} (hs : WritesOnly t s) :
    Keeps (settingRow · k) s := by
  refine hs.keeps fun db db' h => ?_
  rw [settingRow, settingRow, h .settings ht.symm]

/-- `writeSetting` leaves the other keys alone. -/
lemma settingRow_writeSetting_of_ne (h : writeSetting env now key value db = .ok db') (hk : k ≠ key) :
    settingRow db' k = settingRow db k := by
  have hupsert := liftViolation_ok.mp h
  have hsame := fun s => @sameKey_settings env key [("key", .text key), ("value_json", .text value),
    ("updated_at", .text now)] rfl s
  rw [Schema.upsert] at hupsert
  split_ifs at hupsert
  · rw [Schema.updateWhere_eq_update hupsert, settingRow_update]
    refine find?_map_of_ne (fun r hr heq => ?_) (fun r hr => ?_)
    · rw [hsame, decide_eq_true_eq, heq] at hr
      exact hk (Cell.text.inj hr)
    · rw [hsame, decide_eq_true_eq] at hr
      rw [hr]
      rfl
  · rw [Schema.insert_ok hupsert, settingRow_update]
    refine find?_append_of_ne fun r hr heq => ?_
    obtain rfl := List.mem_singleton.mp hr
    exact hk (Cell.text.inj heq.symm)

lemma settingRow_writeSetting_self (h : writeSetting env now key value db = .ok db') :
    ∃ r, settingRow db' key = some r ∧ r "value_json" = .text value := by
  have hupsert := liftViolation_ok.mp h
  have hsame := fun s => @sameKey_settings env key [("key", .text key), ("value_json", .text value),
    ("updated_at", .text now)] rfl s
  rw [Schema.upsert] at hupsert
  split_ifs at hupsert with hany
  · rw [Schema.updateWhere_eq_update hupsert, settingRow_update]
    obtain ⟨r, hr, hkey⟩ := List.any_eq_true.mp hany
    rw [hsame] at hkey
    have hsome : ((db .settings).find? fun r => decide (r "key" = .text key)).isSome :=
      List.find?_isSome.mpr ⟨r, hr, hkey⟩
    obtain ⟨found, hfound⟩ := Option.isSome_iff_exists.mp hsome
    simp only [hsame]
    rw [find?_map_self fun _ _ => rfl, hfound]
    exact ⟨_, rfl, rfl⟩
  · have hnone : settingRow db key = none := by
      refine List.find?_eq_none.mpr fun r hr hkey => hany (List.any_eq_true.mpr ⟨r, hr, ?_⟩)
      rw [hsame]
      exact hkey
    rw [Schema.insert_ok hupsert, settingRow_update, List.find?_append, ← settingRow, hnone, Option.none_or]
    exact ⟨_, List.find?_cons_of_pos (decide_eq_true rfl), rfl⟩

lemma satisfied_settings (env : Env) (db : Database) (r : Row) : env.schema.satisfied db .settings r = true := by
  have hchild : ∀ ref ∈ foreignKeys, ref.child ≠ .settings := by decide
  refine List.all_eq_true.mpr fun ref href => ?_
  simp [hchild ref href]

lemma writeSetting_succeeds (env : Env) (now key value : Text) (db : Database) :
    ∃ db', writeSetting env now key value db = .ok db' := by
  simp only [writeSetting]
  rw [Schema.upsert]
  split_ifs with hany
  · rw [Schema.updateWhere_of_admitted (fun r _ _ => rfl) (fun r _ _ => satisfied_settings _ _ _)]
    exact ⟨_, rfl⟩
  · rw [Schema.insert_of_admitted rfl (fun s hs => ⟨?_, rfl⟩) (satisfied_settings _ _ _)]
    · exact ⟨_, rfl⟩
    · rw [Bool.eq_false_iff]
      exact fun hkey => hany (List.any_eq_true.mpr ⟨s, hs, hkey⟩)

/-- Advancing the core intent revision leaves the other keys alone. -/
lemma settingRow_advanceCoreIntentRevision (h : advanceCoreIntentRevision env now db = .ok db')
    (hk : k ≠ coreIntentRevisionKey) : settingRow db' k = settingRow db k := by
  unfold advanceCoreIntentRevision at h
  split at h
  · cases h
  · split at h
    · obtain ⟨-, h⟩ := Run.guard_eq_ok.mp h
      obtain ⟨-, h⟩ := Run.guard_eq_ok.mp h
      rw [Schema.updateWhere_eq_update (liftViolation_ok.mp h), settingRow_update]
      refine find?_map_of_ne (fun r hr heq => ?_) (fun r hr => rfl)
      rw [decide_eq_true_eq, heq] at hr
      exact hk (Cell.text.inj hr.1)
    · cases h

/-- The keys that an import leaves alone or writes itself. -/
def Kept (k : Text) : Prop := k ∈ keptSettings ∨ isReceipt k = true

/-- The delete of the settings spares the kept ones. -/
lemma settingRow_deleteSettings (hk : Kept k) :
    settingRow (env.schema.delete .settings dropsSetting db) k = settingRow db k := by
  have hdelete : env.schema.delete .settings dropsSetting db .settings =
      (db .settings).filter fun r => !dropsSetting r := by
    refine Schema.delete_self_of_no_reference ?_ (Nat.succ_pos 3)
    show ∀ ref ∈ foreignKeys, ref.child ≠ .settings
    decide
  rw [settingRow, settingRow, hdelete, List.find?_filter]
  refine List.find?_congr fun r _ => ?_
  by_cases hr : r "key" = .text k
  · have hspared : dropsSetting r = false := by
      rw [dropsSetting, hr]
      rcases hk with hk | hk
      · simp [hk]
      · simp [hk]
    simp [hspared]
  · simp [hr]

/-! ## The imported keys -/

lemma head_of_kept (hk : Kept k) : ∃ c ∉ numberHeads, k.head? = some c := by
  rcases hk with hk | hk
  · simp only [keptSettings, List.mem_cons, List.not_mem_nil, or_false] at hk
    rcases hk with rfl | rfl | rfl | rfl
    · exact ⟨'r', by simp [numberHeads], rfl⟩
    · exact ⟨'r', by simp [numberHeads], rfl⟩
    · exact ⟨'c', by simp [numberHeads], rfl⟩
    · exact ⟨'s', by simp [numberHeads], rfl⟩
  · rw [isReceipt, List.isPrefixOf_iff_prefix] at hk
    obtain ⟨rest, rfl⟩ := hk
    exact ⟨'m', by simp [numberHeads], rfl⟩

/-- A key that starts like a number is none of the kept ones. -/
lemma not_kept_of_head {c : Char} (hc : c ∈ numberHeads) (hhead : k.head? = some c) : ¬Kept k := by
  intro hk
  obtain ⟨d, hd, hkey⟩ := head_of_kept hk
  exact hd (Option.some.inj (hhead.symm.trans hkey) ▸ hc)

lemma mem_of_isDigit {c : Char} (h : c.isDigit) : c ∈ numberHeads := by
  have hdigits : ∀ n < 58, 48 ≤ n → Char.ofNat n ∈ numberHeads := by decide
  obtain ⟨hlow, hhigh⟩ := Char.isDigit_iff_toNat.mp h
  have hmem := hdigits c.toNat (Nat.lt_succ_of_le hhigh) hlow
  rwa [Char.ofNat_toNat] at hmem

lemma head_intText (n : ℤ) : ∃ c ∈ numberHeads, (Value.intText n).head? = some c := by
  rw [Value.intText]
  split_ifs
  · exact ⟨'-', by decide, rfl⟩
  · obtain ⟨c, cs, hdec⟩ := List.exists_cons_of_ne_nil (dec_ne_nil n.natAbs)
    have hdigit : c.isDigit := isDigit_of_mem_dec (hdec ▸ List.mem_cons_self)
    refine ⟨c, mem_of_isDigit hdigit, by rw [hdec]; rfl⟩

/-- The key of an imported row is none of the kept ones. -/
lemma not_kept_of_imported {row : Dict} {r : Row}
    (hbuilt : buildRow env.sqlite env.codec now (insertColumns .settings) row = .ok r)
    (himports : importsSetting env row = true) (hkey : r "key" = .text k) : ¬Kept k := by
  have hnodup : ((insertColumns .settings).map Column.name).Nodup := by decide
  have hcell := buildRow_apply hbuilt hnodup (List.mem_cons_self : (⟨"key", .text, .required⟩ : Column) ∈ _)
  obtain ⟨v, hv, hcell⟩ := Run.exists_of_bind_eq_ok hcell
  obtain ⟨bound, hbound, hcell⟩ := Run.exists_of_bind_eq_ok hcell
  have hstored : env.sqlite.store .text bound = .text k := by
    rw [← hkey]
    exact (Prod.mk.inj (Except.ok.inj hcell)).2
  have hget : row.get "key" = v := by
    simp only [Column.value, required] at hv
    split at hv
    · rename_i w hw
      rw [Dict.get, hw, Option.getD_some, Except.ok.inj hv]
    · cases hv
  cases v with
  | none =>
      obtain rfl := Except.ok.inj hbound
      cases hstored
  | bool b =>
      obtain rfl := Except.ok.inj hbound
      obtain ⟨c, hc, hhead⟩ := head_intText (if b then 1 else 0)
      exact not_kept_of_head hc (Cell.text.inj hstored ▸ hhead)
  | int n =>
      simp only [bindValue] at hbound
      split_ifs at hbound
      obtain rfl := Except.ok.inj hbound
      obtain ⟨c, hc, hhead⟩ := head_intText n
      exact not_kept_of_head hc (Cell.text.inj hstored ▸ hhead)
  | float repr =>
      obtain rfl := Except.ok.inj hbound
      obtain ⟨c, hc, hhead⟩ := env.sqlite.realText_head repr
      exact not_kept_of_head hc (Cell.text.inj hstored ▸ hhead)
  | str s =>
      obtain rfl := Except.ok.inj hbound
      obtain rfl := Cell.text.inj hstored
      rw [importsSetting, fieldText, hget, Value.textOr_str, Bool.and_eq_true, Bool.not_eq_true',
        Bool.not_eq_true'] at himports
      rintro (hk | hk)
      · rw [List.contains_iff_mem.mpr hk] at himports
        cases himports.2
      · rw [hk] at himports
        cases himports.1
  | list values => cases hbound
  | dict fields => cases hbound

/-- The inserts of the settings leave the kept keys alone. -/
lemma settingRow_insertRows {rows : List Dict} (h : insertRows env now .settings rows db = .ok db')
    (himports : ∀ row ∈ rows, importsSetting env row = true) (hk : Kept k) :
    settingRow db' k = settingRow db k := by
  obtain ⟨built, hbuilt, rfl⟩ := insertRows_ok h
  rw [settingRow_update, settingRow]
  refine find?_append_of_ne fun r hr hkey => ?_
  obtain ⟨row, hrow, hbuild⟩ := Run.exists_of_mem_mapM hbuilt hr
  exact not_kept_of_imported hbuild (himports row hrow) hkey hk

/-! ## The whole import -/

section Import

variable {call : Call} {operationId fingerprint : Text} {plan : Plan} {result : ImportResult} {revision : ℤ}
  {before : Database}

lemma not_kept_display : ¬Kept displaySettingsKey := by
  intro hk
  rcases hk with hk | hk
  · simp only [keptSettings, List.mem_cons, List.not_mem_nil, or_false] at hk
    rcases hk with hk | hk | hk | hk <;> revert hk <;> decide
  · revert hk
    decide

/-- Up to the selection revision, the statements that write leave the kept keys alone. -/
lemma keeps_kept_first (himports : ∀ row ∈ plan.settings, importsSetting env row = true) (hk : Kept k) :
    ∀ s ∈ (writeStatements env call plan revision before).take 18, Keeps (settingRow · k) s := by
  have hrows : ∀ t rows, t ≠ .settings → Keeps (settingRow · k) (insertRows env call.now t rows) :=
    fun t rows ht => keeps_settingRow ht (writesOnly_insertRows _ _ _)
  have hdisplay : k ≠ displaySettingsKey := by
    rintro rfl
    exact not_kept_display hk
  simp only [writeStatements, List.take_succ_cons, List.take_zero, List.forall_mem_cons]
  refine ⟨fun _ _ h => settingRow_insertRows h himports hk,
    fun _ _ h => settingRow_writeSetting_of_ne h hdisplay, ?_⟩
  iterate 8 refine ⟨hrows _ _ (by decide), ?_⟩
  refine ⟨keeps_settingRow (by decide) (writesOnly_importRouting _ _ _), ?_⟩
  iterate 7 refine ⟨hrows _ _ (by decide), ?_⟩
  exact fun _ h => absurd h List.not_mem_nil

end Import

end FwRouter.Transfer
