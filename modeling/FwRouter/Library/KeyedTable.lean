import Mathlib

/-!
# Keyed tables

A table with a primary key, or a dictionary that keeps its insertion order: a list of pairs, read
by `List.lookup` and written by `upsert`, which is SQL's `INSERT … ON CONFLICT(key) DO UPDATE`.
An upsert either changes the first row of the key in place or appends a new one.

Three facts carry every use: what an upsert does to a lookup (`lookup_upsert`), that a map of the
values passes through it (`map_upsert`), and what it does to a sum over the rows (`sum_upsert`).
-/

namespace KeyedTable

variable {κ ν μ : Type} [DecidableEq κ]

/-- `INSERT (k, new) ON CONFLICT(k) DO UPDATE SET value = merge value`. -/
def upsert (k : κ) (new : ν) (merge : ν → ν) : List (κ × ν) → List (κ × ν)
  | [] => [(k, new)]
  | (j, v) :: t => if j = k then (j, merge v) :: t else (j, v) :: upsert k new merge t

/-- `d[k] = v`. -/
def assign (k : κ) (v : ν) (t : List (κ × ν)) : List (κ × ν) := upsert k v (fun _ => v) t

/-- `d.setdefault(k, v)`. -/
def setdefault (k : κ) (v : ν) (t : List (κ × ν)) : List (κ × ν) := upsert k v id t

/-! ## Rows with a key -/

omit [DecidableEq κ] in
/-- In a table whose rows have different keys, a condition that asks for the key of a row finds it. -/
lemma find?_eq_some_of_key {ρ : Type*} {key : ρ → κ} {rows : List ρ} (hkeys : (rows.map key).Nodup)
    {p : ρ → Bool} {r : ρ} (hr : r ∈ rows) (hp : p r = true)
    (hkey : ∀ x ∈ rows, p x = true → key x = key r) : rows.find? p = some r := by
  cases hfound : rows.find? p with
  | none => exact absurd hp (List.find?_eq_none.mp hfound r hr)
  | some other =>
      have hmem := List.mem_of_find?_eq_some hfound
      rw [List.inj_on_of_nodup_map hkeys hmem hr (hkey other hmem (List.find?_some hfound))]

/-- In a table whose rows have different keys, the row found by a key is the row with that key. -/
lemma find?_key_iff {ρ : Type*} {key : ρ → κ} {rows : List ρ} (hkeys : (rows.map key).Nodup)
    {k : κ} {r : ρ} : rows.find? (fun x => decide (key x = k)) = some r ↔ r ∈ rows ∧ key r = k := by
  constructor
  · intro h
    exact ⟨List.mem_of_find?_eq_some h, by simpa using List.find?_some h⟩
  · rintro ⟨hmem, rfl⟩
    exact find?_eq_some_of_key hkeys hmem (decide_eq_true rfl) fun x _ hx => of_decide_eq_true hx

/-- In a table whose rows have different keys, one row has the key of a row. -/
lemma filter_key_eq {ρ : Type*} {key : ρ → κ} {rows : List ρ} (hkeys : (rows.map key).Nodup) {r : ρ}
    (hr : r ∈ rows) : rows.filter (fun x => decide (key x = key r)) = [r] := by
  induction rows with
  | nil => simp at hr
  | cons x rows ih =>
      obtain ⟨hx, hrows⟩ := List.nodup_cons.mp hkeys
      rcases List.mem_cons.mp hr with rfl | hr
      · have hrest : rows.filter (fun x => decide (key x = key r)) = [] := by
          rw [List.filter_eq_nil_iff]
          intro y hy hkey
          exact hx (List.mem_map.mpr ⟨y, hy, of_decide_eq_true hkey⟩)
        rw [List.filter_cons_of_pos (by simp), hrest]
      · have hne : ¬key x = key r := fun h => hx (h ▸ List.mem_map_of_mem hr)
        rw [List.filter_cons_of_neg (by simp [hne]), ih hrows hr]

/-! ## Keys -/

/-- An upsert adds its key at the end, unless the key is there. -/
lemma keys_upsert (k : κ) (new : ν) (merge : ν → ν) (t : List (κ × ν)) :
    (upsert k new merge t).map Prod.fst =
      if k ∈ t.map Prod.fst then t.map Prod.fst else t.map Prod.fst ++ [k] := by
  induction t with
  | nil => simp [upsert]
  | cons p t ih =>
      obtain ⟨j, v⟩ := p
      by_cases hj : j = k
      · simp [upsert, hj]
      · have hk : ¬k = j := fun h => hj h.symm
        simp only [upsert, if_neg hj, List.map_cons, ih, List.mem_cons, hk, false_or]
        split_ifs <;> rfl

lemma mem_keys_upsert {k j : κ} {new : ν} {merge : ν → ν} {t : List (κ × ν)} :
    j ∈ (upsert k new merge t).map Prod.fst ↔ j = k ∨ j ∈ t.map Prod.fst := by
  rw [keys_upsert]
  split_ifs with h
  · constructor
    · exact Or.inr
    · rintro (rfl | hj)
      · exact h
      · exact hj
  · rw [List.mem_append, List.mem_singleton, or_comm]

lemma nodup_keys_upsert {k : κ} {new : ν} {merge : ν → ν} {t : List (κ × ν)}
    (h : (t.map Prod.fst).Nodup) : ((upsert k new merge t).map Prod.fst).Nodup := by
  rw [keys_upsert]
  split_ifs with hk
  · exact h
  · refine List.nodup_append.mpr ⟨h, List.nodup_singleton k, ?_⟩
    intro a ha b hb hab
    rw [List.mem_singleton.mp hb] at hab
    exact hk (hab ▸ ha)

lemma assign_of_not_mem {k : κ} {v : ν} {t : List (κ × ν)} (h : k ∉ t.map Prod.fst) :
    assign k v t = t ++ [(k, v)] := by
  induction t with
  | nil => rfl
  | cons r t ih =>
      obtain ⟨j, w⟩ := r
      rw [List.map_cons, List.mem_cons, not_or] at h
      have hj : ¬j = k := fun hk => h.1 hk.symm
      rw [assign, upsert, if_neg hj]
      exact congrArg _ (ih h.2)

/-- Rows with different keys, assigned one after the other, stand in their order. -/
lemma foldl_assign {ρ : Type} {key : ρ → κ} (value : ρ → ν) {rows : List ρ}
    (h : (rows.map key).Nodup) :
    rows.foldl (fun t r => assign (key r) (value r) t) [] = rows.map fun r => (key r, value r) := by
  induction rows using List.reverseRecOn with
  | nil => rfl
  | append_singleton rows r ih =>
      rw [List.map_append, List.nodup_append] at h
      obtain ⟨hrows, -, hnew⟩ := h
      have hmem : key r ∉ (rows.map fun r => (key r, value r)).map Prod.fst := by
        rw [List.map_map]
        intro hmem
        exact hnew _ hmem _ (List.mem_map_of_mem (List.mem_singleton_self r)) rfl
      rw [List.foldl_append, ih hrows, List.map_append, List.foldl_cons, List.foldl_nil,
        assign_of_not_mem hmem]
      rfl

/-! ## Lookups -/

variable [BEq κ] [LawfulBEq κ]

lemma lookup_cons_if (k j : κ) (v : ν) (t : List (κ × ν)) :
    List.lookup k ((j, v) :: t) = if k = j then some v else t.lookup k := by
  rw [List.lookup_cons]
  by_cases h : k = j
  · simp [h]
  · have : (k == j) = false := by simpa using h
    simp [this, h]

omit [DecidableEq κ] in
lemma mem_of_lookup {k : κ} {v : ν} {t : List (κ × ν)} (h : t.lookup k = some v) : (k, v) ∈ t := by
  obtain ⟨before, after, rfl, -⟩ := List.lookup_eq_some_iff.mp h
  exact List.mem_append_right _ List.mem_cons_self

/-- In a table with different keys, the rows are what the keys read. -/
lemma mem_iff_lookup {k : κ} {v : ν} {t : List (κ × ν)} (h : (t.map Prod.fst).Nodup) :
    (k, v) ∈ t ↔ t.lookup k = some v := by
  induction t with
  | nil => simp
  | cons r t ih =>
      obtain ⟨j, w⟩ := r
      obtain ⟨hj, ht⟩ := List.nodup_cons.mp h
      rw [lookup_cons_if, List.mem_cons, Prod.mk.injEq, ih ht]
      by_cases hk : k = j
      · subst hk
        have hnone : ¬t.lookup k = some v := fun hl =>
          hj (List.mem_map.mpr ⟨(k, v), (ih ht).mpr hl, rfl⟩)
        simp [hnone, eq_comm]
      · simp [hk]

/-- An upsert changes what its own key reads, and nothing else. -/
lemma lookup_upsert (k j : κ) (new : ν) (merge : ν → ν) (t : List (κ × ν)) :
    (upsert k new merge t).lookup j =
      if j = k then some ((t.lookup k).elim new merge) else t.lookup j := by
  induction t with
  | nil => simp [upsert, lookup_cons_if]
  | cons p t ih =>
      obtain ⟨i, v⟩ := p
      by_cases hi : i = k
      · subst hi
        by_cases h : j = i <;> simp [upsert, lookup_cons_if, h]
      · have hk : ¬k = i := fun h => hi h.symm
        simp only [upsert, if_neg hi, lookup_cons_if, if_neg hk, ih]
        by_cases h : j = i
        · have hjk : ¬j = k := fun e => hi (h ▸ e)
          simp only [if_pos h, if_neg hjk]
        · simp only [if_neg h]

@[simp] lemma lookup_upsert_self (k : κ) (new : ν) (merge : ν → ν) (t : List (κ × ν)) :
    (upsert k new merge t).lookup k = some ((t.lookup k).elim new merge) := by
  simp [lookup_upsert]

lemma lookup_upsert_of_ne {k j : κ} (h : j ≠ k) (new : ν) (merge : ν → ν) (t : List (κ × ν)) :
    (upsert k new merge t).lookup j = t.lookup j := by
  simp [lookup_upsert, h]

@[simp] lemma lookup_assign_self (k : κ) (v : ν) (t : List (κ × ν)) :
    (assign k v t).lookup k = some v := by
  rw [assign, lookup_upsert_self]
  cases t.lookup k <;> rfl

lemma lookup_assign_of_ne {k j : κ} (h : j ≠ k) (v : ν) (t : List (κ × ν)) :
    (assign k v t).lookup j = t.lookup j := lookup_upsert_of_ne h v _ t

lemma lookup_setdefault_of_ne {k j : κ} (h : j ≠ k) (v : ν) (t : List (κ × ν)) :
    (setdefault k v t).lookup j = t.lookup j := lookup_upsert_of_ne h v _ t

/-- Assigning what a key reads changes nothing. -/
lemma assign_eq_self {k : κ} {v : ν} {t : List (κ × ν)} (h : t.lookup k = some v) :
    assign k v t = t := by
  induction t with
  | nil => simp at h
  | cons r t ih =>
      obtain ⟨j, w⟩ := r
      rw [lookup_cons_if] at h
      rw [assign, upsert]
      by_cases hj : j = k
      · rw [if_pos hj.symm] at h
        rw [if_pos hj, Option.some.inj h]
      · rw [if_neg fun hk => hj hk.symm] at h
        rw [if_neg hj]
        exact congrArg _ (ih h)

lemma lookup_map_key {ρ : Type} (key : ρ → κ) (value : ρ → ν) (rows : List ρ) (k : κ) :
    (rows.map fun r => (key r, value r)).lookup k =
      (rows.find? fun r => decide (key r = k)).map value := by
  induction rows with
  | nil => rfl
  | cons r rows ih =>
      rw [List.map_cons, lookup_cons_if, ih, List.find?_cons]
      by_cases hk : k = key r
      · simp [hk]
      · have hr : ¬key r = k := fun h => hk h.symm
        simp [hk, hr]

lemma lookup_filter {p : κ → Bool} {k : κ} (h : p k = true) (t : List (κ × ν)) :
    (t.filter fun r => p r.1).lookup k = t.lookup k := by
  induction t with
  | nil => rfl
  | cons r t ih =>
      obtain ⟨j, v⟩ := r
      by_cases hj : k = j
      · subst hj
        simp [h]
      · cases hp : p j <;> simp [hp, lookup_cons_if, hj, ih]

lemma lookup_map_snd (f : ν → μ) (k : κ) (t : List (κ × ν)) :
    (t.map fun r => (r.1, f r.2)).lookup k = (t.lookup k).map f := by
  induction t with
  | nil => rfl
  | cons r t ih =>
      obtain ⟨j, v⟩ := r
      by_cases hj : k = j <;> simp [lookup_cons_if, hj, ih]

/-! ## Maps and sums over the rows -/

omit [BEq κ] [LawfulBEq κ]

/-- A map of the values, which may look at the key, passes through an upsert. -/
lemma map_upsert {g : κ → ν → μ} {k : κ} {new : ν} {merge : ν → ν} {merge' : μ → μ}
    (h : ∀ v, g k (merge v) = merge' (g k v)) (t : List (κ × ν)) :
    (upsert k new merge t).map (fun r => (r.1, g r.1 r.2)) =
      upsert k (g k new) merge' (t.map fun r => (r.1, g r.1 r.2)) := by
  induction t with
  | nil => rfl
  | cons r t ih =>
      obtain ⟨j, v⟩ := r
      by_cases hj : j = k
      · subst hj
        simp [upsert, h]
      · simp [upsert, hj, ih]

lemma map_assign (g : κ → ν → μ) (k : κ) (v : ν) (t : List (κ × ν)) :
    (assign k v t).map (fun r => (r.1, g r.1 r.2)) =
      assign k (g k v) (t.map fun r => (r.1, g r.1 r.2)) := by
  rw [assign, assign]
  have hmerge : ∀ w, g k ((fun _ => v) w) = (fun _ => g k v) (g k w) := fun _ => rfl
  exact map_upsert hmerge t

/-- An update that adds `d` to the weight of a row, and gives a new row the weight `d`, adds `d`
to the total. -/
lemma sum_upsert {f : ν → ℤ} {k : κ} {new : ν} {merge : ν → ν} {d : ℤ} (hnew : f new = d)
    (hmerge : ∀ v, f (merge v) = f v + d) (t : List (κ × ν)) :
    ((upsert k new merge t).map fun r => f r.2).sum = (t.map fun r => f r.2).sum + d := by
  induction t with
  | nil => simp [upsert, hnew]
  | cons r t ih =>
      obtain ⟨j, v⟩ := r
      by_cases hj : j = k
      · simp only [upsert, if_pos hj, List.map_cons, List.sum_cons, hmerge]
        ring
      · simp only [upsert, if_neg hj, List.map_cons, List.sum_cons, ih]
        ring

/-- What holds of the new row and is kept by the update holds of every row afterwards. -/
lemma forall_row_upsert {P : κ → ν → Prop} {k : κ} {new : ν} {merge : ν → ν} {t : List (κ × ν)}
    (hnew : P k new) (hmerge : ∀ v, P k v → P k (merge v)) (h : ∀ r ∈ t, P r.1 r.2) :
    ∀ r ∈ upsert k new merge t, P r.1 r.2 := by
  induction t with
  | nil =>
      intro r hr
      rw [upsert, List.mem_singleton] at hr
      exact hr ▸ hnew
  | cons p t ih =>
      obtain ⟨j, v⟩ := p
      intro r hr
      rw [upsert] at hr
      split_ifs at hr with hj
      · rcases List.mem_cons.mp hr with rfl | hr
        · exact hj ▸ hmerge v (hj ▸ h (j, v) (by simp))
        · exact h r (List.mem_cons_of_mem _ hr)
      · rcases List.mem_cons.mp hr with rfl | hr
        · exact h (j, v) (by simp)
        · exact ih (fun r hr => h r (List.mem_cons_of_mem _ hr)) r hr

lemma forall_upsert {P : ν → Prop} {k : κ} {new : ν} {merge : ν → ν} {t : List (κ × ν)}
    (hnew : P new) (hmerge : ∀ v, P v → P (merge v)) (h : ∀ r ∈ t, P r.2) :
    ∀ r ∈ upsert k new merge t, P r.2 :=
  forall_row_upsert (P := fun _ v => P v) hnew hmerge h

end KeyedTable
