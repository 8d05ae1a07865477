import FwRouter.Library.KeyedTable

/-!
# Tables with a primary key

A table carries the proof that no two of its rows have the same key, so that reading a key and
scanning the rows agree (`mem_rows_iff`).  Three statements write it: an upsert of one row, an
update of every row that leaves the keys alone, and a delete.  Each has one lemma, which says what
every key reads afterwards.
-/

namespace SqlTable

/-- The rows of a table, in the order of their insertion, with their primary keys. -/
structure Table (κ ν : Type) where
  rows : List (κ × ν)
  keys_nodup : (rows.map Prod.fst).Nodup

variable {κ ν : Type}

namespace Table

def empty : Table κ ν := ⟨[], List.nodup_nil⟩

/-- `UPDATE … SET …`, on every row; the rows that the statement does not match map to themselves. -/
def update (g : κ → ν → ν) (t : Table κ ν) : Table κ ν :=
  ⟨t.rows.map fun r => (r.1, g r.1 r.2), by
    have hkeys : (t.rows.map fun r => (r.1, g r.1 r.2)).map Prod.fst = t.rows.map Prod.fst := by
      rw [List.map_map]
      rfl
    rw [hkeys]
    exact t.keys_nodup⟩

/-- `DELETE … WHERE p`. -/
def delete (p : κ → ν → Bool) (t : Table κ ν) : Table κ ν :=
  ⟨t.rows.filter fun r => !p r.1 r.2, t.keys_nodup.sublist (List.filter_sublist.map Prod.fst)⟩

/-- `SELECT COUNT(*) … WHERE p`. -/
def count (p : κ → ν → Bool) (t : Table κ ν) : ℕ := t.rows.countP fun r => p r.1 r.2

/-- `EXISTS (SELECT 1 … WHERE p)`. -/
def exists? (p : κ → ν → Bool) (t : Table κ ν) : Bool := t.rows.any fun r => p r.1 r.2

variable [DecidableEq κ]

/-- `SELECT … WHERE key = k`. -/
def get (t : Table κ ν) (k : κ) : Option ν := t.rows.lookup k

/-- `INSERT (k, new) ON CONFLICT(k) DO UPDATE SET value = merge value`. -/
def upsert (k : κ) (new : ν) (merge : ν → ν) (t : Table κ ν) : Table κ ν :=
  ⟨KeyedTable.upsert k new merge t.rows, KeyedTable.nodup_keys_upsert t.keys_nodup⟩

variable {t : Table κ ν} {k : κ} {v : ν}

/-- Reading a key is scanning the rows for it. -/
lemma mem_rows_iff : (k, v) ∈ t.rows ↔ t.get k = some v :=
  KeyedTable.mem_iff_lookup t.keys_nodup

@[simp] lemma get_empty (k : κ) : (empty : Table κ ν).get k = none := rfl

lemma get_upsert (k j : κ) (new : ν) (merge : ν → ν) (t : Table κ ν) :
    (t.upsert k new merge).get j = if j = k then some ((t.get k).elim new merge) else t.get j :=
  KeyedTable.lookup_upsert k j new merge t.rows

lemma get_upsert_of_ne {j : κ} (h : j ≠ k) (new : ν) (merge : ν → ν) (t : Table κ ν) :
    (t.upsert k new merge).get j = t.get j := by
  rw [get_upsert, if_neg h]

@[simp] lemma get_update (g : κ → ν → ν) (t : Table κ ν) (k : κ) :
    (t.update g).get k = (t.get k).map (g k) := by
  cases hget : t.get k with
  | some v =>
      rw [Option.map_some, ← mem_rows_iff]
      exact List.mem_map.mpr ⟨(k, v), mem_rows_iff.mpr hget, rfl⟩
  | none =>
      cases hread : (t.update g).get k with
      | none => rfl
      | some w =>
          obtain ⟨r, hr, heq⟩ := List.mem_map.mp (mem_rows_iff.mpr hread)
          obtain ⟨rfl, -⟩ := Prod.mk.inj heq
          rw [mem_rows_iff.mp hr] at hget
          cases hget

lemma exists?_iff {p : κ → ν → Bool} : t.exists? p = true ↔ ∃ k v, t.get k = some v ∧ p k v = true := by
  rw [exists?, List.any_eq_true]
  constructor
  · rintro ⟨⟨k, v⟩, hmem, hp⟩
    exact ⟨k, v, mem_rows_iff.mp hmem, hp⟩
  · rintro ⟨k, v, hget, hp⟩
    exact ⟨(k, v), mem_rows_iff.mpr hget, hp⟩

end Table

end SqlTable
