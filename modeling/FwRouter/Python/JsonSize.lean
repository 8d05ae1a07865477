import FwRouter.Python.JsonDocument

/-!
# Sizes of JSON texts

`json.dumps` with `ensure_ascii=False` and `sort_keys=True` of values as the services build them, whose
dicts are in the order of insertion, and the number of UTF-8 bytes of what it writes.  The order of the
fields does not show in the size, so the size of a dict is a sum over its fields (`jsonSize_dict`).
-/

namespace Py

/-- `len(text.encode("utf-8"))`. -/
def utf8Size (t : Text) : ℕ := (t.map Char.utf8Size).sum

lemma utf8Size_append (s t : Text) : utf8Size (s ++ t) = utf8Size s + utf8Size t := by
  rw [utf8Size, List.map_append, List.sum_append]
  rfl

lemma utf8Size_cons (c : Char) (t : Text) : utf8Size (c :: t) = c.utf8Size + utf8Size t := by
  rw [utf8Size, List.map_cons, List.sum_cons]
  rfl

@[simp] lemma utf8Size_nil : utf8Size [] = 0 := rfl

lemma length_le_utf8Size (t : Text) : t.length ≤ utf8Size t := by
  induction t with
  | nil => exact Nat.le_refl 0
  | cons c t ih =>
      have hc := Char.utf8Size_pos c
      rw [List.length_cons, utf8Size_cons]
      omega

namespace Json

mutual

/-- The dicts of a value in the order of their keys. -/
def sortKeys : Value → Value
  | .list values => .list (sortItems values)
  | .dict fields => .dict ((sortFields fields).mergeSort fun a b => decide (a.1 ≤ b.1))
  | v => v

def sortItems : List Value → List Value
  | [] => []
  | v :: values => sortKeys v :: sortItems values

def sortFields : List (Text × Value) → List (Text × Value)
  | [] => []
  | (k, v) :: fields => (k, sortKeys v) :: sortFields fields

end

mutual

/-- No integer of the value is too long to print; `json.dumps` raises for one that is. -/
def numeralsFit : Value → Bool
  | .int n => decide ((dec n.natAbs).length ≤ maxStrDigits)
  | .list values => numeralsFitItems values
  | .dict fields => numeralsFitFields fields
  | _ => true

def numeralsFitItems : List Value → Bool
  | [] => true
  | v :: values => numeralsFit v && numeralsFitItems values

def numeralsFitFields : List (Text × Value) → Bool
  | [] => true
  | (_, v) :: fields => numeralsFit v && numeralsFitFields fields

end

/-- `json.dumps(value, ensure_ascii=False, sort_keys=True)`. -/
def dumpsSorted (v : Value) : Text := dumps spaced (sortKeys v)

/-- The bytes of the text of a value. -/
def jsonSize (v : Value) : ℕ := utf8Size (dumpsSorted v)

/-- The bytes of a field: its key, the colon and the blank, and its value. -/
def fieldSize (field : Text × Value) : ℕ := utf8Size (stringText field.1) + 2 + jsonSize field.2

lemma utf8Size_separators : utf8Size spaced.item = 2 ∧ utf8Size spaced.key = 2 := by decide

lemma utf8Size_dumpsMoreFields (fields : List (Text × Value)) :
    utf8Size (dumpsMoreFields spaced fields) =
      (fields.map fun f => 2 + (utf8Size (stringText f.1) + 2 + utf8Size (dumps spaced f.2))).sum +
        1 := by
  induction fields with
  | nil => rfl
  | cons field fields ih =>
      rcases field with ⟨k, v⟩
      rw [dumpsMoreFields, utf8Size_append, utf8Size_append, utf8Size_append, utf8Size_append, ih,
        utf8Size_separators.1, utf8Size_separators.2, List.map_cons, List.sum_cons]
      dsimp only
      omega

lemma sortFields_eq_map (fields : List (Text × Value)) :
    sortFields fields = fields.map fun f => (f.1, sortKeys f.2) := by
  induction fields with
  | nil => rfl
  | cons field fields ih => rw [sortFields, ih, List.map_cons]

/-- **The size of a dict**, in whatever order its fields are written. -/
lemma jsonSize_dict (fields : List (Text × Value)) (hne : fields ≠ []) :
    jsonSize (.dict fields) = (fields.map fun f => 2 + fieldSize f).sum := by
  have hopen : utf8Size ['\x7b'] = 1 := by decide
  have hperm : List.Perm ((sortFields fields).mergeSort fun a b => decide (a.1 ≤ b.1))
      (fields.map fun f => (f.1, sortKeys f.2)) := by
    rw [← sortFields_eq_map]
    exact List.mergeSort_perm _ _
  have hsum : (((sortFields fields).mergeSort fun a b => decide (a.1 ≤ b.1)).map fun f =>
      2 + (utf8Size (stringText f.1) + 2 + utf8Size (dumps spaced f.2))).sum =
      (fields.map fun f => 2 + fieldSize f).sum := by
    rw [(hperm.map _).sum_eq, List.map_map]
    rfl
  rw [jsonSize, dumpsSorted, sortKeys, dumps, ← List.singleton_append, utf8Size_append, hopen,
    ← hsum]
  cases hsorted : (sortFields fields).mergeSort fun a b => decide (a.1 ≤ b.1) with
  | nil =>
      rw [hsorted] at hperm
      exact absurd (List.map_eq_nil_iff.mp (List.nil_perm.mp hperm)) hne
  | cons field rest =>
      rcases field with ⟨k, v⟩
      rw [dumpsFields, utf8Size_append, utf8Size_append, utf8Size_append,
        utf8Size_dumpsMoreFields, utf8Size_separators.2, List.map_cons, List.sum_cons]
      dsimp only
      omega

/-- A dict is larger than each of its fields. -/
lemma fieldSize_le_of_mem {fields : List (Text × Value)} {field : Text × Value}
    (h : field ∈ fields) : fieldSize field ≤ jsonSize (.dict fields) := by
  rw [jsonSize_dict fields (List.ne_nil_of_mem h)]
  have := List.single_le_sum (l := fields.map fun f => 2 + fieldSize f) (by simp) _
    (List.mem_map_of_mem h)
  omega

/-- A list is larger than each of its values. -/
lemma jsonSize_le_of_mem {values : List Value} {v : Value} (h : v ∈ values) :
    jsonSize v ≤ jsonSize (.list values) := by
  have hmore : ∀ {values : List Value}, v ∈ values →
      jsonSize v ≤ utf8Size (dumpsMoreItems spaced (sortItems values)) := by
    intro values h
    induction values with
    | nil => cases h
    | cons w values ih =>
        rw [sortItems, dumpsMoreItems, utf8Size_append, utf8Size_append]
        rcases List.mem_cons.mp h with rfl | h
        · rw [jsonSize, dumpsSorted]
          omega
        · have := ih h
          omega
  rw [jsonSize.eq_def (.list values), dumpsSorted, sortKeys, dumps, utf8Size_cons]
  cases values with
  | nil => cases h
  | cons w values =>
      rw [sortItems, dumpsItems, utf8Size_append]
      rcases List.mem_cons.mp h with rfl | h
      · rw [jsonSize, dumpsSorted]
        omega
      · have := hmore h
        omega

lemma length_le_stringText (s : Text) : s.length ≤ utf8Size (stringText s) := by
  have hescape : ∀ c : Char, 1 ≤ (escapeChar c).length := by
    intro c
    rw [escapeChar]
    split_ifs <;> simp
  have hbody : s.length ≤ (s.flatMap escapeChar).length := by
    induction s with
    | nil => exact Nat.le_refl 0
    | cons c s ih =>
        have hc := hescape c
        rw [List.length_cons, List.flatMap_cons, List.length_append]
        omega
  have hcons : stringText s = ['"'] ++ (s.flatMap escapeChar ++ ['"']) := rfl
  have hsize := length_le_utf8Size (stringText s)
  rw [hcons, List.length_append, List.length_append] at hsize
  rw [hcons]
  omega

lemma length_le_jsonSize_str (s : Text) : s.length ≤ jsonSize (.str s) := by
  have h := length_le_stringText s
  rw [jsonSize, dumpsSorted, sortKeys]
  · rwa [dumps]
  · exact fun _ h => Value.noConfusion h
  · exact fun _ h => Value.noConfusion h

end Json

end Py
