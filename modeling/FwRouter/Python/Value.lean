import FwRouter.Python.Text
import FwRouter.Library.KeyedTable

/-!
# Python values

The values that `json.loads` makes, and what the services ask of them: truth, `str`, `dict.get` and
the type tests.  A float is kept as its `repr`.  The `repr` of a text is a parameter (it depends on
the Unicode table of printable characters); it is read where `str` is taken of a list or a dict.
-/

namespace Py

inductive Value
  | none
  | bool (b : Bool)
  | int (n : ℤ)
  | float (repr : Text)
  | str (s : Text)
  | list (values : List Value)
  | dict (fields : List (Text × Value))

/-- The fields of a dict. -/
abbrev Dict := List (Text × Value)

namespace Value

/-- `bool(value)`. -/
def truthy : Value → Bool
  | .none => false
  | .bool b => b
  | .int n => decide (n ≠ 0)
  | .float repr => decide (repr ∉ ["0.0".toList, "-0.0".toList])
  | .str s => !s.isEmpty
  | .list values => !values.isEmpty
  | .dict fields => !fields.isEmpty

/-- `first or second`. -/
def or (first second : Value) : Value := if first.truthy then first else second

/-- The decimal text of an integer. -/
def intText (n : ℤ) : Text := if n < 0 then '-' :: dec n.natAbs else dec n.natAbs

section Repr

variable (reprText : Text → Text)

mutual

/-- `repr(value)`. -/
def repr : Value → Text
  | .none => "None".toList
  | .bool true => "True".toList
  | .bool false => "False".toList
  | .int n => intText n
  | .float text => text
  | .str s => reprText s
  | .list values => '[' :: ([',', ' '].intercalate (reprList values) ++ [']'])
  | .dict fields => '\x7b' :: ([',', ' '].intercalate (reprFields fields) ++ ['\x7d'])

def reprList : List Value → List Text
  | [] => []
  | v :: values => repr v :: reprList values

def reprFields : List (Text × Value) → List Text
  | [] => []
  | (k, v) :: fields => (reprText k ++ ": ".toList ++ repr v) :: reprFields fields

end

/-- `str(value)`. -/
def text : Value → Text
  | .str s => s
  | v => repr reprText v

/-- `str(value or "")`. -/
def textOr (v : Value) : Text := if v.truthy then v.text reprText else []

@[simp] lemma textOr_str (s : Text) : (Value.str s).textOr reprText = s := by
  cases s <;> rfl

end Repr

/-- `value is True`. -/
def isTrue : Value → Bool
  | .bool true => true
  | _ => false

/-- `value == s` for a text `s`. -/
def isText (s : Text) : Value → Bool
  | .str t => decide (t = s)
  | _ => false

/-- The value as a text, if it is one. -/
def asText : Value → Option Text
  | .str s => some s
  | _ => Option.none

/-- The value as a dict, if it is one. -/
def asDict : Value → Option Dict
  | .dict fields => some fields
  | _ => Option.none

/-- `value if isinstance(value, dict) else {}`. -/
def dictOr (v : Value) : Dict := v.asDict.getD []

/-- `value if isinstance(value, list) else []`. -/
def listOr : Value → List Value
  | .list values => values
  | _ => []

end Value

/-- `d.get(key)`. -/
def Dict.get (d : Dict) (key : String) : Value := (d.lookup key.toList).getD .none

/-- `key in d`. -/
def Dict.has (d : Dict) (key : String) : Bool := (d.lookup key.toList).isSome

/-- `d[key] = value`, and `{**d, key: value}`. -/
def Dict.set (d : Dict) (key : String) (value : Value) : Dict :=
  KeyedTable.assign key.toList value d

/-- `d[key] = f(d.get(key))`. -/
def Dict.update (d : Dict) (key : String) (f : Value → Value) : Dict := d.set key (f (d.get key))

/-! ## Reading after writing -/

section Set

variable {d : Dict} {k j : String} {v : Value} {f : Value → Value}

@[simp] lemma Dict.get_set_self : (d.set k v).get k = v := by
  rw [Dict.get, Dict.set, KeyedTable.lookup_assign_self, Option.getD_some]

@[simp] lemma Dict.has_set_self : (d.set k v).has k = true := by
  rw [Dict.has, Dict.set, KeyedTable.lookup_assign_self, Option.isSome_some]

lemma Dict.lookup_set_of_ne (h : j ≠ k) :
    (d.set k v).lookup j.toList = d.lookup j.toList :=
  KeyedTable.lookup_assign_of_ne (fun hkeys => h (String.toList_inj.mp hkeys)) v d

lemma Dict.get_set_of_ne (h : j ≠ k) : (d.set k v).get j = d.get j := by
  rw [Dict.get, Dict.get, Dict.lookup_set_of_ne h]

lemma Dict.has_set_of_ne (h : j ≠ k) : (d.set k v).has j = d.has j := by
  rw [Dict.has, Dict.has, Dict.lookup_set_of_ne h]

lemma Dict.set_eq_self (hkey : d.has k = true) (hv : d.get k = v) : d.set k v = d := by
  rw [Dict.has, Option.isSome_iff_exists] at hkey
  obtain ⟨w, hw⟩ := hkey
  rw [Dict.get, hw, Option.getD_some] at hv
  exact KeyedTable.assign_eq_self (hv ▸ hw)

@[simp] lemma Dict.get_update_self : (d.update k f).get k = f (d.get k) := Dict.get_set_self

@[simp] lemma Dict.has_update_self : (d.update k f).has k = true := Dict.has_set_self

lemma Dict.get_update_of_ne (h : j ≠ k) : (d.update k f).get j = d.get j :=
  Dict.get_set_of_ne h

/-- The key holds what an update of it would write. -/
def Dict.Settled (d : Dict) (k : String) (f : Value → Value) : Prop :=
  d.has k = true ∧ f (d.get k) = d.get k

/-- An update that has been made changes nothing when it is made again. -/
lemma Dict.Settled.update_eq (h : d.Settled k f) : d.update k f = d := Dict.set_eq_self h.1 h.2.symm

lemma Dict.settled_update (hf : ∀ v, f (f v) = f v) : (d.update k f).Settled k f :=
  ⟨Dict.has_update_self, by rw [Dict.get_update_self, hf]⟩

lemma Dict.Settled.set (h : d.Settled k f) (hk : k ≠ j) : (d.set j v).Settled k f := by
  rw [Dict.Settled, Dict.has_set_of_ne hk, Dict.get_set_of_ne hk]
  exact h

lemma Dict.Settled.update {g : Value → Value} (h : d.Settled k f) (hk : k ≠ j) :
    (d.update j g).Settled k f := Dict.Settled.set h hk

end Set

end Py
