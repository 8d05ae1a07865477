import FwRouter.Python.Json
import FwRouter.Python.Value

/-!
# JSON documents

`json.dumps` with `ensure_ascii=False` and `sort_keys=True`, and `json.loads` with a hook that refuses
an object with a repeated key.  The fields of a dict are kept in the order of their keys, so that
dicts are equal in Python when they are equal here; what `json.loads` makes is in that order, and
`dumps` writes the fields as they stand.

`loads` is the recursive reader of the standard library: white space, literals, numbers, escapes with
surrogate pairs.  A text with a lone surrogate is not represented and counts as unreadable.
`loads_dumps` is the round trip for documents without floats.
-/

namespace Py.Json

/-! ## Writing -/

/-- The argument `separators`. -/
structure Separators where
  item : Text
  key : Text

def compact : Separators := ⟨[','], [':']⟩

/-- The default. -/
def spaced : Separators := ⟨[',', ' '], [':', ' ']⟩

/-- The text of a float: its `repr`, but for the three values JSON has other names for. -/
def floatText (repr : Text) : Text :=
  if repr = "nan".toList then "NaN".toList
  else if repr = "inf".toList then "Infinity".toList
  else if repr = "-inf".toList then "-Infinity".toList
  else repr

section Dumps

variable (sep : Separators)

mutual

/-- `json.dumps`. -/
def dumps : Value → Text
  | .none => ['n', 'u', 'l', 'l']
  | .bool true => ['t', 'r', 'u', 'e']
  | .bool false => ['f', 'a', 'l', 's', 'e']
  | .int n => Value.intText n
  | .float repr => floatText repr
  | .str s => stringText s
  | .list values => '[' :: dumpsItems values
  | .dict fields => '\x7b' :: dumpsFields fields

def dumpsItems : List Value → Text
  | [] => [']']
  | v :: values => dumps v ++ dumpsMoreItems values

def dumpsMoreItems : List Value → Text
  | [] => [']']
  | v :: values => sep.item ++ (dumps v ++ dumpsMoreItems values)

def dumpsFields : List (Text × Value) → Text
  | [] => ['\x7d']
  | (k, v) :: fields => stringText k ++ (sep.key ++ (dumps v ++ dumpsMoreFields fields))

def dumpsMoreFields : List (Text × Value) → Text
  | [] => ['\x7d']
  | (k, v) :: fields => sep.item ++ (stringText k ++ (sep.key ++ (dumps v ++ dumpsMoreFields fields)))

end

end Dumps

/-! ## Reading -/

def isJsonSpace (c : Char) : Bool := [' ', '\t', '\n', '\r'].contains c

def skipSpace (t : Text) : Text := t.dropWhile isJsonSpace

/-- The number of four hexadecimal digits. -/
def hex4 (t : Text) : Option (ℕ × Text) :=
  match t with
  | a :: b :: c :: d :: rest => (hexValue [a, b, c, d]).map fun n => (n, rest)
  | _ => none

/-- What follows `\u`: a character, or the two halves of one. -/
def readUnicode (t : Text) : Option (Char × Text) :=
  (hex4 t).bind fun (n, rest) =>
    if 0xD800 ≤ n ∧ n < 0xDC00 then
      match rest with
      | '\\' :: 'u' :: rest =>
          (hex4 rest).bind fun (m, rest) =>
            if 0xDC00 ≤ m ∧ m < 0xE000 then
              some (Char.ofNat (0x10000 + (n - 0xD800) * 0x400 + (m - 0xDC00)), rest)
            else none
      | _ => none
    else if 0xDC00 ≤ n ∧ n < 0xE000 then none
    else some (Char.ofNat n, rest)

/-- One character of a text, in the strict mode: control characters are refused. -/
def readChar : Text → Option (Char × Text)
  | '\\' :: 'u' :: rest => readUnicode rest
  | '\\' :: '"' :: rest => some ('"', rest)
  | '\\' :: '\\' :: rest => some ('\\', rest)
  | '\\' :: '/' :: rest => some ('/', rest)
  | '\\' :: 'n' :: rest => some ('\n', rest)
  | '\\' :: 'r' :: rest => some ('\r', rest)
  | '\\' :: 't' :: rest => some ('\t', rest)
  | '\\' :: 'f' :: rest => some ('\x0c', rest)
  | '\\' :: 'b' :: rest => some ('\x08', rest)
  | '\\' :: _ => none
  | c :: rest => if c.toNat < 32 then none else some (c, rest)
  | [] => none

/-- A text after its first quotation mark. -/
def readString : ℕ → Text → Option (Text × Text)
  | 0, _ => none
  | fuel + 1, t =>
      if t.head? = some '"' then some ([], t.tail)
      else
        (readChar t).bind fun (c, rest) =>
          (readString fuel rest).map fun (s, rest) => (c :: s, rest)

/-- The longest numeral that `int` reads, and `str` writes. -/
def maxStrDigits : ℕ := 4300

/-- `(\.[0-9]+)?`. -/
def fraction (t : Text) : Text :=
  match t with
  | '.' :: rest =>
      if rest.takeWhile (·.isDigit) = [] then [] else '.' :: rest.takeWhile (·.isDigit)
  | _ => []

/-- `([eE][-+]?[0-9]+)?`. -/
def exponent (t : Text) : Text :=
  match t with
  | e :: rest =>
      if e = 'e' ∨ e = 'E' then
        let sign := if rest.head? = some '-' ∨ rest.head? = some '+' then rest.take 1 else []
        let digits := (rest.drop sign.length).takeWhile (·.isDigit)
        if digits = [] then [] else e :: (sign ++ digits)
      else []
  | [] => []

/-- A number without its sign; the text of a float stands for its value. -/
def readMagnitude (sign t : Text) : Option (Value × Text) :=
  let digits := if t.head? = some '0' then ['0'] else t.takeWhile (·.isDigit)
  let rest := t.drop digits.length
  let fraction := fraction rest
  let exponent := exponent (rest.drop fraction.length)
  if digits = [] then none
  else if fraction = [] ∧ exponent = [] then
    if maxStrDigits < digits.length then none
    else some (.int (if sign = [] then decValue digits else -(decValue digits : ℤ)), rest)
  else some (.float (sign ++ digits ++ fraction ++ exponent),
    rest.drop (fraction.length + exponent.length))

def readNumber (t : Text) : Option (Value × Text) :=
  if t.head? = some '-' then readMagnitude ['-'] t.tail else readMagnitude [] t

/-- A literal or a number. -/
def readScalar (t : Text) : Option (Value × Text) :=
  match t with
  | 'n' :: 'u' :: 'l' :: 'l' :: rest => some (.none, rest)
  | 't' :: 'r' :: 'u' :: 'e' :: rest => some (.bool true, rest)
  | 'f' :: 'a' :: 'l' :: 's' :: 'e' :: rest => some (.bool false, rest)
  | 'N' :: 'a' :: 'N' :: rest => some (.float "nan".toList, rest)
  | 'I' :: 'n' :: 'f' :: 'i' :: 'n' :: 'i' :: 't' :: 'y' :: rest => some (.float "inf".toList, rest)
  | '-' :: 'I' :: 'n' :: 'f' :: 'i' :: 'n' :: 'i' :: 't' :: 'y' :: rest =>
      some (.float "-inf".toList, rest)
  | _ => readNumber t

/-- The dict of the pairs of an object, in the order of the keys; a repeated key is refused. -/
def strictObject (pairs : List (Text × Value)) : Option Value :=
  if (pairs.map (·.1)).Nodup then
    some (.dict (pairs.mergeSort fun a b => decide (a.1 ≤ b.1)))
  else none

mutual

/-- A value. -/
def readValue : ℕ → Text → Option (Value × Text)
  | 0, _ => none
  | fuel + 1, t =>
      match t with
      | '"' :: rest => (readString (rest.length + 1) rest).map fun (s, rest) => (.str s, rest)
      | '[' :: rest =>
          if (skipSpace rest).head? = some ']' then some (.list [], (skipSpace rest).tail)
          else (readItems fuel (skipSpace rest)).map fun (values, rest) => (.list values, rest)
      | '\x7b' :: rest =>
          if (skipSpace rest).head? = some '\x7d' then some (.dict [], (skipSpace rest).tail)
          else
            (readFields fuel (skipSpace rest)).bind fun (pairs, rest) =>
              (strictObject pairs).map fun object => (object, rest)
      | _ => readScalar t

/-- The values of an array that is not empty. -/
def readItems : ℕ → Text → Option (List Value × Text)
  | 0, _ => none
  | fuel + 1, t =>
      (readValue fuel t).bind fun (v, rest) =>
        match skipSpace rest with
        | ',' :: rest =>
            (readItems fuel (skipSpace rest)).map fun (values, rest) => (v :: values, rest)
        | ']' :: rest => some ([v], rest)
        | _ => none

/-- The pairs of an object that is not empty. -/
def readFields : ℕ → Text → Option (List (Text × Value) × Text)
  | 0, _ => none
  | fuel + 1, t =>
      match t with
      | '"' :: rest =>
          (readString (rest.length + 1) rest).bind fun (k, rest) =>
            match skipSpace rest with
            | ':' :: rest =>
                (readValue fuel (skipSpace rest)).bind fun (v, rest) =>
                  match skipSpace rest with
                  | ',' :: rest =>
                      (readFields fuel (skipSpace rest)).map fun (pairs, rest) =>
                        ((k, v) :: pairs, rest)
                  | '\x7d' :: rest => some ([(k, v)], rest)
                  | _ => none
            | _ => none
      | _ => none

end

/-- `json.loads(text, object_pairs_hook=_strict_object)`. -/
def loads (t : Text) : Option Value :=
  (readValue (2 * t.length + 1) (skipSpace t)).bind fun (v, rest) =>
    if skipSpace rest = [] then some v else none

/-! ## Texts -/

lemma readChar_escapeChar (c : Char) (rest : Text) :
    readChar (escapeChar c ++ rest) = some (c, rest) := by
  rw [escapeChar]
  split_ifs with h₁ h₂ h₃ h₄ h₅ h₆ h₇ h₈
  · subst h₁; rfl
  · subst h₂; rfl
  · subst h₃; rfl
  · subst h₄; rfl
  · subst h₅; rfl
  · subst h₆; rfl
  · subst h₇; rfl
  · have hcode : ∀ n < 32, hexValue ['0', '0', Nat.digitChar (n / 16), Nat.digitChar (n % 16)] =
        some n := by decide
    have hlow : ¬ (0xD800 ≤ c.toNat ∧ c.toNat < 0xDC00) := by omega
    have hlow' : ¬ (0xDC00 ≤ c.toNat ∧ c.toNat < 0xE000) := by omega
    simp only [List.cons_append, List.nil_append, readChar, readUnicode, hex4, hcode _ h₈,
      Option.map_some, Option.bind_some, if_neg hlow, if_neg hlow', Char.ofNat_toNat]
  · simp only [List.cons_append, List.nil_append]
    unfold readChar
    split <;> simp_all

lemma readString_terminated (s rest : Text) {fuel : ℕ} (h : s.length < fuel) :
    readString fuel (PrefixCode.terminated escapeChar '"' s ++ rest) = some (s, rest) := by
  induction s generalizing fuel with
  | nil =>
      rcases fuel with _ | fuel
      · exact absurd h (Nat.not_lt_zero _)
      · rfl
  | cons c s ih =>
      rcases fuel with _ | fuel
      · exact absurd h (Nat.not_lt_zero _)
      · have hcons : PrefixCode.terminated escapeChar '"' (c :: s) ++ rest =
            escapeChar c ++ (PrefixCode.terminated escapeChar '"' s ++ rest) := by
          simp only [PrefixCode.terminated, List.flatMap_cons, List.append_assoc]
        have hquote : (escapeChar c ++ (PrefixCode.terminated escapeChar '"' s ++ rest)).head? ≠
            some '"' := by
          intro hhead
          rcases List.head?_eq_some_iff.mp hhead with ⟨y, hy⟩
          exact escapeChar_ne_quote c _ y hy
        rw [hcons, readString, if_neg hquote, readChar_escapeChar, Option.bind_some]
        simp only [ih (Nat.lt_of_succ_lt_succ h), Option.map_some]

lemma length_lt_terminated (s : Text) :
    s.length < (PrefixCode.terminated escapeChar '"' s).length := by
  rw [PrefixCode.terminated, List.length_append, List.length_singleton, Nat.lt_succ_iff]
  induction s with
  | nil => exact Nat.zero_le _
  | cons c s ih =>
      have hpos : 0 < (escapeChar c).length := by
        rw [escapeChar]
        split_ifs <;> simp
      rw [List.flatMap_cons, List.length_append, List.length_cons]
      omega

/-- A text is read back, whatever follows it. -/
lemma readString_text (s rest : Text) :
    readString ((PrefixCode.terminated escapeChar '"' s ++ rest).length + 1)
      (PrefixCode.terminated escapeChar '"' s ++ rest) = some (s, rest) := by
  refine readString_terminated s rest ?_
  have hlt := length_lt_terminated s
  rw [List.length_append]
  omega

/-! ## Numbers -/

/-- What may follow a numeral without becoming part of it. -/
def Ends (rest : Text) : Prop :=
  ∀ c ∈ rest.head?, c.isDigit = false ∧ c ≠ '.' ∧ c ≠ 'e' ∧ c ≠ 'E'

lemma takeWhile_digits {ds rest : Text} (hds : ∀ c ∈ ds, c.isDigit = true) (h : Ends rest) :
    (ds ++ rest).takeWhile (·.isDigit) = ds := by
  rw [List.takeWhile_append_of_pos hds]
  rcases rest with _ | ⟨c, rest⟩
  · rw [List.takeWhile_nil, List.append_nil]
  · have hc := (h c rfl).1
    rw [List.takeWhile_cons_of_neg (by rw [hc]; decide), List.append_nil]

lemma fraction_of_ends {rest : Text} (h : Ends rest) : fraction rest = [] := by
  unfold fraction
  split
  · exact absurd rfl (h '.' rfl).2.1
  · rfl

lemma exponent_of_ends {rest : Text} (h : Ends rest) : exponent rest = [] := by
  rcases rest with _ | ⟨c, rest⟩
  · rfl
  · rw [exponent, if_neg]
    exact not_or.mpr (h c rfl).2.2

lemma readMagnitude_dec {n : ℕ} {sign rest : Text} (hlen : (dec n).length ≤ maxStrDigits)
    (h : Ends rest) :
    readMagnitude sign (dec n ++ rest) = some (.int (if sign = [] then n else -(n : ℤ)), rest) := by
  have hdigits : (if (dec n ++ rest).head? = some '0' then ['0']
      else (dec n ++ rest).takeWhile (·.isDigit)) = dec n := by
    split_ifs with hzero
    · rcases Nat.eq_zero_or_pos n with rfl | hpos
      · rfl
      · refine absurd ?_ (head_dec_ne_zero hpos)
        rw [← hzero, List.head?_append_of_ne_nil _ (dec_ne_nil n)]
    · exact takeWhile_digits (fun c hc => isDigit_of_mem_dec hc) h
  unfold readMagnitude
  simp only [hdigits, List.drop_left, fraction_of_ends h, List.length_nil, List.drop_zero,
    exponent_of_ends h, if_neg (dec_ne_nil n), and_self, if_true, if_neg (not_lt.mpr hlen),
    decValue_dec]

lemma exists_dec_cons (n : ℕ) : ∃ d ds, dec n = d :: ds ∧ d.isDigit = true := by
  rcases hdec : dec n with _ | ⟨d, ds⟩
  · exact absurd hdec (dec_ne_nil n)
  · exact ⟨d, ds, rfl, isDigit_of_mem_dec (n := n) (hdec ▸ List.mem_cons_self)⟩

/-- An integer is read back before anything that does not continue it. -/
lemma readNumber_intText {n : ℤ} {rest : Text} (hlen : (dec n.natAbs).length ≤ maxStrDigits)
    (h : Ends rest) : readNumber (Value.intText n ++ rest) = some (.int n, rest) := by
  unfold readNumber Value.intText
  by_cases hneg : n < 0
  · rw [if_pos hneg, List.cons_append, List.head?_cons, if_pos rfl, List.tail_cons,
      readMagnitude_dec hlen h, if_neg (List.cons_ne_nil _ _)]
    rw [show -(n.natAbs : ℤ) = n by omega]
  · rcases exists_dec_cons n.natAbs with ⟨d, ds, hdec, hdigit⟩
    have hsign : (dec n.natAbs ++ rest).head? ≠ some '-' := by
      rw [hdec, List.cons_append, List.head?_cons]
      intro heq
      obtain rfl := Option.some.inj heq
      exact absurd hdigit (by decide)
    rw [if_neg hneg, if_neg hsign, readMagnitude_dec hlen h, if_pos rfl]
    rw [show (n.natAbs : ℤ) = n by omega]

/-! ## Documents -/

mutual

/-- A value whose text determines it: no float, keys in order, and no numeral too long to print. -/
def Plain : Value → Prop
  | .none | .bool _ | .str _ => True
  | .int n => (dec n.natAbs).length ≤ maxStrDigits
  | .float _ => False
  | .list values => PlainItems values
  | .dict fields => (fields.map (·.1)).Pairwise (· < ·) ∧ PlainFields fields

def PlainItems : List Value → Prop
  | [] => True
  | v :: values => Plain v ∧ PlainItems values

def PlainFields : List (Text × Value) → Prop
  | [] => True
  | (_, v) :: fields => Plain v ∧ PlainFields fields

end

lemma dumps_cons {v : Value} (h : Plain v) :
    ∃ c t, dumps compact v = c :: t ∧ isJsonSpace c = false ∧ c ≠ ']' := by
  cases v with
  | none => exact ⟨_, _, rfl, rfl, by decide⟩
  | bool b => cases b <;> exact ⟨_, _, rfl, rfl, by decide⟩
  | int n =>
      unfold dumps Value.intText
      by_cases hneg : n < 0
      · exact ⟨_, _, if_pos hneg, rfl, by decide⟩
      · rcases exists_dec_cons n.natAbs with ⟨d, ds, hdec, hdigit⟩
        refine ⟨d, ds, (if_neg hneg).trans hdec, ?_, ?_⟩
        · rw [isJsonSpace, List.contains_eq_mem, decide_eq_false_iff_not]
          rintro hmem
          simp only [List.mem_cons, List.not_mem_nil, or_false] at hmem
          rcases hmem with rfl | rfl | rfl | rfl <;> exact absurd hdigit (by decide)
        · rintro rfl
          exact absurd hdigit (by decide)
  | float repr => exact absurd h (by simp [Plain])
  | str s => exact ⟨_, _, by unfold dumps stringText; rfl, rfl, by decide⟩
  | list values => exact ⟨_, _, by unfold dumps; rfl, rfl, by decide⟩
  | dict fields => exact ⟨_, _, by unfold dumps; rfl, rfl, by decide⟩

lemma skipSpace_dumps {v : Value} (h : Plain v) (rest : Text) :
    skipSpace (dumps compact v ++ rest) = dumps compact v ++ rest := by
  rcases dumps_cons h with ⟨c, t, hdumps, hspace, -⟩
  rw [hdumps, List.cons_append, skipSpace, List.dropWhile_cons_of_neg (by rw [hspace]; decide)]

lemma skipSpace_cons {c : Char} (h : isJsonSpace c = false) (rest : Text) :
    skipSpace (c :: rest) = c :: rest :=
  List.dropWhile_cons_of_neg (by rw [h]; decide)

lemma ends_items (values : List Value) (rest : Text) :
    Ends (dumpsMoreItems compact values ++ rest) := by
  cases values with
  | nil =>
      intro c hc
      obtain rfl := Option.some.inj hc
      decide
  | cons v values =>
      intro c hc
      obtain rfl := Option.some.inj hc
      decide

lemma ends_fields (fields : List (Text × Value)) (rest : Text) :
    Ends (dumpsMoreFields compact fields ++ rest) := by
  cases fields with
  | nil =>
      intro c hc
      obtain rfl := Option.some.inj hc
      decide
  | cons field fields =>
      intro c hc
      obtain rfl := Option.some.inj hc
      decide

/-- Fields in order are the dict they came from. -/
lemma strictObject_of_sorted {fields : List (Text × Value)}
    (h : (fields.map (·.1)).Pairwise (· < ·)) : strictObject fields = some (.dict fields) := by
  have hsorted : fields.Pairwise fun a b => decide (a.1 ≤ b.1) = true :=
    (List.pairwise_map.mp h).imp fun hab => decide_eq_true hab.le
  have hnodup : (fields.map (·.1)).Nodup := h.imp fun hab => hab.ne
  rw [strictObject, if_pos hnodup, List.mergeSort_of_pairwise hsorted]

/-! ## The round trip

By induction on the fuel of the reader: each of its three functions calls the others with less. -/

def ReadsValue (fuel : ℕ) : Prop :=
  ∀ v rest, Plain v → Ends rest → 2 * (dumps compact v).length ≤ fuel →
    readValue fuel (dumps compact v ++ rest) = some (v, rest)

def ReadsItems (fuel : ℕ) : Prop :=
  ∀ v values rest, Plain v → PlainItems values →
    2 * (dumpsItems compact (v :: values)).length + 1 ≤ fuel →
    readItems fuel (dumpsItems compact (v :: values) ++ rest) = some (v :: values, rest)

def ReadsFields (fuel : ℕ) : Prop :=
  ∀ k v fields rest, Plain v → PlainFields fields →
    2 * (dumpsFields compact ((k, v) :: fields)).length + 1 ≤ fuel →
    readFields fuel (dumpsFields compact ((k, v) :: fields) ++ rest) = some ((k, v) :: fields, rest)

lemma readScalar_intText {n : ℤ} {rest : Text} (hlen : (dec n.natAbs).length ≤ maxStrDigits)
    (h : Ends rest) : readScalar (Value.intText n ++ rest) = some (.int n, rest) := by
  rw [← readNumber_intText hlen h]
  rcases exists_dec_cons n.natAbs with ⟨d, ds, hdec, hdigit⟩
  have hne : ∀ c : Char, c.isDigit = false → d ≠ c := by
    rintro c hc rfl
    rw [hdigit] at hc
    exact absurd hc (by decide)
  unfold Value.intText
  rw [hdec]
  split_ifs with hneg
  · unfold readScalar
    split <;> simp_all
  · unfold readScalar
    split <;> simp_all

lemma readValue_int {n : ℤ} {rest : Text} (fuel : ℕ)
    (hlen : (dec n.natAbs).length ≤ maxStrDigits) (h : Ends rest) :
    readValue (fuel + 1) (Value.intText n ++ rest) = some (.int n, rest) := by
  rw [← readScalar_intText hlen h]
  rcases exists_dec_cons n.natAbs with ⟨d, ds, hdec, hdigit⟩
  unfold Value.intText
  rw [hdec]
  split_ifs with hneg
  · rfl
  · unfold readValue
    split <;> simp_all

lemma readsValue_succ {fuel : ℕ} (hitems : ReadsItems fuel) (hfields : ReadsFields fuel) :
    ReadsValue (fuel + 1) := by
  intro v rest hv hrest hfuel
  cases v with
  | none =>
      unfold readValue dumps
      rfl
  | bool b =>
      cases b with
      | true =>
          unfold readValue dumps
          rfl
      | false =>
          unfold readValue dumps
          rfl
  | int n =>
      unfold Plain at hv
      unfold dumps
      exact readValue_int fuel hv hrest
  | float repr =>
      unfold Plain at hv
      exact hv.elim
  | str s =>
      have hdumps : dumps compact (.str s) = '"' :: PrefixCode.terminated escapeChar '"' s := by
        rw [dumps]
        rfl
      rw [hdumps, List.cons_append, readValue]
      simp only [readString_text, Option.map_some]
  | list values =>
      unfold Plain at hv
      have hdumps : dumps compact (.list values) = '[' :: dumpsItems compact values := by
        rw [dumps]
      rw [hdumps, List.length_cons] at hfuel
      rw [hdumps, List.cons_append, readValue]
      rcases values with _ | ⟨v, values⟩
      · rfl
      · unfold PlainItems at hv
        rcases dumps_cons hv.1 with ⟨c, t, hc, hspace, hclose⟩
        have hskip : skipSpace (dumpsItems compact (v :: values) ++ rest) =
            dumpsItems compact (v :: values) ++ rest := by
          rw [dumpsItems, List.append_assoc, skipSpace_dumps hv.1]
        have hhead : (dumpsItems compact (v :: values) ++ rest).head? ≠ some ']' := by
          rw [dumpsItems, hc]
          exact fun heq => hclose (Option.some.inj heq)
        rw [hskip, if_neg hhead, hitems v values rest hv.1 hv.2 (by omega), Option.map_some]
  | dict fields =>
      unfold Plain at hv
      have hdumps : dumps compact (.dict fields) = '\x7b' :: dumpsFields compact fields := by
        rw [dumps]
      rw [hdumps, List.length_cons] at hfuel
      rw [hdumps, List.cons_append, readValue]
      rcases fields with _ | ⟨⟨k, v⟩, fields⟩
      · rfl
      · have hplain := hv.2
        unfold PlainFields at hplain
        have hquote : ∃ t, dumpsFields compact ((k, v) :: fields) ++ rest = '"' :: t :=
          ⟨_, by unfold dumpsFields stringText; rfl⟩
        rcases hquote with ⟨t, ht⟩
        have hskip : skipSpace (dumpsFields compact ((k, v) :: fields) ++ rest) =
            dumpsFields compact ((k, v) :: fields) ++ rest := by
          rw [ht, skipSpace_cons (by decide)]
        have hhead : (dumpsFields compact ((k, v) :: fields) ++ rest).head? ≠ some '\x7d' := by
          rw [ht, List.head?_cons]
          decide
        rw [hskip, if_neg hhead, hfields k v fields rest hplain.1 hplain.2 (by omega),
          Option.bind_some]
        simp only [strictObject_of_sorted hv.1, Option.map_some]

lemma readsItems_succ {fuel : ℕ} (hvalue : ReadsValue fuel) (hitems : ReadsItems fuel) :
    ReadsItems (fuel + 1) := by
  intro v values rest hv hvalues hfuel
  rw [dumpsItems, List.length_append] at hfuel
  rw [dumpsItems, List.append_assoc, readItems]
  rcases values with _ | ⟨v', values⟩
  · rw [hvalue v _ hv (ends_items [] rest) (by rw [dumpsMoreItems, List.length_singleton] at hfuel; omega),
      Option.bind_some]
    rfl
  · have hmore : dumpsMoreItems compact (v' :: values) = ',' :: dumpsItems compact (v' :: values) := by
      rw [dumpsMoreItems, dumpsItems]
      rfl
    unfold PlainItems at hvalues
    rw [hmore, List.length_cons] at hfuel
    rw [hvalue v _ hv (ends_items (v' :: values) rest) (by omega), hmore, Option.bind_some]
    have hskip : skipSpace (dumpsItems compact (v' :: values) ++ rest) =
        dumpsItems compact (v' :: values) ++ rest := by
      rw [dumpsItems, List.append_assoc, skipSpace_dumps hvalues.1]
    simp only [List.cons_append, skipSpace_cons (show isJsonSpace ',' = false by decide), hskip]
    rw [hitems v' values rest hvalues.1 hvalues.2 (by omega), Option.map_some]

lemma readsFields_succ {fuel : ℕ} (hvalue : ReadsValue fuel) (hfields : ReadsFields fuel) :
    ReadsFields (fuel + 1) := by
  intro k v fields rest hv hplain hfuel
  have hdumps : ∀ k v fields, dumpsFields compact ((k, v) :: fields) =
      '"' :: (PrefixCode.terminated escapeChar '"' k ++
        (':' :: (dumps compact v ++ dumpsMoreFields compact fields))) := by
    intro k v fields
    rw [dumpsFields]
    rfl
  rw [hdumps, List.length_cons, List.length_append, List.length_cons, List.length_append] at hfuel
  rw [hdumps, List.cons_append, List.append_assoc, readFields]
  simp only [readString_text, Option.bind_some]
  simp only [List.cons_append, skipSpace_cons (show isJsonSpace ':' = false by decide),
    List.append_assoc, skipSpace_dumps hv]
  rw [hvalue v _ hv (ends_fields fields rest) (by omega), Option.bind_some]
  rcases fields with _ | ⟨⟨k', v'⟩, fields⟩
  · rfl
  · have hmore : dumpsMoreFields compact ((k', v') :: fields) =
        ',' :: dumpsFields compact ((k', v') :: fields) := by
      rw [dumpsMoreFields, dumpsFields]
      rfl
    unfold PlainFields at hplain
    rw [hmore, List.length_cons] at hfuel
    have hskip : skipSpace (dumpsFields compact ((k', v') :: fields) ++ rest) =
        dumpsFields compact ((k', v') :: fields) ++ rest := by
      rw [hdumps, List.cons_append, skipSpace_cons (by decide)]
    simp only [hmore, List.cons_append, skipSpace_cons (show isJsonSpace ',' = false by decide),
      hskip]
    rw [hfields k' v' fields rest hplain.1 hplain.2 (by omega), Option.map_some]

lemma readsBack (fuel : ℕ) : ReadsValue fuel ∧ ReadsItems fuel ∧ ReadsFields fuel := by
  induction fuel with
  | zero =>
      refine ⟨fun v rest hv _ hfuel => ?_, fun v values rest _ _ hfuel => ?_,
        fun k v fields rest _ _ hfuel => ?_⟩
      · rcases dumps_cons hv with ⟨c, t, hcons, -, -⟩
        rw [hcons, List.length_cons] at hfuel
        omega
      · omega
      · omega
  | succ fuel ih =>
      rcases ih with ⟨hvalue, hitems, hfields⟩
      exact ⟨readsValue_succ hitems hfields, readsItems_succ hvalue hitems,
        readsFields_succ hvalue hfields⟩

/-- **A plain document is read back**, also with white space behind it. -/
theorem loads_dumps {v : Value} (h : Plain v) {space : Text} (hspace : skipSpace space = [])
    (hends : Ends space) : loads (dumps compact v ++ space) = some v := by
  have hread := (readsBack (2 * (dumps compact v ++ space).length + 1)).1 v space h hends
    (by rw [List.length_append]; omega)
  rw [loads, skipSpace_dumps h, hread, Option.bind_some]
  simp only [hspace, if_true]

end Py.Json
