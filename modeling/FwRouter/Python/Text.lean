import Mathlib
import FwRouter.Library.Run

/-!
# Python text

The fragment of `str` that a Python service uses to read configuration: `strip`, `split`,
`splitlines`, `lower`, and the printed numerals `str(n)` and `'%x' % n` together with the
readers that invert them.  A text is the list of its code points.

White space and line boundaries are the ones of `str.isspace` and `str.splitlines`, written
out.  Case mapping, digit and alphanumeric classes and the `idna` codec are tables of the
Unicode database; they enter as a `Unicode` value, with the laws a caller may rely on as its
fields.  `Unicode.ascii` is the value that knows the ASCII part of the tables and nothing else.
-/

namespace Py

/-- A Python `str`: the list of its code points. -/
abbrev Text := List Char

instance lawfulBEqText : LawfulBEq Text := inferInstance

/-- Every character of the text is below U+0080. -/
def IsAscii (t : Text) : Prop := ∀ c ∈ t, c.toNat < 128

-- not by search, which would range over all characters
instance (t : Text) : Decidable (IsAscii t) := List.decidableBAll (fun c : Char => c.toNat < 128) t

/-! ## White space -/

/-- The code points for which `str.isspace` holds. -/
def spaceCodes : List Nat :=
  [9, 10, 11, 12, 13, 28, 29, 30, 31, 32, 133, 160, 5760, 8192, 8193, 8194, 8195, 8196, 8197,
    8198, 8199, 8200, 8201, 8202, 8232, 8233, 8239, 8287, 12288]

def isSpace (c : Char) : Bool := spaceCodes.contains c.toNat

/-- `str.strip(chars)`, the set of characters given by its test. -/
def stripBy (p : Char → Bool) (t : Text) : Text := (t.dropWhile p).rdropWhile p

/-- `str.strip()`. -/
def strip (t : Text) : Text := stripBy isSpace t

/-- `str.split()`: the maximal runs of non-space characters. -/
def split (t : Text) : List Text := (t.splitOnP isSpace).filter fun w => !w.isEmpty

/-- The code points at which `str.splitlines` ends a line. -/
def lineBreakCodes : List Nat := [10, 11, 12, 13, 28, 29, 30, 133, 8232, 8233]

def isLineBreak (c : Char) : Bool := lineBreakCodes.contains c.toNat

/-- `str.splitlines`, with the current line held reversed in `acc`.  `\r\n` is one boundary and
a final boundary opens no further line. -/
def splitlinesFrom (acc : Text) : Text → List Text
  | [] => if acc.isEmpty then [] else [acc.reverse]
  | '\r' :: '\n' :: rest => acc.reverse :: splitlinesFrom [] rest
  | c :: rest =>
      if isLineBreak c then acc.reverse :: splitlinesFrom [] rest
      else splitlinesFrom (c :: acc) rest

def splitlines (t : Text) : List Text := splitlinesFrom [] t

/-- `str.replace(a, b)` for single characters. -/
def replaceChar (a b : Char) (t : Text) : Text := t.map fun c => if c = a then b else c

/-- A text with no white space in it. -/
def Solid (t : Text) : Prop := ∀ c ∈ t, isSpace c = false

instance (t : Text) : Decidable (Solid t) := List.decidableBAll (fun c : Char => isSpace c = false) t

lemma Solid.append {a b : Text} (ha : Solid a) (hb : Solid b) : Solid (a ++ b) := by
  intro c hc
  rcases List.mem_append.mp hc with h | h
  · exact ha c h
  · exact hb c h

lemma Solid.of_subset {a b : Text} (hb : Solid b) (h : ∀ c ∈ a, c ∈ b) : Solid a :=
  fun c hc => hb c (h c hc)

lemma stripBy_eq_self {p : Char → Bool} {t : Text} (h : ∀ c ∈ t, p c = false) :
    stripBy p t = t := by
  have hd : t.dropWhile p = t := by
    cases t with
    | nil => rfl
    | cons c t => rw [List.dropWhile_cons, h c (by simp)]; rfl
  rw [stripBy, hd, List.rdropWhile_eq_self_iff]
  intro hne
  simp [h _ (List.getLast_mem hne)]

lemma strip_solid {t : Text} (h : Solid t) : strip t = t := stripBy_eq_self h

/-- Stripping leaves a text alone whose two ends are free of white space. -/
lemma strip_of_ends {a m b : Text} (ha : Solid a) (ha' : a ≠ []) (hb : Solid b) (hb' : b ≠ []) :
    strip (a ++ m ++ b) = a ++ m ++ b := by
  have hd : (a ++ m ++ b).dropWhile isSpace = a ++ m ++ b := by
    cases a with
    | nil => exact absurd rfl ha'
    | cons c a => simp [ha c (by simp)]
  rw [strip, stripBy, hd, List.rdropWhile_eq_self_iff]
  intro hne
  rw [List.getLast_append_of_ne_nil _ hb', hb _ (List.getLast_mem hb')]
  simp

lemma mem_of_mem_stripBy {p : Char → Bool} {t : Text} {c : Char} (h : c ∈ stripBy p t) : c ∈ t :=
  (List.dropWhile_suffix p).subset ((List.rdropWhile_prefix p _).subset h)

/-- A separator never ends up inside one of the pieces it cuts. -/
lemma not_of_mem_splitOnP {p : Char → Bool} {t : Text} {w : Text} (h : w ∈ t.splitOnP p) :
    ∀ c ∈ w, p c = false := by
  induction t generalizing w with
  | nil => simp at h; simp [h]
  | cons c t ih =>
      rw [List.splitOnP_cons_eq_if_modifyHead] at h
      split_ifs at h with hc
      · rcases List.mem_cons.mp h with rfl | h
        · simp
        · exact ih h
      · cases hs : t.splitOnP p with
        | nil => exact absurd hs (List.splitOnP_ne_nil p t)
        | cons v vs =>
            rw [hs] at h ih
            simp only [List.modifyHead_cons, List.mem_cons] at h
            rcases h with rfl | h
            · intro d hd
              rcases List.mem_cons.mp hd with rfl | hd
              · simpa using hc
              · exact ih (by simp) d hd
            · exact ih (List.mem_cons_of_mem _ h)

lemma not_mem_of_mem_splitOn {t w : Text} {x : Char} (h : w ∈ t.splitOn x) : x ∉ w := by
  intro hx
  have := not_of_mem_splitOnP (p := (· == x)) h x hx
  simp at this

/-- A character of a joined text is the separator or comes from one of the pieces. -/
lemma mem_intercalate {x c : Char} : ∀ {ls : List Text}, c ∈ [x].intercalate ls →
    c = x ∨ ∃ l ∈ ls, c ∈ l
  | [], h => by simp at h
  | [l], h => Or.inr ⟨l, by simp, by simpa using h⟩
  | l :: m :: ls, h => by
      rw [List.intercalate_cons_cons] at h
      simp only [List.mem_append, List.mem_singleton] at h
      rcases h with (h | h) | h
      · exact Or.inr ⟨l, by simp, h⟩
      · exact Or.inl h
      · exact (mem_intercalate h).imp_right fun ⟨k, hk, hc⟩ => ⟨k, List.mem_cons_of_mem _ hk, hc⟩

lemma mem_intercalate_of_mem {x c : Char} {l : Text} : ∀ {ls : List Text}, l ∈ ls → c ∈ l →
    c ∈ [x].intercalate ls
  | [m], hl, hc => by
      obtain rfl : l = m := by simpa using hl
      simpa using hc
  | m :: k :: ls, hl, hc => by
      rw [List.intercalate_cons_cons]
      rcases List.mem_cons.mp hl with rfl | hl
      · simp [hc]
      · exact List.mem_append_right _ (mem_intercalate_of_mem hl hc)

/-- Cutting a text at `x` loses only occurrences of `x`. -/
lemma mem_splitOn {t : Text} {x c : Char} (h : c ∈ t) : c = x ∨ ∃ l ∈ t.splitOn x, c ∈ l := by
  have ht : [x].intercalate (t.splitOn x) = t := List.intercalate_splitOn x
  rw [← ht] at h
  exact mem_intercalate h

/-- A comprehension that raised nowhere has a result for each of its inputs. -/
lemma exists_mem_of_mapM {α β : Type} {f : α → Option β} {l : List α} {r : List β}
    (h : l.mapM f = some r) : ∀ a ∈ l, ∃ b ∈ r, f a = some b :=
  fun _ ha => Run.exists_input (List.Forall₂.flip (Run.mapM_eq_some.mp h)) ha

/-- Whatever `str.split()` returns is a non-empty run of non-space characters. -/
lemma solid_of_mem_split {t w : Text} (h : w ∈ split t) : Solid w ∧ w ≠ [] := by
  simp only [split, List.mem_filter, Bool.not_eq_true', List.isEmpty_eq_false_iff] at h
  exact ⟨not_of_mem_splitOnP h.1, h.2⟩

/-- A word of the text holds every character that is no white space. -/
lemma exists_mem_split {t : Text} {c : Char} (hc : c ∈ t) (hs : isSpace c = false) :
    ∃ w ∈ split t, c ∈ w := by
  have key : ∃ w ∈ t.splitOnP isSpace, c ∈ w := by
    induction t with
    | nil => simp at hc
    | cons d t ih =>
        rw [List.splitOnP_cons_eq_if_modifyHead]
        cases ht : t.splitOnP isSpace with
        | nil => exact absurd ht (List.splitOnP_ne_nil _ _)
        | cons v vs =>
            rcases List.mem_cons.mp hc with rfl | hc
            · exact ⟨c :: v, by simp [hs], by simp⟩
            · obtain ⟨w, hw, hcw⟩ := ih hc
              rw [ht] at hw
              split_ifs
              · exact ⟨w, List.mem_cons_of_mem _ hw, hcw⟩
              · rcases List.mem_cons.mp hw with rfl | hw
                · exact ⟨d :: w, by simp, List.mem_cons_of_mem _ hcw⟩
                · exact ⟨w, by simp [hw], hcw⟩
  obtain ⟨w, hw, hcw⟩ := key
  exact ⟨w, List.mem_filter.mpr ⟨hw, by cases w <;> simp_all⟩, hcw⟩

/-- A stripped text starts and ends with a character that is no white space. -/
lemma strip_ends {t a b : Text} {c : Char} (h : strip t = a ++ c :: b) (hc : isSpace c = true) :
    (∃ x ∈ a, isSpace x = false) ∧ ∃ x ∈ b, isSpace x = false := by
  constructor
  · cases a with
    | nil =>
        obtain ⟨r, hr⟩ := List.rdropWhile_prefix isSpace (t.dropWhile isSpace)
        have hhead := List.head?_dropWhile_not isSpace t
        rw [← hr, show (t.dropWhile isSpace).rdropWhile isSpace = c :: b from h] at hhead
        simp [hc] at hhead
    | cons x a =>
        obtain ⟨r, hr⟩ := List.rdropWhile_prefix isSpace (t.dropWhile isSpace)
        have hhead := List.head?_dropWhile_not isSpace t
        rw [← hr, show (t.dropWhile isSpace).rdropWhile isSpace = x :: a ++ c :: b from h] at hhead
        exact ⟨x, by simp, by simpa using hhead⟩
  · have hne : (t.dropWhile isSpace).rdropWhile isSpace ≠ [] := by
      rw [show (t.dropWhile isSpace).rdropWhile isSpace = a ++ c :: b from h]; simp
    have hlast := List.rdropWhile_last_not isSpace _ hne
    have hb : ((t.dropWhile isSpace).rdropWhile isSpace).getLast hne = (c :: b).getLast (by simp) := by
      simp only [show (t.dropWhile isSpace).rdropWhile isSpace = a ++ c :: b from h]
      exact List.getLast_append_of_ne_nil _ _
    rw [hb] at hlast
    cases b with
    | nil => simp [hc] at hlast
    | cons y b =>
        refine ⟨(y :: b).getLast (by simp), List.getLast_mem _, ?_⟩
        simpa using hlast

/-- Stripping twice is stripping once: the head of what is left was not dropped the first time. -/
lemma strip_strip (t : Text) : strip (strip t) = strip t := by
  have hdrop : (strip t).dropWhile isSpace = strip t := by
    cases ht : strip t with
    | nil => rfl
    | cons c rest =>
        obtain ⟨tail, htail⟩ := List.rdropWhile_prefix isSpace (t.dropWhile isSpace)
        have hhead := List.head?_dropWhile_not isSpace t
        rw [← htail, show (t.dropWhile isSpace).rdropWhile isSpace = c :: rest from ht] at hhead
        have hc : isSpace c = false := by simpa using hhead
        simp [hc]
  show ((strip t).dropWhile isSpace).rdropWhile isSpace = strip t
  rw [hdrop]
  exact List.rdropWhile_idempotent isSpace (t.dropWhile isSpace)

/-- A stripped text that is a single word has no white space in it. -/
lemma solid_of_length_split {t : Text} (h : (split (strip t)).length = 1) : Solid (strip t) := by
  intro c hc
  by_contra hspace
  simp only [Bool.not_eq_false] at hspace
  obtain ⟨a, b, hab⟩ := List.append_of_mem hc
  obtain ⟨⟨x, hx, hxs⟩, y, hy, hys⟩ := strip_ends hab hspace
  have hsplit : split (strip t) = split a ++ split b := by
    rw [hab, split, List.splitOnP_append_cons _ _ hspace, List.filter_append]
    rfl
  obtain ⟨v, hv, -⟩ := exists_mem_split hx hxs
  obtain ⟨w, hw, -⟩ := exists_mem_split hy hys
  have := List.length_pos_of_mem hv
  have := List.length_pos_of_mem hw
  rw [hsplit, List.length_append] at h
  omega

/-! ## The Unicode tables -/

/-- The Unicode tables behind `str.lower`, `str.upper`, `str.isdigit`, `str.isalnum` and the
`idna` codec, with what a caller may rely on: the ASCII rows are the ASCII ones, and the codec
carries the punctuation `,`, `(` and `)` of a label into its encoding (name preparation neither
removes nor composes it), and lowering a text brings in neither that punctuation nor white
space. -/
structure Unicode where
  lower : Text → Text
  upper : Text → Text
  isDigit : Char → Bool
  isAlnum : Char → Bool
  /-- `label.encode("idna").decode("ascii")`; `none` is the `UnicodeError`. -/
  idnaEncode : Text → Option Text
  lower_ascii : ∀ t, IsAscii t → lower t = t.map Char.toLower
  upper_ascii : ∀ t, IsAscii t → upper t = t.map Char.toUpper
  isDigit_ascii : ∀ c : Char, c.toNat < 128 → isDigit c = c.isDigit
  isAlnum_ascii : ∀ c : Char, c.toNat < 128 → isAlnum c = c.isAlphanum
  idnaEncode_ascii : ∀ t, IsAscii t → idnaEncode t = if t.length < 64 then some t else none
  idnaEncode_keeps : ∀ t e, idnaEncode t = some e → ∀ c ∈ t, c ∈ [',', '(', ')'] → c ∈ e
  lower_punct : ∀ t, ∀ c ∈ lower t, c ∈ [',', '(', ')'] ∨ isSpace c → c ∈ t

/-- The characters `Char.toLower` changes are capitals, and it turns them into small letters. -/
lemma toLower_of_special {c : Char}
    (h : c.toLower ∈ [',', '(', ')'] ∨ isSpace c.toLower) : c.toLower = c := by
  by_contra hne
  have hup : c.isUpper := by
    by_contra hc
    exact hne (Char.toLower_eq_of_not_isUpper (by simpa using hc))
  have hcode : 97 ≤ c.toLower.toNat ∧ c.toLower.toNat ≤ 122 := by
    have hlow : c.toLower.isLower := by
      rw [Char.isLower_toLower_eq_isAlpha, Char.isAlpha, hup, Bool.true_or]
    simpa [Char.isLower, UInt32.le_iff_toNat_le] using hlow
  rcases h with h | h
  · simp only [List.mem_cons, List.not_mem_nil, or_false] at h
    rcases h with h | h | h <;> simp [h] at hcode
  · have : ∀ k ∈ spaceCodes, ¬(97 ≤ k ∧ k ≤ 122) := by decide
    exact this _ (by simpa [isSpace] using h) hcode

/-- The tables cut down to ASCII: other characters have no case and no class, and no `idna`
encoding. -/
def Unicode.ascii : Unicode where
  lower t := t.map Char.toLower
  upper t := t.map Char.toUpper
  isDigit := Char.isDigit
  isAlnum := Char.isAlphanum
  idnaEncode t := if IsAscii t ∧ t.length < 64 then some t else none
  lower_ascii _ _ := rfl
  upper_ascii _ _ := rfl
  isDigit_ascii _ _ := rfl
  isAlnum_ascii _ _ := rfl
  idnaEncode_ascii t h := by simp [h]
  idnaEncode_keeps t e h c hc _ := by
    split_ifs at h
    simp only [Option.some.injEq] at h
    exact h ▸ hc
  lower_punct t c hc h := by
    obtain ⟨d, hd, rfl⟩ := List.mem_map.mp hc
    rwa [toLower_of_special h]

/-! ## Numerals -/

/-- `str(n)` for a natural number. -/
def dec (n : Nat) : Text := Nat.toDigits 10 n

/-- `'%x' % n`. -/
def hex (n : Nat) : Text := Nat.toDigits 16 n

/-- `int(s)` on a text of ASCII digits. -/
def decValue (s : Text) : Nat := Nat.ofDigitChars 10 s 0

/-- The value of one hexadecimal digit of either case. -/
def hexDigit (c : Char) : Option Nat :=
  if c.isDigit then some (c.toNat - '0'.toNat)
  else if 'a' ≤ c ∧ c ≤ 'f' then some (c.toNat - 'a'.toNat + 10)
  else if 'A' ≤ c ∧ c ≤ 'F' then some (c.toNat - 'A'.toNat + 10)
  else none

/-- `int(s, 16)` on a text of hexadecimal digits; `none` when a character is not one. -/
def hexValue (s : Text) : Option Nat :=
  s.foldlM (fun acc c => (hexDigit c).map (acc * 16 + ·)) 0

@[simp] lemma decValue_dec (n : Nat) : decValue (dec n) = n := Nat.ofDigitChars_ten_toDigits

lemma dec_ne_nil (n : Nat) : dec n ≠ [] := Nat.toDigits_ne_nil

lemma hex_ne_nil (n : Nat) : hex n ≠ [] := Nat.toDigits_ne_nil

lemma isDigit_of_mem_dec {n : Nat} {c : Char} (h : c ∈ dec n) : c.isDigit :=
  Nat.isDigit_of_mem_toDigits (by norm_num) (by norm_num) h

lemma length_dec_le {n k : Nat} (hk : 0 < k) : (dec n).length ≤ k ↔ n < 10 ^ k :=
  Nat.length_toDigits_le_iff (by norm_num) hk

lemma length_hex_le {n k : Nat} (hk : 0 < k) : (hex n).length ≤ k ↔ n < 16 ^ k :=
  Nat.length_toDigits_le_iff (by norm_num) hk

lemma hexDigit_digitChar : ∀ d < 16, hexDigit (Nat.digitChar d) = some d := by decide

/-- A printed digit is none of the separators of an address. -/
lemma digitChar_not_sep : ∀ d < 16, Nat.digitChar d ∉ [':', '.', '/', '%', ',', ' '] := by decide

lemma isSpace_digitChar : ∀ d < 16, isSpace (Nat.digitChar d) = false := by decide

/-- Every character of a printed hexadecimal numeral is a digit below sixteen. -/
lemma mem_hex {n : Nat} {c : Char} (h : c ∈ hex n) : ∃ d < 16, c = Nat.digitChar d := by
  induction n using Nat.strong_induction_on with
  | _ n ih =>
      rw [hex, Nat.toDigits_eq_if (by norm_num)] at h
      split_ifs at h with hn
      · exact ⟨n, hn, by simpa using h⟩
      · rcases List.mem_append.mp h with h | h
        · exact ih (n / 16) (by omega) h
        · exact ⟨n % 16, Nat.mod_lt _ (by norm_num), by simpa using h⟩

lemma hexValue_hex (n : Nat) : hexValue (hex n) = some n := by
  induction n using Nat.strong_induction_on with
  | _ n ih =>
      rw [hex, Nat.toDigits_eq_if (by norm_num)]
      split_ifs with hn
      · simp [hexValue, hexDigit_digitChar n hn]
      · have ih' : hexValue (Nat.toDigits 16 (n / 16)) = some (n / 16) := ih (n / 16) (by omega)
        rw [hexValue] at ih' ⊢
        rw [List.foldlM_append, ih']
        simp [hexDigit_digitChar (n % 16) (Nat.mod_lt _ (by norm_num))]
        omega

/-- The only numeral that starts with a zero is `0`. -/
lemma head_dec_ne_zero {n : Nat} (hn : 0 < n) : (dec n).head? ≠ some '0' := by
  induction n using Nat.strong_induction_on with
  | _ n ih =>
      rw [dec, Nat.toDigits_eq_if (by norm_num)]
      split_ifs with h10
      · have : ∀ d < 10, 0 < d → Nat.digitChar d ≠ '0' := by decide
        simpa using this n h10 hn
      · have ih' := ih (n / 10) (by omega) (by omega)
        rw [List.head?_append_of_ne_nil _ Nat.toDigits_ne_nil]
        exact ih'

end Py
