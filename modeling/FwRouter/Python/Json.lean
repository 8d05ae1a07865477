import FwRouter.Library.PrefixCode
import FwRouter.Python.Text

/-!
# JSON texts of rows

`json.dumps` of rows of a table with `ensure_ascii=False` and compact separators.  A cell is a text,
a null or a flag; a row is a list of cells.  What is written can be read in one way: texts because
of the escapes, lists because of the brackets.
-/

namespace Py.Json

open PrefixCode

/-- The escape of a character in a text. -/
def escapeChar (c : Char) : Text :=
  if c = '"' then ['\\', '"']
  else if c = '\\' then ['\\', '\\']
  else if c = '\n' then ['\\', 'n']
  else if c = '\r' then ['\\', 'r']
  else if c = '\t' then ['\\', 't']
  else if c = '\x0c' then ['\\', 'f']
  else if c = '\x08' then ['\\', 'b']
  else if c.toNat < 32 then
    ['\\', 'u', '0', '0', Nat.digitChar (c.toNat / 16), Nat.digitChar (c.toNat % 16)]
  else [c]

/-- The character that an escape stands for, and what follows it. -/
def unescapeChar : Text → Option (Char × Text)
  | '\\' :: 'u' :: '0' :: '0' :: high :: low :: rest =>
      some (Char.ofNat (hexValue [high, low] |>.getD 0), rest)
  | '\\' :: '"' :: rest => some ('"', rest)
  | '\\' :: '\\' :: rest => some ('\\', rest)
  | '\\' :: 'n' :: rest => some ('\n', rest)
  | '\\' :: 'r' :: rest => some ('\r', rest)
  | '\\' :: 't' :: rest => some ('\t', rest)
  | '\\' :: 'f' :: rest => some ('\x0c', rest)
  | '\\' :: 'b' :: rest => some ('\x08', rest)
  | c :: rest => some (c, rest)
  | [] => none

lemma unescape_control : ∀ n < 32,
    (hexValue [Nat.digitChar (n / 16), Nat.digitChar (n % 16)]).getD 0 = n := by decide

lemma unescapeChar_escapeChar (c : Char) (rest : Text) :
    unescapeChar (escapeChar c ++ rest) = some (c, rest) := by
  rw [escapeChar]
  split_ifs with h₁ h₂ h₃ h₄ h₅ h₆ h₇ h₈
  · subst h₁; rfl
  · subst h₂; rfl
  · subst h₃; rfl
  · subst h₄; rfl
  · subst h₅; rfl
  · subst h₆; rfl
  · subst h₇; rfl
  · simp only [List.cons_append, List.nil_append, unescapeChar, unescape_control _ h₈,
      Char.ofNat_toNat]
  · simp only [List.cons_append, List.nil_append]
    unfold unescapeChar
    split <;> simp_all

lemma escapeChar_isPrefixCode : IsPrefixCode escapeChar :=
  .of_decode unescapeChar unescapeChar_escapeChar

lemma escapeChar_ne_quote (c : Char) (x y : Text) : escapeChar c ++ x ≠ '"' :: y := by
  rw [escapeChar]
  split_ifs <;> simp_all

/-- `json.dumps` of a text. -/
def stringText (s : Text) : Text := '"' :: terminated escapeChar '"' s

lemma stringText_isPrefixCode : IsPrefixCode stringText :=
  (escapeChar_isPrefixCode.terminated escapeChar_ne_quote).const_append ['"']

/-- A value of a column: a text, `NULL` or 0 and 1. -/
inductive Cell
  | null
  | text (s : Text)
  | flag (b : Bool)
  deriving DecidableEq

def Cell.ofOption : Option Text → Cell
  | none => .null
  | some s => .text s

def cellText : Cell → Text
  | .null => ['n', 'u', 'l', 'l']
  | .text s => stringText s
  | .flag true => ['1']
  | .flag false => ['0']

lemma cellText_isPrefixCode : IsPrefixCode cellText := by
  rintro (_ | s | b) (_ | s' | b') x y heq
  · exact ⟨rfl, List.append_cancel_left heq⟩
  · exact absurd (List.cons.inj heq).1 (by decide)
  · cases b' <;> exact absurd (List.cons.inj heq).1 (by decide)
  · exact absurd (List.cons.inj heq).1 (by decide)
  · obtain ⟨rfl, hxy⟩ := stringText_isPrefixCode heq
    exact ⟨rfl, hxy⟩
  · cases b' <;> exact absurd (List.cons.inj heq).1 (by decide)
  · cases b <;> exact absurd (List.cons.inj heq).1 (by decide)
  · cases b <;> exact absurd (List.cons.inj heq).1 (by decide)
  · cases b <;> cases b'
    · exact ⟨rfl, (List.cons.inj heq).2⟩
    · exact absurd (List.cons.inj heq).1 (by decide)
    · exact absurd (List.cons.inj heq).1 (by decide)
    · exact ⟨rfl, (List.cons.inj heq).2⟩

lemma cellText_ne_closing (cell : Cell) (x y : Text) : cellText cell ++ x ≠ ']' :: y := by
  intro heq
  rcases cell with _ | s | b
  · exact absurd (List.cons.inj heq).1 (by decide)
  · exact absurd (List.cons.inj heq).1 (by decide)
  · cases b <;> exact absurd (List.cons.inj heq).1 (by decide)

def rowText (row : List Cell) : Text := bracketed cellText '[' ',' ']' row

lemma rowText_isPrefixCode : IsPrefixCode rowText :=
  cellText_isPrefixCode.bracketed (by decide) cellText_ne_closing

def rowsText (rows : List (List Cell)) : Text := bracketed rowText '[' ',' ']' rows

lemma rowsText_isPrefixCode : IsPrefixCode rowsText := by
  refine rowText_isPrefixCode.bracketed (by decide) ?_
  rintro (_ | ⟨cell, row⟩) x y heq
  · exact absurd (List.cons.inj heq).1 (by decide)
  · exact absurd (List.cons.inj heq).1 (by decide)

example : rowsText [[.text "a\"b".toList, .null, .flag true]] = "[[\"a\\\"b\",null,1]]".toList := rfl

end Py.Json
