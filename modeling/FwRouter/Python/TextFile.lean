import FwRouter.Python.Text

/-!
# Text files

`Path.read_text(encoding="utf-8")` opens the file in text mode, which replaces every end of line by
`\n`; `atomic_write_text` writes the text as it stands.  A file is written back with its own bytes if
it is UTF-8 and holds no carriage return (`rewritten_of_noCarriageReturn`).
-/

namespace Py

/-- Universal newlines. -/
def universalNewlines : Text → Text
  | [] => []
  | '\r' :: '\n' :: t => '\n' :: universalNewlines t
  | c :: t => (if c = '\r' then '\n' else c) :: universalNewlines t

/-- `raw.decode("utf-8")`. -/
def decodeBytes (raw : ByteArray) : Option Text := raw.utf8Decode?.map (·.toList)

/-- `Path.read_text(encoding="utf-8")`; `none` is a `UnicodeDecodeError`. -/
def readText (raw : ByteArray) : Option Text := (decodeBytes raw).map universalNewlines

/-- The bytes that `atomic_write_text` leaves. -/
def writeText (t : Text) : ByteArray := (t.flatMap String.utf8EncodeChar).toByteArray

lemma writeText_eq (t : Text) : writeText t = t.utf8Encode := rfl

lemma writeText_of_decodeBytes {raw : ByteArray} {t : Text} (h : decodeBytes raw = some t) :
    writeText t = raw := by
  rcases Option.map_eq_some_iff.mp h with ⟨chars, hchars, rfl⟩
  have hsome : raw.utf8Decode?.isSome = true := by
    rw [hchars]
    rfl
  have hget : raw.utf8Decode?.get hsome = chars := by
    simp only [hchars, Option.get_some]
  rw [writeText_eq, ← hget]
  exact ByteArray.utf8Encode_get_utf8Decode?

lemma universalNewlines_eq_self {t : Text} (h : '\r' ∉ t) : universalNewlines t = t := by
  induction t using universalNewlines.induct with
  | case1 => rfl
  | case2 t ih => exact absurd List.mem_cons_self h
  | case3 c t hpair ih =>
      have hc : c ≠ '\r' := fun heq => h (heq ▸ List.mem_cons_self)
      rw [universalNewlines.eq_3 c t hpair, if_neg hc, ih fun ht => h (List.mem_cons_of_mem c ht)]

/-- The file is UTF-8 and holds no carriage return. -/
def NoCarriageReturn (raw : ByteArray) : Prop := ∀ t ∈ decodeBytes raw, '\r' ∉ t

/-- **Read and written back, a file without carriage returns keeps its bytes.** -/
lemma rewritten_of_noCarriageReturn {raw : ByteArray} {t : Text} (hdecode : decodeBytes raw = some t)
    (h : NoCarriageReturn raw) : (readText raw).map writeText = some raw := by
  rw [readText, hdecode, Option.map_some, universalNewlines_eq_self (h t hdecode), Option.map_some,
    writeText_of_decodeBytes hdecode]

end Py
