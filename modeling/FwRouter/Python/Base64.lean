import FwRouter.Python.Text

/-!
# Base64

`base64.b64encode` and `base64.b64decode` with `validate=True`, three bytes to four characters.  The
decoder does not look at the bits that padding leaves over: a reader who wants the canonical text
encodes again and compares.
-/

namespace Py.Base64

def alphabet : Text := "ABCDEFGHIJKLMNOPQRSTUVWXYZabcdefghijklmnopqrstuvwxyz0123456789+/".toList

/-- The character of a group of six bits. -/
def digit (n : ℕ) : Char := alphabet.getD n 'A'

/-- The six bits of a character. -/
def digitValue (c : Char) : Option ℕ := if c ∈ alphabet then some (alphabet.idxOf c) else none

/-- `base64.b64encode`. -/
def b64encode : List UInt8 → Text
  | a :: b :: c :: rest =>
      let n := a.toNat * 65536 + b.toNat * 256 + c.toNat
      digit (n / 262144) :: digit (n / 4096 % 64) :: digit (n / 64 % 64) :: digit (n % 64) ::
        b64encode rest
  | [a, b] =>
      let n := (a.toNat * 256 + b.toNat) * 4
      [digit (n / 4096), digit (n / 64 % 64), digit (n % 64), '=']
  | [a] =>
      let n := a.toNat * 16
      [digit (n / 64), digit (n % 64), '=', '=']
  | [] => []

/-- `base64.b64decode` with `validate=True`. -/
def b64decode : Text → Option (List UInt8)
  | [] => some []
  | [w, x, '=', '='] => do
      let n := (← digitValue w) * 64 + (← digitValue x)
      return [UInt8.ofNat (n / 16)]
  | [w, x, y, '='] => do
      let n := (← digitValue w) * 4096 + (← digitValue x) * 64 + (← digitValue y)
      return [UInt8.ofNat (n / 1024), UInt8.ofNat (n / 4 % 256)]
  | w :: x :: y :: z :: rest => do
      let n := (← digitValue w) * 262144 + (← digitValue x) * 4096 + (← digitValue y) * 64 +
        (← digitValue z)
      return UInt8.ofNat (n / 65536) :: UInt8.ofNat (n / 256 % 256) :: UInt8.ofNat (n % 256) ::
        (← b64decode rest)
  | _ => none

lemma digitValue_digit : ∀ n < 64, digitValue (digit n) = some n := by decide +kernel

lemma digit_mem : ∀ n < 64, digit n ∈ alphabet := by decide +kernel

lemma digit_ne_pad : ∀ n < 64, digit n ≠ '=' := by decide +kernel

section Groups

variable {w x y z : ℕ}

lemma decode_four (hw : w < 64) (hx : x < 64) (hy : y < 64) (hz : z < 64) (rest : Text) :
    b64decode (digit w :: digit x :: digit y :: digit z :: rest) =
      (b64decode rest).map fun bytes =>
        UInt8.ofNat ((w * 262144 + x * 4096 + y * 64 + z) / 65536) ::
          UInt8.ofNat ((w * 262144 + x * 4096 + y * 64 + z) / 256 % 256) ::
            UInt8.ofNat ((w * 262144 + x * 4096 + y * 64 + z) % 256) :: bytes := by
  have hpad := digit_ne_pad z hz
  rw [b64decode.eq_4 _ _ _ _ _ (fun _ h => absurd h hpad) (fun h => absurd h hpad)]
  simp only [digitValue_digit w hw, digitValue_digit x hx, digitValue_digit y hy,
    digitValue_digit z hz, Option.bind_eq_bind, Option.bind_some]
  cases b64decode rest <;> rfl

lemma decode_three (hw : w < 64) (hx : x < 64) (hy : y < 64) :
    b64decode [digit w, digit x, digit y, '='] =
      some [UInt8.ofNat ((w * 4096 + x * 64 + y) / 1024),
        UInt8.ofNat ((w * 4096 + x * 64 + y) / 4 % 256)] := by
  have hpad := digit_ne_pad y hy
  rw [b64decode.eq_3 _ _ _ (fun h => absurd h hpad)]
  simp only [digitValue_digit w hw, digitValue_digit x hx, digitValue_digit y hy,
    Option.bind_eq_bind, Option.bind_some, Option.pure_def]

lemma decode_two (hw : w < 64) (hx : x < 64) :
    b64decode [digit w, digit x, '=', '='] = some [UInt8.ofNat ((w * 64 + x) / 16)] := by
  rw [b64decode]
  simp only [digitValue_digit w hw, digitValue_digit x hx, Option.bind_eq_bind, Option.bind_some,
    Option.pure_def]

end Groups

lemma ofNat_eq {a : UInt8} {n : ℕ} (h : n = a.toNat) : UInt8.ofNat n = a := by
  rw [h, UInt8.ofNat_toNat]

/-- Decoding inverts encoding. -/
theorem b64decode_b64encode (bytes : List UInt8) : b64decode (b64encode bytes) = some bytes := by
  induction bytes using b64encode.induct with
  | case1 a b c rest ih =>
      have ha := a.toNat_lt
      have hb := b.toNat_lt
      have hc := c.toNat_lt
      rw [b64encode, decode_four (by omega) (by omega) (by omega) (by omega), ih, Option.map_some,
        ofNat_eq (a := a) (by omega), ofNat_eq (a := b) (by omega), ofNat_eq (a := c) (by omega)]
  | case2 a b =>
      have ha := a.toNat_lt
      have hb := b.toNat_lt
      rw [b64encode, decode_three (by omega) (by omega) (by omega), ofNat_eq (a := a) (by omega),
        ofNat_eq (a := b) (by omega)]
  | case3 a =>
      have ha := a.toNat_lt
      rw [b64encode, decode_two (by omega) (by omega), ofNat_eq (a := a) (by omega)]
  | case4 => rfl

/-- Four characters for every three bytes, the last group filled up. -/
lemma length_b64encode (bytes : List UInt8) :
    (b64encode bytes).length = 4 * ((bytes.length + 2) / 3) := by
  induction bytes using b64encode.induct with
  | case1 a b c rest ih =>
      rw [b64encode]
      simp only [List.length_cons, ih]
      omega
  | case2 a b =>
      rw [b64encode]
      simp
  | case3 a =>
      rw [b64encode]
      simp
  | case4 => rfl

/-- The encoded text has letters, digits, `+`, `/` and `=` only. -/
lemma mem_b64encode {bytes : List UInt8} {c : Char} (h : c ∈ b64encode bytes) :
    c ∈ alphabet ∨ c = '=' := by
  have hdigit : ∀ n, digit n ∈ alphabet := by
    intro n
    by_cases hn : n < 64
    · exact digit_mem n hn
    · rw [digit, List.getD_eq_default _ _ (not_lt.mp hn)]
      decide
  induction bytes using b64encode.induct with
  | case1 a b d rest ih =>
      rw [b64encode] at h
      simp only [List.mem_cons] at h
      rcases h with rfl | rfl | rfl | rfl | h
      · exact Or.inl (hdigit _)
      · exact Or.inl (hdigit _)
      · exact Or.inl (hdigit _)
      · exact Or.inl (hdigit _)
      · exact ih h
  | case2 a b =>
      rw [b64encode] at h
      simp only [List.mem_cons, List.not_mem_nil, or_false] at h
      rcases h with rfl | rfl | rfl | rfl
      · exact Or.inl (hdigit _)
      · exact Or.inl (hdigit _)
      · exact Or.inl (hdigit _)
      · exact Or.inr rfl
  | case3 a =>
      rw [b64encode] at h
      simp only [List.mem_cons, List.not_mem_nil, or_false] at h
      rcases h with rfl | rfl | rfl | rfl
      · exact Or.inl (hdigit _)
      · exact Or.inl (hdigit _)
      · exact Or.inr rfl
      · exact Or.inr rfl
  | case4 => exact absurd h List.not_mem_nil

end Py.Base64
