import FwRouter.Python.Base64
import FwRouter.Python.JsonDocument

/-!
# A JSON document as a token

`base64.urlsafe_b64encode` of the ASCII text of a document, without the padding, and the reader that
puts the padding back.  `decodeToken_encodeToken` is the round trip.
-/

namespace Py

open Base64 Json PrefixCode

/-! ## Bytes -/

/-- `str.encode("ascii")` of a text that is ASCII. -/
def asciiBytes (t : Text) : List UInt8 := t.map fun c => UInt8.ofNat c.toNat

/-- `bytes.decode("ascii")`. -/
def decodeAscii (raw : List UInt8) : Option Text :=
  if raw.all (fun b => decide (b.toNat < 128)) then some (raw.map fun b => Char.ofNat b.toNat) else none

lemma toNat_ofNat {c : Char} (h : c.toNat < 128) : (UInt8.ofNat c.toNat).toNat = c.toNat :=
  UInt8.toNat_ofNat_of_lt' (h.trans (by decide))

lemma decodeAscii_asciiBytes {t : Text} (h : IsAscii t) : decodeAscii (asciiBytes t) = some t := by
  have hall : (asciiBytes t).all (fun b => decide (b.toNat < 128)) = true := by
    refine List.all_eq_true.mpr ?_
    intro b hb
    obtain ⟨c, hc, rfl⟩ := List.mem_map.mp hb
    simpa [toNat_ofNat (h c hc)] using h c hc
  have hmap : (asciiBytes t).map (fun b => Char.ofNat b.toNat) = t := by
    rw [asciiBytes, List.map_map]
    refine (List.map_congr_left ?_).trans (List.map_id t)
    intro c hc
    rw [Function.comp_apply, toNat_ofNat (h c hc), Char.ofNat_toNat, id]
  rw [decodeAscii, if_pos hall, hmap]

/-! ## Padding -/

/-- `t.rstrip("=")`. -/
def withoutPadding (t : Text) : Text := t.rdropWhile fun c => decide (c = '=')

/-- `t + "=" * (-len(t) % 4)`. -/
def withPadding (t : Text) : Text := t ++ List.replicate ((4 - t.length % 4) % 4) '='

lemma withoutPadding_append {t : Text} (h : '=' ∉ t) (k : ℕ) :
    withoutPadding (t ++ List.replicate k '=') = t := by
  induction k with
  | zero =>
      rw [List.replicate_zero, List.append_nil, withoutPadding, List.rdropWhile_eq_self_iff]
      intro hne
      have hlast : t.getLast hne ≠ '=' := fun heq => h (heq ▸ List.getLast_mem hne)
      simpa using hlast
  | succ k ih =>
      rw [List.replicate_succ', ← List.append_assoc, withoutPadding,
        List.rdropWhile_concat_pos _ _ _ (by simp)]
      exact ih

lemma withPadding_withoutPadding {t : Text} (h : '=' ∉ t) {k : ℕ} (hk : k < 4)
    (hlength : (t.length + k) % 4 = 0) :
    withPadding (withoutPadding (t ++ List.replicate k '=')) = t ++ List.replicate k '=' := by
  rw [withoutPadding_append h, withPadding]
  congr 2
  omega

/-! ## Base64 for URLs -/

/-- `-` and `_` for `+` and `/`. -/
def toUrl (c : Char) : Char := if c = '+' then '-' else if c = '/' then '_' else c

def fromUrl (c : Char) : Char := if c = '-' then '+' else if c = '_' then '/' else c

/-- `base64.urlsafe_b64encode`. -/
def urlsafeB64encode (raw : List UInt8) : Text := (b64encode raw).map toUrl

/-- `base64.urlsafe_b64decode` of a padded text of letters, digits, `-` and `_`. -/
def urlsafeB64decode (t : Text) : Option (List UInt8) := b64decode (t.map fromUrl)

lemma alphabet_url : (alphabet.all fun c => fromUrl (toUrl c) == c && toUrl c != '=') = true := by
  decide

lemma fromUrl_toUrl {c : Char} (h : c ∈ alphabet) : fromUrl (toUrl c) = c ∧ toUrl c ≠ '=' := by
  have hall := List.all_eq_true.mp alphabet_url c h
  simpa using hall

/-- The code of a byte string ends in at most two `=`. -/
lemma b64encode_eq_append (raw : List UInt8) : ∃ body k, b64encode raw = body ++ List.replicate k '=' ∧
    (∀ c ∈ body, c ∈ alphabet) ∧ k < 4 ∧ (body.length + k) % 4 = 0 := by
  have hmem : ∀ n, digit n ∈ alphabet := by
    intro n
    by_cases hn : n < 64
    · exact digit_mem n hn
    · rw [digit, List.getD_eq_default _ _ (not_lt.mp hn)]
      decide
  induction raw using b64encode.induct with
  | case1 a b c rest ih =>
      obtain ⟨body, k, hbody, hchars, hk, hlength⟩ := ih
      rw [b64encode, hbody]
      refine ⟨_ :: _ :: _ :: _ :: body, k, rfl, ?_, hk, ?_⟩
      · intro c hc
        simp only [List.mem_cons] at hc
        rcases hc with rfl | rfl | rfl | rfl | hc
        · exact hmem _
        · exact hmem _
        · exact hmem _
        · exact hmem _
        · exact hchars c hc
      · simp only [List.length_cons]
        omega
  | case2 a b =>
      rw [b64encode]
      refine ⟨[_, _, _], 1, rfl, ?_, by decide, by simp⟩
      intro c hc
      simp only [List.mem_cons, List.not_mem_nil, or_false] at hc
      rcases hc with rfl | rfl | rfl
      · exact hmem _
      · exact hmem _
      · exact hmem _
  | case3 a =>
      rw [b64encode]
      refine ⟨[_, _], 2, rfl, ?_, by decide, by simp⟩
      intro c hc
      simp only [List.mem_cons, List.not_mem_nil, or_false] at hc
      rcases hc with rfl | rfl
      · exact hmem _
      · exact hmem _
  | case4 => exact ⟨[], 0, rfl, by simp, by decide, rfl⟩

/-! ## Tokens -/

/-- The token of a document. -/
def encodeToken (v : Value) : Text := withoutPadding (urlsafeB64encode (asciiBytes (dumps compact v)))

/-- The document of a token, if its text is not too long. -/
def decodeToken (maxBytes : ℕ) (token : Text) : Option Value :=
  (urlsafeB64decode (withPadding token)).bind fun raw =>
    if maxBytes < raw.length then none else (decodeAscii raw).bind loads

/-- What is left of the code of a byte string, and how it is read back. -/
lemma exists_token (raw : List UInt8) : ∃ body : Text,
    withoutPadding (urlsafeB64encode raw) = body.map toUrl ∧ (∀ c ∈ body, c ∈ alphabet) ∧
    body.length ≤ 4 * ((raw.length + 2) / 3) ∧
    urlsafeB64decode (withPadding (withoutPadding (urlsafeB64encode raw))) = some raw := by
  obtain ⟨body, k, hbody, hchars, hk, hlength⟩ := b64encode_eq_append raw
  have hpad : '=' ∉ body.map toUrl := by
    intro hmem
    obtain ⟨c, hc, heq⟩ := List.mem_map.mp hmem
    exact (fromUrl_toUrl (hchars c hc)).2 heq
  have hencode : urlsafeB64encode raw = body.map toUrl ++ List.replicate k '=' := by
    rw [urlsafeB64encode, hbody, List.map_append, List.map_replicate]
    rfl
  have hback : (body.map toUrl).map fromUrl = body := by
    rw [List.map_map]
    exact (List.map_congr_left fun c hc => (fromUrl_toUrl (hchars c hc)).1).trans (List.map_id body)
  refine ⟨body, ?_, hchars, ?_, ?_⟩
  · rw [hencode, withoutPadding_append hpad]
  · rw [← length_b64encode, hbody, List.length_append]
    omega
  · rw [hencode, withPadding_withoutPadding hpad hk (by rwa [List.length_map]), urlsafeB64decode,
      List.map_append, hback, List.map_replicate]
    show b64decode (body ++ List.replicate k '=') = some raw
    rw [← hbody, b64decode_b64encode]

/-- **A token is read back.** -/
theorem decodeToken_encodeToken {v : Value} {maxBytes : ℕ} (hplain : Plain v)
    (hascii : IsAscii (dumps compact v)) (hsize : (dumps compact v).length ≤ maxBytes) :
    decodeToken maxBytes (encodeToken v) = some v := by
  obtain ⟨body, -, -, -, hdecode⟩ := exists_token (asciiBytes (dumps compact v))
  have hloads : loads (dumps compact v) = some v := by
    have hread : loads (dumps compact v ++ []) = some v :=
      loads_dumps hplain (by decide) (by intro c hc; cases hc)
    rwa [List.append_nil] at hread
  have hlength : ¬maxBytes < (asciiBytes (dumps compact v)).length := by
    rw [asciiBytes, List.length_map]
    omega
  rw [decodeToken, encodeToken, hdecode, Option.bind_some, if_neg hlength,
    decodeAscii_asciiBytes hascii, Option.bind_some, hloads]

/-- A token has letters, digits, `-` and `_`, four for three bytes. -/
lemma encodeToken_spec (v : Value) : (∀ c ∈ encodeToken v, ∃ x ∈ alphabet, c = toUrl x) ∧
    (encodeToken v).length ≤ 4 * (((dumps compact v).length + 2) / 3) := by
  obtain ⟨body, hbody, hchars, hlength, -⟩ := exists_token (asciiBytes (dumps compact v))
  rw [encodeToken, hbody]
  refine ⟨?_, ?_⟩
  · intro c hc
    obtain ⟨x, hx, rfl⟩ := List.mem_map.mp hc
    exact ⟨x, hchars x hx, rfl⟩
  · rw [asciiBytes, List.length_map] at hlength
    rwa [List.length_map]

/-! ## Texts that are written as they are -/

/-- Printable ASCII without quotes and backslashes. -/
def isUnescaped (c : Char) : Bool :=
  decide (32 ≤ c.toNat ∧ c.toNat < 127 ∧ c ≠ '"' ∧ c ≠ '\\')

lemma stringText_of_unescaped {t : Text} (h : t.all isUnescaped = true) :
    stringText t = '"' :: (t ++ ['"']) := by
  have hescape : t.flatMap escapeChar = t := by
    refine (List.flatMap_congr ?_).trans (List.flatMap_singleton' t)
    intro c hc
    have hchar := List.all_eq_true.mp h c hc
    simp only [isUnescaped, decide_eq_true_eq] at hchar
    obtain ⟨hlow, -, hquote, hback⟩ := hchar
    have hcontrol : ∀ x : Char, x.toNat < 32 → c ≠ x := by
      rintro x hx rfl
      omega
    rw [escapeChar, if_neg hquote, if_neg hback, if_neg (hcontrol '\n' (by decide)),
      if_neg (hcontrol '\r' (by decide)), if_neg (hcontrol '\t' (by decide)),
      if_neg (hcontrol '\x0c' (by decide)), if_neg (hcontrol '\x08' (by decide)),
      if_neg (by omega)]
  rw [stringText, terminated, hescape]

lemma isAscii_of_unescaped {t : Text} (h : t.all isUnescaped = true) : IsAscii t := by
  intro c hc
  have hchar := List.all_eq_true.mp h c hc
  simp only [isUnescaped, decide_eq_true_eq] at hchar
  omega

end Py
