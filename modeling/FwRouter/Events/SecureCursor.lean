import FwRouter.Events.SecureEvent
import FwRouter.Python.UrlToken

/-!
# Cursors

A cursor names where a page ended: the ceiling of the first page, the row that was the newest then,
the position, and the digest of the filters.  `decodeCursor_encodeCursor` says that a cursor which was
given out is understood, and `decodeCursor_valid` what a cursor is that is accepted.
-/

namespace FwRouter.Events

open Py Json ApiClients

/-! ## Encoding -/

/-- What a cursor holds, beside its version. -/
structure Cursor where
  ceiling : ℕ
  anchor : Text
  anchorCode : Option Text
  anchorTimestamp : Option Text
  last : ℕ
  filters : Text

/-- A text or `None`. -/
def optionalText : Option Text → Value
  | some t => .str t
  | none => .none

def Cursor.json (c : Cursor) : Value :=
  .dict [("anchor".toList, .str c.anchor), ("anchor_code".toList, optionalText c.anchorCode),
    ("anchor_timestamp".toList, optionalText c.anchorTimestamp), ("ceiling".toList, .int c.ceiling),
    ("filters".toList, .str c.filters), ("last".toList, .int c.last), ("v".toList, .int 1)]

/-- `_encode_cursor`. -/
def encodeCursor (c : Cursor) : Text := encodeToken c.json

section Host

variable (H : Host)

/-- `_filter_digest`. -/
def filterDigest (f : Filters) : Text :=
  H.sha256.hexdigest (asciiBytes (dumps compact (.dict [("category".toList, optionalText f.category),
    ("event_code".toList, optionalText f.eventCode), ("since".toList, optionalText f.since)])))

/-! ## Decoding -/

def maxCursorBytes : ℕ := 1536

def maxRawCursorBytes : ℕ := 1024

def isTokenChar (c : Char) : Bool := c.isAlphanum || decide (c = '-' ∨ c = '_')

def validAnchor (anchor : Text) : Bool :=
  decide (anchor = "null".toList ∨ anchor = "empty".toList) ||
    (decide (anchor.take 5 = "uuid:".toList) && canonicalUuid (anchor.drop 5))

def validAnchorCode : Value → Bool
  | .none => true
  | .str code => inCatalog code || decide (code = legacyUnknown)
  | _ => false

def validAnchorTimestamp : Value → Bool
  | .none => true
  | .str t => canonicalTimestamp H t
  | _ => false

/-- `_decode_cursor`. -/
def decodeCursor (f : Filters) (cursor : Text) : Option Cursor :=
  if cursor = [] ∨ maxCursorBytes < utf8Size cursor ∨ cursor.all isTokenChar = false then none
  else
    match decodeToken maxRawCursorBytes cursor with
    | some (.dict [(k₁, .str anchor), (k₂, code), (k₃, timestamp), (k₄, .int ceiling),
        (k₅, .str filters), (k₆, .int last), (k₇, .int v)]) =>
        if [k₁, k₂, k₃, k₄, k₅, k₆, k₇] = ["anchor".toList, "anchor_code".toList,
              "anchor_timestamp".toList, "ceiling".toList, "filters".toList, "last".toList,
              "v".toList] ∧
            v = 1 ∧ 0 ≤ ceiling ∧ ceiling < maxRowid ∧ 0 ≤ last ∧ last ≤ ceiling + 1 ∧
            anchor.length ≤ 42 ∧ validAnchorCode code ∧ validAnchorTimestamp H timestamp ∧
            filters = filterDigest H f ∧ validAnchor anchor then
          some ⟨ceiling.toNat, anchor, code.asText, timestamp.asText, last.toNat, filters⟩
        else none
    | _ => none

/-- A cursor that may be given out. -/
structure Cursor.Valid (f : Filters) (c : Cursor) : Prop where
  ceiling : c.ceiling < maxRowid
  last : c.last ≤ c.ceiling + 1
  anchor : validAnchor c.anchor = true
  anchorCode : ∀ code ∈ c.anchorCode, inCatalog code = true ∨ code = legacyUnknown
  anchorTimestamp : ∀ t ∈ c.anchorTimestamp, canonicalTimestamp H t = true
  filters : c.filters = filterDigest H f

lemma eq_str_of_asText {v : Value} {t : Text} (h : v.asText = some t) : v = .str t := by
  cases v with
  | str s => rw [Option.some.inj h]
  | _ => cases h

/-- What is accepted is valid. -/
theorem decodeCursor_valid {f : Filters} {cursor : Text} {c : Cursor}
    (h : decodeCursor H f cursor = some c) : c.Valid H f := by
  unfold decodeCursor at h
  split_ifs at h
  split at h
  · rename_i k₁ anchor k₂ code k₃ timestamp k₄ ceiling k₅ filters k₆ last k₇ v _
    rw [Option.ite_none_right_eq_some] at h
    obtain ⟨⟨-, -, hceiling, hmax, hlast, hle, -, hcode, htimestamp, hfilters, hanchor⟩, heq⟩ := h
    obtain rfl := Option.some.inj heq
    refine ⟨?_, ?_, hanchor, ?_, ?_, hfilters⟩
    · show ceiling.toNat < maxRowid
      omega
    · show last.toNat ≤ ceiling.toNat + 1
      omega
    · intro t ht
      rw [eq_str_of_asText ht] at hcode
      simpa [validAnchorCode] using hcode
    · intro t ht
      rw [eq_str_of_asText ht] at htimestamp
      exact htimestamp
  · cases h

/-! ## The round trip -/

/-- A text that is written into a cursor as it is. -/
structure Short (n : ℕ) (t : Text) : Prop where
  unescaped : t.all isUnescaped = true
  length : t.length ≤ n

lemma isUnescaped_of_range {c : Char} (h : 48 ≤ c.toNat ∧ c.toNat ≤ 57 ∨ 97 ≤ c.toNat ∧ c.toNat ≤ 102) :
    isUnescaped c = true := by
  refine decide_eq_true ⟨by omega, by omega, ?_, ?_⟩
  · rintro rfl
    revert h
    decide
  · rintro rfl
    revert h
    decide

lemma isUnescaped_of_fits {s c : Char} (hs : isUnescaped s = true) (h : fits s c = true) :
    isUnescaped c = true := by
  have hdigit : ∀ {c : Char}, c.isDigit = true → 48 ≤ c.toNat ∧ c.toNat ≤ 57 := by
    intro c hc
    simpa [Char.isDigit, UInt32.le_iff_toNat_le] using hc
  unfold fits at h
  split_ifs at h
  · rw [Bool.or_eq_true, Bool.and_eq_true, decide_eq_true_eq, decide_eq_true_eq] at h
    rcases h with h | ⟨hlow, hhigh⟩
    · exact isUnescaped_of_range (Or.inl (hdigit h))
    · exact isUnescaped_of_range (Or.inr ⟨hlow, hhigh⟩)
  · exact isUnescaped_of_range (Or.inl (hdigit h))
  · rwa [of_decide_eq_true h]

/-- A shape says how long a text is, and which characters it has. -/
lemma short_of_shaped {shape t : Text} (hshape : shape.all isUnescaped = true)
    (h : shaped shape t = true) : Short shape.length t := by
  rw [shaped, Bool.and_eq_true, decide_eq_true_eq] at h
  obtain ⟨hlength, hfits⟩ := h
  refine ⟨List.all_eq_true.mpr ?_, hlength.le⟩
  intro c hc
  rw [← List.map_snd_zip hlength.le] at hc
  obtain ⟨⟨s, c⟩, hp, rfl⟩ := List.mem_map.mp hc
  exact isUnescaped_of_fits (List.all_eq_true.mp hshape s (List.of_mem_zip hp).1)
    (List.all_eq_true.mp hfits _ hp)

lemma short_canonicalUuid {t : Text} (h : canonicalUuid t = true) : Short 36 t :=
  short_of_shaped (by decide) h

lemma short_canonicalTimestamp {t : Text} (h : canonicalTimestamp H t = true) : Short 19 t :=
  short_of_shaped (by decide) (Bool.and_eq_true_iff.mp h).1

lemma short_validAnchor {t : Text} (h : validAnchor t = true) : Short 41 t := by
  simp only [validAnchor, Bool.or_eq_true, Bool.and_eq_true, decide_eq_true_eq] at h
  rcases h with (rfl | rfl) | ⟨htake, hdrop⟩
  · exact ⟨by decide, by decide⟩
  · exact ⟨by decide, by decide⟩
  · obtain ⟨hunescaped, hlength⟩ := short_canonicalUuid hdrop
    rw [← List.take_append_drop 5 t, htake]
    refine ⟨?_, ?_⟩
    · rw [List.all_append, hunescaped, Bool.and_true]
      decide
    · rw [List.length_append]
      exact Nat.add_le_add_left hlength 5

lemma short_ofList (t : Text) (h : (t.all isUnescaped && decide (t.length ≤ 48)) = true) :
    Short 48 (String.ofList t).toList := by
  rw [Bool.and_eq_true, decide_eq_true_eq] at h
  rw [String.toList_ofList]
  exact ⟨h.1, h.2⟩

lemma short_catalog : ∀ p ∈ coreEventCodeCatalog, Short 48 p.1 := by
  unfold coreEventCodeCatalog
  simp only [List.forall_mem_map, List.forall_mem_cons]
  -- one code after the other; to evaluate `toList` of all of them is slow
  repeat apply And.intro (short_ofList _ rfl)
  intro p hp
  exact absurd hp List.not_mem_nil

lemma short_inCatalog {code : Text} (h : inCatalog code = true ∨ code = legacyUnknown) :
    Short 48 code := by
  rcases h with h | rfl
  · obtain ⟨category, hlookup⟩ := Option.isSome_iff_exists.mp h
    obtain ⟨before, after, heq, -⟩ := List.lookup_eq_some_iff.mp hlookup
    have hmem : (code, category) ∈ coreEventCodeCatalog := by
      rw [heq]
      simp
    exact short_catalog _ hmem
  · exact ⟨by decide, by decide⟩

lemma short_filterDigest (f : Filters) : Short 64 (filterDigest H f) := by
  refine ⟨List.all_eq_true.mpr ?_, (H.sha256.length_hexdigest _).le⟩
  intro c hc
  have hall : ("0123456789abcdef".toList.all isUnescaped) = true := by decide
  exact List.all_eq_true.mp hall c (H.sha256.hexadecimal _ c hc)

/-- The text of a value: ASCII, and not long. -/
def Written (n : ℕ) (t : Text) : Prop := IsAscii t ∧ t.length ≤ n

lemma Written.append {m n : ℕ} {s t : Text} (hs : Written m s) (ht : Written n t) :
    Written (m + n) (s ++ t) := by
  refine ⟨?_, ?_⟩
  · intro c hc
    rcases List.mem_append.mp hc with hc | hc
    · exact hs.1 c hc
    · exact ht.1 c hc
  · rw [List.length_append]
    exact Nat.add_le_add hs.2 ht.2

lemma written_of_unescaped {t : Text} (h : t.all isUnescaped = true) : Written t.length t :=
  ⟨isAscii_of_unescaped h, le_rfl⟩

lemma Short.written {n : ℕ} {t : Text} (h : Short n t) : Written (1 + (n + 1)) (stringText t) := by
  have hquote : Written 1 ['"'] := by
    refine ⟨?_, le_rfl⟩
    intro c hc
    rw [List.mem_singleton.mp hc]
    decide
  rw [stringText_of_unescaped h.unescaped]
  exact hquote.append (Written.append ⟨isAscii_of_unescaped h.unescaped, h.length⟩ hquote)

lemma written_optionalText {n : ℕ} {o : Option Text} (h : ∀ t ∈ o, Short n t) :
    Written (n + 4) (dumps compact (optionalText o)) := by
  cases o with
  | none =>
      obtain ⟨hascii, hlength⟩ := written_of_unescaped (t := "null".toList) (by decide)
      exact ⟨hascii, hlength.trans (Nat.le_add_left 4 n)⟩
  | some t =>
      obtain ⟨hascii, hlength⟩ := (h t rfl).written
      exact ⟨hascii, hlength.trans (by omega)⟩

lemma written_rowid {n : ℕ} (h : n ≤ maxRowid) : Written 19 (dumps compact (.int n)) := by
  have htext : dumps compact (.int n) = dec n := by
    show (if (n : ℤ) < 0 then '-' :: dec (n : ℤ).natAbs else dec (n : ℤ).natAbs) = dec n
    rw [if_neg (by omega), Int.natAbs_natCast]
  rw [htext]
  refine ⟨?_, (length_dec_le (by decide)).mpr (h.trans_lt (by decide))⟩
  intro c hc
  have hdigit := isDigit_of_mem_dec hc
  simp only [Char.isDigit, Bool.and_eq_true, decide_eq_true_eq, UInt32.le_iff_toNat_le] at hdigit
  exact hdigit.2.trans_lt (by decide)

/-- A key with its colon, and what separates it from the field before. -/
lemma written_key (key : Text) (h : key.all isUnescaped = true) {n : ℕ} {t rest : Text} {m : ℕ}
    (ht : Written n t) (hrest : Written m rest) :
    Written (key.length + n + m + 3) (stringText key ++ (compact.key ++ (t ++ rest))) := by
  have hcolon : Written 1 compact.key := written_of_unescaped (t := [':']) (by decide)
  obtain ⟨hascii, hlength⟩ :=
    (Short.written ⟨h, le_rfl⟩).append (hcolon.append (ht.append hrest))
  exact ⟨hascii, hlength.trans (by omega)⟩

lemma written_json {f : Filters} {c : Cursor} (h : c.Valid H f) :
    Written maxRawCursorBytes (dumps compact c.json) := by
  have hclose : Written 1 ['\x7d'] := written_of_unescaped (by decide)
  have hcomma : Written 1 compact.item := written_of_unescaped (t := [',']) (by decide)
  have hopen : Written 1 ['\x7b'] := written_of_unescaped (by decide)
  have hv := hcomma.append (written_key "v".toList (by decide)
    (written_rowid (show 1 ≤ maxRowid by decide)) hclose)
  have hlast := hcomma.append (written_key "last".toList (by decide)
    (written_rowid (h.last.trans h.ceiling)) hv)
  have hfilters := hcomma.append (written_key "filters".toList (by decide)
    (h.filters ▸ short_filterDigest H f).written hlast)
  have hceiling := hcomma.append (written_key "ceiling".toList (by decide)
    (written_rowid h.ceiling.le) hfilters)
  have htimestamp := hcomma.append (written_key "anchor_timestamp".toList (by decide)
    (written_optionalText fun t ht => short_canonicalTimestamp H (h.anchorTimestamp t ht)) hceiling)
  have hcode := hcomma.append (written_key "anchor_code".toList (by decide)
    (written_optionalText fun t ht => short_inCatalog (h.anchorCode t ht)) htimestamp)
  have hanchor := hopen.append (written_key "anchor".toList (by decide)
    (short_validAnchor h.anchor).written hcode)
  exact ⟨hanchor.1, hanchor.2.trans (by decide)⟩

lemma plain_json {f : Filters} {c : Cursor} (h : c.Valid H f) : Plain c.json := by
  have hoptional : ∀ o : Option Text, Plain (optionalText o) := by
    intro o
    cases o <;> trivial
  have hrowid : ∀ n : ℕ, n ≤ maxRowid → Plain (.int n) := by
    intro n hn
    show (dec (n : ℤ).natAbs).length ≤ maxStrDigits
    rw [Int.natAbs_natCast]
    exact (length_dec_le (by decide)).mpr (hn.trans_lt (by decide)) |>.trans (show 19 ≤ _ by decide)
  refine ⟨by simp only [List.map_cons, List.map_nil]; decide, trivial, hoptional _, hoptional _,
    hrowid _ h.ceiling.le, trivial, hrowid _ (h.last.trans h.ceiling),
    hrowid 1 (by decide), trivial⟩

lemma asText_optionalText (o : Option Text) : (optionalText o).asText = o := by
  cases o <;> rfl

lemma utf8Size_of_isAscii {t : Text} (h : IsAscii t) : utf8Size t = t.length := by
  have hone : ∀ c ∈ t, c.utf8Size = 1 := by
    intro c hc
    have hval : c.val ≤ 0x7f := UInt32.le_iff_toNat_le.mpr (Nat.le_of_lt_succ (h c hc))
    rw [Char.utf8Size]
    exact if_pos hval
  rw [utf8Size, List.map_congr_left hone, List.map_const', List.sum_replicate, smul_eq_mul, mul_one]

lemma alphabet_tokenChar : (Base64.alphabet.all fun c =>
    isTokenChar (toUrl c) && decide ((toUrl c).toNat < 128)) = true := by
  decide

/-- A cursor passes the checks that are made before it is decoded. -/
lemma encodeCursor_accepted {f : Filters} {c : Cursor} (h : c.Valid H f) :
    utf8Size (encodeCursor c) ≤ maxCursorBytes ∧ (encodeCursor c).all isTokenChar = true := by
  obtain ⟨hchars, hlength⟩ := encodeToken_spec c.json
  have htoken : ∀ x ∈ encodeToken c.json, isTokenChar x = true ∧ x.toNat < 128 := by
    intro x hx
    obtain ⟨y, hy, rfl⟩ := hchars x hx
    simpa using List.all_eq_true.mp alphabet_tokenChar y hy
  refine ⟨?_, List.all_eq_true.mpr fun x hx => (htoken x hx).1⟩
  have hjson := (written_json H h).2
  rw [encodeCursor, utf8Size_of_isAscii fun x hx => (htoken x hx).2]
  unfold maxRawCursorBytes at hjson
  unfold maxCursorBytes
  omega

/-- **A cursor that was given out is understood**, with the filters it was given out for. -/
theorem decodeCursor_encodeCursor {f : Filters} {c : Cursor} (h : c.Valid H f) (g : Filters) :
    decodeCursor H g (encodeCursor c) = if filterDigest H f = filterDigest H g then some c else none := by
  obtain ⟨hascii, hlength⟩ := written_json H h
  have htoken : decodeToken maxRawCursorBytes (encodeCursor c) = some c.json :=
    decodeToken_encodeToken (plain_json H h) hascii hlength
  obtain ⟨hsize, hchars⟩ := encodeCursor_accepted H h
  have hne : encodeCursor c ≠ [] := by
    intro hnil
    rw [hnil] at htoken
    cases htoken
  have hcode : validAnchorCode (optionalText c.anchorCode) = true := by
    cases hc : c.anchorCode with
    | none => rfl
    | some code => simpa [optionalText, validAnchorCode] using h.anchorCode code hc
  have htimestamp : validAnchorTimestamp H (optionalText c.anchorTimestamp) = true := by
    cases ht : c.anchorTimestamp with
    | none => rfl
    | some t => exact h.anchorTimestamp t ht
  have hanchor := (short_validAnchor h.anchor).length
  have hceiling := h.ceiling
  have hlast := h.last
  rw [decodeCursor, if_neg (by simp [hne, hsize, hchars]), htoken, ← h.filters]
  by_cases hfilters : c.filters = filterDigest H g
  · rw [if_pos hfilters]
    refine (if_pos ⟨rfl, rfl, by omega, by omega, by omega, by omega, by omega, hcode, htimestamp,
      hfilters, h.anchor⟩).trans ?_
    rw [asText_optionalText, asText_optionalText, Int.toNat_natCast, Int.toNat_natCast]
  · rw [if_neg hfilters]
    exact if_neg fun hall => hfilters hall.2.2.2.2.2.2.2.2.2.1

end Host

end FwRouter.Events
