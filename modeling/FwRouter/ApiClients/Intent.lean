import FwRouter.ApiClients.Registry

/-!
# The intent of a publication is read back

`_pending_state` accepts what `publish_target` writes: its size stays below the limit of the pending
file, its text is the text of the intent, and its payload is what the target may hold.
-/

namespace FwRouter.ApiClients

open Py Py.Json Py.Base64

/-! ## Sizes -/

/-- The bytes of a text. -/
def textSize (t : Text) : ℕ := (encodeUtf8 t).size

lemma textSize_append (s t : Text) : textSize (s ++ t) = textSize s + textSize t := by
  rw [textSize, encodeUtf8_eq, List.utf8Encode_append, ByteArray.size_append]
  rfl

/-- A character that is written as itself, in one byte. -/
def Simple (c : Char) : Prop := escapeChar c = [c] ∧ textSize [c] = 1

instance (c : Char) : Decidable (Simple c) := inferInstanceAs (Decidable (_ ∧ _))

lemma textSize_of_simple {t : Text} (h : ∀ c ∈ t, Simple c) : textSize t = t.length := by
  induction t with
  | nil => rfl
  | cons c t ih =>
      have hrest := ih fun d hd => h d (List.mem_cons_of_mem c hd)
      rw [← List.singleton_append, textSize_append, (h c List.mem_cons_self).2, hrest,
        List.length_append, List.length_singleton]

lemma textSize_stringText {t : Text} (h : ∀ c ∈ t, Simple c) :
    textSize (stringText t) = t.length + 2 := by
  have hescape : t.flatMap escapeChar = t := by
    induction t with
    | nil => rfl
    | cons c t ih =>
        rw [List.flatMap_cons, (h c List.mem_cons_self).1,
          ih fun d hd => h d (List.mem_cons_of_mem c hd), List.singleton_append]
  have hcons : stringText t = ['"'] ++ (t ++ ['"']) := by
    rw [stringText, PrefixCode.terminated, hescape]
    rfl
  have hquote : textSize ['"'] = 1 := by decide +kernel
  rw [hcons, textSize_append, textSize_append, textSize_of_simple h, hquote]
  omega

lemma simple_of_all {t : Text} (h : (t.all fun c => decide (Simple c)) = true) {c : Char}
    (hc : c ∈ t) : Simple c :=
  of_decide_eq_true (List.all_eq_true.mp h c hc)

/-- What holds of the characters from code `a` on holds of a character among them. -/
lemma forall_range {P : Char → Prop} {a k : ℕ} (h : ∀ n < k, P (Char.ofNat (a + n))) {c : Char}
    (ha : a ≤ c.toNat) (hk : c.toNat < a + k) : P c := by
  have hn := h (c.toNat - a) (by omega)
  rwa [Nat.add_sub_cancel' ha, Char.ofNat_toNat] at hn

lemma simple_of_isDigit {c : Char} (h : c.isDigit = true) : Simple c := by
  rcases Char.isDigit_iff_toNat.mp h with ⟨hlow, hhigh⟩
  have hmem : c ∈ "0123456789".toList :=
    forall_range (a := 48) (k := 10) (by decide) hlow (Nat.lt_succ_of_le hhigh)
  exact simple_of_all (by decide +kernel) hmem

lemma simple_b64encode {bytes : List UInt8} {c : Char} (h : c ∈ b64encode bytes) : Simple c := by
  rcases mem_b64encode h with hmem | rfl
  · exact simple_of_all (by decide +kernel) hmem
  · decide +kernel

lemma simple_tokenRe {t : Text} (h : tokenRe t = true) : t.length = 64 ∧ ∀ c ∈ t, Simple c := by
  rw [tokenRe, isLowerHex, Bool.and_eq_true, decide_eq_true_eq, List.all_eq_true] at h
  refine ⟨h.1, fun c hc => ?_⟩
  have hlower := h.2 c hc
  rw [Bool.or_eq_true, Bool.and_eq_true, decide_eq_true_eq, decide_eq_true_eq] at hlower
  rcases hlower with hdigit | ⟨hlow, hle⟩
  · exact simple_of_isDigit hdigit
  · have hmem : c ∈ "abcdef".toList :=
      forall_range (a := 97) (k := 6) (by decide) hlow (Nat.lt_succ_of_le hle)
    exact simple_of_all (by decide +kernel) hmem

/-- The size of the first field of a dict, or of a later one without the comma before it. -/
lemma textSize_field (k v rest : Text) :
    textSize (stringText k ++ (compact.key ++ (v ++ rest))) =
      textSize (stringText k) + 1 + textSize v + textSize rest := by
  have hkey : textSize compact.key = 1 := by decide +kernel
  rw [textSize_append, textSize_append, textSize_append, hkey]
  omega

lemma textSize_item (rest : Text) : textSize (compact.item ++ rest) = 1 + textSize rest := by
  have hitem : textSize compact.item = 1 := by decide +kernel
  rw [textSize_append, hitem]

/-! ## The text of an intent -/

/-- What `publish_target` puts into an intent. -/
structure Intent.Written (i : Intent) : Prop where
  prepared : tokenRe i.preparedSha256 = true
  previous : ∀ digest ∈ i.previousSha256, tokenRe digest = true
  revision : 1 ≤ i.policyRevision
  /-- The revision has at most 1793 digits. -/
  small : i.policyRevision < 10 ^ 1793
  size : i.prepared.size ≤ maxRegistryBytes

lemma length_dec_revision {i : Intent} (h : i.Written) :
    (dec i.policyRevision.natAbs).length ≤ 1793 := by
  rw [length_dec_le (by decide)]
  have hrevision := h.revision
  have hsmall := h.small
  have hcast : ((i.policyRevision.natAbs : ℕ) : ℤ) < ((10 ^ 1793 : ℕ) : ℤ) := by
    rw [Int.natAbs_of_nonneg (by omega)]
    exact_mod_cast hsmall
  exact_mod_cast hcast

lemma plain_intent {i : Intent} (h : i.Written) : Plain i.toValue := by
  have hprevious : Plain (optionalText i.previousSha256) := by
    cases i.previousSha256 <;> exact trivial
  have hrevision : (dec i.policyRevision.natAbs).length ≤ maxStrDigits :=
    (length_dec_revision h).trans (by decide)
  have hschema : (dec (1 : ℤ).natAbs).length ≤ maxStrDigits := by decide +kernel
  simp only [Intent.toValue, Plain, PlainFields, hprevious, hrevision, hschema, and_true,
    List.map_cons, List.map_nil]
  decide +kernel

lemma textSize_intText {i : Intent} (h : i.Written) :
    textSize (Value.intText i.policyRevision) ≤ 1793 := by
  have hrevision := h.revision
  rw [Value.intText, if_neg (by omega),
    textSize_of_simple fun c hc => simple_of_isDigit (isDigit_of_mem_dec hc)]
  exact length_dec_revision h

lemma textSize_digest {i : Intent} (h : i.Written) :
    textSize (dumps compact (optionalText i.previousSha256)) ≤ 66 := by
  rcases hprevious : i.previousSha256 with _ | digest
  · decide +kernel
  · rcases simple_tokenRe (h.previous digest hprevious) with ⟨hlength, hsimple⟩
    rw [optionalText, dumps, textSize_stringText hsimple, hlength]

lemma textSize_prepared (bytes : ByteArray) :
    textSize (stringText (b64encode bytes.data.toList)) = 4 * ((bytes.size + 2) / 3) + 2 := by
  rw [textSize_stringText fun c hc => simple_b64encode hc, length_b64encode, Array.length_toList]
  rfl

lemma textSize_target (target : Target) : textSize (stringText target.text) ≤ 17 := by
  cases target <;> decide +kernel

/-- **The file of an intent is below its limit.** -/
lemma size_intent {i : Intent} (h : i.Written) :
    1 ≤ (jsonBytes i.toValue).size ∧ (jsonBytes i.toValue).size ≤ maxPendingBytes := by
  have hrevision := textSize_intText h
  have hdigest := textSize_digest h
  have hprepared := textSize_prepared i.prepared
  have htarget := textSize_target i.target
  have hsize := h.size
  rcases simple_tokenRe h.prepared with ⟨hlength, hsimple⟩
  have hsha := textSize_stringText hsimple
  have hk₁ : textSize (stringText "policy_revision".toList) = 17 := by decide +kernel
  have hk₂ : textSize (stringText "prepared_b64".toList) = 14 := by decide +kernel
  have hk₃ : textSize (stringText "prepared_sha256".toList) = 17 := by decide +kernel
  have hk₄ : textSize (stringText "previous_sha256".toList) = 17 := by decide +kernel
  have hk₅ : textSize (stringText "schema_version".toList) = 16 := by decide +kernel
  have hk₆ : textSize (stringText "target".toList) = 8 := by decide +kernel
  have hone : textSize (Value.intText 1) = 1 := by decide +kernel
  have hopen : textSize ['\x7b'] = 1 := by decide +kernel
  have hclose : textSize ['\x7d'] = 1 := by decide +kernel
  have hobject : ∀ fields, textSize (dumps compact (.dict fields)) =
      1 + textSize (dumpsFields compact fields) := fun fields => by
    rw [dumps, ← List.singleton_append, textSize_append, hopen]
  have hbytes : (jsonBytes i.toValue).size = textSize (dumps compact i.toValue) + 1 :=
    size_jsonBytes i.toValue
  have htotal : textSize (dumps compact i.toValue) ≤ 4 * ((i.prepared.size + 2) / 3) + 2047 := by
    rw [Intent.toValue, hobject]
    simp only [dumpsFields, dumpsMoreFields, dumps, textSize_field, textSize_item]
    omega
  have hlimit : maxPendingBytes = (maxRegistryBytes + 2) / 3 * 4 + 2048 := rfl
  have hgroups : (i.prepared.size + 2) / 3 ≤ (maxRegistryBytes + 2) / 3 :=
    Nat.div_le_div_right (Nat.add_le_add_right hsize 2)
  omega

/-! ## Reading -/

lemma readPrepared_b64encode (bytes : ByteArray) :
    readPrepared (b64encode bytes.data.toList) = some bytes := by
  rw [readPrepared, b64decode_b64encode, Option.bind_some, if_pos rfl, Array.toArray_toList]

lemma readDigest_optionalText {digest : Option Text} (h : ∀ d ∈ digest, tokenRe d = true) :
    readDigest (optionalText digest) = some digest := by
  cases digest with
  | none => rfl
  | some digest => exact if_pos (h digest rfl)

lemma ofText_text (target : Target) : Target.ofText target.text = some target := by
  cases target <;> decide +kernel

lemma readIntent_toValue {i : Intent} (h : i.Written) : readIntent i.toValue = some i := by
  rw [Intent.toValue, readIntent, if_pos ⟨rfl, h.prepared, h.revision⟩, ofText_text,
    readDigest_optionalText h.previous, readPrepared_b64encode]
  rfl

/-- **What was written is what is pending**, if its payload is acceptable. -/
theorem pendingState_of_written {host : Host} {files : Files} {i : Intent} (h : i.Written)
    (hpending : files.pending = some ⟨jsonBytes i.toValue, false⟩)
    (haccepted : i.accepted host = true) : pendingState host files = some (some i) := by
  rcases size_intent h with ⟨hpos, hmax⟩
  have hread : readFixed maxPendingBytes files.pending = some (some (jsonBytes i.toValue)) := by
    rw [hpending, readFixed, if_neg]
    simp only [Bool.false_eq_true, false_or, not_or, not_lt]
    exact ⟨hpos, hmax⟩
  rw [pendingState, hread]
  simp only [readJson_jsonBytes (plain_intent h), Option.bind_some, readIntent_toValue h, haccepted,
    if_true]

end FwRouter.ApiClients
