import FwRouter.Rules.Protected

/-!
# Normalised values read back

The rule texts are stored as the validators print them and are validated again when they are read.
This file collects what that rests on: the lines of a printed text are the ones it was joined from
(`splitlines_joinLines`), and a normalised value is normalised to itself
(`normalizeRuleValue_fixed`), with one exception.  A domain that spells an IPv4 address, which an
address followed by dots leaves behind, is read as that address.
-/

namespace FwRouter

open Py Ipaddress

/-! ## Lines -/

lemma isSpace_of_isLineBreak {c : Char} (h : isLineBreak c = true) : isSpace c = true := by
  have hcodes : ∀ k ∈ lineBreakCodes, k ∈ spaceCodes := by decide
  rw [isLineBreak, List.contains_iff_mem] at h
  rw [isSpace, List.contains_iff_mem]
  exact hcodes _ h

lemma splitlinesFrom_line {acc line rest : Text} (h : ∀ c ∈ line, isLineBreak c = false) :
    splitlinesFrom acc (line ++ '\n' :: rest) = (acc.reverse ++ line) :: splitlinesFrom [] rest := by
  induction line generalizing acc with
  | nil =>
      rw [List.nil_append, splitlinesFrom, if_pos (by decide), List.append_nil]
      rintro rest' hc
      exact absurd hc (by decide)
  | cons c line ih =>
      have hc := h c (List.mem_cons_self ..)
      rw [List.cons_append, splitlinesFrom, if_neg (by rw [hc]; exact Bool.false_ne_true),
        ih fun x hx => h x (List.mem_cons_of_mem _ hx)]
      · simp
      · rintro rest' rfl
        exact absurd hc (by decide)

lemma mem_of_mem_splitlinesFrom {t acc line : Text} {c : Char} (hline : line ∈ splitlinesFrom acc t)
    (hc : c ∈ line) : c ∈ acc ∨ c ∈ t := by
  fun_induction splitlinesFrom acc t with
  | case1 acc hempty => cases hline
  | case2 acc hempty =>
      rw [List.mem_singleton.mp hline, List.mem_reverse] at hc
      exact Or.inl hc
  | case3 acc rest ih =>
      rcases List.mem_cons.mp hline with rfl | hline
      · exact Or.inl (List.mem_reverse.mp hc)
      · rcases ih hline with h | h
        · cases h
        · exact Or.inr (List.mem_cons_of_mem _ (List.mem_cons_of_mem _ h))
  | case4 acc d rest hcr hbreak ih =>
      rcases List.mem_cons.mp hline with rfl | hline
      · exact Or.inl (List.mem_reverse.mp hc)
      · rcases ih hline with h | h
        · cases h
        · exact Or.inr (List.mem_cons_of_mem _ h)
  | case5 acc d rest hcr hbreak ih =>
      rcases ih hline with h | h
      · rcases List.mem_cons.mp h with rfl | h
        · exact Or.inr (List.mem_cons_self ..)
        · exact Or.inl h
      · exact Or.inr (List.mem_cons_of_mem _ h)

lemma mem_of_mem_splitlines {t line : Text} {c : Char} (hline : line ∈ splitlines t)
    (hc : c ∈ line) : c ∈ t := by
  rcases mem_of_mem_splitlinesFrom hline hc with h | h
  · cases h
  · exact h

lemma joinLines_cons {l : Text} {ls : List Text} (h : ∀ x ∈ l :: ls, x ≠ []) :
    joinLines (l :: ls) = l ++ '\n' :: joinLines ls := by
  have hl : l ≠ [] := h l (List.mem_cons_self ..)
  cases ls with
  | nil =>
      simp [joinLines, hl]
  | cons m ms =>
      have hm : m ≠ [] := h m (List.mem_cons_of_mem _ (List.mem_cons_self ..))
      have hjoin : ['\n'].intercalate (m :: ms) ≠ [] := by
        cases ms with
        | nil => simpa using hm
        | cons k ks => rw [List.intercalate_cons_cons]; simp
      simp only [joinLines, List.intercalate_cons_cons, List.isEmpty_iff, hjoin, if_false,
        List.append_assoc, List.append_eq_nil_iff, hl, false_and, List.cons_append, List.nil_append]

/-- **The lines of a printed text.** -/
lemma splitlines_joinLines {ls : List Text}
    (h : ∀ l ∈ ls, l ≠ [] ∧ ∀ c ∈ l, isLineBreak c = false) : splitlines (joinLines ls) = ls := by
  induction ls with
  | nil => rfl
  | cons l ls ih =>
      have ih := ih fun x hx => h x (List.mem_cons_of_mem _ hx)
      rw [splitlines] at ih ⊢
      rw [joinLines_cons fun x hx => (h x hx).1,
        splitlinesFrom_line (h l (List.mem_cons_self ..)).2, ih]
      rfl

lemma noLineBreak_of_solid {t : Text} (h : Solid t) : ∀ c ∈ t, isLineBreak c = false := by
  intro c hc
  by_contra hbreak
  have := isSpace_of_isLineBreak (by simpa using hbreak)
  rw [h c hc] at this
  cases this

/-! ## Characters of printed addresses -/

lemma mem_of_mem_splitOn {t l : Text} {x c : Char} (hl : l ∈ t.splitOn x) (hc : c ∈ l) : c ∈ t := by
  have ht : [x].intercalate (t.splitOn x) = t := List.intercalate_splitOn x
  exact ht ▸ mem_intercalate_of_mem hl hc

/-- Without a colon a text is no IPv6 address. -/
lemma ipv6Address_eq_none {s : Text} (h : ':' ∉ s) : ipv6Address s = none := by
  unfold ipv6Address
  split_ifs
  · rfl
  · cases hsplit : splitScopeId s with
    | none => rfl
    | some parts =>
        have haddr : ':' ∉ parts.1 := by
          unfold splitScopeId at hsplit
          split at hsplit
          · obtain rfl := Option.some.inj hsplit
            exact h
          · split_ifs at hsplit
            obtain rfl := Option.some.inj hsplit
            exact fun hc => h ((List.takeWhile_prefix _).subset hc)
        have hnone : ipv6FromString parts.1 = none := by
          rw [ipv6FromString, List.splitOn_eq_singleton haddr]
          rfl
        simp [hnone]

lemma exists_digitChar {c : Char} (h : c.isDigit = true) : ∃ d < 16, c = Nat.digitChar d := by
  have hcode : 48 ≤ c.toNat ∧ c.toNat ≤ 57 := by
    simpa [Char.isDigit, UInt32.le_iff_toNat_le] using h
  have hall : ∀ k < 10, Char.ofNat (48 + k) = Nat.digitChar k := by decide
  refine ⟨c.toNat - 48, by omega, ?_⟩
  rw [← hall _ (by omega), Nat.add_sub_cancel' hcode.1, Char.ofNat_toNat]

/-- A printed address is made of digits and its separators, apart from the scope id. -/
lemma mem_addressStr {a : IpAddress} {c : Char} (h : c ∈ a.str) :
    c ∈ [':', '.', '%'] ∨ (∃ d < 16, c = Nat.digitChar d) ∨ ∃ s ∈ a.scopeId, c ∈ s := by
  obtain ⟨⟨v, ip, hlt⟩, scope, hv6, hok⟩ := a
  cases v with
  | v4 =>
      rcases mem_ipv4ToString h with hc | rfl
      · exact Or.inr (Or.inl (exists_digitChar hc))
      · exact Or.inl (by simp)
  | v6 =>
      have hplain : c ∈ ipv6ToString ip →
          c ∈ [':', '.', '%'] ∨ (∃ d < 16, c = Nat.digitChar d) ∨ ∃ s ∈ scope, c ∈ s := by
        intro hc
        rcases mem_ipv6ToString hc with rfl | hc
        · exact Or.inl (by simp)
        · exact Or.inr (Or.inl hc)
      cases scope with
      | none => exact hplain h
      | some s =>
          rcases List.mem_append.mp h with hc | hc
          · exact hplain hc
          · rcases List.mem_cons.mp hc with rfl | hc
            · exact Or.inl (by simp)
            · exact Or.inr (Or.inr ⟨s, rfl, hc⟩)

lemma mem_networkStr {n : IpNetwork} {c : Char} (h : c ∈ n.str) :
    c ∈ n.networkAddress.str ∨ c = '/' ∨ ∃ d < 16, c = Nat.digitChar d := by
  rw [IpNetwork.str, List.mem_append, List.mem_cons] at h
  rcases h with h | h | h
  · exact Or.inl h
  · exact Or.inr (Or.inl h)
  · exact Or.inr (Or.inr (exists_digitChar (isDigit_of_mem_dec h)))

/-- A scope id that a network was read with is a piece of the text. -/
lemma mem_of_mem_networkScopeId {s : Text} {n : IpNetwork} (h : ipNetwork s = some n) :
    ∀ t ∈ n.networkAddress.scopeId, ∀ c ∈ t, c ∈ s := by
  have hof : ∀ {a : IpAddress} {p : Nat}, networkOf a p = some n →
      ∀ t ∈ n.networkAddress.scopeId, t ∈ a.scopeId := by
    intro a p hn t ht
    rw [networkOf] at hn
    split_ifs at hn
    obtain rfl := Option.some.inj hn
    unfold IpNetwork.ofAddress at ht
    split_ifs at ht
    · exact ht
    · cases ht
  have hwith : ∀ {read : Text → Option IpAddress},
      (∀ {s a}, read s = some a → ∀ t ∈ a.scopeId, ∀ c ∈ t, c ∈ s) →
      networkWith read s = some n → ∀ t ∈ n.networkAddress.scopeId, ∀ c ∈ t, c ∈ s := by
    intro read hread hn t ht c hc
    unfold networkWith at hn
    split at hn
    · rename_i addr hparts
      rcases Option.bind_eq_some_iff.mp hn with ⟨a, ha, hn⟩
      exact mem_of_mem_splitOn (hparts ▸ List.mem_cons_self ..) (hread ha t (hof hn t ht) c hc)
    · rename_i addr mask hparts
      rcases Option.bind_eq_some_iff.mp hn with ⟨a, ha, hn⟩
      rcases Option.bind_eq_some_iff.mp hn with ⟨p, -, hn⟩
      exact mem_of_mem_splitOn (hparts ▸ List.mem_cons_self ..) (hread ha t (hof hn t ht) c hc)
    · cases hn
  have h4 : ∀ {s a}, ipv4Address s = some a → ∀ t ∈ a.scopeId, ∀ c ∈ t, c ∈ s :=
    fun ha => mem_of_mem_scopeId (by rw [ipAddress, ha]; rfl)
  have h6 : ∀ {s a}, ipv6Address s = some a → ∀ t ∈ a.scopeId, ∀ c ∈ t, c ∈ s := by
    intro s a ha
    cases hv4 : ipv4Address s with
    | none => exact mem_of_mem_scopeId (by rw [ipAddress, hv4]; exact ha)
    | some b =>
        exfalso
        rcases Option.bind_eq_some_iff.mp hv4 with ⟨k, hk, -⟩
        rw [ipv6Address_eq_none fun hc => ?_] at ha
        · cases ha
        · have := mem_of_ipv4FromString hk _ hc
          exact absurd this (by decide)
  rw [ipNetwork] at h
  cases hw : networkWith ipv4Address s with
  | some m =>
      rw [hw] at h
      obtain rfl := Option.some.inj h
      exact hwith h4 hw
  | none =>
      rw [hw] at h
      exact hwith h6 h

/-! ## Domains -/

/-- The characters of a normalised ASCII domain. -/
def isDomainChar (c : Char) : Bool := isLowerAlnum c || c == '-' || c == '.'

lemma code_of_isDomainChar {c : Char} (h : isDomainChar c = true) :
    97 ≤ c.toNat ∧ c.toNat ≤ 122 ∨ 45 ≤ c.toNat ∧ c.toNat ≤ 46 ∨ 48 ≤ c.toNat ∧ c.toNat ≤ 57 := by
  simp only [isDomainChar, isLowerAlnum, Bool.or_eq_true, Bool.and_eq_true, decide_eq_true_eq,
    beq_iff_eq] at h
  rcases h with ((⟨hlo, hhi⟩ | ⟨hlo, hhi⟩) | rfl) | rfl
  · exact Or.inl ⟨hlo, hhi⟩
  · exact Or.inr (Or.inr ⟨hlo, hhi⟩)
  · exact Or.inr (Or.inl (by decide))
  · exact Or.inr (Or.inl (by decide))

lemma ascii_of_isDomainChar {c : Char} (h : isDomainChar c = true) : c.toNat < 128 := by
  have := code_of_isDomainChar h
  omega

lemma isSpace_of_isDomainChar {c : Char} (h : isDomainChar c = true) : isSpace c = false := by
  have hcode := code_of_isDomainChar h
  have hspace : ∀ k ∈ spaceCodes,
      ¬(97 ≤ k ∧ k ≤ 122 ∨ 45 ≤ k ∧ k ≤ 46 ∨ 48 ≤ k ∧ k ≤ 57) := by decide
  by_contra hs
  simp only [isSpace, Bool.not_eq_false, List.contains_iff_mem] at hs
  exact hspace _ hs hcode

lemma toLower_of_isDomainChar {c : Char} (h : isDomainChar c = true) : c.toLower = c := by
  refine Char.toLower_eq_of_not_isUpper fun hup => ?_
  have hcode : 65 ≤ c.toNat ∧ c.toNat ≤ 90 := by
    simpa [Char.isUpper, UInt32.le_iff_toNat_le] using hup
  have := code_of_isDomainChar h
  omega

lemma ascii_toLower {c : Char} (h : c.toNat < 128) : c.toLower.toNat < 128 := by
  by_cases hup : c.isUpper
  · have hlow : c.toLower.isLower := by
      rw [Char.isLower_toLower_eq_isAlpha, Char.isAlpha, hup, Bool.true_or]
    have hcode : 97 ≤ c.toLower.toNat ∧ c.toLower.toNat ≤ 122 := by
      simpa [Char.isLower, UInt32.le_iff_toNat_le] using hlow
    omega
  · rwa [Char.toLower_eq_of_not_isUpper (by simpa using hup)]

lemma isDomainChar_of_label {l : Text} (h : matchesDomainLabelRe l = true) :
    ∀ c ∈ l, isDomainChar c = true := by
  intro c hc
  simp only [matchesDomainLabelRe, Bool.and_eq_true, List.all_eq_true] at h
  rw [isDomainChar, h.2 c hc, Bool.true_or]

lemma labels_of_mapM_idnaEncode {U : Unicode} {ls es : List Text} (hascii : ∀ l ∈ ls, IsAscii l)
    (h : List.Forall₂ (fun l e => U.idnaEncode l = some e) ls es) : ls = es := by
  induction h with
  | nil => rfl
  | cons he _ ih =>
      rw [U.idnaEncode_ascii _ (hascii _ (List.mem_cons_self ..))] at he
      split_ifs at he
      rw [Option.some.inj he, ih fun l hl => hascii l (List.mem_cons_of_mem _ hl)]

/-- An ASCII name that is normalised is its own encoding, so its characters are the ones the
patterns ask for; and it is normalised to itself. -/
lemma normalizeDomainName_fixed {U : Unicode} {value d : Text} {single : Bool}
    (hascii : IsAscii value) (h : normalizeDomainName U value single = some d) :
    (∀ c ∈ d, isDomainChar c = true) ∧ normalizeDomainName U d single = some d := by
  have h' := h
  unfold normalizeDomainName at h
  dsimp only at h
  split_ifs at h with hempty hlabels
  rw [Option.bind_eq_some_iff] at h
  rcases h with ⟨asciiLabels, henc, h⟩
  have hd : d = (U.lower (strip value)).rdropWhile isDot := by
    split_ifs at h <;> simpa using h.symm
  have hdAscii : IsAscii d := by
    intro c hc
    have hstrip : IsAscii (strip value) := fun x hx => hascii x (mem_of_mem_stripBy hx)
    rw [hd, U.lower_ascii _ hstrip] at hc
    rcases List.mem_map.mp ((List.rdropWhile_prefix _ _).subset hc) with ⟨x, hx, rfl⟩
    exact ascii_toLower (hstrip x hx)
  rw [← hd] at henc h
  have hencoded : d.splitOn '.' = asciiLabels := by
    exact labels_of_mapM_idnaEncode (fun l hl c hc => hdAscii c (mem_of_mem_splitOn hl hc))
      (Run.mapM_eq_some.mp henc)
  rw [← hencoded, List.intercalate_splitOn] at h
  have hchars : ∀ c ∈ d, isDomainChar c = true := by
    intro c hc
    split_ifs at h with hsingle hlabel hdomain
    · exact isDomainChar_of_label hlabel c hc
    · simp only [matchesDomainRe, Bool.and_eq_true, List.all_eq_true] at hdomain
      rcases mem_splitOn (x := '.') hc with rfl | ⟨l, hl, hcl⟩
      · rfl
      · exact isDomainChar_of_label (hdomain.2 l hl) c hcl
  have hagain : (U.lower (strip d)).rdropWhile isDot = (U.lower (strip value)).rdropWhile isDot := by
    have hsolid : Solid d := fun c hc => isSpace_of_isDomainChar (hchars c hc)
    have hlower : d.map Char.toLower = d := by
      conv_rhs => rw [← List.map_id d]
      exact List.map_congr_left fun c hc => toLower_of_isDomainChar (hchars c hc)
    rw [strip_solid hsolid, U.lower_ascii d hdAscii, hlower, ← hd]
    rw [hd]
    exact List.rdropWhile_idempotent isDot _
  refine ⟨hchars, ?_⟩
  rw [← h', normalizeDomainName, normalizeDomainName]
  dsimp only
  rw [hagain]

lemma not_mem_domain {d : Text} (h : ∀ c ∈ d, isDomainChar c = true) {x : Char}
    (hx : isDomainChar x = false) : x ∉ d := by
  intro hmem
  rw [h x hmem] at hx
  cases hx

/-- Without a slash, what is no address is no network either. -/
lemma ipNetwork_eq_none {s : Text} (hslash : '/' ∉ s) (h4 : ipv4Address s = none)
    (h6 : ipv6Address s = none) : ipNetwork s = none := by
  rw [ipNetwork, networkWith, networkWith, List.splitOn_eq_singleton hslash]
  simp [h4, h6]

lemma ipAddress_networkStr (n : IpNetwork) : ipAddress n.str = none := by
  have hslash : '/' ∈ n.str := by simp [IpNetwork.str]
  have h4 : ipv4Address n.str = none := by
    by_contra hsome
    rcases Option.ne_none_iff_exists'.mp hsome with ⟨a, ha⟩
    rcases Option.bind_eq_some_iff.mp ha with ⟨k, hk, -⟩
    exact absurd (mem_of_ipv4FromString hk _ hslash) (by decide)
  rw [ipAddress, h4, ipv6Address, if_pos hslash]
  rfl

lemma ipv4Address_dot (d : Text) : ipv4Address ('.' :: d) = none := by
  have hparts : ('.' :: d).splitOn '.' = [] :: d.splitOn '.' := by
    rw [← List.nil_append ('.' :: d), List.splitOn_append_cons_self]
    rfl
  rw [ipv4Address, ipv4FromString, hparts]
  split
  · rename_i a b c e heq
    obtain rfl := (List.cons.inj heq).1
    rfl
  · rfl

/-! ## Values -/

lemma normalizeRuleValue_cases {U : Unicode} {value v : Text} {kind : Kind}
    (h : normalizeRuleValue U value = .ok (kind, v)) :
    (∃ a, ipAddress (strip value) = some a ∧ kind = .ip ∧ v = a.str) ∨
    (∃ n, ipNetwork (strip value) = some n ∧ kind = .cidr ∧ v = n.str) ∨
    (∃ d, normalizeDomainName U ((strip value).dropWhile isDot) true = some d ∧
      kind = .domainSuffix ∧ v = '.' :: d) ∨
    (ipAddress (strip value) = none ∧ (strip value).head? ≠ some '.' ∧
      normalizeDomainName U (strip value) false = some v ∧ kind = .domain) := by
  unfold normalizeRuleValue at h
  dsimp only at h
  by_cases hempty : (strip value).isEmpty
  · rw [if_pos hempty] at h
    cases h
  rw [if_neg hempty] at h
  split at h
  · rename_i a ha
    cases h
    exact Or.inl ⟨a, ha, rfl, rfl⟩
  · rename_i haddress
    split at h
    · rename_i n hn
      cases h
      exact Or.inr (Or.inl ⟨n, hn, rfl, rfl⟩)
    · split_ifs at h with hdot
      · split at h
        · cases h
        · rename_i d hd
          cases h
          exact Or.inr (Or.inr (Or.inl ⟨d, hd, rfl, rfl⟩))
      · split at h
        · cases h
        · rename_i d hd
          cases h
          exact Or.inr (Or.inr (Or.inr ⟨haddress, hdot, hd, rfl⟩))

/-- A name whose labels are not empty is not empty and does not start with a dot. -/
lemma head_of_labels {d : Text} (h : ∀ l ∈ d.splitOn '.', l ≠ []) :
    d ≠ [] ∧ d.head? ≠ some '.' := by
  constructor
  · rintro rfl
    exact h [] (by simp) rfl
  · intro hhead
    rcases List.head?_eq_some_iff.mp hhead with ⟨rest, rfl⟩
    refine h [] ?_ rfl
    rw [List.splitOn, List.splitOnP_cons_eq_if_modifyHead]
    simp

lemma dropWhile_isDot {d : Text} (h : d.head? ≠ some '.') : ('.' :: d).dropWhile isDot = d := by
  rw [List.dropWhile_cons, if_pos (by rfl)]
  cases d with
  | nil => rfl
  | cons c rest =>
      rw [List.dropWhile_cons, if_neg]
      intro hc
      exact h (by rw [List.head?_cons, show c = '.' by simpa [isDot] using hc])

section Values

variable {U : Unicode} {value v d : Text} {kind : Kind}

lemma normalizeRuleValue_address {a : IpAddress} (h : Solid a.str) :
    normalizeRuleValue U a.str = .ok (.ip, a.str) := by
  rw [normalizeRuleValue, strip_solid h]
  simp [IpAddress.str_ne_nil, ipAddress_str]

lemma normalizeRuleValue_network (n : IpNetwork) :
    normalizeRuleValue U n.str = .ok (.cidr, n.str) := by
  rw [normalizeRuleValue, IpNetwork.strip_str]
  simp [IpNetwork.str_ne_nil, ipAddress_networkStr, ipNetwork_str]

lemma normalizeRuleValue_suffix (hchars : ∀ c ∈ d, isDomainChar c = true)
    (h : normalizeDomainName U d true = some d) :
    normalizeRuleValue U ('.' :: d) = .ok (.domainSuffix, '.' :: d) := by
  have hdots : ∀ c ∈ '.' :: d, isDomainChar c = true := by
    intro c hc
    rcases List.mem_cons.mp hc with rfl | hc
    · rfl
    · exact hchars c hc
  have h6 := ipv6Address_eq_none (not_mem_domain hdots (x := ':') (by decide))
  have hnet := ipNetwork_eq_none (not_mem_domain hdots (x := '/') (by decide))
    (ipv4Address_dot d) h6
  have hdrop := dropWhile_isDot (head_of_labels (labels_normalizeDomainName h)).2
  rw [normalizeRuleValue, strip_solid fun c hc => isSpace_of_isDomainChar (hdots c hc)]
  simp [ipAddress, ipv4Address_dot, h6, hnet, hdrop, h]

lemma normalizeRuleValue_domain (hchars : ∀ c ∈ d, isDomainChar c = true)
    (h : normalizeDomainName U d false = some d) (h4 : ipv4Address d = none) :
    normalizeRuleValue U d = .ok (.domain, d) := by
  have h6 := ipv6Address_eq_none (not_mem_domain hchars (x := ':') (by decide))
  have hslash : '/' ∉ d := not_mem_domain hchars (by decide)
  have hnet := ipNetwork_eq_none hslash h4 h6
  have hhead := head_of_labels (labels_normalizeDomainName h)
  rw [normalizeRuleValue, strip_solid fun c hc => isSpace_of_isDomainChar (hchars c hc)]
  simp [ipAddress, h4, h6, hnet, hhead.1, hhead.2, hslash, h]

/-- **Normalised values are normalised to themselves**, unless a domain spells an address. -/
lemma normalizeRuleValue_fixed (hascii : IsAscii value) (hsolid : Solid value)
    (h : normalizeRuleValue U value = .ok (kind, v))
    (hdomain : kind = .domain → ipv4Address v = none) : normalizeRuleValue U v = .ok (kind, v) := by
  have hraw : Solid (strip value) := fun c hc => hsolid c (mem_of_mem_stripBy hc)
  have hrawAscii : IsAscii (strip value) := fun c hc => hascii c (mem_of_mem_stripBy hc)
  rcases normalizeRuleValue_cases h with ⟨a, ha, rfl, rfl⟩ | ⟨n, -, rfl, rfl⟩ | ⟨d, hd, rfl, rfl⟩ |
    ⟨-, -, hd, rfl⟩
  · exact normalizeRuleValue_address (IpAddress.solid_str fun s hs c hc =>
      hraw c (mem_of_mem_scopeId ha s hs c hc))
  · exact normalizeRuleValue_network n
  · rcases normalizeDomainName_fixed
      (fun c hc => hrawAscii c ((List.dropWhile_suffix _).subset hc)) hd with ⟨hchars, hagain⟩
    exact normalizeRuleValue_suffix hchars hagain
  · rcases normalizeDomainName_fixed hrawAscii hd with ⟨hchars, hagain⟩
    exact normalizeRuleValue_domain hchars hagain (hdomain rfl)

/-- What a normalised value is made of: the characters of a domain, those of an address, or what
the text has in a scope id. -/
lemma normalizeRuleValue_chars (hascii : IsAscii value)
    (h : normalizeRuleValue U value = .ok (kind, v)) :
    v ≠ [] ∧ ∀ c ∈ v, isDomainChar c = true ∨ c ∈ [':', '.', '%', '/'] ∨
      (∃ d < 16, c = Nat.digitChar d) ∨ c ∈ value := by
  have hrawAscii : IsAscii (strip value) := fun c hc => hascii c (mem_of_mem_stripBy hc)
  have haddress : ∀ a : IpAddress, (∀ s ∈ a.scopeId, ∀ c ∈ s, c ∈ strip value) → ∀ c ∈ a.str,
      c ∈ [':', '.', '%', '/'] ∨ (∃ d < 16, c = Nat.digitChar d) ∨ c ∈ value := by
    intro a hscope c hc
    rcases mem_addressStr hc with hc | hc | ⟨s, hs, hc⟩
    · refine Or.inl ?_
      simp only [List.mem_cons, List.not_mem_nil, or_false] at hc ⊢
      rcases hc with hc | hc | hc
      · exact Or.inl hc
      · exact Or.inr (Or.inl hc)
      · exact Or.inr (Or.inr (Or.inl hc))
    · exact Or.inr (Or.inl hc)
    · exact Or.inr (Or.inr (mem_of_mem_stripBy (hscope s hs c hc)))
  rcases normalizeRuleValue_cases h with ⟨a, ha, rfl, rfl⟩ | ⟨n, hn, rfl, rfl⟩ | ⟨d, hd, rfl, rfl⟩ |
    ⟨-, -, hd, rfl⟩
  · exact ⟨a.str_ne_nil, fun c hc => Or.inr (haddress a (mem_of_mem_scopeId ha) c hc)⟩
  · refine ⟨n.str_ne_nil, fun c hc => Or.inr ?_⟩
    rcases mem_networkStr hc with hc | rfl | hc
    · exact haddress _ (mem_of_mem_networkScopeId hn) c hc
    · exact Or.inl (by simp)
    · exact Or.inr (Or.inl hc)
  · refine ⟨List.cons_ne_nil _ _, fun c hc => Or.inl ?_⟩
    have hchars := (normalizeDomainName_fixed
      (fun c hc => hrawAscii c ((List.dropWhile_suffix _).subset hc)) hd).1
    rcases List.mem_cons.mp hc with rfl | hc
    · rfl
    · exact hchars c hc
  · exact ⟨(head_of_labels (labels_normalizeDomainName hd)).1,
      fun c hc => Or.inl ((normalizeDomainName_fixed hrawAscii hd).1 c hc)⟩

/-- A normalised value can be printed on a line of its own. -/
lemma solid_normalizeRuleValue (hascii : IsAscii value) (hsolid : Solid value)
    (h : normalizeRuleValue U value = .ok (kind, v)) : Solid v := by
  intro c hc
  have hseps : [':', '.', '%', '/'].all (fun c => isSpace c = false) = true := by decide
  rcases (normalizeRuleValue_chars hascii h).2 c hc with hc | hc | ⟨d, hd, rfl⟩ | hc
  · exact isSpace_of_isDomainChar hc
  · exact of_decide_eq_true (List.all_eq_true.mp hseps c hc)
  · exact isSpace_digitChar d hd
  · exact hsolid c hc

lemma ascii_normalizeRuleValue (hascii : IsAscii value)
    (h : normalizeRuleValue U value = .ok (kind, v)) : IsAscii v := by
  intro c hc
  have hseps : [':', '.', '%', '/'].all (fun c => c.toNat < 128) = true := by decide
  have hdigits : ∀ d < 16, (Nat.digitChar d).toNat < 128 := by decide
  rcases (normalizeRuleValue_chars hascii h).2 c hc with hc | hc | ⟨d, hd, rfl⟩ | hc
  · exact ascii_of_isDomainChar hc
  · exact of_decide_eq_true (List.all_eq_true.mp hseps c hc)
  · exact hdigits d hd
  · exact hascii c hc

lemma hash_not_mem_normalizeRuleValue (hascii : IsAscii value) (hhash : '#' ∉ value)
    (h : normalizeRuleValue U value = .ok (kind, v)) : '#' ∉ v := by
  intro hc
  have hdigits : ∀ d < 16, '#' ≠ Nat.digitChar d := by decide
  rcases (normalizeRuleValue_chars hascii h).2 _ hc with hc | hc | ⟨d, hd, hc⟩ | hc
  · exact absurd hc (by decide)
  · exact absurd hc (by decide)
  · exact hdigits d hd hc
  · exact hhash hc

end Values

end FwRouter
