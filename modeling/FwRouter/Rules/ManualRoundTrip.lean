import FwRouter.Rules.ReadBack

/-!
# The manual text, validated again

`validate_manual_rules` returns the text that is stored: one line a rule, its action and its value,
without the kind.  Validating that text again should give the rules back.  It does unless a line
states an IPv4 address followed by dots: such a value is taken for a domain, loses its dots, and the
stored text has an address in its place.

`manual_roundTrips_iff` is both directions.  One way, the lines of the stored text state the rules in
their order and no two of them about the same value (`foldl_manualStep_of_read`).  The other way, no
line of the stored text can state the domain again.
-/

namespace FwRouter

open Py Ipaddress

variable {U : Unicode} {S : NetworkSettings}

/-- `(action, kind, value)`. -/
def RuleEntry.statement (r : RuleEntry) : Action × Kind × Text := (r.action, r.kind, r.value)

/-- The line a rule is stored as. -/
def RuleEntry.storedLine (r : RuleEntry) : Text := r.action.text ++ ' ' :: r.value

/-- **The stored text gives the rules back.** -/
def ManualRoundTrips (U : Unicode) (S : NetworkSettings) (text : Text) : Prop :=
  let first := validateManualRules U S text
  let second := validateManualRules U S first.normalizedText
  second.errors = [] ∧
    second.rules.map RuleEntry.statement = first.rules.map RuleEntry.statement ∧
    second.normalizedText = first.normalizedText

/-- An IPv4 address with dots after it. -/
def DottedAddress (part : Text) : Prop :=
  part.getLast? = some '.' ∧ (ipv4Address (part.rdropWhile isDot)).isSome = true

/-- A line that is no comment and has an action before such an address. -/
def StatesDottedAddress (U : Unicode) (line : Text) : Prop :=
  '#' ∉ strip line ∧ ∃ actionPart part, split (strip line) = [actionPart, part] ∧
    (ruleActionAliases.lookup (U.upper (strip actionPart))).isSome = true ∧ DottedAddress part

/-! ## Reading a line -/

/-- What a line that states a rule looks like. -/
lemma readManualLine_eq_ok {line v : Text} {action : Action} {kind : Kind} :
    readManualLine U S line = some (.ok (action, kind, v)) ↔
      '#' ∉ strip line ∧ ∃ actionPart part, split (strip line) = [actionPart, part] ∧
        ruleActionAliases.lookup (U.upper (strip actionPart)) = some action ∧
        normalizeRuleValue U part = .ok (kind, v) ∧
        ¬ (action = .vpn ∧ isProtectedLocal S kind v = true) := by
  constructor
  · intro h
    unfold readManualLine at h
    dsimp only at h
    split_ifs at h with hskip hhash
    · cases h
    · split at h
      · rename_i actionPart part hsplit
        split at h
        · cases h
        · rename_i action' hlookup
          split at h
          · cases h
          · rename_i kind' v' hvalue
            split_ifs at h with hprotected
            · cases h
            · cases h
              exact ⟨hhash, actionPart, part, hsplit, hlookup, hvalue, hprotected⟩
      · cases h
  · rintro ⟨hhash, actionPart, part, hsplit, hlookup, hvalue, hprotected⟩
    have hskip : isSkippedLine (strip line) = false := by
      rw [isSkippedLine, Bool.or_eq_false_iff]
      constructor
      · rw [List.isEmpty_eq_false_iff]
        intro hempty
        rw [hempty] at hsplit
        cases hsplit
      · rw [beq_eq_false_iff_ne]
        exact fun hhead => hhash (List.mem_of_head? hhead)
    unfold readManualLine
    simp only [hskip, hhash, hsplit, hlookup, hvalue, hprotected, if_false, Bool.false_eq_true]

lemma mem_of_mem_split {t w : Text} {c : Char} (hw : w ∈ split t) (hc : c ∈ w) : c ∈ t := by
  have hpieces : ∀ {t : Text}, ∀ w ∈ t.splitOnP isSpace, c ∈ w → c ∈ t := by
    intro t
    induction t with
    | nil => intro w hw hc; simp at hw; simp [hw] at hc
    | cons x t ih =>
        intro w hw hc
        rw [List.splitOnP_cons_eq_if_modifyHead] at hw
        split_ifs at hw
        · rcases List.mem_cons.mp hw with rfl | hw
          · cases hc
          · exact List.mem_cons_of_mem _ (ih w hw hc)
        · cases hs : t.splitOnP isSpace with
          | nil => exact absurd hs (List.splitOnP_ne_nil _ _)
          | cons v vs =>
              rw [hs] at hw ih
              rcases List.mem_cons.mp hw with rfl | hw
              · rcases List.mem_cons.mp hc with rfl | hc
                · exact List.mem_cons_self ..
                · exact List.mem_cons_of_mem _ (ih v (List.mem_cons_self ..) hc)
              · exact List.mem_cons_of_mem _ (ih w (List.mem_cons_of_mem _ hw) hc)
  exact hpieces w (List.mem_filter.mp hw).1 hc

lemma split_pair {a b : Text} (ha : Solid a) (ha' : a ≠ []) (hb : Solid b) (hb' : b ≠ []) :
    split (a ++ ' ' :: b) = [a, b] := by
  rw [split, List.splitOnP_append_cons _ _ (by decide), List.splitOnP_eq_singleton ha,
    List.splitOnP_eq_singleton hb]
  simp [ha', hb']

lemma action_text (action : Action) :
    Solid action.text ∧ action.text ≠ [] ∧ '#' ∉ action.text ∧ IsAscii action.text ∧
      ruleActionAliases.lookup (action.text.map Char.toUpper) = some action := by
  cases action <;> decide +kernel

lemma strip_storedLine {r : RuleEntry} (hsolid : Solid r.value) (hne : r.value ≠ []) :
    strip r.storedLine = r.storedLine := by
  have h := @strip_of_ends r.action.text [' '] r.value (action_text r.action).1
    (action_text r.action).2.1 hsolid hne
  rwa [List.append_assoc] at h

lemma split_storedLine {r : RuleEntry} (hsolid : Solid r.value) (hne : r.value ≠ []) :
    split (strip r.storedLine) = [r.action.text, r.value] := by
  rw [strip_storedLine hsolid hne]
  exact split_pair (action_text r.action).1 (action_text r.action).2.1 hsolid hne

lemma lookup_action (action : Action) :
    ruleActionAliases.lookup (U.upper (strip action.text)) = some action := by
  rcases action_text action with ⟨hsolid, -, -, hascii, hlookup⟩
  rw [strip_solid hsolid, U.upper_ascii _ hascii, hlookup]

/-- **A stored line states its rule**, when its value is normalised to itself. -/
lemma readManualLine_storedLine {r : RuleEntry} (hsolid : Solid r.value) (hne : r.value ≠ [])
    (hhash : '#' ∉ r.value) (hfixed : normalizeRuleValue U r.value = .ok (r.kind, r.value))
    (hchecked : ¬ (r.action = .vpn ∧ isProtectedLocal S r.kind r.value = true)) :
    readManualLine U S r.storedLine = some (.ok r.statement) := by
  refine readManualLine_eq_ok.mpr ⟨?_, _, _, split_storedLine hsolid hne, lookup_action _, hfixed,
    hchecked⟩
  rw [strip_storedLine hsolid hne, RuleEntry.storedLine, List.mem_append, List.mem_cons]
  rintro (h | h | h)
  · exact (action_text r.action).2.2.1 h
  · exact absurd h (by decide)
  · exact hhash h

/-! ## Over the lines -/

/-- After the lines `done`: the rules are stated by lines, no two are about one value, and the table
of `seen` holds just them. -/
structure StatedRules (U : Unicode) (S : NetworkSettings) (done : List Text) (st : ManualState) :
    Prop where
  stated : ∀ r ∈ st.rules, ∃ line ∈ done, readManualLine U S line = some (.ok r.statement)
  complete : ∀ line ∈ done, ∀ action kind v,
    readManualLine U S line = some (.ok (action, kind, v)) →
      ∃ r ∈ st.rules, r.kind = kind ∧ r.value = v
  seen : st.seen = st.rules.map fun r => ((r.kind, r.value), r.action)
  nodup : (st.rules.map fun r => (r.kind, r.value)).Nodup

lemma lookup_seen {st : ManualState}
    (hseen : st.seen = st.rules.map fun r => ((r.kind, r.value), r.action)) {key : Kind × Text} :
    st.seen.lookup key = none ↔ key ∉ st.rules.map fun r => (r.kind, r.value) := by
  rw [hseen, List.lookup_eq_none_iff]
  simp only [List.mem_map, forall_exists_index, and_imp, not_exists, not_and]
  constructor
  · rintro h r hr rfl
    simpa using h _ r hr rfl
  · rintro h p r hr rfl
    simpa using fun heq => h r hr heq.symm

lemma StatedRules.step {done : List Text} {st : ManualState} (h : StatedRules U S done st)
    (line : Text) (number : Nat) :
    StatedRules U S (done ++ [line]) (manualStep U S st (line, number)) := by
  have hstated : ∀ r ∈ st.rules, ∃ l ∈ done ++ [line],
      readManualLine U S l = some (.ok r.statement) := by
    intro r hr
    rcases h.stated r hr with ⟨l, hl, hread⟩
    exact ⟨l, List.mem_append_left _ hl, hread⟩
  -- what the new line states, if it is about a value that has a rule
  have hkept : (∀ action kind v, readManualLine U S line = some (.ok (action, kind, v)) →
      ∃ r ∈ st.rules, r.kind = kind ∧ r.value = v) →
      ∀ l ∈ done ++ [line], ∀ action kind v,
        readManualLine U S l = some (.ok (action, kind, v)) →
          ∃ r ∈ st.rules, r.kind = kind ∧ r.value = v := by
    intro hline l hl action kind v hread
    rcases List.mem_append.mp hl with hl | hl
    · exact h.complete l hl action kind v hread
    · obtain rfl := List.mem_singleton.mp hl
      exact hline action kind v hread
  unfold manualStep
  split
  · rename_i hread
    exact ⟨hstated, hkept (fun a k v hline => by rw [hread] at hline; cases hline), h.seen, h.nodup⟩
  · rename_i e hread
    exact ⟨hstated, hkept (fun a k v hline => by rw [hread] at hline; cases hline), h.seen, h.nodup⟩
  · rename_i action kind value hread
    split
    · rename_i previousAction hseen
      have hline : ∀ a k v, readManualLine U S line = some (.ok (a, k, v)) →
          ∃ r ∈ st.rules, r.kind = k ∧ r.value = v := by
        intro a k v hline
        rw [hread] at hline
        cases hline
        have hmem : (kind, value) ∈ st.rules.map fun r => (r.kind, r.value) := by
          by_contra hnone
          rw [(lookup_seen h.seen).mpr hnone] at hseen
          cases hseen
        rcases List.mem_map.mp hmem with ⟨r, hr, hkey⟩
        exact ⟨r, hr, (Prod.mk.inj hkey).1, (Prod.mk.inj hkey).2⟩
      split_ifs
      · exact ⟨hstated, hkept hline, h.seen, h.nodup⟩
      · exact ⟨hstated, hkept hline, h.seen, h.nodup⟩
    · rename_i hseen
      have hnew := (lookup_seen h.seen).mp hseen
      refine ⟨fun r hr => ?_, fun l hl a k v hline => ?_, ?_, ?_⟩
      · rcases List.mem_append.mp hr with hr | hr
        · exact hstated r hr
        · obtain rfl := List.mem_singleton.mp hr
          exact ⟨line, by simp, hread⟩
      · rcases List.mem_append.mp hl with hl | hl
        · rcases h.complete l hl a k v hline with ⟨r, hr, hkey⟩
          exact ⟨r, List.mem_append_left _ hr, hkey⟩
        · obtain rfl := List.mem_singleton.mp hl
          rw [hread] at hline
          cases hline
          exact ⟨_, List.mem_append_right _ (List.mem_singleton.mpr rfl), rfl, rfl⟩
      · simp [h.seen]
      · rw [List.map_append, List.nodup_append]
        refine ⟨h.nodup, by simp, ?_⟩
        rintro key hkey _ hlast rfl
        rw [List.map_singleton, List.mem_singleton] at hlast
        exact hnew (hlast ▸ hkey)

lemma statedRules_foldl (lines : List Text) :
    StatedRules U S lines ((lines.zipIdx 1).foldl (manualStep U S) ⟨[], [], []⟩) := by
  induction lines using List.reverseRecOn with
  | nil => exact ⟨by simp, by simp, rfl, by simp⟩
  | append_singleton lines line ih =>
      rw [List.zipIdx_append, List.foldl_append]
      exact ih.step line _

/-- Lines that all state rules, about different values, become these rules. -/
lemma foldl_manualStep_of_read {lines : List (Text × Nat)}
    {statements : List (Action × Kind × Text)}
    (hread : List.Forall₂ (fun line s => readManualLine U S line.1 = some (.ok s)) lines statements)
    (st : ManualState) (hseen : st.seen = st.rules.map fun r => ((r.kind, r.value), r.action))
    (hnodup : ((st.rules.map fun r => (r.kind, r.value)) ++ statements.map Prod.snd).Nodup) :
    (lines.foldl (manualStep U S) st).errors = st.errors ∧
      (lines.foldl (manualStep U S) st).rules.map RuleEntry.statement =
        st.rules.map RuleEntry.statement ++ statements := by
  induction hread generalizing st with
  | nil => simp
  | @cons line s lines statements hline _ ih =>
      rcases s with ⟨action, kind, value⟩
      have hnew : (kind, value) ∉ st.rules.map fun r => (r.kind, r.value) := by
        intro hmem
        exact (List.nodup_append.mp hnodup).2.2 _ hmem _ (List.mem_cons_self ..) rfl
      have hstep : manualStep U S st line =
          { st with
            seen := st.seen ++ [((kind, value), action)]
            rules := st.rules ++ [⟨action, kind, value, some line.2, .manual⟩] } := by
        rw [manualStep, hline]
        dsimp only
        rw [(lookup_seen hseen).mpr hnew]
      rw [List.foldl_cons, hstep]
      have ih := ih
        { st with
          seen := st.seen ++ [((kind, value), action)]
          rules := st.rules ++ [⟨action, kind, value, some line.2, .manual⟩] }
        (by simp [hseen]) (by simpa using hnodup)
      refine ⟨ih.1, ?_⟩
      rw [ih.2]
      simp [RuleEntry.statement]

/-! ## Dotted addresses -/

lemma octet_of_parseOctet {l : Text} {n : Nat} (h : parseOctet l = some n) :
    l ≠ [] ∧ l.length ≤ 3 ∧ ∀ c ∈ l, c.isDigit = true := by
  unfold parseOctet at h
  split_ifs at h with hempty hdigits hlength
  simp only [List.isEmpty_iff] at hempty
  simp only [Bool.not_eq_true', Bool.not_eq_false, List.all_eq_true] at hdigits
  exact ⟨hempty, by omega, hdigits⟩

lemma octets_of_ipv4Address {v : Text} (h : (ipv4Address v).isSome = true) :
    (v.splitOn '.').length = 4 ∧
      ∀ l ∈ v.splitOn '.', l ≠ [] ∧ l.length ≤ 3 ∧ ∀ c ∈ l, c.isDigit = true := by
  rcases Option.isSome_iff_exists.mp h with ⟨a, ha⟩
  rcases Option.bind_eq_some_iff.mp ha with ⟨n, hn, -⟩
  unfold ipv4FromString at hn
  split at hn
  · rename_i a b c d hparts
    simp only [Option.bind_eq_bind, Option.bind_eq_some_iff] at hn
    rcases hn with ⟨_, ha, _, hb, _, hc, _, hd, _⟩
    rw [hparts]
    refine ⟨rfl, fun l hl => ?_⟩
    simp only [List.mem_cons, List.not_mem_nil, or_false] at hl
    rcases hl with rfl | rfl | rfl | rfl
    · exact octet_of_parseOctet ha
    · exact octet_of_parseOctet hb
    · exact octet_of_parseOctet hc
    · exact octet_of_parseOctet hd
  · cases hn

lemma isLowerAlnum_of_isDigit {c : Char} (h : c.isDigit = true) : isLowerAlnum c = true := by
  have hcode : 48 ≤ c.toNat ∧ c.toNat ≤ 57 := by
    simpa [Char.isDigit, UInt32.le_iff_toNat_le] using h
  have hrange : '0' ≤ c ∧ c ≤ '9' := hcode
  simp [isLowerAlnum, hrange.1, hrange.2]

/-- A spelled address has the shape of a domain. -/
lemma matchesDomainRe_of_ipv4Address {v : Text} (h : (ipv4Address v).isSome = true) :
    matchesDomainRe v = true := by
  rcases octets_of_ipv4Address h with ⟨hlength, hoctets⟩
  have hlabel : ∀ l ∈ v.splitOn '.', matchesDomainLabelRe l = true := by
    intro l hl
    rcases hoctets l hl with ⟨hne, hthree, hdigits⟩
    simp only [matchesDomainLabelRe, Bool.and_eq_true, decide_eq_true_eq, List.all_eq_true]
    refine ⟨⟨⟨by omega, ?_⟩, ?_⟩, fun c hc => ?_⟩
    · rw [List.head?_eq_some_head hne]
      exact isLowerAlnum_of_isDigit (hdigits _ (List.head_mem hne))
    · rw [List.getLast?_eq_some_getLast hne]
      exact isLowerAlnum_of_isDigit (hdigits _ (List.getLast_mem hne))
    · rw [isLowerAlnum_of_isDigit (hdigits c hc), Bool.true_or]
  have hshort : v.length ≤ 253 := by
    rcases List.length_eq_four.mp hlength with ⟨a, b, c, d, hparts⟩
    have hjoin : ['.'].intercalate (v.splitOn '.') = v := List.intercalate_splitOn '.'
    rw [hparts] at hjoin hoctets
    have ha := (hoctets a (by simp)).2.1
    have hb := (hoctets b (by simp)).2.1
    have hc := (hoctets c (by simp)).2.1
    have hd := (hoctets d (by simp)).2.1
    rw [← hjoin]
    simp only [List.intercalate_cons_cons, List.intercalate_singleton, List.length_append,
      List.length_cons, List.length_nil]
    omega
  simp only [matchesDomainRe, Bool.and_eq_true, decide_eq_true_eq, List.all_eq_true]
  exact ⟨⟨hshort, by omega⟩, hlabel⟩

lemma rdropWhile_append_dots (part : Text) :
    ∃ dots : Text, part = part.rdropWhile isDot ++ dots ∧ ∀ c ∈ dots, c = '.' := by
  refine ⟨part.rtakeWhile isDot, ?_, fun c hc => ?_⟩
  · exact List.rdropWhile_append_rtakeWhile.symm
  · simpa [isDot] using List.mem_rtakeWhile_imp hc

/-- An address that reads and lost its dots was lowered from itself. -/
lemma lower_eq_of_digits {U : Unicode} {part : Text} (hascii : IsAscii part)
    (h : ∀ c ∈ U.lower part, c.isDigit = true ∨ c = '.') : U.lower part = part := by
  rw [U.lower_ascii _ hascii] at h ⊢
  conv_rhs => rw [← List.map_id part]
  refine List.map_congr_left fun c hc => ?_
  have hlow := h _ (List.mem_map_of_mem hc)
  by_cases hup : c.isUpper
  · exfalso
    have hlower : c.toLower.isLower := by
      rw [Char.isLower_toLower_eq_isAlpha, Char.isAlpha, hup, Bool.true_or]
    have hcode : 97 ≤ c.toLower.toNat ∧ c.toLower.toNat ≤ 122 := by
      simpa [Char.isLower, UInt32.le_iff_toNat_le] using hlower
    rcases hlow with hdigit | hdot
    · have hdigit : 48 ≤ c.toLower.toNat ∧ c.toLower.toNat ≤ 57 := by
        simpa [Char.isDigit, UInt32.le_iff_toNat_le] using hdigit
      omega
    · rw [hdot] at hcode
      exact absurd hcode (by decide)
  · exact Char.toLower_eq_of_not_isUpper (by simpa using hup)

lemma ipv4Address_append_dot (t : Text) : ipv4Address (t ++ ['.']) = none := by
  by_contra hsome
  have h := (octets_of_ipv4Address (Option.ne_none_iff_isSome.mp hsome)).2
  rw [List.splitOn_append_cons_self] at h
  exact (h [] (by simp)).1 rfl

lemma chars_of_dottedAddress {part : Text} (h : DottedAddress part) :
    ∀ c ∈ part, c.isDigit = true ∨ c = '.' := by
  rcases Option.isSome_iff_exists.mp h.2 with ⟨a, ha⟩
  rcases Option.bind_eq_some_iff.mp ha with ⟨n, hn, -⟩
  rcases rdropWhile_append_dots part with ⟨dots, hpart, hdots⟩
  intro c hc
  rw [hpart] at hc
  rcases List.mem_append.mp hc with hc | hc
  · exact mem_of_ipv4FromString hn c hc
  · exact Or.inr (hdots c hc)

lemma isDomainChar_of_digit {c : Char} (h : c.isDigit = true ∨ c = '.') :
    isDomainChar c = true := by
  rcases h with h | rfl
  · rw [isDomainChar, isLowerAlnum_of_isDigit h]
    rfl
  · rfl

/-- **An address followed by dots is taken for a domain** and loses the dots. -/
lemma normalizeRuleValue_dottedAddress {part : Text} (h : DottedAddress part) :
    normalizeRuleValue U part = .ok (.domain, part.rdropWhile isDot) := by
  have hchars : ∀ c ∈ part, isDomainChar c = true := fun c hc =>
    isDomainChar_of_digit (chars_of_dottedAddress h c hc)
  have hascii : IsAscii part := fun c hc => ascii_of_isDomainChar (hchars c hc)
  rcases List.getLast?_eq_some_iff.mp h.1 with ⟨rest, hrest⟩
  have h4 : ipv4Address part = none := by
    rw [hrest]
    exact ipv4Address_append_dot rest
  have h6 := ipv6Address_eq_none (not_mem_domain hchars (x := ':') (by decide))
  have hslash : '/' ∉ part := not_mem_domain hchars (by decide)
  have hnet := ipNetwork_eq_none hslash h4 h6
  rcases octets_of_ipv4Address h.2 with ⟨hlength, hoctets⟩
  have hlabels : ∀ l ∈ (part.rdropWhile isDot).splitOn '.', l ≠ [] := fun l hl => (hoctets l hl).1
  have hhead : part.head? ≠ some '.' := by
    rcases rdropWhile_append_dots part with ⟨dots, hpart, -⟩
    rw [hpart, List.head?_append_of_ne_nil _ (head_of_labels hlabels).1]
    exact (head_of_labels hlabels).2
  have hne : part ≠ [] := by
    rw [hrest]
    simp
  have hlower : U.lower part = part := by
    refine lower_eq_of_digits hascii fun c hc => ?_
    rw [U.lower_ascii _ hascii] at hc
    rcases List.mem_map.mp hc with ⟨x, hx, rfl⟩
    rw [toLower_of_isDomainChar (hchars x hx)]
    exact chars_of_dottedAddress h x hx
  have hstrip : strip part = part := strip_solid fun c hc => isSpace_of_isDomainChar (hchars c hc)
  have hname : normalizeDomainName U part false = some (part.rdropWhile isDot) := by
    have henc : ((part.rdropWhile isDot).splitOn '.').mapM U.idnaEncode =
        some ((part.rdropWhile isDot).splitOn '.') := by
      refine Run.mapM_eq_some.mpr (List.forall₂_same.mpr fun l hl => ?_)
      have hlAscii : IsAscii l := fun c hc =>
        ascii_of_isDomainChar (isDomainChar_of_digit (Or.inl ((hoctets l hl).2.2 c hc)))
      rw [U.idnaEncode_ascii l hlAscii, if_pos]
      have := (hoctets l hl).2.1
      omega
    have hany : ((part.rdropWhile isDot).splitOn '.').any List.isEmpty = false := by
      rw [List.any_eq_false]
      exact fun l hl hempty => hlabels l hl (List.isEmpty_iff.mp hempty)
    rw [normalizeDomainName, hstrip, hlower]
    simp only [List.isEmpty_iff, (head_of_labels hlabels).1, hany, henc, if_false,
      Bool.false_eq_true, Option.bind_some, Bool.false_and, List.intercalate_splitOn,
      matchesDomainRe_of_ipv4Address h.2, if_true]
  rw [normalizeRuleValue, hstrip]
  simp [ipAddress, h4, h6, hnet, hne, hhead, hslash, hname]

/-- **Which lines leave an address among the domains.** -/
lemma states_domain_iff {line : Text} (hascii : IsAscii line) :
    (∃ action v, readManualLine U S line = some (.ok (action, .domain, v)) ∧
      (ipv4Address v).isSome = true) ↔ StatesDottedAddress U line := by
  constructor
  · rintro ⟨action, v, hread, h4⟩
    rcases readManualLine_eq_ok.mp hread with ⟨hhash, actionPart, part, hsplit, hlookup, hvalue, -⟩
    refine ⟨hhash, actionPart, part, hsplit, by rw [hlookup]; rfl, ?_⟩
    have hword : part ∈ split (strip line) := by simp [hsplit]
    have hstrip : strip part = part := strip_solid (solid_of_mem_split hword).1
    have hpartAscii : IsAscii part := fun c hc =>
      hascii c (mem_of_mem_stripBy (mem_of_mem_split hword hc))
    rcases normalizeRuleValue_cases hvalue with ⟨_, _, hkind, _⟩ | ⟨_, _, hkind, _⟩ |
      ⟨_, _, hkind, _⟩ | ⟨haddress, -, hname, -⟩
    · cases hkind
    · cases hkind
    · cases hkind
    · rw [hstrip] at haddress hname
      have hv : v = (U.lower part).rdropWhile isDot := by
        unfold normalizeDomainName at hname
        dsimp only at hname
        rw [hstrip] at hname
        split_ifs at hname
        rw [Option.bind_eq_some_iff] at hname
        rcases hname with ⟨_, -, hname⟩
        split_ifs at hname <;> simpa using hname.symm
      have hlower : U.lower part = part := by
        refine lower_eq_of_digits hpartAscii fun c hc => ?_
        rcases Option.isSome_iff_exists.mp h4 with ⟨a, ha⟩
        rcases Option.bind_eq_some_iff.mp ha with ⟨n, hn, -⟩
        rcases rdropWhile_append_dots (U.lower part) with ⟨dots, hlow, hdots⟩
        rw [hlow, ← hv] at hc
        rcases List.mem_append.mp hc with hc | hc
        · exact mem_of_ipv4FromString hn c hc
        · exact Or.inr (hdots c hc)
      rw [hlower] at hv
      refine ⟨?_, hv ▸ h4⟩
      -- without a dot at its end the word would have been read as the address
      by_contra hlast
      have hkeep : part.rdropWhile isDot = part := by
        rw [List.rdropWhile_eq_self_iff]
        intro hne hdot
        refine hlast ?_
        rw [List.getLast?_eq_some_getLast hne, show part.getLast hne = '.' by simpa [isDot] using hdot]
      rw [hv, hkeep] at h4
      rw [ipAddress] at haddress
      rcases Option.isSome_iff_exists.mp h4 with ⟨a, ha⟩
      rw [ha] at haddress
      cases haddress
  · rintro ⟨hhash, actionPart, part, hsplit, hlookup, hdotted⟩
    rcases Option.isSome_iff_exists.mp hlookup with ⟨action, haction⟩
    refine ⟨action, part.rdropWhile isDot, readManualLine_eq_ok.mpr ⟨hhash, actionPart, part, hsplit,
      haction, normalizeRuleValue_dottedAddress hdotted, ?_⟩, hdotted.2⟩
    rintro ⟨-, hprotected⟩
    rw [isProtectedLocal, networkForRule] at hprotected
    have hlocal : part.rdropWhile isDot = "localhost".toList := by
      simpa [protectedServiceDomains] using hprotected
    have h4 := hdotted.2
    rw [hlocal] at h4
    exact absurd h4 (by decide +kernel)

/-! ## The text validated again -/

lemma ascii_of_mem_splitlines {text : Text} (hascii : IsAscii text) {line : Text}
    (hline : line ∈ splitlines text) : IsAscii line :=
  fun c hc => hascii c (mem_of_mem_splitlines hline hc)

/-- What a rule of the manual text was read from. -/
lemma statedRules (U : Unicode) (S : NetworkSettings) (text : Text) :
    StatedRules U S (splitlines text)
      (((splitlines text).zipIdx 1).foldl (manualStep U S) ⟨[], [], []⟩) :=
  statedRules_foldl _

/-- The value of a rule, as it stands on the stored line. -/
lemma value_of_stated {line : Text} {r : RuleEntry} (hascii : IsAscii line)
    (hread : readManualLine U S line = some (.ok r.statement)) :
    Solid r.value ∧ r.value ≠ [] ∧ '#' ∉ r.value ∧ IsAscii r.value ∧
      (¬ (r.action = .vpn ∧ isProtectedLocal S r.kind r.value = true)) ∧
      ((r.kind = .domain → ipv4Address r.value = none) →
        normalizeRuleValue U r.value = .ok (r.kind, r.value)) := by
  rcases readManualLine_eq_ok.mp hread with ⟨hhash, actionPart, part, hsplit, -, hvalue, hchecked⟩
  have hword : part ∈ split (strip line) := by simp [hsplit]
  have hsolid := (solid_of_mem_split hword).1
  have hpartAscii : IsAscii part := fun c hc =>
    hascii c (mem_of_mem_stripBy (mem_of_mem_split hword hc))
  have hpartHash : '#' ∉ part := fun hc => hhash (mem_of_mem_split hword hc)
  exact ⟨solid_normalizeRuleValue hpartAscii hsolid hvalue,
    (normalizeRuleValue_chars hpartAscii hvalue).1,
    hash_not_mem_normalizeRuleValue hpartAscii hpartHash hvalue,
    ascii_normalizeRuleValue hpartAscii hvalue, hchecked,
    normalizeRuleValue_fixed hpartAscii hsolid hvalue⟩

section Main

variable {text : Text}

lemma splitlines_stored (hascii : IsAscii text) :
    splitlines (validateManualRules U S text).normalizedText =
      (validateManualRules U S text).rules.map RuleEntry.storedLine := by
  refine splitlines_joinLines fun l hl => ?_
  rcases List.mem_map.mp hl with ⟨r, hr, rfl⟩
  rcases (statedRules U S text).stated r hr with ⟨line, hline, hread⟩
  rcases value_of_stated (ascii_of_mem_splitlines hascii hline) hread with ⟨hsolid, -⟩
  refine ⟨by simp, fun c hc => ?_⟩
  rcases List.mem_append.mp hc with hc | hc
  · exact noLineBreak_of_solid (action_text r.action).1 c hc
  · rcases List.mem_cons.mp hc with rfl | hc
    · decide
    · exact noLineBreak_of_solid hsolid c hc

/-- When every value reads as what it was, the rules come back. -/
lemma manualRoundTrips_of_fixed (hascii : IsAscii text)
    (hfixed : ∀ r ∈ (validateManualRules U S text).rules, r.kind = .domain →
      ipv4Address r.value = none) : ManualRoundTrips U S text := by
  have hinv := statedRules U S text
  have hread : List.Forall₂
      (fun (line : Text × Nat) s => readManualLine U S line.1 = some (.ok s))
      (((validateManualRules U S text).rules.map RuleEntry.storedLine).zipIdx 1)
      ((validateManualRules U S text).rules.map RuleEntry.statement) := by
    have hlines : List.Forall₂ (fun line s => readManualLine U S line = some (.ok s))
        ((validateManualRules U S text).rules.map RuleEntry.storedLine)
        ((validateManualRules U S text).rules.map RuleEntry.statement) := by
      rw [List.forall₂_map_left_iff, List.forall₂_map_right_iff, List.forall₂_same]
      intro r hr
      rcases hinv.stated r hr with ⟨line, hline, hread⟩
      rcases value_of_stated (ascii_of_mem_splitlines hascii hline) hread
        with ⟨hsolid, hne, hhash, -, hchecked, hagain⟩
      exact readManualLine_storedLine hsolid hne hhash (hagain (hfixed r hr)) hchecked
    rw [← List.zipIdx_map_fst 1 (List.map _ _)] at hlines
    exact List.forall₂_map_left_iff.mp hlines
  have hnodup : ((validateManualRules U S text).rules.map fun r => (r.kind, r.value)).Nodup :=
    hinv.nodup
  have hfold := foldl_manualStep_of_read hread ⟨[], [], []⟩ rfl
    (by simpa [RuleEntry.statement, Function.comp_def] using hnodup)
  rw [← splitlines_stored hascii] at hfold
  have hrules : (validateManualRules U S
      (validateManualRules U S text).normalizedText).rules.map RuleEntry.statement =
      (validateManualRules U S text).rules.map RuleEntry.statement := hfold.2
  refine ⟨hfold.1, hrules, ?_⟩
  have hstored : ∀ t : Text, (validateManualRules U S t).normalizedText =
      joinLines (((validateManualRules U S t).rules.map RuleEntry.statement).map
        fun s => s.1.text ++ ' ' :: s.2.2) := by
    intro t
    rw [List.map_map]
    rfl
  rw [hstored (validateManualRules U S text).normalizedText, hrules, ← hstored]

/-- When they come back, no domain among them spells an address: no stored line states it. -/
lemma fixed_of_manualRoundTrips (hascii : IsAscii text) (h : ManualRoundTrips U S text) :
    ∀ r ∈ (validateManualRules U S text).rules, r.kind = .domain → ipv4Address r.value = none := by
  intro r hr hkind
  by_contra h4
  have hmem : r.statement ∈ (validateManualRules U S
      (validateManualRules U S text).normalizedText).rules.map RuleEntry.statement := by
    rw [h.2.1]
    exact List.mem_map_of_mem hr
  rcases List.mem_map.mp hmem with ⟨again, hagain, hsame⟩
  rcases (statedRules U S _).stated again hagain with ⟨line, hline, hread⟩
  rw [splitlines_stored hascii] at hline
  rcases List.mem_map.mp hline with ⟨origin, horigin, rfl⟩
  rcases (statedRules U S text).stated origin horigin with ⟨line', hline', hread'⟩
  rcases value_of_stated (ascii_of_mem_splitlines hascii hline') hread'
    with ⟨hsolid, hne, -, -, -, hfixed⟩
  rcases readManualLine_eq_ok.mp hread with ⟨-, actionPart, part, hsplit, -, hvalue, -⟩
  rw [split_storedLine hsolid hne] at hsplit
  cases hsplit
  have hdomain : again.kind = .domain := by
    rw [show again.kind = r.kind from congrArg (fun s => s.2.1) hsame, hkind]
  have hvalue4 : ipv4Address again.value ≠ none := by
    rwa [show again.value = r.value from congrArg (fun s => s.2.2) hsame]
  by_cases hspelled : origin.kind = .domain ∧ ipv4Address origin.value ≠ none
  · -- the stored word is the address itself
    rcases normalizeRuleValue_cases hvalue with ⟨_, _, hk, _⟩ | ⟨_, _, hk, _⟩ | ⟨_, _, hk, _⟩ |
      ⟨haddress, -⟩
    · rw [hdomain] at hk; cases hk
    · rw [hdomain] at hk; cases hk
    · rw [hdomain] at hk; cases hk
    · rw [strip_solid hsolid, ipAddress] at haddress
      rcases Option.ne_none_iff_exists'.mp hspelled.2 with ⟨a, ha⟩
      rw [ha] at haddress
      cases haddress
  · -- any other stored word is read as what it was
    push Not at hspelled
    rw [hfixed hspelled] at hvalue
    simp only [Except.ok.injEq, Prod.mk.injEq] at hvalue
    rw [← hvalue.1] at hdomain
    rw [← hvalue.2] at hvalue4
    exact hvalue4 (hspelled hdomain)

/-- **When the manual text round-trips.**  For every ASCII text: the stored text gives the rules back
exactly when no line states an IPv4 address followed by dots. -/
theorem manual_roundTrips_iff (U : Unicode) (S : NetworkSettings) (hascii : IsAscii text) :
    ManualRoundTrips U S text ↔ ∀ line ∈ splitlines text, ¬ StatesDottedAddress U line := by
  have hinv := statedRules U S text
  constructor
  · intro h line hline hdotted
    rcases (states_domain_iff (ascii_of_mem_splitlines hascii hline)).mpr hdotted
      with ⟨action, v, hread, h4⟩
    rcases hinv.complete line hline _ _ _ hread with ⟨r, hr, hkind, rfl⟩
    rw [fixed_of_manualRoundTrips hascii h r hr hkind] at h4
    cases h4
  · intro h
    refine manualRoundTrips_of_fixed hascii fun r hr hkind => ?_
    by_contra h4
    rcases hinv.stated r hr with ⟨line, hline, hread⟩
    rw [RuleEntry.statement, hkind] at hread
    exact h line hline ((states_domain_iff (ascii_of_mem_splitlines hascii hline)).mp
      ⟨_, _, hread, Option.ne_none_iff_isSome.mp h4⟩)

/-- **Two lines of an ordinary text.** -/
theorem manual_roundTrips_ordinary :
    ManualRoundTrips .ascii .unset "vpn Example.org\ndirect 8.8.8.8\n".toList :=
  (manual_roundTrips_iff .ascii .unset (by decide +kernel)).mpr (by
    intro line hline
    rw [show splitlines "vpn Example.org\ndirect 8.8.8.8\n".toList =
      ["vpn Example.org".toList, "direct 8.8.8.8".toList] by decide +kernel] at hline
    rintro ⟨-, actionPart, part, hsplit, -, hlast, -⟩
    rcases List.mem_pair.mp hline with rfl | rfl
    · rw [show split (strip "vpn Example.org".toList) = ["vpn".toList, "Example.org".toList] by
        decide +kernel] at hsplit
      cases hsplit
      exact absurd hlast (by decide +kernel)
    · rw [show split (strip "direct 8.8.8.8".toList) = ["direct".toList, "8.8.8.8".toList] by
        decide +kernel] at hsplit
      cases hsplit
      exact absurd hlast (by decide +kernel))

/-- **A trailing dot changes the kind.**  The stored text has the address where the rule was about a
domain. -/
theorem dotted_address_not_roundTrips :
    (validateManualRules .ascii .unset "DIRECT 1.2.3.4.".toList).rules =
      [⟨.direct, .domain, "1.2.3.4".toList, some 1, .manual⟩] ∧
    (validateManualRules .ascii .unset "DIRECT 1.2.3.4.".toList).normalizedText =
      "DIRECT 1.2.3.4\n".toList ∧
    (validateManualRules .ascii .unset "DIRECT 1.2.3.4\n".toList).rules =
      [⟨.direct, .ip, "1.2.3.4".toList, some 1, .manual⟩] ∧
    ¬ ManualRoundTrips .ascii .unset "DIRECT 1.2.3.4.".toList :=
  ⟨by decide +kernel, by decide +kernel, by decide +kernel,
    fun h => absurd h.2.1 (by decide +kernel)⟩

end Main

end FwRouter
