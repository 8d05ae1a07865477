import FwRouter.Traffic.Record

/-!
# Counter names and their subjects

The renderer folds the id of a subject into the name of its nft counters, and the accounting has
to find the subject again from the name.  Folding loses characters, so the reader first guesses an
id from the name and then searches the live subjects for one that folds to the same slug.

Where the guess folds back to the slug, the search cannot miss (`suffix_subjectOfCounterName`).  It
does not for a `tailscale_…` name without the `node_` marker, and a guess that begins with
`fwrouter:` never reaches the search: the subject it names is created instead.  These, and an id
that folds to nothing, are all the ids whose counters go astray: `counter_attributed_iff`.
-/

namespace FwRouter.Traffic

open Py KeyedTable

/-- The non-ASCII characters that `str.lower` maps into ASCII become letters or digits there (the
Kelvin sign becomes `k`). -/
def LowersToAlnum (U : Unicode) : Prop :=
  ∀ c : Char, 128 ≤ c.toNat → ∀ x ∈ U.lower [c], x.toNat < 128 → x.isLower ∨ x.isDigit

/-! ## Cutting suffixes -/

lemma cutPrefix_eq_some_iff {p t r : Text} : cutPrefix p t = some r ↔ t = p ++ r := by
  rw [cutPrefix]
  split_ifs with h
  · rw [List.isPrefixOf_iff_prefix] at h
    obtain ⟨u, rfl⟩ := h
    simp [eq_comm]
  · rw [List.isPrefixOf_iff_prefix] at h
    constructor
    · intro e
      exact absurd e (by simp)
    · rintro rfl
      exact absurd (List.prefix_append p r) h

lemma cutPrefix_eq_none_iff {p t : Text} : cutPrefix p t = none ↔ ¬p <+: t := by
  rw [cutPrefix]
  split_ifs with h <;> rw [List.isPrefixOf_iff_prefix] at h <;> simp [h]

lemma cutSuffix_append (x s : Text) : cutSuffix s (x ++ s) = some x := by
  rw [cutSuffix, if_pos (List.isSuffixOf_iff_suffix.mpr (List.suffix_append x s))]
  simp

/-- Two ends neither of which ends in the other cannot both be cut. -/
lemma cutSuffix_append_of_not_suffix {x s r : Text} (hsr : ¬s <:+ r) (hrs : ¬r <:+ s) :
    cutSuffix s (x ++ r) = none := by
  rw [cutSuffix, if_neg]
  rw [List.isSuffixOf_iff_suffix]
  intro h
  rcases le_total s.length r.length with hl | hl
  · exact hsr (List.suffix_of_suffix_length_le h (List.suffix_append x r) hl)
  · exact hrs (List.suffix_of_suffix_length_le (List.suffix_append x r) h hl)

/-! ## Stripping -/

lemma stripBy_of_ends {p : Char → Bool} {t : Text}
    (h : ∀ hne : t ≠ [], p (t.head hne) = false ∧ p (t.getLast hne) = false) :
    stripBy p t = t := by
  cases t with
  | nil => rfl
  | cons c t =>
      obtain ⟨hhead, hlast⟩ := h (by simp)
      have hd : (c :: t).dropWhile p = c :: t := by
        rw [List.head_cons] at hhead
        simp [hhead]
      rw [stripBy, hd, List.rdropWhile_eq_self_iff]
      intro hne
      simp [hlast]

lemma stripBy_ends {p : Char → Bool} {t : Text} (hne : stripBy p t ≠ []) :
    p ((stripBy p t).head hne) = false ∧ p ((stripBy p t).getLast hne) = false := by
  refine ⟨?_, Bool.eq_false_of_not_eq_true (List.rdropWhile_last_not p _ hne)⟩
  obtain ⟨u, hu⟩ : stripBy p t <+: t.dropWhile p := List.rdropWhile_prefix p (t.dropWhile p)
  have hdrop : t.dropWhile p ≠ [] := by
    intro h
    rw [h] at hu
    exact hne (List.append_eq_nil_iff.mp hu).1
  have hhead : (t.dropWhile p).head hdrop = (stripBy p t).head hne := by
    simp only [← hu, List.head_append_of_ne_nil hne]
  rw [← hhead]
  exact List.head_dropWhile_not p hdrop

/-! ## Slugs -/

/-- The slug of an ASCII name: what one character becomes. -/
def slugChar (c : Char) : Char := if c.isAlphanum then c.toLower else '_'

/-- The characters a slug may hold: `slugChar` leaves them alone. -/
def IsSlug (t : Text) : Prop := ∀ c ∈ t, c = '_' ∨ c.isLower ∨ c.isDigit

lemma slug_ascii {c : Char} (h : c = '_' ∨ c.isLower ∨ c.isDigit) :
    c.toNat < 128 ∧ isSpace c = false ∧ c.isUpper = false := by
  rcases h with rfl | h
  · decide
  · have hcode : (97 ≤ c.toNat ∧ c.toNat ≤ 122) ∨ (48 ≤ c.toNat ∧ c.toNat ≤ 57) := by
      simpa [Char.isLower, Char.isDigit, UInt32.le_iff_toNat_le] using h
    have hspace : ∀ k ∈ spaceCodes, ¬((97 ≤ k ∧ k ≤ 122) ∨ (48 ≤ k ∧ k ≤ 57)) := by decide
    refine ⟨by omega, ?_, ?_⟩
    · by_contra hs
      exact hspace c.toNat (by simpa [isSpace] using hs) hcode
    · by_contra hu
      have : 65 ≤ c.toNat ∧ c.toNat ≤ 90 := by
        simpa [Char.isUpper, UInt32.le_iff_toNat_le] using hu
      omega

lemma slugChar_slug {c : Char} (h : c = '_' ∨ c.isLower ∨ c.isDigit) : slugChar c = c := by
  rw [slugChar]
  split_ifs with ha
  · exact Char.toLower_eq_of_not_isUpper (by simp [(slug_ascii h).2.2])
  · rcases h with rfl | h
    · rfl
    · simp only [Char.isAlphanum, Char.isAlpha, Bool.or_eq_true, not_or] at ha
      rcases h with h | h
      · exact absurd h ha.1.2
      · exact absurd h ha.2

lemma suffix_of_ascii (U : Unicode) {t : Text} (h : IsAscii t) :
    counterSubjectSuffix U t = stripBy (· == '_') (t.map slugChar) := by
  rw [counterSubjectSuffix]
  congr 1
  induction t with
  | nil => rfl
  | cons c t ih =>
      have hc : c.toNat < 128 := h c (by simp)
      have hlow : U.lower [c] = [c.toLower] := U.lower_ascii [c] fun x hx => by
        rw [List.mem_singleton.mp hx]
        exact hc
      rw [List.flatMap_cons, ih fun x hx => h x (by simp [hx]), U.isAlnum_ascii c hc, hlow,
        List.map_cons, slugChar]
      split_ifs <;> rfl

lemma isSlug_suffix {U : Unicode} (hU : LowersToAlnum U) {t : Text}
    (h : IsAscii (counterSubjectSuffix U t)) : IsSlug (counterSubjectSuffix U t) := by
  intro x hx
  have hx128 := h x hx
  obtain ⟨c, -, hc⟩ := List.mem_flatMap.mp (mem_of_mem_stripBy hx)
  split_ifs at hc with ha
  · right
    by_cases hc128 : c.toNat < 128
    · rw [U.isAlnum_ascii c hc128] at ha
      rw [U.lower_ascii [c] fun y hy => by rwa [List.mem_singleton.mp hy]] at hc
      obtain rfl : x = c.toLower := by simpa using hc
      by_cases hup : c.isUpper
      · left
        rw [Char.isLower_toLower_eq_isAlpha, Char.isAlpha, hup, Bool.true_or]
      · rw [Char.toLower_eq_of_not_isUpper hup]
        simpa [Char.isAlphanum, Char.isAlpha, hup] using ha
    · exact hU c (by omega) x hc hx128
  · left
    simpa using hc

lemma stripBy_suffix (U : Unicode) (t : Text) :
    stripBy (· == '_') (counterSubjectSuffix U t) = counterSubjectSuffix U t :=
  stripBy_of_ends fun hne => stripBy_ends hne

/-- Putting any separator for the underscores of a slug is undone by folding. -/
lemma map_slugChar_replaceChar {x : Char} (hx : slugChar x = '_') {t : Text} (h : IsSlug t) :
    (replaceChar '_' x t).map slugChar = t := by
  induction t with
  | nil => rfl
  | cons c t ih =>
      have hrest := ih fun d hd => h d (by simp [hd])
      rw [replaceChar] at hrest
      rw [replaceChar, List.map_cons, List.map_cons, hrest]
      split_ifs with hc
      · rw [hx, hc]
      · rw [slugChar_slug (h c (by simp))]

lemma isAscii_replaceChar {x : Char} (hx : x.toNat < 128) {t : Text} (h : IsSlug t) :
    IsAscii (replaceChar '_' x t) := by
  intro c hc
  obtain ⟨d, hd, rfl⟩ := List.mem_map.mp hc
  split_ifs
  · exact hx
  · exact (slug_ascii (h d hd)).1

lemma IsSlug.solid {t : Text} (h : IsSlug t) : Solid t := fun c hc => (slug_ascii (h c hc)).2.1

lemma IsSlug.of_append {a b : Text} (h : IsSlug (a ++ b)) : IsSlug a ∧ IsSlug b :=
  ⟨fun c hc => h c (by simp [hc]), fun c hc => h c (by simp [hc])⟩

/-! ## The guess -/

/-- The prefixes whose guess is one substitution. -/
def plainPrefixes : List (Text × Text) :=
  [("lan_".toList, "lan:".toList), ("host_".toList, "host:".toList),
    ("docker_".toList, "docker:".toList), ("xray_".toList, "xray:".toList),
    ("fwrouter_".toList, "fwrouter:".toList)]

lemma plain_of_mem_counterNamePrefixes : ∀ e ∈ counterNamePrefixes,
    (e.1 = "tailscale_".toList ∧ e.2 = "tailscale-node:".toList) ∨
      e.1 ≠ "tailscale_".toList ∧ e ∈ plainPrefixes := by decide

/-- The four ways to guess a subject from a name. -/
lemma subjectOfCounterName_cases (name : Text) :
    (∃ pre sub rest, (pre, sub) ∈ plainPrefixes ∧ name = pre ++ rest ∧
      subjectOfCounterName name = sub ++ replaceChar '_' '-' rest) ∨
    (∃ rest, name = "tailscale_node_".toList ++ rest ∧
      subjectOfCounterName name = "tailscale-node:".toList ++ replaceChar '_' '-' rest) ∨
    (∃ rest, name = "tailscale_".toList ++ rest ∧ ¬"node_".toList <+: rest ∧
      subjectOfCounterName name = "tailscale-node:".toList ++ replaceChar '_' '-' rest) ∨
    (∀ e ∈ counterNamePrefixes, ¬e.1 <+: name) ∧
      subjectOfCounterName name = replaceChar '_' ':' name := by
  cases hfind : counterNamePrefixes.findSome? (guessFrom name) with
  | none =>
      refine Or.inr (Or.inr (Or.inr ⟨fun e he => ?_, by rw [subjectOfCounterName, hfind]; rfl⟩))
      have := List.findSome?_eq_none_iff.mp hfind e he
      rwa [guessFrom, Option.map_eq_none_iff, cutPrefix_eq_none_iff] at this
  | some guess =>
      have hname : subjectOfCounterName name = guess := by
        rw [subjectOfCounterName, hfind, Option.getD_some]
      obtain ⟨e, hmem, hcut⟩ := List.exists_of_findSome?_eq_some hfind
      rw [guessFrom, Option.map_eq_some_iff] at hcut
      obtain ⟨rest, hrest, hguess⟩ := hcut
      rw [cutPrefix_eq_some_iff] at hrest
      rcases plain_of_mem_counterNamePrefixes _ hmem with ⟨hts, hsub⟩ | ⟨hts, hplain⟩
      · rw [if_pos hts, hsub] at hguess
        rw [hts] at hrest
        by_cases hnode : "node_".toList <+: rest
        · obtain ⟨r, rfl⟩ := hnode
          refine Or.inr (Or.inl ⟨r, by simpa using hrest, hname.trans ?_⟩)
          rw [← hguess, (cutPrefix_eq_some_iff (r := r)).mpr rfl, Option.getD_some]
        · refine Or.inr (Or.inr (Or.inl ⟨rest, hrest, hnode, hname.trans ?_⟩))
          rw [← hguess, cutPrefix_eq_none_iff.mpr hnode, Option.getD_none]
      · rw [if_neg hts] at hguess
        exact Or.inl ⟨e.1, e.2, rest, hplain, hrest, hname.trans hguess.symm⟩

/-- A name without the `tailscale_` prefix, or with the marker after it. -/
def TailscaleMarked (slug : Text) : Prop :=
  "tailscale_".toList <+: slug → "tailscale_node_".toList <+: slug

/-- The guess folds back to the name it was made from. -/
lemma suffix_subjectOfCounterName (U : Unicode) {slug : Text} (hslug : IsSlug slug)
    (hstrip : stripBy (· == '_') slug = slug) (hts : TailscaleMarked slug) :
    counterSubjectSuffix U (subjectOfCounterName slug) = slug := by
  have hsub : ∀ sub pre rest, IsAscii sub → sub.map slugChar = pre → slug = pre ++ rest →
      counterSubjectSuffix U (sub ++ replaceChar '_' '-' rest) = slug := by
    intro sub pre rest hsub hpre hrest
    have hslugRest : IsSlug rest := (IsSlug.of_append (hrest ▸ hslug)).2
    have hascii : IsAscii (sub ++ replaceChar '_' '-' rest) := by
      intro c hc
      rcases List.mem_append.mp hc with h | h
      · exact hsub c h
      · exact isAscii_replaceChar (by decide) hslugRest c h
    rw [suffix_of_ascii U hascii, List.map_append, hpre,
      map_slugChar_replaceChar (by decide) hslugRest, ← hrest, hstrip]
  have hplain : ∀ e ∈ plainPrefixes, IsAscii e.2 ∧ e.2.map slugChar = e.1 := by decide
  rcases subjectOfCounterName_cases slug with
    ⟨pre, sub, rest, hmem, hrest, hguess⟩ | ⟨rest, hrest, hguess⟩ | ⟨rest, hrest, hnode, -⟩ |
    ⟨-, hguess⟩
  · rw [hguess]
    exact hsub sub pre rest (hplain _ hmem).1 (hplain _ hmem).2 hrest
  · rw [hguess]
    exact hsub _ _ rest (by decide) (by decide) hrest
  · -- the marker is missing, which the hypothesis rules out
    obtain ⟨u, hu⟩ := hts ⟨rest, hrest.symm⟩
    refine absurd ⟨u, ?_⟩ hnode
    rw [hrest] at hu
    have hu' : "tailscale_".toList ++ ("node_".toList ++ u) = "tailscale_".toList ++ rest := by
      simpa using hu
    exact List.append_cancel_left hu'
  · rw [hguess, suffix_of_ascii U (isAscii_replaceChar (by decide) hslug),
      map_slugChar_replaceChar (by decide) hslug, hstrip]

/-- Without the marker the guess folds to a longer name. -/
lemma suffix_subjectOfCounterName_ne (U : Unicode) {slug : Text} (hslug : IsSlug slug)
    (hstrip : stripBy (· == '_') slug = slug) (hts : ¬TailscaleMarked slug) :
    counterSubjectSuffix U (subjectOfCounterName slug) ≠ slug := by
  rw [TailscaleMarked, Classical.not_imp] at hts
  obtain ⟨hpre, hmark⟩ := hts
  have hother : ∀ e ∈ plainPrefixes, ¬e.1 <+: "tailscale_".toList ∧ ¬"tailscale_".toList <+: e.1 := by
    decide
  rcases subjectOfCounterName_cases slug with
    ⟨pre, sub, rest, hmem, hrest, -⟩ | ⟨rest, hrest, -⟩ | ⟨rest, hrest, -, hguess⟩ | ⟨hnone, -⟩
  · have hpre' : pre <+: slug := ⟨rest, hrest.symm⟩
    rcases List.prefix_or_prefix_of_prefix hpre' hpre with h | h
    · exact absurd h (hother _ hmem).1
    · exact absurd h (hother _ hmem).2
  · exact absurd ⟨rest, hrest.symm⟩ hmark
  · have hrestSlug : IsSlug rest := (IsSlug.of_append (hrest ▸ hslug)).2
    have hne : rest ≠ [] := by
      rintro rfl
      rw [hrest] at hstrip
      exact absurd hstrip (by decide)
    -- the last character is the last one of the slug, which is no underscore
    have hlast : (rest.getLast hne == '_') = false := by
      have hslugNe : slug ≠ [] := by rw [hrest]; simp
      have := (stripBy_ends (p := (· == '_')) (t := slug) (by rwa [hstrip])).2
      simp only [hstrip] at this
      rwa [show slug.getLast hslugNe = rest.getLast hne by
        simp only [hrest, List.getLast_append_of_ne_nil _ hne]] at this
    have hascii : IsAscii ("tailscale-node:".toList ++ replaceChar '_' '-' rest) := by
      intro c hc
      rcases List.mem_append.mp hc with h | h
      · exact (by decide : IsAscii "tailscale-node:".toList) c h
      · exact isAscii_replaceChar (by decide) hrestSlug c h
    have hfold : ("tailscale-node:".toList ++ replaceChar '_' '-' rest).map slugChar =
        "tailscale_node_".toList ++ rest := by
      rw [List.map_append, map_slugChar_replaceChar (by decide) hrestSlug]
      exact congrArg (· ++ rest) (by decide)
    rw [hguess, suffix_of_ascii U hascii, hfold, stripBy_of_ends fun h => ⟨?_, ?_⟩]
    · intro heq
      have := congrArg List.length heq
      rw [hrest] at this
      simp only [List.length_append] at this
      exact absurd (Nat.add_right_cancel this) (by decide)
    · rfl
    · rw [List.getLast_append_of_ne_nil _ hne]
      exact hlast
  · exact absurd hpre (hnone ("tailscale_".toList, "tailscale-node:".toList) (by decide))

lemma not_prefix_append {a b m : Text} (hab : ¬a <+: b) (hba : ¬b <+: a) : ¬b <+: a ++ m := by
  intro h
  rcases List.prefix_or_prefix_of_prefix (List.prefix_append a m) h with h' | h'
  · exact hab h'
  · exact hba h'

/-- A guess begins with `fwrouter:` exactly when the name begins with `fwrouter_`, and then it is
the canonical id of that name. -/
lemma fwrouter_guess {slug : Text} (hslug : IsSlug slug) :
    (fwrouterPrefix <+: subjectOfCounterName slug ↔ "fwrouter_".toList <+: slug) ∧
      ∀ rest, slug = "fwrouter_".toList ++ rest →
        subjectOfCounterName slug = fwrouterPrefix ++ replaceChar '_' '-' rest := by
  have hplain : ∀ e ∈ plainPrefixes, (e.1 = "fwrouter_".toList ∧ e.2 = fwrouterPrefix) ∨
      (¬e.1 <+: "fwrouter_".toList ∧ ¬"fwrouter_".toList <+: e.1 ∧
        ¬e.2 <+: fwrouterPrefix ∧ ¬fwrouterPrefix <+: e.2) := by decide
  -- every other way to guess has neither prefix
  have hneither : ¬fwrouterPrefix <+: subjectOfCounterName slug →
      ¬"fwrouter_".toList <+: slug → (fwrouterPrefix <+: subjectOfCounterName slug ↔
        "fwrouter_".toList <+: slug) ∧ ∀ rest, slug = "fwrouter_".toList ++ rest →
        subjectOfCounterName slug = fwrouterPrefix ++ replaceChar '_' '-' rest :=
    fun h h' => ⟨iff_of_false h h', fun rest hrest => absurd ⟨rest, hrest.symm⟩ h'⟩
  rcases subjectOfCounterName_cases slug with
    ⟨pre, sub, rest, hmem, hrest, hguess⟩ | ⟨rest, hrest, hguess⟩ | ⟨rest, hrest, -, hguess⟩ |
    ⟨hnone, hguess⟩
  · rcases hplain _ hmem with ⟨hpre, hsub⟩ | ⟨h1, h2, h3, h4⟩
    · dsimp only at hpre hsub
      rw [hpre] at hrest
      rw [hsub] at hguess
      refine ⟨iff_of_true ⟨_, hguess.symm⟩ ⟨_, hrest.symm⟩, fun rest' hrest' => ?_⟩
      rw [hguess, List.append_cancel_left (hrest.symm.trans hrest')]
    · exact hneither (hguess ▸ not_prefix_append h3 h4) (hrest ▸ not_prefix_append h1 h2)
  · exact hneither (hguess ▸ not_prefix_append (by decide) (by decide))
      (hrest ▸ not_prefix_append (by decide) (by decide))
  · exact hneither (hguess ▸ not_prefix_append (by decide) (by decide))
      (hrest ▸ not_prefix_append (by decide) (by decide))
  · have hno := hnone ("fwrouter_".toList, "fwrouter:".toList) (by decide)
    refine hneither ?_ hno
    rw [hguess]
    rintro ⟨u, hu⟩
    -- folding the guess would give the name its prefix back
    have hfold := map_slugChar_replaceChar (x := ':') (by decide) hslug
    rw [← hu, List.map_append] at hfold
    exact hno ⟨u.map slugChar, by rw [← hfold]; exact congrArg (· ++ _) (by decide)⟩

lemma openSubjects_singleton (subjects : List Text) (v : TrafficCounterSample) :
    openSubjects subjects [v] =
      if fwrouterPrefix <+: v.subjectId ∧ v.subjectId ∉ subjects then subjects ++ [v.subjectId]
      else subjects := by
  rw [openSubjects, missingFwrouterSubjectIds]
  split_ifs with h
  · simp [h]
  · rw [← List.isPrefixOf_iff_prefix] at h
    simpa using h

/-! ## Attribution -/

/-- A direction as a counter name spells it. -/
def Dir.text : Dir → Text
  | .rx => "rx".toList
  | .tx => "tx".toList

/-- The paths a counter is rendered for. -/
inductive CounterPath where
  | direct
  | vpn
deriving DecidableEq

def CounterPath.path : CounterPath → Path
  | .direct => .direct
  | .vpn => .vpn

def CounterPath.text : CounterPath → Text
  | .direct => "direct".toList
  | .vpn => "vpn".toList

/-- The sample of a rendered counter: `nft:counter:cnt_{slug}_{path}_{direction}`, the bytes in
`rx_bytes`, no subject and no path. -/
def counterPayload (U : Unicode) (subject : Text) (p : CounterPath) (r : Dir) (bytes : Nat) :
    Payload where
  counterKey := nftCounterPrefix ++
    (counterSubjectSuffix U subject ++ ('_' :: p.text) ++ ('_' :: r.text))
  subjectId := []
  path := []
  rxBytes := some bytes
  txBytes := some 0
  metadata := .absent

/-- The sample is accounted to the subject, the path and the direction, and no subject is
created. -/
def Attributed (U : Unicode) (db : Database) (s : Text) (p : CounterPath) (r : Dir)
    (bytes : Nat) : Prop :=
  ∃ v, normalizeSample U (counterPayload U s p r bytes) = .ok v ∧
    ∃ v', (openBatch U false db [v]).samples = [v'] ∧
      v'.subjectId ∈ (openBatch U false db [v]).existing ∧ v'.subjectId = s ∧
      v'.path = p.path ∧ (∀ d, v'.bytes d = if d = r then (bytes : Int) else 0) ∧
      (openBatch U false db [v]).db.subjects = db.subjects

/-- The ids whose counters find their way back. -/
def Attributable (U : Unicode) (s : Text) : Prop :=
  counterSubjectSuffix U s ≠ [] ∧ TailscaleMarked (counterSubjectSuffix U s) ∧
    ("fwrouter_".toList <+: counterSubjectSuffix U s →
      s = fwrouterPrefix ++
        replaceChar '_' '-' ((counterSubjectSuffix U s).drop "fwrouter_".toList.length))

instance (U : Unicode) (s : Text) : Decidable (Attributable U s) :=
  inferInstanceAs (Decidable (_ ∧ (_ → _) ∧ (_ → _)))

/-- The name of a rendered counter is cut back to the slug, the path and the direction. -/
lemma autoMap_counterPayload (slug : Text) (p : CounterPath) (r : Dir) :
    autoMap (nftCounterPrefix ++ (slug ++ ('_' :: p.text) ++ ('_' :: r.text))) [] [] =
      ⟨subjectOfCounterName slug, p.text, r = .tx⟩ := by
  have hdir : cutDirection (slug ++ ('_' :: p.text) ++ ('_' :: r.text)) =
      (slug ++ ('_' :: p.text), decide (r = .tx)) := by
    cases r with
    | rx =>
        have : cutSuffix "_rx".toList (slug ++ ('_' :: p.text) ++ ('_' :: Dir.rx.text)) =
            some (slug ++ ('_' :: p.text)) := cutSuffix_append _ _
        rw [cutDirection, this]
        rfl
    | tx =>
        have h1 : cutSuffix "_rx".toList (slug ++ ('_' :: p.text) ++ ('_' :: Dir.tx.text)) =
            none := cutSuffix_append_of_not_suffix (by decide) (by decide)
        have h2 : cutSuffix "_tx".toList (slug ++ ('_' :: p.text) ++ ('_' :: Dir.tx.text)) =
            some (slug ++ ('_' :: p.text)) := cutSuffix_append _ _
        rw [cutDirection, h1, h2]
        rfl
  have hpath : cutPath (slug ++ ('_' :: p.text)) = (slug, some p.text) := by
    cases p with
    | direct =>
        have : cutSuffix "_direct".toList (slug ++ ('_' :: CounterPath.direct.text)) =
            some slug := cutSuffix_append _ _
        rw [cutPath, this]
        rfl
    | vpn =>
        have h1 : cutSuffix "_direct".toList (slug ++ ('_' :: CounterPath.vpn.text)) = none :=
          cutSuffix_append_of_not_suffix (by decide) (by decide)
        have h2 : cutSuffix "_vpn".toList (slug ++ ('_' :: CounterPath.vpn.text)) = some slug :=
          cutSuffix_append _ _
        rw [cutPath, h1, h2]
        rfl
  rw [autoMap, if_neg (by simp), (cutPrefix_eq_some_iff (p := nftCounterPrefix)).mpr rfl]
  simp only [hdir, hpath, Option.getD_some, if_true]

lemma subjectOfCounterName_eq_nil_iff {name : Text} :
    subjectOfCounterName name = [] ↔ name = [] := by
  have hsub : ∀ e ∈ plainPrefixes, e.1 ≠ [] ∧ e.2 ≠ [] := by decide
  rcases subjectOfCounterName_cases name with
    ⟨pre, sub, rest, hmem, hrest, hguess⟩ | ⟨rest, hrest, hguess⟩ | ⟨rest, hrest, -, hguess⟩ |
    ⟨-, hguess⟩
  · rw [hguess, hrest]
    simp [(hsub _ hmem).1, (hsub _ hmem).2]
  · rw [hguess, hrest]
    simp
  · rw [hguess, hrest]
    simp
  · rw [hguess, replaceChar, List.map_eq_nil_iff]

/-- What `_normalize_sample` makes of a rendered counter. -/
lemma normalizeSample_counterPayload {U : Unicode} {s : Text}
    (hslug : IsSlug (counterSubjectSuffix U s)) (p : CounterPath) (r : Dir) (bytes : Nat) :
    (counterSubjectSuffix U s = [] ∧
      normalizeSample U (counterPayload U s p r bytes) = .error .subjectIdRequired) ∨
    (counterSubjectSuffix U s ≠ [] ∧ ∃ v, normalizeSample U (counterPayload U s p r bytes) = .ok v ∧
      v.isNftCounter = true ∧ v.subjectId = subjectOfCounterName (counterSubjectSuffix U s) ∧
      v.path = p.path ∧ ∀ d, v.bytes d = if d = r then (bytes : Int) else 0) := by
  have hkey : strip (counterPayload U s p r bytes).counterKey =
      (counterPayload U s p r bytes).counterKey := by
    refine strip_solid (Solid.append (by decide) (Solid.append (Solid.append hslug.solid ?_) ?_))
    · cases p <;> decide
    · cases r <;> decide
  have hlower : U.lower (strip []) = [] := U.lower_ascii [] (by decide)
  have hmap : autoMap (counterPayload U s p r bytes).counterKey
      (strip (counterPayload U s p r bytes).subjectId)
      (U.lower (strip (counterPayload U s p r bytes).path)) =
      ⟨subjectOfCounterName (counterSubjectSuffix U s), p.text, r = .tx⟩ := by
    show autoMap _ [] (U.lower (strip [])) = _
    rw [hlower]
    exact autoMap_counterPayload _ p r
  have hne : (counterPayload U s p r bytes).counterKey ≠ [] := List.cons_ne_nil _ _
  have hpath : Path.ofText p.text = some p.path := by cases p <;> rfl
  rw [normalizeSample, hkey, hmap, checkSample, if_neg hne]
  by_cases hnil : counterSubjectSuffix U s = []
  · exact Or.inl ⟨hnil, by rw [if_pos (subjectOfCounterName_eq_nil_iff.mpr hnil)]⟩
  · refine Or.inr ⟨hnil, ?_⟩
    have hnft : nftCounterPrefix.isPrefixOf (counterPayload U s p r bytes).counterKey = true :=
      List.isPrefixOf_iff_prefix.mpr (List.prefix_append _ _)
    rw [if_neg (mt subjectOfCounterName_eq_nil_iff.mp hnil)]
    simp only [hpath]
    cases r with
    | rx =>
        refine ⟨⟨(counterPayload U s p .rx bytes).counterKey,
          subjectOfCounterName (counterSubjectSuffix U s), p.path, bytes, 0, [], by simp, le_rfl⟩, ?_, hnft, rfl, rfl, ?_⟩
        · simp [counterPayload, PayloadMetadata.toDict]
        · intro d
          cases d <;> rfl
    | tx =>
        refine ⟨⟨(counterPayload U s p .tx bytes).counterKey,
          subjectOfCounterName (counterSubjectSuffix U s), p.path, 0, bytes, [], le_rfl, by simp⟩, ?_, hnft, rfl, rfl, ?_⟩
        · simp [counterPayload, PayloadMetadata.toDict]
        · intro d
          cases d <;> rfl

/-- **Attribution of rendered counters.**  Among live subjects with distinct ASCII slugs, the
counter of a subject is accounted to that subject, with its path and direction and without
creating a subject, exactly when the subject's id folds to something, does not fold to a
`tailscale_` name without the `node_` marker, and is the canonical id of its slug in case that
begins with `fwrouter_`. -/
theorem counter_attributed_iff (U : Unicode) (hU : LowersToAlnum U) (db : Database)
    (hascii : ∀ t ∈ db.subjects, IsAscii (counterSubjectSuffix U t))
    (hdistinct : ∀ t ∈ db.subjects, ∀ t' ∈ db.subjects,
      counterSubjectSuffix U t = counterSubjectSuffix U t' → t = t')
    (s : Text) (hs : s ∈ db.subjects) (p : CounterPath) (r : Dir) (bytes : Nat) :
    Attributed U db s p r bytes ↔ Attributable U s := by
  have hslug : IsSlug (counterSubjectSuffix U s) := isSlug_suffix hU (hascii s hs)
  have hstrip := stripBy_suffix U s
  rcases normalizeSample_counterPayload hslug p r bytes with ⟨hnil, herr⟩ | ⟨hne, v, hok, hnft,
    hid, hpath, hbytes⟩
  · refine iff_of_false ?_ fun h => h.1 hnil
    rintro ⟨v, hv, -⟩
    rw [herr] at hv
    exact absurd hv (by simp)
  · obtain ⟨hdb, hsamples, hmem⟩ := openBatch_eq U db [v]
    have hlive := (hmem v (by simp)).1
    obtain ⟨hfw, hcanon⟩ := fwrouter_guess hslug
    rw [← hid] at hfw hcanon
    -- the verdict, told by the resolved sample
    have hiff : Attributed U db s p r bytes ↔
        openSubjects db.subjects [v] = db.subjects ∧
          (resolveOne U (openSubjects db.subjects [v]) v).subjectId = s ∧
          (resolveOne U (openSubjects db.subjects [v]) v).subjectId ∈
            openSubjects db.subjects [v] := by
      constructor
      · rintro ⟨w, hw, v', hv', hin, hsub, -, -, hsame⟩
        obtain rfl : v = w := Except.ok.inj (hok.symm.trans hw)
        rw [hsamples] at hv'
        obtain rfl : resolveOne U (openSubjects db.subjects [v]) v = v' := by simpa using hv'
        rw [hdb] at hsame
        exact ⟨hsame, hsub, hlive.mp hin⟩
      · rintro ⟨hsame, hsub, hin⟩
        refine ⟨v, hok, _, by rw [hsamples]; rfl, hlive.mpr hin, hsub, ?_, ?_, by rw [hdb]; exact hsame⟩
        · rw [resolveOne_path, hpath]
        · intro d
          rw [resolveOne_bytes, hbytes]
    rw [hiff, openSubjects_singleton]
    split_ifs with hnew
    · -- the guess is created as a subject of its own
      refine iff_of_false (fun h => by simpa using h.1) fun h => ?_
      obtain ⟨rest, hrest⟩ := hfw.mp hnew.1
      have hsid := h.2.2 ⟨rest, hrest⟩
      rw [← hrest, List.drop_left, ← hcanon rest hrest.symm] at hsid
      exact hnew.2 (hsid ▸ hs)
    · simp only [true_and]
      by_cases hts : TailscaleMarked (counterSubjectSuffix U s)
      · have hsuffix : counterSubjectSuffix U v.subjectId = counterSubjectSuffix U s := by
          rw [hid]
          exact suffix_subjectOfCounterName U hslug hstrip hts
        by_cases hg : v.subjectId ∈ db.subjects
        · have hvs : v.subjectId = s := hdistinct _ hg s hs hsuffix
          rw [resolveOne, if_pos (Or.inl hg)]
          refine iff_of_true ⟨hvs, hg⟩ ⟨hne, hts, fun hpre => ?_⟩
          obtain ⟨rest, hrest⟩ := hpre
          rw [← hrest, List.drop_left, ← hcanon rest hrest.symm, hvs]
        · have halias : aliasOf U db.subjects v.subjectId = some s :=
            aliasOf_eq_some_iff.mpr ⟨⟨hs, hsuffix.symm⟩, fun j hj hjs =>
              hdistinct j hj s hs (hjs.trans hsuffix)⟩
          rw [resolveOne, if_neg (by simp [hg, hnft]), halias]
          refine iff_of_true ⟨rfl, hs⟩ ⟨hne, hts, fun hpre => ?_⟩
          exact absurd ⟨hfw.mpr hpre, hg⟩ hnew
      · -- the guess folds to another name, so it is never the subject
        have hsuffix : counterSubjectSuffix U v.subjectId ≠ counterSubjectSuffix U s := by
          rw [hid]
          exact suffix_subjectOfCounterName_ne U hslug hstrip hts
        refine iff_of_false ?_ fun h => hts h.2.1
        rintro ⟨hsub, hin⟩
        by_cases hg : v.subjectId ∈ db.subjects
        · rw [resolveOne, if_pos (Or.inl hg)] at hsub
          exact hsuffix (congrArg _ hsub)
        · rw [resolveOne, if_neg (by simp [hg, hnft])] at hsub hin
          cases halias : aliasOf U db.subjects v.subjectId with
          | none =>
              rw [halias] at hin
              exact hg hin
          | some id =>
              rw [halias] at hsub
              obtain rfl : id = s := hsub
              exact hsuffix (aliasOf_eq_some_iff.mp halias).1.2.symm

/-- A LAN subject and a tailscale node with their counters. -/
def namedSubjects : Database := ⟨["lan:aa:bb".toList, "tailscale-node:18".toList], [], []⟩

theorem counter_attributed_lan :
    Attributable .ascii "lan:aa:bb".toList ∧
      Attributed .ascii namedSubjects "lan:aa:bb".toList .vpn .tx 150 :=
  have hU : LowersToAlnum .ascii := by
    intro c hc x hx hx128
    obtain rfl : x = c.toLower := by simpa [Unicode.ascii] using hx
    have hup : ¬c.isUpper := by
      simp only [Char.isUpper, UInt32.le_iff_toNat_le, ge_iff_le,
        decide_eq_true_eq, not_and, not_le]
      intro _
      exact lt_of_lt_of_le (by decide) hc
    rw [Char.toLower_eq_of_not_isUpper hup] at hx128
    omega
  have h : Attributable .ascii "lan:aa:bb".toList := by decide
  ⟨h, (counter_attributed_iff .ascii hU namedSubjects (by decide) (by decide) "lan:aa:bb".toList
    (by decide) .vpn .tx 150).mpr h⟩

/-- A subject that the accounting itself creates for a sample of `fwrouter:a_b`. -/
def underscoredSubject : Database := ⟨["fwrouter:a_b".toList], [], []⟩

/-- Its counters are accounted to a new subject `fwrouter:a-b`. -/
theorem counter_lost_fwrouter :
    (∀ t ∈ underscoredSubject.subjects, IsAscii (counterSubjectSuffix .ascii t)) ∧
      ¬Attributed .ascii underscoredSubject "fwrouter:a_b".toList .vpn .rx 10 := by
  refine ⟨by decide, ?_⟩
  rintro ⟨v, hv, v', -, -, -, -, -, hsame⟩
  have hid : some v.subjectId = some "fwrouter:a-b".toList := by
    have : (normalizeSample .ascii
        (counterPayload .ascii "fwrouter:a_b".toList .vpn .rx 10)).toOption.map
          TrafficCounterSample.subjectId = some "fwrouter:a-b".toList := by decide +kernel
    rw [hv] at this
    exact this
  rw [(openBatch_eq .ascii underscoredSubject [v]).1] at hsame
  dsimp only at hsame
  rw [openSubjects_singleton, Option.some.inj hid, if_pos (by decide)] at hsame
  exact absurd hsame (by decide)

end FwRouter.Traffic
