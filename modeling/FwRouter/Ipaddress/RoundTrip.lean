import FwRouter.Ipaddress.Text

/-!
# Printed addresses read back

The readers of `Ipaddress.Text` undo `str`.  IPv4 is four numerals between dots.  IPv6 is the
work: `_compress_hextets` cuts out one run of zero hextets, and the reader has to put exactly
that run back.  The scan invariant (`ZeroRun.Inv`) says that the run it reports really is a run
of `0`; everything after that is a computation on a list of the shape `hi ++ [] ++ lo`.
-/

namespace Ipaddress

open Py

/-! ## IPv4 -/

lemma parseOctet_dec {n : Nat} (h : n < 256) : parseOctet (dec n) = some n := by
  have hlen : (dec n).length ≤ 3 := (length_dec_le (by norm_num)).mpr (by omega)
  have hall : (dec n).all Char.isDigit = true := by
    simpa [List.all_eq_true] using fun c hc => isDigit_of_mem_dec hc
  have hzero : ¬(dec n ≠ ['0'] ∧ (dec n).head? = some '0') := by
    rintro ⟨hne, hhead⟩
    rcases Nat.eq_zero_or_pos n with rfl | hn
    · exact hne (by decide)
    · exact head_dec_ne_zero hn hhead
  rw [parseOctet, if_neg (by simpa using dec_ne_nil n), if_neg (by simp [hall]),
    if_neg (by omega), if_neg hzero, decValue_dec, if_neg (by omega)]

lemma not_mem_dec {n : Nat} {c : Char} (h : c.isDigit = false) : c ∉ dec n := by
  intro hc
  simp [isDigit_of_mem_dec hc] at h

lemma ipv4FromString_toString {n : Nat} (h : n < 2 ^ 32) :
    ipv4FromString (ipv4ToString n) = some n := by
  have hsplit : (ipv4ToString n).splitOn '.'
      = [dec (n / 2 ^ 24), dec (n / 2 ^ 16 % 256), dec (n / 2 ^ 8 % 256), dec (n % 256)] := by
    refine List.splitOn_intercalate '.' ?_ (by simp)
    intro l hl
    simp only [List.mem_cons, List.not_mem_nil, or_false] at hl
    rcases hl with rfl | rfl | rfl | rfl <;> exact not_mem_dec (by decide)
  rw [ipv4FromString, hsplit]
  simp only [parseOctet_dec (show n / 2 ^ 24 < 256 by omega),
    parseOctet_dec (Nat.mod_lt _ (by norm_num) : n / 2 ^ 16 % 256 < 256),
    parseOctet_dec (Nat.mod_lt _ (by norm_num) : n / 2 ^ 8 % 256 < 256),
    parseOctet_dec (Nat.mod_lt _ (by norm_num) : n % 256 < 256), Option.bind_eq_bind,
    Option.bind_some, Option.pure_def, Option.some.injEq]
  omega

/-- Whatever reads as an IPv4 address is made of digits and dots. -/
lemma mem_of_ipv4FromString {s : Text} {n : Nat} (h : ipv4FromString s = some n) :
    ∀ c ∈ s, c.isDigit ∨ c = '.' := by
  have hoctet : ∀ {t : Text} {k : Nat}, parseOctet t = some k → ∀ c ∈ t, c.isDigit := by
    intro t k hk c hc
    unfold parseOctet at hk
    split_ifs at hk with h1 h2
    simp only [Bool.not_eq_true', Bool.not_eq_false] at h2
    exact List.all_eq_true.mp h2 c hc
  unfold ipv4FromString at h
  split at h
  · rename_i a b c d hparts
    simp only [Option.bind_eq_bind, Option.bind_eq_some_iff] at h
    obtain ⟨_, ha, _, hb, _, hc, _, hd, _⟩ := h
    intro x hx
    rcases mem_splitOn (x := '.') hx with rfl | ⟨l, hl, hxl⟩
    · exact Or.inr rfl
    · rw [hparts] at hl
      simp only [List.mem_cons, List.not_mem_nil, or_false] at hl
      rcases hl with rfl | rfl | rfl | rfl
      · exact Or.inl (hoctet ha x hxl)
      · exact Or.inl (hoctet hb x hxl)
      · exact Or.inl (hoctet hc x hxl)
      · exact Or.inl (hoctet hd x hxl)
  · simp at h

/-! ## Hextets -/

lemma hex_eq_zero {n : Nat} (h : hex n = ['0']) : n = 0 := by
  have := hexValue_hex n
  rw [h] at this
  simpa [hexValue, hexDigit] using this.symm

lemma parseHextet_hex {n : Nat} (h : n < 2 ^ 16) : parseHextet (hex n) = some n := by
  have hlen : (hex n).length ≤ 4 := (length_hex_le (by norm_num)).mpr (by omega)
  rw [parseHextet, if_neg, hexValue_hex]
  simp only [List.isEmpty_iff, not_or, not_lt]
  exact ⟨hex_ne_nil n, hlen⟩

lemma mapM_parseHextet : ∀ {ns : List Nat}, (∀ n ∈ ns, n < 2 ^ 16) →
    (ns.map hex).mapM parseHextet = some ns
  | [], _ => rfl
  | n :: ns, h => by
      rw [List.map_cons, List.mapM_cons, parseHextet_hex (h n (by simp)),
        mapM_parseHextet fun m hm => h m (by simp [hm])]
      rfl

lemma ofHextets_hextets {n : Nat} (h : n < 2 ^ 128) : ofHextets (hextets n) = n := by
  simp only [ofHextets, hextets, List.range, List.range.loop, List.map_cons, List.map_nil,
    List.foldl_cons, List.foldl_nil]
  omega

lemma hextets_lt (n : Nat) : ∀ h ∈ hextets n, h < 2 ^ 16 := by
  intro h hh
  obtain ⟨i, -, rfl⟩ := List.mem_map.mp hh
  exact Nat.mod_lt _ (by norm_num)

@[simp] lemma length_hextets (n : Nat) : (hextets n).length = 8 := by simp [hextets]

/-! ## The run of zeros -/

/-- What the scan of `_compress_hextets` knows after the hextets `done`: the best run lies inside
them and consists of `0`, and so does the run the scan is in, which ends where `done` ends. -/
structure ZeroRun.Inv (done : List Text) (r : ZeroRun) : Prop where
  best_le : r.bestStart + r.bestLen ≤ done.length
  best_zero : ∀ i, r.bestStart ≤ i → i < r.bestStart + r.bestLen → done[i]? = some ['0']
  cur_eq : 0 < r.len → r.start + r.len = done.length
  cur_zero : 0 < r.len → ∀ i, r.start ≤ i → i < done.length → done[i]? = some ['0']

lemma ZeroRun.Inv.step {done : List Text} {r : ZeroRun} (h : r.Inv done) (t : Text) :
    (r.step done.length t).Inv (done ++ [t]) := by
  have hget : ∀ i, i < done.length → (done ++ [t])[i]? = done[i]? := by
    intro i hi; rw [List.getElem?_append_left hi]
  have hbest : ∀ i, r.bestStart ≤ i → i < r.bestStart + r.bestLen →
      (done ++ [t])[i]? = some ['0'] := by
    intro i h1 h2
    rw [hget i (by have := h.best_le; omega)]
    exact h.best_zero i h1 h2
  unfold ZeroRun.step
  by_cases ht : t = ['0']
  · -- the run the scan is in grows by one, or starts here
    rw [if_pos ht]
    set start := if r.len = 0 then done.length else r.start with hstart
    have hcur : start + (r.len + 1) = (done ++ [t]).length := by
      rw [List.length_append, List.length_singleton, hstart]
      split_ifs with h0
      · omega
      · have := h.cur_eq (by omega); omega
    have hzero : ∀ i, start ≤ i → i < (done ++ [t]).length → (done ++ [t])[i]? = some ['0'] := by
      intro i h1 h2
      rw [List.length_append, List.length_singleton] at h2
      rcases Nat.lt_succ_iff_lt_or_eq.mp h2 with h2 | rfl
      · have hlen : r.len ≠ 0 := by
          intro h0; rw [hstart, if_pos h0] at h1; omega
        rw [hstart, if_neg hlen] at h1
        rw [hget i h2]
        exact h.cur_zero (by omega) i h1 h2
      · simp [ht]
    dsimp only
    split_ifs with hlt
    · exact ⟨hcur.le, fun i h1 h2 => hzero i h1 (by simp only at h2; omega),
        fun _ => hcur, fun _ => hzero⟩
    · exact ⟨by simp only [List.length_append, List.length_singleton]; have := h.best_le; omega,
        hbest, fun _ => hcur, fun _ => hzero⟩
  · rw [if_neg ht]
    exact ⟨by simp only [List.length_append, List.length_singleton]; have := h.best_le; omega,
      hbest, fun h0 => absurd h0 (by simp), fun h0 => absurd h0 (by simp)⟩

lemma ZeroRun.Inv.scan : ∀ (rest : List Text) {done : List Text} {r : ZeroRun}, r.Inv done →
    (r.scan done.length rest).Inv (done ++ rest)
  | [], done, r, h => by simpa [ZeroRun.scan] using h
  | t :: rest, done, r, h => by
      have := ZeroRun.Inv.scan rest (h.step t)
      rwa [List.length_append, List.length_singleton, List.append_assoc,
        List.singleton_append] at this

/-- A printed list of hextets either is left alone or has one run of zeros cut out of it. -/
lemma compressHextets_cases (ns : List Nat) :
    compressHextets (ns.map hex) = ns.map hex ∨
    ∃ hi k lo, ns = hi ++ List.replicate k 0 ++ lo ∧ 2 ≤ k ∧
      compressHextets (ns.map hex)
        = (if hi = [] then [[]] else hi.map hex) ++ [] :: (if lo = [] then [[]] else lo.map hex) := by
  have hinv : (ZeroRun.scan ⟨0, 0, 0, 0⟩ 0 (ns.map hex)).Inv (ns.map hex) := by
    have h0 : ZeroRun.Inv ([] : List Text) ⟨0, 0, 0, 0⟩ :=
      ⟨by simp, fun i _ h => absurd h (by simp), fun h => absurd h (by simp),
        fun h => absurd h (by simp)⟩
    simpa using h0.scan (ns.map hex)
  unfold compressHextets
  set r := ZeroRun.scan ⟨0, 0, 0, 0⟩ 0 (ns.map hex) with hr
  by_cases hlen : 1 < r.bestLen
  · right
    have hle : r.bestStart + r.bestLen ≤ ns.length := by simpa using hinv.best_le
    have hzero : ∀ i, r.bestStart ≤ i → i < r.bestStart + r.bestLen → ns[i]? = some 0 := by
      intro i h1 h2
      have := hinv.best_zero i h1 h2
      rw [List.getElem?_map, Option.map_eq_some_iff] at this
      obtain ⟨n, hn, hhex⟩ := this
      rw [hn, hex_eq_zero hhex]
    refine ⟨ns.take r.bestStart, r.bestLen, ns.drop (r.bestStart + r.bestLen), ?_, hlen, ?_⟩
    · -- the middle of the list, element by element
      have hmid : (ns.drop r.bestStart).take r.bestLen = List.replicate r.bestLen 0 := by
        refine List.ext_getElem? fun i => ?_
        rw [List.getElem?_take, List.getElem?_replicate]
        split_ifs with hi
        · rw [List.getElem?_drop]; exact hzero _ (by omega) (by omega)
        · rfl
      rw [List.append_assoc, ← hmid, ← List.drop_drop, List.take_append_drop,
        List.take_append_drop]
    · have h0 : (r.bestStart = 0) ↔ ns.take r.bestStart = [] := by
        rw [List.take_eq_nil_iff]
        constructor
        · exact Or.inl
        · rintro (h | h)
          · exact h
          · rw [h] at hle; simp at hle; omega
      have h1 : (r.bestStart + r.bestLen = (ns.map hex).length)
          ↔ ns.drop (r.bestStart + r.bestLen) = [] := by
        rw [List.drop_eq_nil_iff, List.length_map]; omega
      simp only [if_pos hlen, h0, h1, List.map_drop, List.map_take]
  · exact Or.inl (if_neg hlen)

/-! ## IPv6 -/

lemma not_mem_hex {n : Nat} {c : Char} (h : c ∈ [':', '.', '/', '%', ',', ' ']) : c ∉ hex n := by
  intro hc
  obtain ⟨d, hd, rfl⟩ := mem_hex hc
  exact digitChar_not_sep d hd h

lemma mem_map_hex {ns : List Nat} {t : Text} (h : t ∈ ns.map hex) : t ≠ [] ∧ '.' ∉ t ∧ ':' ∉ t := by
  obtain ⟨n, -, rfl⟩ := List.mem_map.mp h
  exact ⟨hex_ne_nil n, not_mem_hex (by simp), not_mem_hex (by simp)⟩

/-- The reader on a list of parts without an IPv4 suffix and without a `::`. -/
lemma ipv6FromString_full {s : Text} {ns : List Nat} (hs : s.splitOn ':' = ns.map hex)
    (hlen : ns.length = 8) (hlt : ∀ n ∈ ns, n < 2 ^ 16) :
    ipv6FromString s = some (ofHextets ns) := by
  have hne : ns.map hex ≠ [] := by
    intro h; rw [List.map_eq_nil_iff] at h; simp [h] at hlen
  have hmem : ∀ t ∈ ns.map hex, t ≠ [] ∧ '.' ∉ t ∧ ':' ∉ t := fun t ht => mem_map_hex ht
  have hlast : (ns.map hex).getLast? = some ((ns.map hex).getLast hne) :=
    List.getLast?_eq_some_getLast hne
  have hcount : (innerParts (ns.map hex)).count [] = 0 := by
    rw [List.count_eq_zero]
    intro h
    exact (hmem _ (List.mem_of_mem_tail (List.mem_of_mem_dropLast h))).1 rfl
  have hhead : (ns.map hex).head? ≠ some [] := by
    intro h
    exact (hmem _ (List.mem_of_mem_head? h)).1 rfl
  have hlast' : (ns.map hex).getLast? ≠ some [] := by
    intro h
    exact (hmem _ (List.mem_of_mem_getLast? h)).1 rfl
  have hexpand : expandIpv4Suffix (ns.map hex) = some (ns.map hex) := by
    rw [expandIpv4Suffix, hlast]
    exact if_neg (hmem _ (List.getLast_mem hne)).2.1
  simp only [ipv6FromString, hs, List.length_map, hlen]
  rw [if_neg (by norm_num), hexpand, Option.bind_some]
  simp only [List.length_map, hlen, hcount]
  rw [if_neg (by norm_num), if_neg (by norm_num), if_neg (by norm_num),
    if_neg (by rintro (h | h | h); exacts [h rfl, hhead h, hlast' h]), mapM_parseHextet hlt]
  rfl

lemma ipv6FromString_skip {s : Text} {hi lo : List Nat}
    (hs : s.splitOn ':' =
      (if hi = [] then [[]] else hi.map hex) ++ [] :: (if lo = [] then [[]] else lo.map hex))
    (hlen : hi.length + lo.length ≤ 6) (hhi : ∀ n ∈ hi, n < 2 ^ 16) (hlo : ∀ n ∈ lo, n < 2 ^ 16) :
    ipv6FromString s
      = some (ofHextets (hi ++ List.replicate (8 - (hi.length + lo.length)) 0 ++ lo)) := by
  set A : List Text := if hi = [] then [[]] else hi.map hex with hA
  set B : List Text := if lo = [] then [[]] else lo.map hex with hB
  have hAne : A ≠ [] := by rw [hA]; split_ifs with h <;> simp [h]
  have hBne : B ≠ [] := by rw [hB]; split_ifs with h <;> simp [h]
  have hAlen : A.length = if hi = [] then 1 else hi.length := by rw [hA]; split_ifs <;> simp
  have hBlen : B.length = if lo = [] then 1 else lo.length := by rw [hB]; split_ifs <;> simp
  have hAhead : A.head? = some [] ↔ hi = [] := by
    rw [hA]
    split_ifs with h
    · simp [h]
    · refine iff_of_false (fun hh => ?_) h
      exact (mem_map_hex (List.mem_of_mem_head? hh)).1 rfl
  have hBlast : B.getLast? = some [] ↔ lo = [] := by
    rw [hB]
    split_ifs with h
    · simp [h]
    · refine iff_of_false (fun hh => ?_) h
      exact (mem_map_hex (List.mem_of_mem_getLast? hh)).1 rfl
  have hAtail : [] ∉ A.tail := by
    rw [hA]
    split_ifs with h
    · simp
    · exact fun hh => (mem_map_hex (List.mem_of_mem_tail hh)).1 rfl
  have hBinit : [] ∉ B.dropLast := by
    rw [hB]
    split_ifs with h
    · simp
    · exact fun hh => (mem_map_hex (List.mem_of_mem_dropLast hh)).1 rfl
  have hBdot : '.' ∉ B.getLast hBne := by
    have hmem := List.getLast_mem hBne
    generalize B.getLast hBne = t at hmem
    rw [hB] at hmem
    split_ifs at hmem
    · simp at hmem; simp [hmem]
    · exact (mem_map_hex hmem).2.1
  -- The shape of the list of parts, seen by each test the reader makes.
  have hinner : innerParts (A ++ [] :: B) = A.tail ++ [] :: B.dropLast := by
    rw [innerParts, List.tail_append_of_ne_nil hAne, List.dropLast_append_of_ne_nil (by simp),
      List.dropLast_cons_of_ne_nil hBne]
  have hcount : (innerParts (A ++ [] :: B)).count [] = 1 := by
    rw [hinner, List.count_append, List.count_cons_self, List.count_eq_zero.mpr hAtail,
      List.count_eq_zero.mpr hBinit]
  have hidx : (innerParts (A ++ [] :: B)).idxOf [] + 1 = A.length := by
    rw [hinner, List.idxOf_append_of_notMem hAtail, List.idxOf_cons_self, List.length_tail]
    have := List.length_pos_iff.mpr hAne
    omega
  have hhead : (A ++ [] :: B).head? = A.head? := List.head?_append_of_ne_nil _ hAne
  have hlast : (A ++ [] :: B).getLast? = B.getLast? := by
    rw [List.getLast?_append_of_ne_nil _ (by simp), List.getLast?_cons_of_ne_nil hBne]
  have hexpand : expandIpv4Suffix (A ++ [] :: B) = some (A ++ [] :: B) := by
    rw [expandIpv4Suffix, hlast, List.getLast?_eq_some_getLast hBne]
    exact if_neg hBdot
  have hlength : (A ++ [] :: B).length = A.length + 1 + B.length := by simp; omega
  have htake : ((A ++ [] :: B).take hi.length).mapM parseHextet = some hi := by
    rw [← mapM_parseHextet hhi, hA]
    split_ifs with h
    · simp [h]
    · rw [List.take_append_of_le_length (by simp), List.take_of_length_le (by simp)]
  have hdrop : ((A ++ [] :: B).drop (A.length + 1 + B.length - lo.length)).mapM parseHextet
      = some lo := by
    rw [← mapM_parseHextet hlo]
    congr 1
    have hle : lo.length ≤ B.length := by rw [hBlen]; split_ifs with h <;> simp [h]
    rw [show A.length + 1 + B.length - lo.length = A.length + ((B.length - lo.length) + 1) by omega,
      ← List.drop_drop, List.drop_left, List.drop_succ_cons, hB]
    split_ifs with h
    · simp [h]
    · simp
  have hAhi : (if A.head? = some [] then A.length - 1 else A.length) = hi.length := by
    simp only [hAhead, hAlen]; split_ifs with h <;> simp [h]
  have hBlo : (if B.getLast? = some [] then B.length - 1 else B.length) = lo.length := by
    simp only [hBlast, hBlen]; split_ifs with h <;> simp [h]
  have hA1 := List.length_pos_iff.mpr hAne
  have hB1 := List.length_pos_iff.mpr hBne
  have hbound : A.length + B.length ≤ 8 := by
    rw [hAlen, hBlen]; split_ifs with h1 h2 h2 <;> simp_all <;> omega
  simp only [ipv6FromString, hs, hlength]
  rw [if_neg (by omega), hexpand, Option.bind_some]
  simp only [hlength, hcount, hidx, hhead, hlast, hAhi,
    show A.length + 1 + B.length - A.length - 1 = B.length by omega, hBlo]
  rw [if_neg (by omega), if_neg (by norm_num), if_pos trivial,
    if_neg (by rw [hAhead]; rintro ⟨h, h'⟩; simp [h] at h'),
    if_neg (by rw [hBlast]; rintro ⟨h, h'⟩; simp [h] at h'), if_neg (by omega), htake, hdrop]
  rfl

lemma ipv6FromString_toString {n : Nat} (h : n < 2 ^ 128) :
    ipv6FromString (ipv6ToString n) = some n := by
  have hcolon : ∀ ns : List Nat, ∀ t ∈ ns.map hex, ':' ∉ t := fun ns t ht => (mem_map_hex ht).2.2
  rcases compressHextets_cases (hextets n) with hc | ⟨hi, k, lo, hns, hk, hc⟩
  · have hs : (ipv6ToString n).splitOn ':' = (hextets n).map hex := by
      rw [ipv6ToString, hc]
      exact List.splitOn_intercalate ':' (hcolon _) (by
        intro hnil; simpa using congrArg List.length hnil)
    rw [ipv6FromString_full hs (length_hextets n) (hextets_lt n), ofHextets_hextets h]
  · have hlen : hi.length + k + lo.length = 8 := by
      have := congrArg List.length hns
      simp at this
      omega
    have hs : (ipv6ToString n).splitOn ':' =
        (if hi = [] then [[]] else hi.map hex) ++ [] :: (if lo = [] then [[]] else lo.map hex) := by
      rw [ipv6ToString, hc]
      refine List.splitOn_intercalate ':' ?_ (by simp)
      intro t ht
      rcases List.mem_append.mp ht with ht | ht
      · split_ifs at ht
        · simp at ht; simp [ht]
        · exact hcolon hi t ht
      · rcases List.mem_cons.mp ht with rfl | ht
        · simp
        · split_ifs at ht
          · simp at ht; simp [ht]
          · exact hcolon lo t ht
    have hlt : ∀ m ∈ hi ++ List.replicate k 0 ++ lo, m < 2 ^ 16 := by
      rw [← hns]; exact hextets_lt n
    rw [ipv6FromString_skip hs (by omega) (fun m hm => hlt m (by simp [hm]))
      (fun m hm => hlt m (by simp [hm])), show 8 - (hi.length + lo.length) = k by omega, ← hns,
      ofHextets_hextets h]

/-! ## Characters of printed addresses -/

lemma mem_ipv4ToString {n : Nat} {c : Char} (h : c ∈ ipv4ToString n) : c.isDigit ∨ c = '.' := by
  rcases mem_intercalate h with rfl | ⟨l, hl, hc⟩
  · exact Or.inr rfl
  · simp only [List.mem_cons, List.not_mem_nil, or_false] at hl
    rcases hl with rfl | rfl | rfl | rfl <;> exact Or.inl (isDigit_of_mem_dec hc)

lemma mem_ipv6ToString {n : Nat} {c : Char} (h : c ∈ ipv6ToString n) :
    c = ':' ∨ ∃ d < 16, c = Nat.digitChar d := by
  rcases mem_intercalate h with rfl | ⟨l, hl, hc⟩
  · exact Or.inl rfl
  · right
    have hhex : ∀ ns : List Nat, l ∈ ns.map hex → ∃ d < 16, c = Nat.digitChar d := by
      intro ns hl
      obtain ⟨m, -, rfl⟩ := List.mem_map.mp hl
      exact mem_hex hc
    rcases compressHextets_cases (hextets n) with h' | ⟨hi, k, lo, -, -, h'⟩
    · rw [h'] at hl
      exact hhex _ hl
    · rw [h'] at hl
      rcases List.mem_append.mp hl with hl | hl
      · split_ifs at hl
        · simp at hl; simp [hl] at hc
        · exact hhex _ hl
      · rcases List.mem_cons.mp hl with rfl | hl
        · simp at hc
        · split_ifs at hl
          · simp at hl; simp [hl] at hc
          · exact hhex _ hl

lemma not_mem_ipv6ToString {n : Nat} {c : Char} (h : c ∈ ['/', '%', ',', '.', ' ']) :
    c ∉ ipv6ToString n := by
  intro hc
  rcases mem_ipv6ToString hc with rfl | ⟨d, hd, rfl⟩
  · simp at h
  · refine digitChar_not_sep d hd ?_
    simp only [List.mem_cons, List.not_mem_nil, or_false] at h ⊢
    tauto

lemma colon_mem_ipv6ToString {n : Nat} (h : n < 2 ^ 128) : ':' ∈ ipv6ToString n := by
  by_contra hc
  have := ipv6FromString_toString h
  rw [ipv6FromString, List.splitOn_eq_singleton hc] at this
  simp at this

lemma digit_not_sep {c : Char} (h : c.isDigit) : c ∉ ['/', '%', ',', ':'] ∧ isSpace c = false := by
  have hc : 48 ≤ c.toNat ∧ c.toNat ≤ 57 := by
    simpa [Char.isDigit, UInt32.le_iff_toNat_le] using h
  constructor
  · intro hm
    simp only [List.mem_cons, List.not_mem_nil, or_false] at hm
    rcases hm with rfl | rfl | rfl | rfl <;> simp at hc
  · have : ∀ k ∈ spaceCodes, ¬(48 ≤ k ∧ k ≤ 57) := by decide
    by_contra hs
    simp only [isSpace, Bool.not_eq_false, List.contains_iff_mem] at hs
    exact this _ hs hc

/-! ## Addresses -/

namespace IpAddress

lemma slash_not_mem_str (a : IpAddress) : '/' ∉ a.str := by
  obtain ⟨⟨v, ip, hlt⟩, scope, hv6, hok⟩ := a
  cases v with
  | v4 =>
      intro h
      rcases mem_ipv4ToString h with h | h
      · simpa using (digit_not_sep h).1
      · simp at h
  | v6 =>
      cases scope with
      | none => exact not_mem_ipv6ToString (by simp)
      | some s =>
          simp only [str, List.mem_append, List.mem_cons, not_or]
          exact ⟨not_mem_ipv6ToString (by simp), by simp, (hok s (by simp)).2.2⟩

/-- A version 6 address prints a colon, so it is never mistaken for a version 4 one. -/
lemma colon_mem_str {a : IpAddress} (h : a.addr.version = .v6) : ':' ∈ a.str := by
  obtain ⟨⟨v, ip, hlt⟩, scope, hv6, hok⟩ := a
  simp only at h
  subst h
  have := colon_mem_ipv6ToString hlt
  cases scope <;> simp [str, this]

lemma solid_ipv6ToString (ip : Nat) : Solid (ipv6ToString ip) := by
  intro c hc
  rcases mem_ipv6ToString hc with rfl | ⟨d, hd, rfl⟩
  · decide
  · exact isSpace_digitChar d hd

lemma solid_ipv4ToString (ip : Nat) : Solid (ipv4ToString ip) := by
  intro c hc
  rcases mem_ipv4ToString hc with hc | rfl
  · exact (digit_not_sep hc).2
  · decide

/-- A printed address has no white space, unless its scope id brings some. -/
lemma solid_str {a : IpAddress} (h : ∀ s ∈ a.scopeId, Solid s) : Solid a.str := by
  obtain ⟨⟨v, ip, hlt⟩, scope, hv6, hok⟩ := a
  cases v with
  | v4 => exact solid_ipv4ToString ip
  | v6 =>
      cases scope with
      | none => exact solid_ipv6ToString ip
      | some s =>
          refine (solid_ipv6ToString ip).append ?_
          intro c hc
          rcases List.mem_cons.mp hc with rfl | hc
          · decide
          · exact h s (by simp) c hc

lemma ipv4Address_str {a : IpAddress} (h : a.addr.version = .v4) : ipv4Address a.str = some a := by
  obtain ⟨⟨v, ip, hlt⟩, scope, hv6, hok⟩ := a
  simp only at h
  subst h
  cases scope with
  | some s => exact absurd (hv6 (by simp)) (by simp)
  | none =>
      have hlt' : ip < 2 ^ 32 := hlt
      simp only [str, ipv4Address, ipv4FromString_toString hlt', Option.bind_some, dif_pos hlt']
      rfl

lemma ipv4Address_str_v6 {a : IpAddress} (h : a.addr.version = .v6) : ipv4Address a.str = none := by
  rw [ipv4Address, Option.bind_eq_none_iff]
  intro n hn
  rcases mem_of_ipv4FromString hn ':' (colon_mem_str h) with hc | hc
  · exact absurd hc (by decide)
  · exact absurd hc (by decide)

lemma ipv6Address_str {a : IpAddress} (h : a.addr.version = .v6) : ipv6Address a.str = some a := by
  have hslash := slash_not_mem_str a
  obtain ⟨⟨v, ip, hlt⟩, scope, hv6, hok⟩ := a
  simp only at h
  subst h
  have hlt' : ip < 2 ^ 128 := hlt
  have hpct : ∀ c ∈ ipv6ToString ip, (decide (c ≠ '%')) = true := by
    intro c hc
    have : c ≠ '%' := by rintro rfl; exact not_mem_ipv6ToString (by simp) hc
    simpa using this
  rw [ipv6Address, if_neg hslash]
  cases scope with
  | none =>
      have hdrop : (ipv6ToString ip).dropWhile (· ≠ '%') = [] := by
        simpa [List.dropWhile_eq_nil_iff] using hpct
      simp only [str, splitScopeId, hdrop, Option.bind_some, ipv6FromString_toString hlt',
        dif_pos hlt']
      rw [dif_pos (by simp)]
  | some s =>
      have hs : ScopeOk s := hok s (by simp)
      have hdrop : (ipv6ToString ip ++ '%' :: s).dropWhile (· ≠ '%') = '%' :: s := by
        rw [List.dropWhile_append_of_pos hpct]; simp
      have htake : (ipv6ToString ip ++ '%' :: s).takeWhile (· ≠ '%') = ipv6ToString ip := by
        rw [List.takeWhile_append_of_pos hpct]; simp
      simp only [str, splitScopeId, hdrop, htake, if_pos hs, Option.bind_some,
        ipv6FromString_toString hlt', dif_pos hlt']
      rw [dif_pos (by simpa using hs)]

end IpAddress

/-- **Printed addresses read back.** -/
theorem ipAddress_str (a : IpAddress) : ipAddress a.str = some a := by
  rcases hv : a.addr.version with _ | _
  · simp [ipAddress, IpAddress.ipv4Address_str hv]
  · simp [ipAddress, IpAddress.ipv4Address_str_v6 hv, IpAddress.ipv6Address_str hv]

/-! ## Networks -/

lemma IpNetwork.ofAddress_self (n : IpNetwork) :
    IpNetwork.ofAddress n.networkAddress n.prefixlen n.prefixlen_le = n := by
  rw [IpNetwork.ofAddress, dif_pos n.aligned]

lemma makeNetmask_dec {v : Version} {p : Nat} (h : p ≤ v.maxPrefixlen) :
    makeNetmask v (dec p) = some p := by
  have hp : ∀ m, p ≤ m → prefixFromPrefixString m (dec p) = some p := by
    intro m hm
    have hall : (dec p).all Char.isDigit = true := by
      simpa [List.all_eq_true] using fun c hc => isDigit_of_mem_dec hc
    rw [prefixFromPrefixString, if_neg (by simp [hall, dec_ne_nil]), decValue_dec,
      if_neg (by omega)]
  cases v with
  | v4 => simp [makeNetmask, hp 32 h]
  | v6 => exact hp 128 h

lemma splitOn_slash_str (n : IpNetwork) :
    n.str.splitOn '/' = [n.networkAddress.str, dec n.prefixlen] := by
  have hdec : '/' ∉ dec n.prefixlen := not_mem_dec (by decide)
  rw [IpNetwork.str, List.splitOn_append_cons_self_of_not_mem n.networkAddress.slash_not_mem_str,
    List.splitOn_eq_singleton hdec]

/-- **Printed networks read back**, scope id included. -/
theorem ipNetwork_str (n : IpNetwork) : ipNetwork n.str = some n := by
  have hmask := makeNetmask_dec n.prefixlen_le
  have hof : networkOf n.networkAddress n.prefixlen = some n := by
    rw [networkOf, dif_pos n.prefixlen_le, n.ofAddress_self]
  rw [ipNetwork, networkWith, networkWith, splitOn_slash_str]
  rcases hv : n.networkAddress.addr.version with _ | _
  · simp [IpAddress.ipv4Address_str hv, hmask, hof]
  · simp [IpAddress.ipv4Address_str_v6 hv, IpAddress.ipv6Address_str hv, hmask, hof]

/-- A printed address, read as a network, is the network of that address alone. -/
theorem ipNetwork_str_address (a : IpAddress) : ipNetwork a.str = some a.host := by
  have hof : networkOf a a.addr.version.maxPrefixlen = some a.host := by
    rw [networkOf, dif_pos le_rfl]; rfl
  rw [ipNetwork, networkWith, networkWith, List.splitOn_eq_singleton a.slash_not_mem_str]
  rcases hv : a.addr.version with _ | _
  · simp [IpAddress.ipv4Address_str hv, hof]
  · simp [IpAddress.ipv4Address_str_v6 hv, IpAddress.ipv6Address_str hv, hof]

/-- The text of an address, up to its scope id. -/
lemma IpAddress.str_eq_append (a : IpAddress) :
    ∃ h t : Text, a.str = h ++ t ∧ Solid h ∧ h ≠ [] := by
  obtain ⟨⟨v, ip, hlt⟩, scope, hv6, hok⟩ := a
  cases v with
  | v4 =>
      refine ⟨ipv4ToString ip, [], by simp [str], solid_ipv4ToString ip, fun h => ?_⟩
      have := ipv4FromString_toString (n := ip) hlt
      rw [h] at this
      simp [ipv4FromString] at this
  | v6 =>
      have hne : ipv6ToString ip ≠ [] := List.ne_nil_of_mem (colon_mem_ipv6ToString hlt)
      cases scope with
      | none => exact ⟨ipv6ToString ip, [], by simp [str], solid_ipv6ToString ip, hne⟩
      | some s => exact ⟨ipv6ToString ip, '%' :: s, by simp [str], solid_ipv6ToString ip, hne⟩

/-- A printed network neither starts nor ends with white space, not even when its scope id
holds some. -/
lemma IpNetwork.strip_str (n : IpNetwork) : strip n.str = n.str := by
  obtain ⟨h, t, hstr, hsolid, hne⟩ := n.networkAddress.str_eq_append
  have hdec : Solid (dec n.prefixlen) := fun c hc => (digit_not_sep (isDigit_of_mem_dec hc)).2
  have heq : n.str = h ++ (t ++ ['/']) ++ dec n.prefixlen := by
    simp [IpNetwork.str, hstr]
  rw [heq]
  exact strip_of_ends hsolid hne hdec (dec_ne_nil _)

lemma IpNetwork.str_ne_nil (n : IpNetwork) : n.str ≠ [] := by simp [IpNetwork.str]

lemma IpAddress.str_ne_nil (a : IpAddress) : a.str ≠ [] := by
  obtain ⟨h, t, hstr, -, hne⟩ := a.str_eq_append
  simp [hstr, hne]

lemma IpNetwork.solid_str {n : IpNetwork} (h : ∀ s ∈ n.networkAddress.scopeId, Solid s) :
    Solid n.str := by
  refine (IpAddress.solid_str h).append ?_
  intro c hc
  rcases List.mem_cons.mp hc with rfl | hc
  · decide
  · exact (digit_not_sep (isDigit_of_mem_dec hc)).2

end Ipaddress
