import Mathlib

/-!
# The store of the live probe cache

The variables of `live_probe_cache` that hold completed values: `_CACHE` in its order,
`_CACHE_RETAINED_BYTES` and `_LAST_EXPIRY_SWEEP_AT`.  Every operation here runs inside one section
under `_CACHE_LOCK`.

The byte counter is maintained by addition and clamped subtraction.  `Accounted` is the invariant
that makes the clamp idle: the counter is the sum of the sizes, and the three limits hold.
`roomFor_makeRoom` says that the eviction loop never gives up early.
-/

namespace FwRouter.LiveProbe

/-- `_MAX_CACHE_ENTRIES`. -/
def maxCacheEntries : ℕ := 256

/-- `_MAX_CACHE_BYTES`. -/
def maxCacheBytes : ℕ := 32 * 1024 * 1024

/-- `_MAX_ENTRY_BYTES`. -/
def maxEntryBytes : ℕ := 24 * 1024 * 1024

/-- `_EXPIRY_SWEEP_INTERVAL_SECONDS`. -/
def expirySweepInterval : ℚ := 1

/-- An item of `_CACHE`.  `run` is a history variable: the flight whose loader produced the value. -/
structure Entry (K V : Type) where
  key : K
  expiresAt : ℚ
  value : V
  size : ℕ
  run : ℕ

structure Store (K V : Type) where
  /-- `_CACHE`, oldest first. -/
  entries : List (Entry K V)
  /-- `_CACHE_RETAINED_BYTES`. -/
  retainedBytes : ℕ
  /-- `_LAST_EXPIRY_SWEEP_AT`. -/
  lastExpirySweepAt : ℚ

variable {K V : Type} [DecidableEq K]

def Store.empty : Store K V := ⟨[], 0, 0⟩

/-- `_CACHE.get`. -/
def Store.find (c : Store K V) (key : K) : Option (Entry K V) :=
  c.entries.find? fun e => decide (e.key = key)

/-- `_remove_cache_entry_locked`; the subtraction is clamped at zero. -/
def Store.remove (c : Store K V) (key : K) : Store K V :=
  match c.find key with
  | none => c
  | some cached => { c with
      entries := c.entries.eraseP fun e => decide (e.key = key)
      retainedBytes := c.retainedBytes - cached.size }

/-- `cached is not None and not cached[0] > now`, then the removal. -/
def Store.removeIfExpired (now : ℚ) (c : Store K V) (key : K) : Store K V :=
  if (c.find key).any fun e => decide (e.expiresAt ≤ now) then c.remove key else c

/-- `_sweep_expired_locked`. -/
def Store.sweepExpired (now : ℚ) (requestedKey : Option K) (c : Store K V) : Store K V :=
  let c := requestedKey.elim c (c.removeIfExpired now)
  if now - c.lastExpirySweepAt < expirySweepInterval then c
  else (c.entries.map Entry.key).foldl (Store.removeIfExpired now) { c with lastExpirySweepAt := now }

/-- The eviction loop of `_admit_cache_entry_locked`; the oldest key is that of the first entry. -/
def makeRoom (size : ℕ) : List (Entry K V) → ℕ → List (Entry K V) × ℕ
  | [], retained => ([], retained)
  | e :: es, retained =>
      if maxCacheEntries ≤ (e :: es).length ∨ maxCacheBytes < retained + size then
        makeRoom size es (retained - e.size)
      else (e :: es, retained)

/-- `_admit_cache_entry_locked`. -/
def Store.admitEntry (c : Store K V) (e : Entry K V) : Store K V :=
  let c := c.remove e.key
  if maxEntryBytes < e.size ∨ maxCacheBytes < e.size then c
  else
    let room := makeRoom e.size c.entries c.retainedBytes
    { c with entries := room.1 ++ [e], retainedBytes := room.2 + e.size }

/-- `_CACHE.move_to_end`. -/
def Store.moveToEnd (c : Store K V) (e : Entry K V) : Store K V :=
  { c with entries := (c.entries.eraseP fun x => decide (x.key = e.key)) ++ [e] }

/-- `clear_live_probe_cache`, as far as completed values are concerned. -/
def Store.clear (_ : Store K V) : Store K V := Store.empty

/-- The first loop of `clear_live_probe_cache_matching`. -/
def Store.clearMatching (predicate : K → Bool) (c : Store K V) : Store K V :=
  (c.entries.map Entry.key).foldl (fun c key => if predicate key then c.remove key else c) c

/-! ## The invariant -/

def totalSize (es : List (Entry K V)) : ℕ := (es.map Entry.size).sum

/-- The counter is exact, the limits hold, and no key occurs twice. -/
structure Accounted (c : Store K V) : Prop where
  exact_sum : c.retainedBytes = totalSize c.entries
  bytes_le : c.retainedBytes ≤ maxCacheBytes
  size_le : ∀ e ∈ c.entries, e.size ≤ maxEntryBytes
  length_le : c.entries.length ≤ maxCacheEntries
  keys_nodup : (c.entries.map Entry.key).Nodup

/-- There is room for a value of this size. -/
def RoomFor (size : ℕ) (es : List (Entry K V)) (retained : ℕ) : Prop :=
  es.length < maxCacheEntries ∧ retained + size ≤ maxCacheBytes

omit [DecidableEq K] in
lemma accounted_empty : Accounted (Store.empty : Store K V) :=
  ⟨rfl, Nat.zero_le _, nofun, Nat.zero_le _, List.nodup_nil⟩

omit [DecidableEq K] in
/-- The clock of the sweep plays no part in it. -/
lemma Accounted.of_entries {c d : Store K V} (hc : Accounted c) (he : d.entries = c.entries)
    (hr : d.retainedBytes = c.retainedBytes) : Accounted d where
  exact_sum := by rw [hr, he, hc.exact_sum]
  bytes_le := hr ▸ hc.bytes_le
  size_le := he ▸ hc.size_le
  length_le := he ▸ hc.length_le
  keys_nodup := he ▸ hc.keys_nodup

/-! ## Removal -/

/-- Where a key is found the entries split around it. -/
lemma find_split {c : Store K V} {key : K} {e : Entry K V} (h : c.find key = some e) :
    ∃ before after, c.entries = before ++ e :: after ∧ e.key = key ∧
      (c.entries.eraseP fun x => decide (x.key = key)) = before ++ after := by
  obtain ⟨hkey, before, after, hentries, hbefore⟩ := List.find?_eq_some_iff_append.mp h
  have hkey : e.key = key := of_decide_eq_true hkey
  refine ⟨before, after, hentries, hkey, ?_⟩
  rw [hentries, List.eraseP_append_right _ (by simpa using hbefore), List.eraseP_cons_of_pos]
  simpa using hkey

omit [DecidableEq K] in
/-- The counter without one entry: the clamp has nothing to do. -/
lemma totalSize_split (before after : List (Entry K V)) (e : Entry K V) :
    totalSize (before ++ e :: after) - e.size = totalSize (before ++ after) := by
  simp only [totalSize, List.map_append, List.map_cons, List.sum_append, List.sum_cons]
  omega

omit [DecidableEq K] in
/-- Dropping entries keeps the invariant as long as the counter follows. -/
lemma Accounted.of_sublist {c d : Store K V} (hc : Accounted c)
    (hsub : d.entries.Sublist c.entries) (hsum : d.retainedBytes = totalSize d.entries) :
    Accounted d where
  exact_sum := hsum
  bytes_le := by
    have hle : totalSize d.entries ≤ totalSize c.entries := (hsub.map Entry.size).sum_le_sum (by simp)
    rw [hsum]
    exact hle.trans (hc.exact_sum ▸ hc.bytes_le)
  size_le e he := hc.size_le e (hsub.subset he)
  length_le := hsub.length_le.trans hc.length_le
  keys_nodup := (hsub.map Entry.key).nodup hc.keys_nodup

lemma Accounted.remove {c : Store K V} (hc : Accounted c) (key : K) : Accounted (c.remove key) := by
  unfold Store.remove
  cases hfind : c.find key with
  | none => exact hc
  | some e =>
      obtain ⟨before, after, hentries, -, herase⟩ := find_split hfind
      refine hc.of_sublist List.eraseP_sublist ?_
      show c.retainedBytes - e.size = totalSize (c.entries.eraseP _)
      rw [herase, hc.exact_sum, hentries, totalSize_split]

lemma Accounted.removeIfExpired {c : Store K V} (hc : Accounted c) (now : ℚ) (key : K) :
    Accounted (c.removeIfExpired now key) := by
  unfold Store.removeIfExpired
  split_ifs
  · exact hc.remove key
  · exact hc

omit [DecidableEq K] in
lemma Accounted.foldl {f : Store K V → K → Store K V}
    (hf : ∀ c key, Accounted c → Accounted (f c key)) (keys : List K) {c : Store K V}
    (hc : Accounted c) : Accounted (keys.foldl f c) := by
  induction keys generalizing c with
  | nil => exact hc
  | cons key keys ih => exact ih (hf c key hc)

lemma Accounted.sweepExpired {c : Store K V} (hc : Accounted c) (now : ℚ) (requestedKey : Option K) :
    Accounted (c.sweepExpired now requestedKey) := by
  have hrequested : Accounted (requestedKey.elim c (c.removeIfExpired now)) := by
    cases requestedKey with
    | none => exact hc
    | some key => exact hc.removeIfExpired now key
  unfold Store.sweepExpired
  dsimp only
  split_ifs
  · exact hrequested
  · refine Accounted.foldl (fun c key hc => hc.removeIfExpired now key) _ ?_
    exact hrequested.of_entries rfl rfl

lemma Accounted.clearMatching {c : Store K V} (hc : Accounted c) (predicate : K → Bool) :
    Accounted (c.clearMatching predicate) := by
  refine Accounted.foldl (fun c key hc => ?_) _ hc
  split_ifs
  · exact hc.remove key
  · exact hc

lemma Accounted.moveToEnd {c : Store K V} {key : K} {e : Entry K V} (hc : Accounted c)
    (h : c.find key = some e) : Accounted (c.moveToEnd e) := by
  obtain ⟨before, after, hentries, rfl, herase⟩ := find_split h
  have hperm : (c.moveToEnd e).entries.Perm c.entries := by
    show ((c.entries.eraseP _) ++ [e]).Perm _
    rw [herase, hentries, List.append_assoc]
    exact (List.perm_append_singleton e after).append_left before
  exact {
    exact_sum := hc.exact_sum.trans (hperm.map Entry.size).sum_eq.symm
    bytes_le := hc.bytes_le
    size_le := fun x hx => hc.size_le x (hperm.subset hx)
    length_le := hperm.length_eq ▸ hc.length_le
    keys_nodup := (hperm.map Entry.key).nodup_iff.mpr hc.keys_nodup }

/-! ## Admission -/

omit [DecidableEq K] in
/-- **The eviction loop ends with room**: at the latest when nothing is left to evict. -/
lemma makeRoom_spec {size : ℕ} (hsize : size ≤ maxCacheBytes) :
    ∀ {es : List (Entry K V)} {retained : ℕ}, retained = totalSize es →
      RoomFor size (makeRoom size es retained).1 (makeRoom size es retained).2 ∧
        (makeRoom size es retained).1 <:+ es ∧
        (makeRoom size es retained).2 = totalSize (makeRoom size es retained).1
  | [], retained, h => by
      obtain rfl : retained = 0 := h
      exact ⟨⟨by simp [makeRoom, maxCacheEntries], by simpa [makeRoom] using hsize⟩,
        List.suffix_rfl, rfl⟩
  | e :: es, retained, h => by
      unfold makeRoom
      split_ifs with hfull
      · have htail : retained - e.size = totalSize es := by
          simp only [totalSize, List.map_cons, List.sum_cons] at h ⊢
          omega
        obtain ⟨hroom, hsuffix, hsum⟩ := makeRoom_spec hsize htail
        exact ⟨hroom, hsuffix.trans (List.suffix_cons e es), hsum⟩
      · rw [not_or, not_le, not_lt] at hfull
        exact ⟨hfull, List.suffix_rfl, h⟩

lemma not_mem_keys_remove {c : Store K V} (hc : Accounted c) (key : K) :
    key ∉ (c.remove key).entries.map Entry.key := by
  unfold Store.remove
  cases hfind : c.find key with
  | none =>
      intro hmem
      obtain ⟨e, he, hkey⟩ := List.mem_map.mp hmem
      exact List.find?_eq_none.mp hfind e he (decide_eq_true hkey)
  | some e =>
      obtain ⟨before, after, hentries, rfl, herase⟩ := find_split hfind
      have hnodup := hc.keys_nodup
      rw [hentries, List.map_append, List.map_cons, List.nodup_middle, List.nodup_cons,
        ← List.map_append, ← herase] at hnodup
      exact hnodup.1

lemma Accounted.admitEntry {c : Store K V} (hc : Accounted c) (e : Entry K V) : Accounted (c.admitEntry e) := by
  have hremoved := hc.remove e.key
  unfold Store.admitEntry
  dsimp only
  split_ifs with hbig
  · exact hremoved
  · rw [not_or, not_lt, not_lt] at hbig
    obtain ⟨⟨hlength, hbytes⟩, hsuffix, hsum⟩ := makeRoom_spec hbig.2 hremoved.exact_sum
    set room := makeRoom e.size (c.remove e.key).entries (c.remove e.key).retainedBytes
    refine ⟨?_, hbytes, ?_, ?_, ?_⟩
    · simp [totalSize, hsum]
    · intro x hx
      rcases List.mem_append.mp hx with hx | hx
      · exact hremoved.size_le x (hsuffix.subset hx)
      · rw [List.mem_singleton.mp hx]
        exact hbig.1
    · simpa using hlength
    · show ((room.1 ++ [e]).map Entry.key).Nodup
      rw [List.map_append, List.nodup_append_comm]
      refine List.nodup_cons.mpr ⟨?_, (hsuffix.sublist.map Entry.key).nodup hremoved.keys_nodup⟩
      intro hmem
      exact not_mem_keys_remove hc e.key ((hsuffix.sublist.map Entry.key).subset hmem)

/-! ## What is left in the store -/

variable {c : Store K V} {e : Entry K V}

lemma mem_remove {key : K} (h : e ∈ (c.remove key).entries) : e ∈ c.entries := by
  unfold Store.remove at h
  cases hfind : c.find key with
  | none => simpa [hfind] using h
  | some cached =>
      rw [hfind] at h
      exact List.mem_of_mem_eraseP h

lemma mem_removeIfExpired {now : ℚ} {key : K} (h : e ∈ (c.removeIfExpired now key).entries) :
    e ∈ c.entries := by
  unfold Store.removeIfExpired at h
  split_ifs at h
  · exact mem_remove h
  · exact h

omit [DecidableEq K] in
lemma mem_foldl {f : Store K V → K → Store K V}
    (hf : ∀ c key, ∀ e ∈ (f c key).entries, e ∈ c.entries) {keys : List K}
    (h : e ∈ (keys.foldl f c).entries) : e ∈ c.entries := by
  induction keys generalizing c with
  | nil => exact h
  | cons key keys ih => exact hf c key e (ih h)

lemma mem_sweepExpired {now : ℚ} {requestedKey : Option K}
    (h : e ∈ (c.sweepExpired now requestedKey).entries) : e ∈ c.entries := by
  have hrequested : ∀ e ∈ (requestedKey.elim c (c.removeIfExpired now)).entries, e ∈ c.entries := by
    cases requestedKey with
    | none => exact fun _ he => he
    | some key => exact fun _ he => mem_removeIfExpired he
  unfold Store.sweepExpired at h
  dsimp only at h
  split_ifs at h
  · exact hrequested e h
  · have hloop := mem_foldl (f := Store.removeIfExpired now) (fun _ _ _ he => mem_removeIfExpired he) h
    exact hrequested e hloop

lemma mem_moveToEnd {key : K} {cached : Entry K V} (hfind : c.find key = some cached)
    (h : e ∈ (c.moveToEnd cached).entries) : e ∈ c.entries := by
  rcases List.mem_append.mp h with h | h
  · exact List.mem_of_mem_eraseP h
  · rw [List.mem_singleton.mp h]
    exact List.mem_of_find?_eq_some hfind

omit [DecidableEq K] in
lemma mem_makeRoom {size : ℕ} : ∀ {es : List (Entry K V)} {retained : ℕ},
    e ∈ (makeRoom size es retained).1 → e ∈ es
  | [], _, h => h
  | x :: es, retained, h => by
      unfold makeRoom at h
      split_ifs at h
      · exact List.mem_cons_of_mem x (mem_makeRoom h)
      · exact h

lemma mem_admitEntry {added : Entry K V} (h : e ∈ (c.admitEntry added).entries) : e ∈ c.entries ∨ e = added := by
  unfold Store.admitEntry at h
  dsimp only at h
  split_ifs at h
  · exact .inl (mem_remove h)
  · rcases List.mem_append.mp h with h | h
    · exact .inl (mem_remove (mem_makeRoom h))
    · exact .inr (List.mem_singleton.mp h)

/-- What a clear by predicate leaves has another key. -/
lemma mem_clearMatching {predicate : K → Bool} (hc : Accounted c)
    (h : e ∈ (c.clearMatching predicate).entries) : e ∈ c.entries ∧ predicate e.key = false := by
  have hloop : ∀ (keys : List K) (c : Store K V), Accounted c →
      e ∈ (keys.foldl (fun c key => if predicate key then c.remove key else c) c).entries →
        e ∈ c.entries ∧ (e.key ∈ keys → predicate e.key = false) := by
    intro keys
    induction keys with
    | nil => exact fun c _ h => ⟨h, nofun⟩
    | cons key keys ih =>
        intro c hc h
        rw [List.foldl_cons] at h
        by_cases hkey : predicate key = true
        · rw [if_pos hkey] at h
          obtain ⟨hmem, hrest⟩ := ih _ (hc.remove key) h
          refine ⟨mem_remove hmem, fun hin => ?_⟩
          rcases List.mem_cons.mp hin with rfl | hin
          · exact absurd (List.mem_map_of_mem hmem) (not_mem_keys_remove hc e.key)
          · exact hrest hin
        · rw [if_neg hkey] at h
          obtain ⟨hmem, hrest⟩ := ih _ hc h
          refine ⟨hmem, fun hin => ?_⟩
          rcases List.mem_cons.mp hin with rfl | hin
          · exact Bool.eq_false_iff.mpr hkey
          · exact hrest hin
  obtain ⟨hmem, hpredicate⟩ := hloop _ c hc h
  exact ⟨hmem, hpredicate (List.mem_map_of_mem hmem)⟩

end FwRouter.LiveProbe
