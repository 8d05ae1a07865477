import FwRouter.Selector.Ranking

/-!
# The on-demand shortlist

`_build_on_demand_shortlist` of `services/selector.py` picks the candidates that a failover probes:
the one that is active, then the candidates in four orders, each server once, up to a limit.  The
third order compares timestamps.  `record_ping_result` writes them with an offset and
`_persist_member_health` without one, Python refuses to compare the two, and the exception is not
caught (`shortlist_iff`).

What `datetime.fromisoformat` reads is a parameter, and so is the algorithm of `sorted`.
-/

namespace FwRouter.Selector

open Py Health Sorting

/-! ## Timestamps -/

/-- A `datetime`: microseconds since `datetime.min`, of a local time without an offset or of an
instant in UTC. -/
inductive DateTime
  | naive (microseconds : ℤ)
  | aware (microseconds : ℤ)
  deriving DecidableEq

/-- `datetime.min`. -/
def datetimeMin : DateTime := .naive 0

/-- `d < e`; `none` is a `TypeError`. -/
def DateTime.lt : DateTime → DateTime → Option Bool
  | .naive s, .naive t => some (decide (s < t))
  | .aware s, .aware t => some (decide (s < t))
  | _, _ => none

section Orders

variable (fromisoformat : Text → Option DateTime)

/-- `_parse_checked_at`. -/
def parseCheckedAt (value : Option Text) : Option DateTime :=
  let normalized := strip (value.getD [])
  if normalized = [] then none else fromisoformat (replaceZ normalized)

/-! ## The orders -/

/-- `_ping_status_rank`. -/
def pingStatusRank (c : RankedCandidate) : ℕ :=
  match c.ping.status with
  | .success => 0
  | .unknown => 1
  | .failed | .skipped => 2

/-- `_latency_sort_value`. -/
def latencySortValue (c : RankedCandidate) : ℤ := c.ping.lastPingMs.getD (10 ^ 9)

/-- `str(item.get("server_name") or item.get("server_id") or "")`. -/
def shownName (c : RankedCandidate) : Text := orElse (some c.serverName) c.serverId

/-- `str(candidate.get("runtime_target") or candidate.get("server_id") or "")`. -/
def target (c : RankedCandidate) : Text := orElse (some c.runtimeTarget) c.serverId

def priorityOrder : List RankedCandidate → List RankedCandidate :=
  sortedBy fun c => toLex ((if isAutoEligible c then 0 else 1 : ℕ), toLex (-c.vpnAutoPriority,
    toLex (pingStatusRank c, toLex (latencySortValue c, shownName c))))

def latencyOrder : List RankedCandidate → List RankedCandidate :=
  sortedBy fun c => toLex (pingStatusRank c, toLex (latencySortValue c,
    toLex (-c.vpnAutoPriority, shownName c)))

/-- `_parse_checked_at(checked_at)` of a candidate. -/
def checkedAt (c : RankedCandidate) : Option DateTime := parseCheckedAt fromisoformat c.ping.checkedAt

/-- The end of the key of `refresh_order`. -/
def refreshRest (c : RankedCandidate) : ℕ ×ₗ ℤ ×ₗ Text :=
  toLex (pingStatusRank c, toLex (-c.vpnAutoPriority, shownName c))

/-- `0 if checked_at is None else 1`. -/
def refreshKnown (c : RankedCandidate) : ℕ := if checkedAt fromisoformat c = none then 0 else 1

/-- `checked_at or datetime.min`. -/
def refreshTime (c : RankedCandidate) : DateTime := (checkedAt fromisoformat c).getD datetimeMin

/-- Python's comparison of the keys of `refresh_order`: the first components that differ decide. -/
def refreshLt (a b : RankedCandidate) : Option Bool :=
  if refreshKnown fromisoformat a ≠ refreshKnown fromisoformat b then
    some (decide (refreshKnown fromisoformat a < refreshKnown fromisoformat b))
  else if refreshTime fromisoformat a ≠ refreshTime fromisoformat b then
    (refreshTime fromisoformat a).lt (refreshTime fromisoformat b)
  else some (decide (refreshRest a < refreshRest b))

def refreshOrder (sort : ComparisonSort) (candidates : List RankedCandidate) :
    Option (List RankedCandidate) :=
  sort.sorted (refreshLt fromisoformat) candidates

end Orders

/-! ## `_build_on_demand_shortlist` -/

/-- `_append`; the ids that were seen are the ids of `merged`. -/
def appendCandidate (limit : ℤ) (merged : List RankedCandidate) (c : RankedCandidate) :
    List RankedCandidate :=
  if c.serverId = [] ∨ c.serverId ∈ merged.map (·.serverId) ∨ limit ≤ merged.length then merged
  else merged ++ [c]

/-- The first candidate that runs as `active_before`. -/
def activeCandidate (candidates : List RankedCandidate) (activeBefore : Option Text) :
    Option RankedCandidate :=
  activeBefore.bind fun active => candidates.find? fun c => decide (target c = active)

/-- `_build_on_demand_shortlist`; `none` is an exception.  The early returns change nothing: at the
limit `_append` does no more. -/
def buildOnDemandShortlist (sort : ComparisonSort) (fromisoformat : Text → Option DateTime)
    (candidates : List RankedCandidate) (activeBefore : Option Text) (limit : ℤ) :
    Option (List RankedCandidate) :=
  if limit ≤ 0 ∨ candidates = [] then some []
  else
    (refreshOrder fromisoformat sort candidates).map fun refreshed =>
      let active := if activeBefore.getD [] = [] then none else activeCandidate candidates activeBefore
      (active.toList ++ priorityOrder candidates ++ latencyOrder candidates ++ refreshed ++
        candidates).foldl (appendCandidate limit) []

/-! ## What is promised -/

/-- The distinct non-empty server ids. -/
def serverIds (candidates : List RankedCandidate) : Finset Text :=
  (candidates.map (·.serverId)).toFinset.erase []

/-- Total, complete, free of duplicates, and the active candidate first. -/
structure Complete (candidates : List RankedCandidate) (activeBefore : Option Text) (limit : ℤ)
    (shortlist : List RankedCandidate) : Prop where
  subset : shortlist ⊆ candidates
  nodup : (shortlist.map (·.serverId)).Nodup
  length : (shortlist.length : ℤ) = min (max limit 0) (serverIds candidates).card
  active_first : 0 < limit → ∀ c ∈ activeCandidate candidates activeBefore,
    shortlist.head? = some c

/-- One timestamp has an offset and another has none. -/
def MixedTimestamps (fromisoformat : Text → Option DateTime) (candidates : List RankedCandidate) :
    Prop :=
  ∃ a ∈ candidates, ∃ b ∈ candidates, ∃ s t, checkedAt fromisoformat a = some (.naive s) ∧
    checkedAt fromisoformat b = some (.aware t)

/-! ## Merging -/

section Merge

variable {limit : ℤ}

/-- The candidates that have an id among the merged ones. -/
def Merged (merged : List RankedCandidate) (c : RankedCandidate) : Prop :=
  c.serverId = [] ∨ c.serverId ∈ merged.map (·.serverId)

/-- What `_append` keeps of the merged list. -/
structure Wellformed (limit : ℤ) (merged : List RankedCandidate) : Prop where
  nodup : (merged.map (·.serverId)).Nodup
  nonempty : ∀ c ∈ merged, c.serverId ≠ []
  within : (merged.length : ℤ) ≤ max limit 0

lemma wellformed_nil : Wellformed limit [] where
  nodup := List.nodup_nil
  nonempty _ hc := absurd hc List.not_mem_nil
  within := le_max_right _ _

lemma wellformed_append {merged : List RankedCandidate} (h : Wellformed limit merged)
    (c : RankedCandidate) : Wellformed limit (appendCandidate limit merged c) := by
  unfold appendCandidate
  split_ifs with hskip
  · exact h
  · push Not at hskip
    rcases hskip with ⟨hne, hfresh, hroom⟩
    refine ⟨?_, ?_, ?_⟩
    · rw [List.map_append, List.nodup_append]
      refine ⟨h.nodup, List.nodup_singleton _, ?_⟩
      intro id hid id' hid' heq
      obtain rfl := List.mem_singleton.mp hid'
      subst heq
      exact hfresh hid
    · intro d hd
      rcases List.mem_append.mp hd with hd | hd
      · exact h.nonempty d hd
      · obtain rfl := List.mem_singleton.mp hd
        exact hne
    · rw [List.length_append, List.length_singleton]
      omega

lemma prefix_append (merged : List RankedCandidate) (c : RankedCandidate) :
    merged <+: appendCandidate limit merged c := by
  unfold appendCandidate
  split_ifs with hskip
  · exact List.prefix_rfl
  · exact List.prefix_append _ _

lemma merged_append (limit : ℤ) (merged : List RankedCandidate) (c : RankedCandidate) :
    Merged (appendCandidate limit merged c) c ∨
      limit ≤ (appendCandidate limit merged c).length := by
  unfold appendCandidate
  split_ifs with hskip
  · rcases hskip with hempty | hseen | hfull
    · exact Or.inl (Or.inl hempty)
    · exact Or.inl (Or.inr hseen)
    · exact Or.inr hfull
  · refine Or.inl (Or.inr ?_)
    rw [List.map_append]
    exact List.mem_append_right _ (List.mem_singleton.mpr rfl)

lemma subset_append {merged l : List RankedCandidate} {c : RankedCandidate} (h : merged ⊆ l)
    (hc : c ∈ l) : appendCandidate limit merged c ⊆ l := by
  unfold appendCandidate
  split_ifs with hskip
  · exact h
  · exact List.append_subset.mpr ⟨h, fun d hd => List.mem_singleton.mp hd ▸ hc⟩

lemma wellformed_foldl {merged : List RankedCandidate} (h : Wellformed limit merged)
    (l : List RankedCandidate) : Wellformed limit (l.foldl (appendCandidate limit) merged) := by
  induction l generalizing merged with
  | nil => exact h
  | cons c l ih => exact ih (wellformed_append h c)

lemma prefix_foldl (limit : ℤ) (merged l : List RankedCandidate) :
    merged <+: l.foldl (appendCandidate limit) merged := by
  induction l generalizing merged with
  | nil => exact List.prefix_rfl
  | cons c l ih => exact (prefix_append merged c).trans (ih _)

lemma subset_foldl (limit : ℤ) {merged l all : List RankedCandidate} (h : merged ⊆ all) (hl : l ⊆ all) :
    l.foldl (appendCandidate limit) merged ⊆ all := by
  induction l generalizing merged with
  | nil => exact h
  | cons c l ih =>
      rcases List.cons_subset.mp hl with ⟨hc, hl⟩
      exact ih (subset_append h hc) hl

lemma Merged.mono {merged merged' : List RankedCandidate} {c : RankedCandidate}
    (h : Merged merged c) (hinitial : merged <+: merged') : Merged merged' c := by
  rcases h with h | h
  · exact Or.inl h
  · exact Or.inr ((hinitial.map _).subset h)

/-- At the end every candidate is in the merged list, or the list is full. -/
lemma merged_foldl (limit : ℤ) (merged l : List RankedCandidate) :
    (∀ c ∈ l, Merged (l.foldl (appendCandidate limit) merged) c) ∨
      limit ≤ (l.foldl (appendCandidate limit) merged).length := by
  induction l generalizing merged with
  | nil => exact Or.inl fun c hc => absurd hc List.not_mem_nil
  | cons c l ih =>
      have hinitial := prefix_foldl limit (appendCandidate limit merged c) l
      rcases ih (appendCandidate limit merged c) with hall | hfull
      · rcases merged_append limit merged c with hc | hfull
        · refine Or.inl fun d hd => ?_
          rcases List.mem_cons.mp hd with rfl | hd
          · exact hc.mono hinitial
          · exact hall d hd
        · exact Or.inr (hfull.trans (by exact_mod_cast hinitial.length_le))
      · exact Or.inr hfull

/-- Merging a list that holds all candidates yields as many servers as there are, up to the
limit. -/
lemma length_merge {candidates l : List RankedCandidate} (hlimit : 0 < limit) (hl : l ⊆ candidates)
    (hall : candidates ⊆ l) :
    ((l.foldl (appendCandidate limit) []).length : ℤ) =
      min (max limit 0) (serverIds candidates).card := by
  have hform : Wellformed limit _ := wellformed_foldl wellformed_nil l
  have hsubset := subset_foldl limit (List.nil_subset candidates) hl
  have hids : ((l.foldl (appendCandidate limit) []).map (·.serverId)).toFinset ⊆
      serverIds candidates := by
    intro id hid
    rcases List.mem_map.mp (List.mem_toFinset.mp hid) with ⟨c, hc, rfl⟩
    exact Finset.mem_erase.mpr ⟨hform.nonempty c hc,
      List.mem_toFinset.mpr (List.mem_map_of_mem (hsubset hc))⟩
  have hcard := List.toFinset_card_of_nodup hform.nodup
  rw [List.length_map] at hcard
  have hle := Finset.card_le_card hids
  have hwithin := hform.within
  rcases merged_foldl limit [] l with hmerged | hfull
  · have hge : (serverIds candidates).card ≤
        ((l.foldl (appendCandidate limit) []).map (·.serverId)).toFinset.card := by
      refine Finset.card_le_card fun id hid => ?_
      rcases Finset.mem_erase.mp hid with ⟨hne, hmem⟩
      rcases List.mem_map.mp (List.mem_toFinset.mp hmem) with ⟨c, hc, rfl⟩
      exact List.mem_toFinset.mpr ((hmerged c (hall hc)).resolve_left hne)
    omega
  · omega

end Merge

/-! ## The refresh order -/

section Refresh

variable {fromisoformat : Text → Option DateTime}

/-- A total order of timestamps that puts those of one kind first. -/
def timeKey (awareFirst : Bool) : DateTime → ℕ ×ₗ ℤ
  | .naive t => toLex (1, t)
  | .aware t => toLex (if awareFirst then 0 else 2, t)

lemma timeKey_injective (awareFirst : Bool) : Function.Injective (timeKey awareFirst) := by
  intro d e h
  cases d <;> cases e <;> cases awareFirst <;> simp_all [timeKey]

lemma lt_eq_timeKey (awareFirst : Bool) {d e : DateTime} {r : Bool} (h : d.lt e = some r) :
    r = decide (timeKey awareFirst d < timeKey awareFirst e) := by
  cases d <;> cases e <;> simp_all [timeKey, DateTime.lt, Prod.Lex.toLex_lt_toLex]

/-- The key of `refresh_order` with a total order of timestamps. -/
def refreshKey (fromisoformat : Text → Option DateTime) (awareFirst : Bool) (c : RankedCandidate) :
    ℕ ×ₗ (ℕ ×ₗ ℤ) ×ₗ ℕ ×ₗ ℤ ×ₗ Text :=
  toLex (refreshKnown fromisoformat c,
    toLex (timeKey awareFirst (refreshTime fromisoformat c), refreshRest c))

/-- Comparisons that do not raise are the ones of the key. -/
lemma refreshLt_eq_key (awareFirst : Bool) {a b : RankedCandidate} {r : Bool}
    (h : refreshLt fromisoformat a b = some r) :
    r = decide (refreshKey fromisoformat awareFirst a < refreshKey fromisoformat awareFirst b) := by
  simp only [refreshKey, Prod.Lex.toLex_lt_toLex]
  unfold refreshLt at h
  by_cases hknown : refreshKnown fromisoformat a = refreshKnown fromisoformat b
  · rw [if_neg (not_not.mpr hknown)] at h
    by_cases htime : refreshTime fromisoformat a = refreshTime fromisoformat b
    · rw [if_neg (not_not.mpr htime)] at h
      simp [hknown, htime, Option.some.inj h.symm]
    · rw [if_pos htime] at h
      have hkey := (timeKey_injective awareFirst).ne htime
      simp [hknown, hkey, lt_eq_timeKey awareFirst h]
  · rw [if_pos hknown] at h
    simp [hknown, Option.some.inj h.symm]

lemma lt_eq_none {d e : DateTime} (h : d.lt e = none) :
    (∃ s t, d = .naive s ∧ e = .aware t) ∨ ∃ s t, d = .aware s ∧ e = .naive t := by
  cases d with
  | naive s =>
      cases e with
      | naive t => exact absurd h (by simp [DateTime.lt])
      | aware t => exact Or.inl ⟨s, t, rfl, rfl⟩
  | aware s =>
      cases e with
      | naive t => exact Or.inr ⟨s, t, rfl, rfl⟩
      | aware t => exact absurd h (by simp [DateTime.lt])

/-- A comparison raises only between a timestamp with an offset and one without. -/
lemma mixed_of_refreshLt {candidates : List RankedCandidate} {a b : RankedCandidate}
    (ha : a ∈ candidates) (hb : b ∈ candidates) (h : refreshLt fromisoformat a b = none) :
    MixedTimestamps fromisoformat candidates := by
  unfold refreshLt at h
  split_ifs at h with hknown htime
  have hboth : ∃ d e, checkedAt fromisoformat a = some d ∧ checkedAt fromisoformat b = some e := by
    unfold refreshKnown at hknown
    unfold refreshTime at htime
    rcases ha' : checkedAt fromisoformat a with _ | d
    · rcases hb' : checkedAt fromisoformat b with _ | e
      · exact absurd (by rw [ha', hb']) htime
      · exact absurd (by simp [ha', hb']) hknown
    · rcases hb' : checkedAt fromisoformat b with _ | e
      · exact absurd (by simp [ha', hb']) hknown
      · exact ⟨d, e, rfl, rfl⟩
  rcases hboth with ⟨d, e, hd, he⟩
  rw [refreshTime, refreshTime, hd, he] at h
  rcases lt_eq_none h with ⟨s, t, rfl, rfl⟩ | ⟨s, t, rfl, rfl⟩
  · exact ⟨a, ha, b, hb, s, t, hd, he⟩
  · exact ⟨b, hb, a, ha, t, s, he, hd⟩

variable (sort : ComparisonSort) {candidates : List RankedCandidate}

/-- **Any mixture of timestamps raises**, whatever the algorithm of `sorted` compares. -/
lemma refreshOrder_of_mixed (h : MixedTimestamps fromisoformat candidates) :
    refreshOrder fromisoformat sort candidates = none := by
  rcases h with ⟨a, ha, b, hb, s, t, hnaive, haware⟩
  refine sort.sorted_eq_none (refreshKey fromisoformat false) (refreshKey fromisoformat true)
    (fun c _ d _ r => refreshLt_eq_key false)
    (fun c _ d _ r => refreshLt_eq_key true) ha hb ?_ ?_
  · simp [refreshKey, refreshKnown, refreshTime, hnaive, haware, timeKey, Prod.Lex.toLex_lt_toLex]
  · simp [refreshKey, refreshKnown, refreshTime, hnaive, haware, timeKey, Prod.Lex.toLex_lt_toLex]

lemma refreshOrder_of_not_mixed (h : ¬ MixedTimestamps fromisoformat candidates) :
    refreshOrder fromisoformat sort candidates =
      some (sortedBy (refreshKey fromisoformat false) candidates) := by
  refine sort.sorted_of_key fun a ha b hb => ?_
  rcases hlt : refreshLt fromisoformat a b with _ | r
  · exact absurd (mixed_of_refreshLt ha hb hlt) h
  · rw [refreshLt_eq_key false hlt]

end Refresh

/-! ## The shortlist -/

section Shortlist

variable (sort : ComparisonSort) (fromisoformat : Text → Option DateTime)
  {candidates : List RankedCandidate} {activeBefore : Option Text} {limit : ℤ}

/-- A candidate that is found as the active one is first. -/
lemma head?_merge {c : RankedCandidate} (hlimit : 0 < limit) (hid : c.serverId ≠ [])
    (l : List RankedCandidate) :
    ((c :: l).foldl (appendCandidate limit) []).head? = some c := by
  have hfirst : appendCandidate limit [] c = [c] := by
    rw [appendCandidate, if_neg]
    · rfl
    · simp only [List.map_nil, List.not_mem_nil, List.length_nil, false_or, not_or]
      exact ⟨hid, by omega⟩
  rcases prefix_foldl limit [c] l with ⟨rest, hrest⟩
  rw [List.foldl_cons, hfirst, ← hrest]
  rfl

/-- An empty `active_before` is the target of a candidate without a server id only. -/
lemma serverId_of_target_empty {c : RankedCandidate} (h : target c = []) : c.serverId = [] := by
  unfold target orElse at h
  split_ifs at h with hempty
  · exact h
  · exact absurd h hempty

lemma active_mem {c : RankedCandidate} (h : c ∈ activeCandidate candidates activeBefore) :
    c ∈ candidates := by
  rcases Option.bind_eq_some_iff.mp h with ⟨active, -, hfind⟩
  exact List.mem_of_find?_eq_some hfind

/-- The candidate that `_append` sees first. -/
lemma active_eq {c : RankedCandidate} (h : c ∈ activeCandidate candidates activeBefore)
    (hid : c.serverId ≠ []) :
    (if activeBefore.getD [] = [] then none else activeCandidate candidates activeBefore) =
      some c := by
  rw [if_neg, h]
  intro hempty
  rcases Option.bind_eq_some_iff.mp h with ⟨active, hactive, hfind⟩
  rw [hactive, Option.getD_some] at hempty
  have htarget := List.find?_some hfind
  rw [decide_eq_true_eq, hempty] at htarget
  exact hid (serverId_of_target_empty htarget)

lemma complete_nil (activeBefore : Option Text) (hnil : limit ≤ 0 ∨ candidates = []) :
    Complete candidates activeBefore limit [] where
  subset := List.nil_subset _
  nodup := List.nodup_nil
  length := by
    rcases hnil with h | rfl
    · rw [List.length_nil]
      omega
    · rw [show serverIds [] = ∅ from rfl, Finset.card_empty, List.length_nil]
      omega
  active_first hlimit c hc := by
    rcases hnil with h | rfl
    · omega
    · exact absurd (active_mem hc) List.not_mem_nil

variable {sort fromisoformat}

/-- The shortlist in the case that something is sorted. -/
lemma shortlist_eq (hlimit : 0 < limit) (hne : candidates ≠ []) :
    buildOnDemandShortlist sort fromisoformat candidates activeBefore limit =
      (refreshOrder fromisoformat sort candidates).map fun refreshed =>
        ((if activeBefore.getD [] = [] then none
          else activeCandidate candidates activeBefore).toList ++ priorityOrder candidates ++
            latencyOrder candidates ++ refreshed ++ candidates).foldl (appendCandidate limit) [] := by
  rw [buildOnDemandShortlist, if_neg]
  exact not_or.mpr ⟨not_le.mpr hlimit, hne⟩

lemma complete_merge (hlimit : 0 < limit) {refreshed : List RankedCandidate}
    (hrefreshed : refreshed ⊆ candidates)
    (hactive : ∀ c ∈ activeCandidate candidates activeBefore, c.serverId ≠ []) :
    Complete candidates activeBefore limit
      (((if activeBefore.getD [] = [] then none
        else activeCandidate candidates activeBefore).toList ++ priorityOrder candidates ++
          latencyOrder candidates ++ refreshed ++ candidates).foldl (appendCandidate limit) []) := by
  have hsub : (if activeBefore.getD [] = [] then none
      else activeCandidate candidates activeBefore).toList ++ priorityOrder candidates ++
        latencyOrder candidates ++ refreshed ++ candidates ⊆ candidates := by
    refine List.append_subset.mpr ⟨List.append_subset.mpr ⟨List.append_subset.mpr
      ⟨List.append_subset.mpr ⟨?_, ?_⟩, ?_⟩, hrefreshed⟩, List.Subset.refl _⟩
    · intro c hc
      split_ifs at hc with hempty
      · exact absurd hc List.not_mem_nil
      · exact active_mem (Option.mem_toList.mp hc)
    · exact fun c hc => mem_sortedBy.mp hc
    · exact fun c hc => mem_sortedBy.mp hc
  refine ⟨subset_foldl limit (List.nil_subset _) hsub, (wellformed_foldl wellformed_nil _).nodup,
    length_merge hlimit hsub (List.subset_append_right _ _), ?_⟩
  intro _ c hc
  have hid := hactive c hc
  rw [active_eq hc hid, Option.toList_some]
  exact head?_merge hlimit hid _

/-- **The shortlist keeps its promise exactly when the limit is not positive, or all timestamps can
be compared and the active candidate has a server id.**  One timestamp with an offset beside one
without is enough to raise, for every algorithm of `sorted`. -/
theorem shortlist_iff (sort : ComparisonSort) (fromisoformat : Text → Option DateTime)
    (candidates : List RankedCandidate) (activeBefore : Option Text) (limit : ℤ) :
    (∃ shortlist,
      buildOnDemandShortlist sort fromisoformat candidates activeBefore limit = some shortlist ∧
        Complete candidates activeBefore limit shortlist) ↔
      limit ≤ 0 ∨ (¬ MixedTimestamps fromisoformat candidates ∧
        ∀ c ∈ activeCandidate candidates activeBefore, c.serverId ≠ []) := by
  by_cases hnil : limit ≤ 0 ∨ candidates = []
  · refine iff_of_true ⟨[], if_pos hnil, complete_nil activeBefore hnil⟩ ?_
    rcases hnil with h | rfl
    · exact Or.inl h
    · refine Or.inr ⟨?_, fun c hc => absurd (active_mem hc) List.not_mem_nil⟩
      rintro ⟨a, ha, -⟩
      exact absurd ha List.not_mem_nil
  · rcases not_or.mp hnil with ⟨hlimit, hne⟩
    rw [or_iff_right hlimit, shortlist_eq (not_le.mp hlimit) hne]
    by_cases hmixed : MixedTimestamps fromisoformat candidates
    · rw [refreshOrder_of_mixed sort hmixed, Option.map_none]
      refine iff_of_false ?_ fun h => h.1 hmixed
      rintro ⟨_, h, -⟩
      exact absurd h (by simp)
    · rw [refreshOrder_of_not_mixed sort hmixed, Option.map_some]
      constructor
      · rintro ⟨shortlist, hshortlist, hcomplete⟩
        refine ⟨hmixed, fun c hc => ?_⟩
        have hhead := hcomplete.active_first (not_le.mp hlimit) c hc
        obtain rfl := Option.some.inj hshortlist
        exact (wellformed_foldl wellformed_nil _).nonempty c (List.mem_of_head? hhead)
      · rintro ⟨-, hactive⟩
        exact ⟨_, rfl, complete_merge (not_le.mp hlimit) (fun c hc => mem_sortedBy.mp hc) hactive⟩

end Shortlist

/-! ## Two stores of evidence -/

/-- `record_ping_result` for a server without members, at the time that `isoformat` prints. -/
def recordedPing : EvidenceCall :=
  .ping {
    serverId := "de-1".toList
    status := "success".toList
    latencyMs := some 30
    runtimeTarget := .str "DE".toList
    source := some "watchdog".toList
    checkedAt := none
    checkedBy := none
    errorCode := none
    errorMessage := none
    metadata := []
    now := "2026-09-28T00:00:00.000001+00:00".toList }

/-- The evidence after a background snapshot of one server and a ping of the other. -/
def bothStores : Evidence :=
  [healthySnapshot "background", recordedPing].foldl (evidenceStep Unicode.ascii midnightIso)
    unprobed

/-- `datetime.fromisoformat` on the two formats that the stores use, for that midnight. -/
def midnightFromisoformat (t : Text) : Option DateTime :=
  if t = "2026-09-28 00:00:00".toList then some (.naive 63926150400000000)
  else if t = "2026-09-28T00:00:00.000001+00:00".toList then some (.aware 63926150400000001)
  else none

/-- What the selector loads for the two servers. -/
def loadedPair : List RankedCandidate :=
  (loadSelectorCandidates Unicode.ascii id bothStores halfAnHourBefore
    [eligibleServer, { eligibleServer with serverId := "de-1".toList }]).map ofLoaded

lemma exists_loaded {s : ServerColumns} {eligible : List ServerColumns} (h : s ∈ eligible) :
    ∃ c ∈ (loadSelectorCandidates Unicode.ascii id bothStores halfAnHourBefore eligible).map
      ofLoaded, c.ping = candidatePing Unicode.ascii id bothStores halfAnHourBefore s.serverId := by
  refine ⟨_, List.mem_map_of_mem (List.mem_map_of_mem (List.mem_mergeSort.mpr h)), rfl⟩

/-- The snapshot's timestamp has no offset, the ping's has one. -/
lemma mixed_loadedPair : MixedTimestamps midnightFromisoformat loadedPair := by
  rcases exists_loaded (List.mem_cons_self (a := eligibleServer)
    (l := [{ eligibleServer with serverId := "de-1".toList }])) with ⟨a, ha, hping⟩
  rcases exists_loaded (List.mem_cons_of_mem eligibleServer
    (List.mem_singleton.mpr (rfl : { eligibleServer with serverId := "de-1".toList } = _))) with
    ⟨b, hb, hping'⟩
  refine ⟨a, ha, b, hb, 63926150400000000, 63926150400000001, ?_, ?_⟩
  · rw [checkedAt, hping]
    decide +kernel
  · rw [checkedAt, hping']
    decide +kernel

/-- After a snapshot of one server and a ping of another no shortlist can be built. -/
theorem no_shortlist_of_both_stores :
    buildOnDemandShortlist .insertion midnightFromisoformat loadedPair none 10 = none ∧
      ¬ ∃ shortlist, buildOnDemandShortlist .insertion midnightFromisoformat loadedPair none 10 =
        some shortlist ∧ Complete loadedPair none 10 shortlist := by
  have hne : loadedPair ≠ [] := by
    rcases mixed_loadedPair with ⟨a, ha, -⟩
    exact List.ne_nil_of_mem ha
  have hnone : buildOnDemandShortlist .insertion midnightFromisoformat loadedPair none 10 = none := by
    rw [shortlist_eq (by decide) hne, refreshOrder_of_mixed _ mixed_loadedPair, Option.map_none]
  refine ⟨hnone, ?_⟩
  rintro ⟨shortlist, hsome, -⟩
  rw [hnone] at hsome
  exact absurd hsome (by simp)

end FwRouter.Selector
