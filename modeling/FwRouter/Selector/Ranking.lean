import FwRouter.Health.Candidates
import FwRouter.Library.Sorting

/-!
# The choice among candidates

`_select_candidate_with_priority` of `services/selector.py` ranks the candidates that are eligible
for automatic selection by latency over priority, and returns beside the choice the candidate with
the least plain latency when that is another one.  Without any successful ping it falls back to the
candidates a provider can switch to.

Latencies are integers and `latency / weight` is exact.  The key of the choice ends with the server
id; the key of the plain latency ends with the name, so that among namesakes with one latency the
order of the list decides (`selectsBest_iff`).
-/

namespace FwRouter.Selector

open Py Health Sorting

/-! ## Candidates -/

/-- A candidate with the keys that only some of its sources set. -/
structure RankedCandidate extends Candidate where
  providerManagedLegacy : Bool
  providerInternalMember : Bool
  executionCapability : Option Text
  runtimeEvidence : Option Text
  providerEligible : Option Bool
  memberId : Option Text

/-- A candidate of `_load_selector_candidates`, which sets none of them. -/
def ofLoaded (c : Candidate) : RankedCandidate where
  toCandidate := c
  providerManagedLegacy := false
  providerInternalMember := false
  executionCapability := none
  runtimeEvidence := none
  providerEligible := none
  memberId := none

/-- `is_auto_eligible`. -/
def isAutoEligible (c : RankedCandidate) : Bool :=
  !c.providerManagedLegacy && !c.providerInternalMember && c.vpnAuto &&
    decide (0 ≤ c.vpnAutoPriority) && decide (strip c.inventoryState = "active".toList) &&
    decide (strip (c.manuallyDeletedAt.getD []) = [])

/-- `_candidate_priority`. -/
def candidatePriority (c : RankedCandidate) : ℤ :=
  max minVpnAutoPriority (min maxVpnAutoPriority c.vpnAutoPriority)

/-- `_candidate_effective_ping`. -/
def candidateEffectivePing (c : RankedCandidate) : Option ℚ :=
  if c.ping.status ≠ .success then none
  else
    match c.ping.lastPingMs with
    | none => none
    | some latency =>
        let priority := candidatePriority c
        if priority < 0 then none
        else
          let weight := if 0 < priority then priority else 1
          some ((latency : ℚ) / (weight : ℚ))

/-! ## Selection -/

/-- A successful ping with a latency. -/
def hasLatency (c : RankedCandidate) : Bool :=
  decide (c.ping.status = .success) && c.ping.lastPingMs.isSome

/-- The latency of a candidate that has one. -/
def latency (c : RankedCandidate) : ℤ := c.ping.lastPingMs.getD 0

def plainKey (c : RankedCandidate) : ℤ ×ₗ Text := toLex (latency c, c.serverName)

/-- `_select_best_successful_candidate`. -/
def selectBestSuccessfulCandidate (candidates : List RankedCandidate) : Option RankedCandidate :=
  (sortedBy plainKey (candidates.filter hasLatency)).head?

def scoreKey (c : RankedCandidate) : ℚ ×ₗ ℤ ×ₗ Text ×ₗ Text :=
  toLex ((candidateEffectivePing c).getD 0, toLex (latency c, toLex (c.serverName, c.serverId)))

def executable (c : RankedCandidate) : Bool :=
  decide (c.executionCapability = some "provider_switch".toList) &&
    decide (c.runtimeEvidence = some "not_observed".toList) &&
    decide (c.providerEligible = some true)

def fallbackKey (c : RankedCandidate) : ℤ ×ₗ Text ×ₗ Text :=
  toLex (-candidatePriority c, toLex (c.serverId, c.memberId.getD []))

/-- `_select_candidate_with_priority`. -/
def selectCandidateWithPriority (candidates : List RankedCandidate) :
    Option RankedCandidate × Option RankedCandidate :=
  let autoSelectable := candidates.filter isAutoEligible
  match selectBestSuccessfulCandidate autoSelectable with
  | none => ((sortedBy fallbackKey (autoSelectable.filter executable)).head?, none)
  | some bestByPing =>
      let scored := autoSelectable.filter fun c => (candidateEffectivePing c).isSome
      match (sortedBy scoreKey scored).head? with
      | none => (some bestByPing, none)
      | some selected =>
          if selected.serverId = bestByPing.serverId then (some selected, none)
          else (some selected, some bestByPing)

/-! ## What is promised -/

/-- `(latency / max(priority, 1), latency, server_name, server_id)`. -/
def rank (c : RankedCandidate) : ℚ ×ₗ ℤ ×ₗ Text ×ₗ Text :=
  toLex ((latency c : ℚ) / (max (candidatePriority c) 1 : ℤ),
    toLex (latency c, toLex (c.serverName, c.serverId)))

/-- The candidates that are eligible and have a successful ping with a latency. -/
def contenders (candidates : List RankedCandidate) : List RankedCandidate :=
  candidates.filter fun c => isAutoEligible c && hasLatency c

/-- The choice is eligible, the best contender, and independent of the order of the list. -/
structure SelectsBest (candidates : List RankedCandidate) : Prop where
  eligible : ∀ c ∈ (selectCandidateWithPriority candidates).1, c ∈ candidates ∧ isAutoEligible c
  optimal : contenders candidates ≠ [] →
    ∃ c ∈ (selectCandidateWithPriority candidates).1, c ∈ contenders candidates ∧
      ∀ d ∈ contenders candidates, rank c ≤ rank d
  order_independent : ∀ permuted, permuted.Perm candidates →
    selectCandidateWithPriority permuted = selectCandidateWithPriority candidates

/-- One contender alone has the least `(latency, server_name)`. -/
def LatencyWinnerUnique (candidates : List RankedCandidate) : Prop :=
  ∀ a ∈ contenders candidates, ∀ b ∈ contenders candidates,
    (∀ c ∈ contenders candidates, plainKey a ≤ plainKey c) →
    (∀ c ∈ contenders candidates, plainKey b ≤ plainKey c) → a = b

/-! ## The three sorts -/

lemma mem_contenders {candidates : List RankedCandidate} {c : RankedCandidate} :
    c ∈ contenders candidates ↔
      c ∈ candidates ∧ isAutoEligible c = true ∧ hasLatency c = true := by
  rw [contenders, List.mem_filter, Bool.and_eq_true]

lemma contenders_perm {l l' : List RankedCandidate} (h : l.Perm l') :
    (contenders l).Perm (contenders l') :=
  h.filter _

lemma candidatePriority_nonneg {c : RankedCandidate} (h : isAutoEligible c = true) :
    0 ≤ candidatePriority c := by
  simp only [isAutoEligible, Bool.and_eq_true, decide_eq_true_eq] at h
  have hpriority := h.1.1.2
  rw [candidatePriority, maxVpnAutoPriority]
  omega

/-- Of an eligible candidate the effective ping is its latency over its priority, or over one. -/
lemma candidateEffectivePing_of_eligible {c : RankedCandidate} (h : isAutoEligible c = true) :
    candidateEffectivePing c =
      if hasLatency c then some ((latency c : ℚ) / (max (candidatePriority c) 1 : ℤ)) else none := by
  have hpriority := candidatePriority_nonneg h
  have hweight : (if 0 < candidatePriority c then candidatePriority c else 1) =
      max (candidatePriority c) 1 := by
    split_ifs with hpos
    · omega
    · omega
  rw [candidateEffectivePing, hasLatency, latency]
  by_cases hstatus : c.ping.status = .success
  · rcases hlatency : c.ping.lastPingMs with _ | ms
    · simp [hstatus]
    · simp [hstatus, not_lt.mpr hpriority, hweight]
  · simp [hstatus]

lemma scored_eq_contenders (candidates : List RankedCandidate) :
    (candidates.filter isAutoEligible).filter (fun c => (candidateEffectivePing c).isSome) =
      contenders candidates := by
  rw [List.filter_filter, contenders]
  refine List.filter_congr fun c _ => ?_
  rcases heligible : isAutoEligible c with _ | _
  · rw [Bool.and_false, Bool.false_and]
  · rw [candidateEffectivePing_of_eligible heligible, Bool.and_true, Bool.true_and]
    split_ifs with hlatency
    · rw [hlatency]
      rfl
    · rw [Bool.eq_false_of_not_eq_true hlatency]
      rfl

lemma successful_eq_contenders (candidates : List RankedCandidate) :
    (candidates.filter isAutoEligible).filter hasLatency = contenders candidates := by
  rw [List.filter_filter, contenders]
  exact List.filter_congr fun c _ => Bool.and_comm _ _

lemma scoreKey_eq_rank {candidates : List RankedCandidate} {c : RankedCandidate}
    (h : c ∈ contenders candidates) : scoreKey c = rank c := by
  rcases mem_contenders.mp h with ⟨-, heligible, hlatency⟩
  rw [scoreKey, candidateEffectivePing_of_eligible heligible, if_pos hlatency, Option.getD_some, rank]

/-- The answer when `best` has the least plain latency and `selected` the least score. -/
def answer (selected best : RankedCandidate) : Option RankedCandidate × Option RankedCandidate :=
  if selected.serverId = best.serverId then (some selected, none) else (some selected, some best)

/-- **With a contender, both sorts are over the contenders.** -/
lemma select_of_contender {candidates : List RankedCandidate} (h : contenders candidates ≠ []) :
    ∃ selected best, (sortedBy scoreKey (contenders candidates)).head? = some selected ∧
      (sortedBy plainKey (contenders candidates)).head? = some best ∧
      selectCandidateWithPriority candidates = answer selected best := by
  rcases hselected : (sortedBy scoreKey (contenders candidates)).head? with _ | selected
  · rw [List.head?_eq_none_iff, sortedBy_eq_nil_iff] at hselected
    exact absurd hselected h
  rcases hbest : (sortedBy plainKey (contenders candidates)).head? with _ | best
  · rw [List.head?_eq_none_iff, sortedBy_eq_nil_iff] at hbest
    exact absurd hbest h
  refine ⟨selected, best, rfl, rfl, ?_⟩
  rw [selectCandidateWithPriority, selectBestSuccessfulCandidate, successful_eq_contenders, hbest]
  simp only [scored_eq_contenders, hselected]
  rfl

lemma select_of_no_contender {candidates : List RankedCandidate} (h : contenders candidates = []) :
    selectCandidateWithPriority candidates =
      ((sortedBy fallbackKey ((candidates.filter isAutoEligible).filter executable)).head?, none) := by
  rw [selectCandidateWithPriority, selectBestSuccessfulCandidate, successful_eq_contenders, h,
    sortedBy_eq_nil_iff.mpr rfl]
  rfl

/-! ## Order of the list -/

section Distinct

variable {candidates : List RankedCandidate}

lemma eq_of_serverId (hids : (candidates.map (·.serverId)).Nodup) {a b : RankedCandidate}
    (ha : a ∈ candidates) (hb : b ∈ candidates) (h : a.serverId = b.serverId) : a = b :=
  List.inj_on_of_nodup_map hids ha hb h

/-- The key of the choice ends with the server id. -/
lemma selected_perm (hids : (candidates.map (·.serverId)).Nodup) {permuted : List RankedCandidate}
    (hperm : permuted.Perm candidates) :
    (sortedBy scoreKey (contenders candidates)).head? =
      (sortedBy scoreKey (contenders permuted)).head? := by
  refine head?_sortedBy_perm (contenders_perm hperm.symm) fun a ha b hb hla hlb => ?_
  have hkey := le_antisymm (hla b hb) (hlb a ha)
  have hid : a.serverId = b.serverId := by
    simp only [scoreKey, EmbeddingLike.apply_eq_iff_eq, Prod.mk.injEq] at hkey
    exact hkey.2.2.2
  exact eq_of_serverId hids (mem_contenders.mp ha).1 (mem_contenders.mp hb).1 hid

lemma fallback_perm (hids : (candidates.map (·.serverId)).Nodup) {permuted : List RankedCandidate}
    (hperm : permuted.Perm candidates) :
    (sortedBy fallbackKey ((candidates.filter isAutoEligible).filter executable)).head? =
      (sortedBy fallbackKey ((permuted.filter isAutoEligible).filter executable)).head? := by
  refine head?_sortedBy_perm ((hperm.symm.filter _).filter _) fun a ha b hb hla hlb => ?_
  have hkey := le_antisymm (hla b hb) (hlb a ha)
  have hid : a.serverId = b.serverId := by
    simp only [fallbackKey, EmbeddingLike.apply_eq_iff_eq, Prod.mk.injEq] at hkey
    exact hkey.2.1
  exact eq_of_serverId hids (List.mem_of_mem_filter (List.mem_of_mem_filter ha))
    (List.mem_of_mem_filter (List.mem_of_mem_filter hb)) hid

lemma select_perm (hids : (candidates.map (·.serverId)).Nodup)
    (hunique : LatencyWinnerUnique candidates) {permuted : List RankedCandidate}
    (hperm : permuted.Perm candidates) :
    selectCandidateWithPriority permuted = selectCandidateWithPriority candidates := by
  by_cases hnone : contenders candidates = []
  · have hnone' : contenders permuted = [] :=
      List.perm_nil.mp (hnone ▸ contenders_perm hperm)
    rw [select_of_no_contender hnone, select_of_no_contender hnone', fallback_perm hids hperm]
  · have hsome : contenders permuted ≠ [] := fun h =>
      hnone (List.perm_nil.mp (h ▸ contenders_perm hperm.symm))
    rcases select_of_contender hnone with ⟨selected, best, hselected, hbest, hselect⟩
    rcases select_of_contender hsome with ⟨selected', best', hselected', hbest', hselect'⟩
    rw [selected_perm hids hperm, hselected'] at hselected
    rw [head?_sortedBy_perm (contenders_perm hperm.symm) hunique, hbest'] at hbest
    rw [hselect, hselect', Option.some.inj hselected, Option.some.inj hbest]

/-- A contender with the least plain latency is returned second if it stands first in the list. -/
lemma select_of_first {a : RankedCandidate} (ha : a ∈ contenders candidates)
    (hleast : ∀ c ∈ contenders candidates, plainKey a ≤ plainKey c)
    (hids : (candidates.map (·.serverId)).Nodup) {selected : RankedCandidate}
    (hselected : (sortedBy scoreKey (contenders candidates)).head? = some selected) :
    ∃ permuted, permuted.Perm candidates ∧
      selectCandidateWithPriority permuted = answer selected a := by
  rcases List.append_of_mem (mem_contenders.mp ha).1 with ⟨before, after, rfl⟩
  have hperm : (a :: (before ++ after)).Perm (before ++ a :: after) := List.perm_middle.symm
  refine ⟨a :: (before ++ after), hperm, ?_⟩
  have hcons : contenders (a :: (before ++ after)) = a :: contenders (before ++ after) := by
    rcases mem_contenders.mp ha with ⟨-, heligible, hlatency⟩
    exact List.filter_cons_of_pos (by rw [heligible, hlatency]; rfl)
  have hfirst : (sortedBy plainKey (contenders (a :: (before ++ after)))).head? = some a := by
    rw [hcons]
    refine head?_sortedBy_cons fun b hb => hleast b ?_
    exact (contenders_perm hperm).mem_iff.mp (hcons ▸ List.mem_cons_of_mem a hb)
  have hsome : contenders (a :: (before ++ after)) ≠ [] := hcons ▸ List.cons_ne_nil _ _
  rcases select_of_contender hsome with ⟨selected', best', hselected', hbest', hselect⟩
  rw [selected_perm hids hperm, hselected'] at hselected
  rw [hfirst] at hbest'
  rw [hselect, Option.some.inj hselected, Option.some.inj hbest']

lemma answer_ne (selected : RankedCandidate) {a b : RankedCandidate} (h : a.serverId ≠ b.serverId) :
    answer selected a ≠ answer selected b := by
  intro heq
  unfold answer at heq
  split_ifs at heq with ha hb hb
  · exact h (ha.symm.trans hb)
  · exact absurd (Prod.mk.inj heq).2 (by simp)
  · exact absurd (Prod.mk.inj heq).2 (by simp)
  · exact h (congrArg (·.serverId) (Option.some.inj (Prod.mk.inj heq).2))

/-- Two contenders that tie for the least plain latency: the list's order shows. -/
lemma order_shows_of_tie (hids : (candidates.map (·.serverId)).Nodup) {a b : RankedCandidate}
    (ha : a ∈ contenders candidates) (hb : b ∈ contenders candidates) (hne : a ≠ b)
    (hla : ∀ c ∈ contenders candidates, plainKey a ≤ plainKey c)
    (hlb : ∀ c ∈ contenders candidates, plainKey b ≤ plainKey c) :
    ¬ ∀ permuted, permuted.Perm candidates →
      selectCandidateWithPriority permuted = selectCandidateWithPriority candidates := by
  intro hsame
  rcases select_of_contender (List.ne_nil_of_mem ha) with ⟨selected, best, hselected, -, -⟩
  rcases select_of_first ha hla hids hselected with ⟨first, hperm, hfirst⟩
  rcases select_of_first hb hlb hids hselected with ⟨second, hperm', hsecond⟩
  have hid : a.serverId ≠ b.serverId := fun h =>
    hne (eq_of_serverId hids (mem_contenders.mp ha).1 (mem_contenders.mp hb).1 h)
  refine answer_ne selected hid ?_
  rw [← hfirst, ← hsecond, hsame first hperm, hsame second hperm']

end Distinct

/-! ## The choice -/

lemma answer_fst (selected best : RankedCandidate) : (answer selected best).1 = some selected := by
  unfold answer
  split_ifs with h
  · rfl
  · rfl

lemma select_eligible {candidates : List RankedCandidate} {c : RankedCandidate}
    (hc : c ∈ (selectCandidateWithPriority candidates).1) :
    c ∈ candidates ∧ isAutoEligible c = true := by
  by_cases hnone : contenders candidates = []
  · rw [select_of_no_contender hnone] at hc
    have hmem := List.mem_of_mem_filter (mem_of_head?_sortedBy hc)
    exact List.mem_filter.mp hmem
  · rcases select_of_contender hnone with ⟨selected, best, hselected, -, hselect⟩
    rw [hselect, answer_fst] at hc
    obtain rfl := Option.some.inj hc
    rcases mem_contenders.mp (mem_of_head?_sortedBy hselected) with ⟨hmem, heligible, -⟩
    exact ⟨hmem, heligible⟩

lemma select_optimal {candidates : List RankedCandidate} (h : contenders candidates ≠ []) :
    ∃ c ∈ (selectCandidateWithPriority candidates).1, c ∈ contenders candidates ∧
      ∀ d ∈ contenders candidates, rank c ≤ rank d := by
  rcases select_of_contender h with ⟨selected, best, hselected, -, hselect⟩
  have hmem := mem_of_head?_sortedBy hselected
  refine ⟨selected, ?_, hmem, ?_⟩
  · rw [hselect, answer_fst]
    rfl
  · intro d hd
    rw [← scoreKey_eq_rank hmem, ← scoreKey_eq_rank hd]
    exact le_of_head?_sortedBy hselected hd

/-- **The choice is the best contender, and independent of the list's order exactly when no two
contenders tie for the least latency and name.**  The choice itself never depends on the order; what
does is the candidate that is returned beside it. -/
theorem selectsBest_iff (candidates : List RankedCandidate)
    (hids : (candidates.map (·.serverId)).Nodup) :
    SelectsBest candidates ↔ LatencyWinnerUnique candidates := by
  constructor
  · intro h a ha b hb hla hlb
    by_contra hne
    exact order_shows_of_tie hids ha hb hne hla hlb h.order_independent
  · intro hunique
    exact ⟨fun c hc => select_eligible hc, select_optimal,
      fun permuted hperm => select_perm hids hunique hperm⟩

/-! ## Namesakes -/

/-- A server with a successful ping; the name is the same for all. -/
def namesake (serverId : String) (lastPingMs : ℤ) : RankedCandidate :=
  ofLoaded
    { serverId := serverId.toList
      serverName := "SE".toList
      providerName := none
      inventoryState := "active".toList
      runtimeTarget := serverId.toList
      vpnAuto := true
      vpnAutoPriority := 0
      globalList := true
      manuallyDeletedAt := none
      ping :=
        { status := .success
          lastPingMs := some lastPingMs
          checkedAt := none
          checkedBy := none
          source := .none
          errorCode := none
          errorMessage := none
          canonicalHealthStatus := none } }

lemma contenders_namesakes (s t : String) (x y : ℤ) :
    contenders [namesake s x, namesake t y] = [namesake s x, namesake t y] := by
  have heligible : ∀ (u : String) (z : ℤ),
      (isAutoEligible (namesake u z) && hasLatency (namesake u z)) = true := fun u z =>
    show (isAutoEligible (namesake "" 0) && hasLatency (namesake "" 0)) = true by decide +kernel
  refine List.filter_eq_self.mpr fun c hc => ?_
  rcases List.mem_cons.mp hc with rfl | hc
  · exact heligible s x
  · obtain rfl := List.mem_singleton.mp hc
    exact heligible t y

/-- Two namesakes with different latencies are ranked in every order alike. -/
theorem selectsBest_namesakes : SelectsBest [namesake "se-1" 20, namesake "se-2" 30] := by
  refine (selectsBest_iff _ (by decide +kernel)).mpr fun a ha b hb hla hlb => ?_
  rw [contenders_namesakes] at ha hb hla hlb
  have hfirst : ∀ c, c ∈ [namesake "se-1" 20, namesake "se-2" 30] →
      plainKey c ≤ plainKey (namesake "se-1" 20) → c = namesake "se-1" 20 := by
    intro c hc hle
    rcases List.mem_cons.mp hc with rfl | hc
    · rfl
    · obtain rfl := List.mem_singleton.mp hc
      exact absurd hle (by decide +kernel)
  rw [hfirst a ha (hla _ List.mem_cons_self), hfirst b hb (hlb _ List.mem_cons_self)]

/-- Between two namesakes with one latency the order of the list decides what is returned beside the
choice. -/
theorem namesakes_tie :
    (([namesake "se-1" 20, namesake "se-2" 20] : List RankedCandidate).map (·.serverId)).Nodup ∧
      ¬ SelectsBest [namesake "se-1" 20, namesake "se-2" 20] := by
  have hids : (([namesake "se-1" 20, namesake "se-2" 20] : List RankedCandidate).map
      (·.serverId)).Nodup := by decide +kernel
  have hleast : ∀ s c, c ∈ contenders [namesake "se-1" 20, namesake "se-2" 20] →
      plainKey (namesake s 20) ≤ plainKey c := by
    intro s c hc
    rw [contenders_namesakes] at hc
    rcases List.mem_cons.mp hc with rfl | hc
    · exact le_rfl
    · obtain rfl := List.mem_singleton.mp hc
      exact le_rfl
  refine ⟨hids, fun h => order_shows_of_tie (a := namesake "se-1" 20) (b := namesake "se-2" 20) hids
    ?_ ?_ ?_ (hleast _) (hleast _) h.order_independent⟩
  · rw [contenders_namesakes]
    exact List.mem_cons_self
  · rw [contenders_namesakes]
    exact List.mem_cons_of_mem _ List.mem_cons_self
  · intro heq
    exact absurd (congrArg (·.serverId) heq) (by decide +kernel)

end FwRouter.Selector
