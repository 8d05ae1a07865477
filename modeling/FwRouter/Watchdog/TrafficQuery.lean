import FwRouter.Library.Newest
import FwRouter.Python.Datetime
import FwRouter.Watchdog.TrafficSignal

/-!
# The signal of a table

`detect_recent_vpn_traffic_attempts` with the query that feeds it: the rows of the path `vpn` that
are not older than a cutoff, the newest 200 of them.  `record_traffic_samples` prints the time of a
row as Python prints an instant, so the texts of the query have the order of the times, and the
answer is the part in the window of the 200 newest rows of the table (`vpnRows_eq`).

What is observed is told by the newest row of the answer that sent something and by the responses
around it: `detect_of_idle` where no row sent anything, `detect_of_sent` where one did.
-/

namespace FwRouter.Watchdog

open Py Newest

/-! ## The source function -/

section Source

variable (d : Detector)

/-- `window_seconds or settings.watchdog_traffic_window_seconds`. -/
def Detector.resolvedWindow (windowSeconds : Option Int) : Int :=
  match windowSeconds with
  | some w => orDefault w d.trafficWindowSeconds
  | none => d.trafficWindowSeconds

/-- `cutoff_dt`. -/
def Detector.cutoff (windowSeconds : Option Int) (now : Instant) : Instant :=
  now - d.resolvedWindow windowSeconds * 1000000

/-- The query; the table has the rows of the path `vpn` in the order of the scan. -/
def vpnRows (cutoff : Text) (table : List CounterRow) : List CounterRow :=
  newest CounterRow.collectedAt 200 (table.filter fun r => decide (cutoff ≤ r.collectedAt))

/-- `detect_recent_vpn_traffic_attempts` from the query on. -/
def Detector.detect (windowSeconds : Option Int) (now : Instant) (table : List CounterRow) :
    VpnTrafficSignal :=
  detectRecentVpnTrafficAttempts d windowSeconds now
    (vpnRows (isoformat (d.cutoff windowSeconds now)) table)

/-- `current_observation`. -/
def Detector.currentObservation (windowSeconds : Option Int) (now : Instant)
    (table : List CounterRow) : Observation :=
  buildCurrentObservation d
    ((vpnRows (isoformat (d.cutoff windowSeconds now)) table).filter fun r => (sampleKind d r).isSome)

/-- `authoritative_tx_delta` and `authoritative_rx_delta`. -/
def Detector.authoritativeDeltas (windowSeconds : Option Int) (now : Instant)
    (table : List CounterRow) : Int × Int :=
  let o := d.currentObservation windowSeconds now table
  if 0 < o.authoritativeTxDelta then (o.authoritativeTxDelta, o.authoritativeRxDelta) else (0, 0)

end Source

/-! ## What a row says -/

section Rows

variable (d : Detector)

/-- A dataplane row that sent something. -/
def Sent (r : CounterRow) : Prop :=
  sampleKind d r = some .dataplane ∧ 0 < (effectiveSampleDeltas d r).2

/-- A row of a kind that received something. -/
def Responds (kind : SampleKind) (r : CounterRow) : Prop :=
  sampleKind d r = some kind ∧ 0 < (effectiveSampleDeltas d r).1

instance : DecidablePred (Sent d) := fun _ => inferInstanceAs (Decidable (_ ∧ _))

instance (kind : SampleKind) : DecidablePred (Responds d kind) :=
  fun _ => inferInstanceAs (Decidable (_ ∧ _))

/-- `resolved_correlation`. -/
def Detector.correlation : Int := max 1 (orDefault d.correlationSeconds 30)

/-- Two instants within the correlation interval. -/
def Near (t anchor : Instant) : Prop := |t - anchor| ≤ d.correlation * 1000000

instance (t anchor : Instant) : Decidable (Near d t anchor) := inferInstanceAs (Decidable (_ ≤ _))

/-- The times of a table are written as Python writes them. -/
def WrittenAt (time : CounterRow → Instant) (table : List CounterRow) : Prop :=
  ∀ r ∈ table, ValidInstant (time r) ∧ r.collectedAt = isoformat (time r)

/-- The rows that sent something at a time. -/
def sentAt (time : CounterRow → Instant) (rows : List CounterRow) (anchor : Instant) :
    List CounterRow :=
  rows.filter fun r => decide (Sent d r ∧ time r = anchor)

/-- The responses of a kind around a time. -/
def responsesOf (time : CounterRow → Instant) (kind : SampleKind) (rows : List CounterRow)
    (anchor : Instant) : List CounterRow :=
  rows.filter fun r => decide (Responds d kind r ∧ Near d (time r) anchor)

/-- The responses around a time: those of the dataplane, else those of adapters. -/
def responses (time : CounterRow → Instant) (rows : List CounterRow) (anchor : Instant) :
    List CounterRow :=
  if (responsesOf d time .dataplane rows anchor).isEmpty then responsesOf d time .adapter rows anchor
  else responsesOf d time .dataplane rows anchor

/-- The row is the newest one that sent something. -/
structure NewestSent (time : CounterRow → Instant) (rows : List CounterRow) (s : CounterRow) :
    Prop where
  mem : s ∈ rows
  sent : Sent d s
  newest : ∀ r ∈ rows, Sent d r → time r ≤ time s

end Rows

/-! ## The observation -/

section Observation

variable {d : Detector} {time : CounterRow → Instant} {rows : List CounterRow} {s : CounterRow}

lemma exists_newestSent (h : ∃ r ∈ rows, Sent d r) : ∃ s, NewestSent d time rows s := by
  induction rows with
  | nil => exact absurd h (by simp)
  | cons r rows ih =>
      by_cases hrest : ∃ r ∈ rows, Sent d r
      · rcases ih hrest with ⟨s, hs⟩
        by_cases hr : Sent d r ∧ time s < time r
        · refine ⟨r, List.mem_cons_self, hr.1, fun x hx hsent => ?_⟩
          rcases List.mem_cons.mp hx with rfl | hx
          · exact le_rfl
          · exact (hs.newest x hx hsent).trans hr.2.le
        · refine ⟨s, List.mem_cons_of_mem _ hs.mem, hs.sent, fun x hx hsent => ?_⟩
          rcases List.mem_cons.mp hx with rfl | hx
          · exact not_lt.mp fun hlt => hr ⟨hsent, hlt⟩
          · exact hs.newest x hx hsent
      · rcases h with ⟨x, hx, hsent⟩
        rcases List.mem_cons.mp hx with rfl | hx
        · refine ⟨x, List.mem_cons_self, hsent, fun y hy hsent' => ?_⟩
          rcases List.mem_cons.mp hy with rfl | hy
          · exact le_rfl
          · exact absurd ⟨y, hy, hsent'⟩ hrest
        · exact absurd ⟨x, hx, hsent⟩ hrest

lemma mem_responses {x : CounterRow} {anchor : Instant} (h : x ∈ responses d time rows anchor) :
    ∃ kind, x ∈ responsesOf d time kind rows anchor := by
  rw [responses] at h
  split_ifs at h
  · exact ⟨.adapter, h⟩
  · exact ⟨.dataplane, h⟩

lemma responses_eq_nil_iff {anchor : Instant} : responses d time rows anchor = [] ↔
    ∀ kind, ∀ x ∈ rows, Responds d kind x → ¬ Near d (time x) anchor := by
  have hkind : ∀ kind, responsesOf d time kind rows anchor = [] ↔
      ∀ x ∈ rows, Responds d kind x → ¬ Near d (time x) anchor := by
    intro kind
    simp [responsesOf, List.filter_eq_nil_iff]
  constructor
  · intro h kind
    rw [← hkind]
    rw [responses] at h
    split_ifs at h with hempty
    · cases kind with
      | dataplane => exact List.isEmpty_iff.mp hempty
      | adapter => exact h
    · exact absurd (List.isEmpty_iff.mpr h) hempty
  · intro h
    rw [responses, if_pos (List.isEmpty_iff.mpr ((hkind _).mpr (h _)))]
    exact (hkind _).mpr (h _)

lemma foldl_max_eq {ts : List Int} {t m : Int} (hmem : m ∈ t :: ts) (hle : ∀ x ∈ t :: ts, x ≤ m) :
    ts.foldl max t = m := by
  induction ts generalizing t with
  | nil => exact (List.mem_singleton.mp hmem).symm
  | cons u ts ih =>
      refine ih ?_ ?_
      · rcases List.mem_cons.mp hmem with rfl | hmem
        · rw [max_eq_left (hle u (by simp))]
          exact List.mem_cons_self
        · rcases List.mem_cons.mp hmem with rfl | hmem
          · rw [max_eq_right (hle t (by simp))]
            exact List.mem_cons_self
          · exact List.mem_cons_of_mem _ hmem
      · intro x hx
        rcases List.mem_cons.mp hx with rfl | hx
        · exact max_le (hle t (by simp)) (hle u (by simp))
        · exact hle x (by simp [hx])

lemma sum_pos_of_mem {l : List CounterRow} {f : CounterRow → Int} (hpos : ∀ r ∈ l, 0 < f r)
    (hne : l ≠ []) : 0 < (l.map f).sum := by
  refine List.sum_pos _ ?_ (by simpa using hne)
  intro x hx
  rcases List.mem_map.mp hx with ⟨r, hr, rfl⟩
  exact hpos r hr

/-- The newest sent row counts among those sent at its time. -/
lemma NewestSent.sum_sentAt_pos (hs : NewestSent d time rows s) :
    0 < ((sentAt d time rows (time s)).map fun r => (effectiveSampleDeltas d r).2).sum := by
  refine sum_pos_of_mem (fun r hr => ?_) (List.ne_nil_of_mem (a := s) ?_)
  · exact (of_decide_eq_true (List.mem_filter.mp hr).2).1.2
  · exact List.mem_filter.mpr ⟨hs.mem, decide_eq_true ⟨hs.sent, rfl⟩⟩

/-- Something was received exactly if there are responses. -/
lemma sum_responses_pos_iff {anchor : Instant} :
    0 < ((responses d time rows anchor).map fun r => (effectiveSampleDeltas d r).1).sum ↔
      ¬ responses d time rows anchor = [] := by
  constructor
  · intro hpos hnil
    rw [hnil] at hpos
    exact absurd hpos (by simp)
  · intro hne
    refine sum_pos_of_mem (fun r hr => ?_) hne
    rcases mem_responses hr with ⟨kind, hkind⟩
    exact (of_decide_eq_true (List.mem_filter.mp hkind).2).1.2

lemma filterMap_filter_eq {α γ : Type} {l : List α} {q p : α → Bool} {f : α → Option γ} {g : α → γ}
    (h : ∀ a ∈ l, (if q a = true then f a else none) = if p a = true then some (g a) else none) :
    (l.filter q).filterMap f = (l.filter p).map g := by
  rw [List.filterMap_filter, List.filterMap_congr h, ← List.filterMap_eq_map, List.filterMap_filter]
  rfl

variable (hparse : ∀ r ∈ rows, d.parse r.collectedAt = some (time r))

include hparse

/-- The samples that sent something, with their times. -/
lemma sentSamples_eq : sentSamples d (rows.filter fun r => (sampleKind d r).isSome) =
    (rows.filter fun r => decide (Sent d r)).map fun r => (time r, r) := by
  refine filterMap_filter_eq fun r hr => ?_
  by_cases hsent : Sent d r
  · rw [if_pos (by rw [hsent.1]; rfl), if_pos (decide_eq_true hsent), if_pos ⟨hsent.1, hsent.2⟩,
      hparse r hr, Option.map_some]
  · have hkind : ¬ (sampleKind d r = some .dataplane ∧ 0 < (effectiveSampleDeltas d r).2) := hsent
    have hright : ¬ decide (Sent d r) = true := by simpa using hsent
    rw [if_neg hkind, if_neg hright, ite_self]

/-- The correlated samples that a test keeps. -/
lemma filterMap_correlatedSamples (anchor : Instant) {p : Instant × CounterRow × SampleKind → Prop}
    [DecidablePred p] {q : CounterRow → Prop} [DecidablePred q]
    (h : ∀ r ∈ rows, q r ↔ ∃ kind, sampleKind d r = some kind ∧ Near d (time r) anchor ∧
      p (time r, r, kind)) :
    ((correlatedSamples d (rows.filter fun r => (sampleKind d r).isSome) anchor).filterMap fun x =>
      if p x then some x.2.1 else none) = rows.filter fun r => decide (q r) := by
  rw [correlatedSamples, List.filterMap_filterMap]
  refine (filterMap_filter_eq (g := id) fun r hr => ?_).trans (List.map_id _)
  rw [hparse r hr]
  cases hkind : sampleKind d r with
  | none =>
      have hq : ¬ q r := by
        rw [h r hr, hkind]
        rintro ⟨kind, hkind', -⟩
        cases hkind'
      simp [hq]
  | some kind =>
      have hq : q r ↔ Near d (time r) anchor ∧ p (time r, r, kind) := by
        rw [h r hr, hkind]
        simp
      have hsome : (some kind).isSome = true := rfl
      rw [if_pos hsome]
      dsimp only
      by_cases hnear : Near d (time r) anchor
      · have hnear' : |time r - anchor| ≤ max 1 (orDefault d.correlationSeconds 30) * 1000000 := hnear
        rw [if_pos hnear', Option.bind_some]
        simp [hq, hnear]
      · have hnear' : ¬ |time r - anchor| ≤ max 1 (orDefault d.correlationSeconds 30) * 1000000 :=
          hnear
        rw [if_neg hnear']
        simp [hq, hnear]

lemma receivedSamples_eq (kind : SampleKind) (anchor : Instant) :
    receivedSamples d kind
        (correlatedSamples d (rows.filter fun r => (sampleKind d r).isSome) anchor) =
      responsesOf d time kind rows anchor := by
  refine filterMap_correlatedSamples hparse anchor fun r _ => ?_
  constructor
  · rintro ⟨⟨hkind, hpos⟩, hnear⟩
    exact ⟨kind, hkind, hnear, rfl, hpos⟩
  · rintro ⟨kind', hkind, hnear, rfl, hpos⟩
    exact ⟨⟨hkind, hpos⟩, hnear⟩

/-- **Nothing sent, nothing observed.** -/
lemma buildCurrentObservation_of_idle (h : ∀ r ∈ rows, ¬ Sent d r) :
    buildCurrentObservation d (rows.filter fun r => (sampleKind d r).isSome) = {} := by
  have hnone : (rows.filter fun r => decide (Sent d r)) = [] :=
    List.filter_eq_nil_iff.mpr fun r hr => by simpa using h r hr
  rw [buildCurrentObservation, sentSamples_eq hparse, hnone]
  rfl

/-- **What is observed around the newest row that sent something.** -/
lemma buildCurrentObservation_of_sent (hs : NewestSent d time rows s) :
    buildCurrentObservation d (rows.filter fun r => (sampleKind d r).isSome) =
      { pathState :=
          if responses d time rows (time s) = [] then .suspectedFailure else .healthy
        authoritativeTxDelta :=
          ((sentAt d time rows (time s)).map fun r => (effectiveSampleDeltas d r).2).sum
        authoritativeRxDelta :=
          ((responses d time rows (time s)).map fun r => (effectiveSampleDeltas d r).1).sum
        decisionId := some (d.digest ⟨d.correlation,
          if responses d time rows (time s) = [] then .suspectedFailure else .healthy,
          sentAt d time rows (time s), responses d time rows (time s)⟩) } := by
  have hsent : s ∈ rows.filter fun r => decide (Sent d r) :=
    List.mem_filter.mpr ⟨hs.mem, decide_eq_true hs.sent⟩
  have htimes : ((sentSamples d (rows.filter fun r => (sampleKind d r).isSome)).map Prod.fst) =
      (rows.filter fun r => decide (Sent d r)).map time := by
    rw [sentSamples_eq hparse, List.map_map]
    rfl
  have htx : ((correlatedSamples d (rows.filter fun r => (sampleKind d r).isSome) (time s)).filterMap
      fun x => if x.2.2 = .dataplane ∧ x.1 = time s ∧ 0 < (effectiveSampleDeltas d x.2.1).2 then
        some x.2.1 else none) = sentAt d time rows (time s) := by
    refine filterMap_correlatedSamples hparse (time s) fun r _ => ?_
    constructor
    · rintro ⟨⟨hkind, hpos⟩, htime⟩
      refine ⟨.dataplane, hkind, ?_, rfl, htime, hpos⟩
      rw [Near, htime, sub_self, abs_zero, Detector.correlation]
      exact mul_nonneg (le_max_of_le_left zero_le_one) (by decide)
    · rintro ⟨kind, hkind, -, rfl, htime, hpos⟩
      exact ⟨⟨hkind, hpos⟩, htime⟩
  have htxpos := hs.sum_sentAt_pos
  rw [buildCurrentObservation, htimes]
  rcases hfirst : (rows.filter fun r => decide (Sent d r)).map time with _ | ⟨t, ts⟩
  · exact absurd (List.map_eq_nil_iff.mp hfirst) (List.ne_nil_of_mem hsent)
  · have hanchor : ts.foldl max t = time s := by
      refine foldl_max_eq (hfirst ▸ List.mem_map_of_mem hsent) fun x hx => ?_
      rcases List.mem_map.mp (hfirst.symm ▸ hx) with ⟨r, hr, rfl⟩
      exact hs.newest r (List.mem_of_mem_filter hr) (of_decide_eq_true (List.mem_filter.mp hr).2)
    dsimp only
    rw [hanchor, htx, receivedSamples_eq hparse, receivedSamples_eq hparse, ← responses]
    have hempty : (sentAt d time rows (time s)).isEmpty = false := by
      rw [Bool.eq_false_iff, ne_eq, List.isEmpty_iff]
      intro hnil
      rw [hnil] at htxpos
      exact absurd htxpos (by simp)
    by_cases hnil : responses d time rows (time s) = []
    · simp [hnil, hempty, Detector.correlation]
    · simp [hnil, hempty, htxpos, sum_responses_pos_iff.mpr hnil, Detector.correlation]

end Observation

/-! ## The signal -/

section Signal

variable {d : Detector} {time : CounterRow → Instant} {table : List CounterRow}

/-- The part of the newest 200 rows that is in the window. -/
def windowRows (time : CounterRow → Instant) (cutoff : Instant) (table : List CounterRow) :
    List CounterRow :=
  (newest time 200 table).filter fun r => decide (cutoff ≤ time r)

lemma mem_windowRows {r : CounterRow} {cutoff : Instant} :
    r ∈ windowRows time cutoff table ↔ r ∈ newest time 200 table ∧ cutoff ≤ time r := by
  rw [windowRows, List.mem_filter, decide_eq_true_eq]

lemma WrittenAt.perm {table' : List CounterRow} (h : WrittenAt time table)
    (hperm : table.Perm table') : WrittenAt time table' :=
  fun r hr => h r (hperm.mem_iff.mpr hr)

/-- **The query by the times.** -/
lemma vpnRows_eq (hwritten : WrittenAt time table) {cutoff : Instant} (hcutoff : ValidInstant cutoff) :
    vpnRows (isoformat cutoff) table = windowRows time cutoff table := by
  have hfilter : (table.filter fun r => decide (isoformat cutoff ≤ r.collectedAt)) =
      table.filter fun r => decide (cutoff ≤ time r) := by
    refine List.filter_congr fun r hr => ?_
    rcases hwritten r hr with ⟨hvalid, htext⟩
    rw [htext]
    exact decide_eq_decide.mpr (isoformat_le_iff hcutoff hvalid)
  have hsort : ∀ l : List CounterRow, l ⊆ table →
      newestFirst CounterRow.collectedAt l = newestFirst time l := by
    intro l hl
    have hmap := List.map_mergeSort (f := id) (l := l)
      (r := fun a b : CounterRow => decide (b.collectedAt ≤ a.collectedAt))
      (s := fun a b : CounterRow => decide (time b ≤ time a)) fun a ha b hb => by
        rcases hwritten a (hl ha) with ⟨hvalida, htexta⟩
        rcases hwritten b (hl hb) with ⟨hvalidb, htextb⟩
        rw [htexta, htextb]
        exact decide_eq_decide.mpr (isoformat_le_iff hvalidb hvalida)
    rwa [List.map_id, List.map_id] at hmap
  rw [vpnRows, hfilter, newest, hsort _ (fun r hr => List.mem_of_mem_filter hr), ← newest, newest_filter]
  rfl

variable (hparse : ∀ r ∈ table, d.parse r.collectedAt = some (time r))
  (hwritten : WrittenAt time table) {windowSeconds : Option Int} {now : Instant}
  (hcutoff : ValidInstant (d.cutoff windowSeconds now))

include hparse in
lemma parse_windowRows (cutoff : Instant) :
    ∀ r ∈ windowRows time cutoff table, d.parse r.collectedAt = some (time r) :=
  fun r hr => hparse r (mem_of_mem_newest (mem_windowRows.mp hr).1)

include hparse hwritten hcutoff

/-- **A window without sent rows.** -/
lemma detect_of_idle
    (h : ∀ r ∈ windowRows time (d.cutoff windowSeconds now) table, ¬ Sent d r) :
    (d.detect windowSeconds now table).trafficStalled = false ∧
      (d.detect windowSeconds now table).decisionId = none ∧
      d.authoritativeDeltas windowSeconds now table = (0, 0) := by
  have hobservation := buildCurrentObservation_of_idle
    (parse_windowRows hparse (d.cutoff windowSeconds now)) h
  rw [Detector.authoritativeDeltas, Detector.currentObservation, Detector.detect,
    vpnRows_eq hwritten hcutoff]
  unfold detectRecentVpnTrafficAttempts
  dsimp only
  rw [hobservation]
  exact ⟨rfl, rfl, rfl⟩

/-- **A window with sent rows**, the newest of them at the time of `s`. -/
lemma detect_of_sent {s : CounterRow}
    (hs : NewestSent d time (windowRows time (d.cutoff windowSeconds now) table) s) :
    ((d.detect windowSeconds now table).trafficStalled = true ↔
      responses d time (windowRows time (d.cutoff windowSeconds now) table) (time s) = []) ∧
      (d.detect windowSeconds now table).decisionId = some (d.digest ⟨d.correlation,
        if responses d time (windowRows time (d.cutoff windowSeconds now) table) (time s) = [] then
          .suspectedFailure else .healthy,
        sentAt d time (windowRows time (d.cutoff windowSeconds now) table) (time s),
        responses d time (windowRows time (d.cutoff windowSeconds now) table) (time s)⟩) ∧
      0 < (d.authoritativeDeltas windowSeconds now table).1 ∧
      d.authoritativeDeltas windowSeconds now table =
        (((sentAt d time (windowRows time (d.cutoff windowSeconds now) table) (time s)).map fun r =>
          (effectiveSampleDeltas d r).2).sum,
        ((responses d time (windowRows time (d.cutoff windowSeconds now) table) (time s)).map fun r =>
          (effectiveSampleDeltas d r).1).sum) := by
  have hobservation := buildCurrentObservation_of_sent
    (parse_windowRows hparse (d.cutoff windowSeconds now)) hs
  rw [Detector.authoritativeDeltas, Detector.currentObservation, Detector.detect,
    vpnRows_eq hwritten hcutoff]
  unfold detectRecentVpnTrafficAttempts
  dsimp only
  rw [hobservation]
  generalize windowRows time (d.cutoff windowSeconds now) table = rows at hs
  have htx := hs.sum_sentAt_pos
  dsimp only
  rw [if_pos htx, if_pos htx, if_pos htx]
  refine ⟨?_, rfl, htx, rfl⟩
  by_cases hnil : responses d time rows (time s) = []
  · simp [hnil, htx]
  · simp [hnil, not_le.mpr (sum_responses_pos_iff.mpr hnil)]

/-- **A stall is a newest sent row without a response around it.** -/
lemma trafficStalled_iff : (d.detect windowSeconds now table).trafficStalled = true ↔
    ∃ s, NewestSent d time (windowRows time (d.cutoff windowSeconds now) table) s ∧
      responses d time (windowRows time (d.cutoff windowSeconds now) table) (time s) = [] := by
  constructor
  · intro hstalled
    by_cases hsent : ∃ r ∈ windowRows time (d.cutoff windowSeconds now) table, Sent d r
    · rcases exists_newestSent hsent with ⟨s, hs⟩
      exact ⟨s, hs, (detect_of_sent hparse hwritten hcutoff hs).1.mp hstalled⟩
    · have hidle := (detect_of_idle hparse hwritten hcutoff fun r hr hsent' =>
        hsent ⟨r, hr, hsent'⟩).1
      rw [hidle] at hstalled
      cases hstalled
  · rintro ⟨s, hs, hnil⟩
    exact (detect_of_sent hparse hwritten hcutoff hs).1.mpr hnil

/-- A signal with samples is authoritative: none of them is older than the window. -/
lemma authoritative_of_sent (hsetting : 0 ≤ d.trafficWindowSeconds) {s : CounterRow}
    (hs : NewestSent d time (windowRows time (d.cutoff windowSeconds now) table) s) :
    (d.detect windowSeconds now table).authoritative = true := by
  have hmem : s ∈ (windowRows time (d.cutoff windowSeconds now) table).filter fun r =>
      (sampleKind d r).isSome := List.mem_filter.mpr ⟨hs.mem, by rw [hs.sent.1]; rfl⟩
  obtain ⟨r, hr⟩ : ∃ r, ((windowRows time (d.cutoff windowSeconds now) table).filter fun r =>
      (sampleKind d r).isSome).head? = some r := by
    rcases hlist : (windowRows time (d.cutoff windowSeconds now) table).filter fun r =>
        (sampleKind d r).isSome with _ | ⟨r, rest⟩
    · rw [hlist] at hmem
      exact absurd hmem List.not_mem_nil
    · exact ⟨r, rfl⟩
  have hwindow := List.mem_of_mem_filter (List.mem_of_head? hr)
  have htime := (mem_windowRows.mp hwindow).2
  have hage : elapsedSeconds (time r) now ≤ max d.trafficWindowSeconds (d.resolvedWindow windowSeconds) := by
    rw [Detector.cutoff] at htime
    have hcutoff : now - time r ≤ d.resolvedWindow windowSeconds * 1000000 := by linarith
    rw [elapsedSeconds]
    refine max_le (le_max_of_le_left hsetting) (le_max_of_le_right ?_)
    exact (Int.ediv_le_ediv (by decide) hcutoff).trans_eq (Int.mul_ediv_cancel _ (by decide))
  rw [Detector.detect, vpnRows_eq hwritten hcutoff]
  unfold detectRecentVpnTrafficAttempts
  dsimp only
  rw [hr, Option.map_some, Option.bind_some, parse_windowRows hparse _ r hwindow,
    Option.map_some]
  have hfresh : (!decide (max d.trafficWindowSeconds (d.resolvedWindow windowSeconds) <
      elapsedSeconds (time r) now)) = true := by
    simpa using hage
  exact hfresh

end Signal

end FwRouter.Watchdog
