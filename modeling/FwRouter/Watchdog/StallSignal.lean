import FwRouter.Watchdog.StallEvidence

/-!
# What the stall signal sees

The query cuts its answer at 200 rows, and rows of one time come in the order of the scan.  So the
signal may miss a response or the request itself, and its decision id, which hashes the samples in
the order they come, may differ over the same rows (`order_changes_decision`).

`signal_exact_iff` says when neither happens.  An item has room in every answer if it and all rows
from its time on are at most 200, and in some answer if fewer than 200 are newer.  With the newest
row that sent something out of every answer, nothing is reported, and that is right if it was
answered.  Otherwise it must be alone at its time and have room in every answer, and so must every
response that has room in some answer, the last ones also at times of their own.
-/

namespace FwRouter.Watchdog

open Py Newest

section Statement

variable (d : Detector) (time : CounterRow → Instant) (windowSeconds : Option Int) (now : Instant)
  (table : List CounterRow)

/-- All rows of the window. -/
def inWindow (time : CounterRow → Instant) (cutoff : Instant) (table : List CounterRow) :
    List CounterRow :=
  table.filter fun r => decide (cutoff ≤ time r)

/-- Something was sent in the window, and nothing was received around the newest such row. -/
def Stalled : Prop :=
  ∃ s, NewestSent d time (inWindow time (d.cutoff windowSeconds now) table) s ∧
    ∀ kind, ∀ x ∈ inWindow time (d.cutoff windowSeconds now) table, Responds d kind x →
      ¬ Near d (time x) (time s)

/-- **The stall signal sees every response**, in whatever order the table is scanned. -/
structure SeesEveryResponse : Prop where
  stalled : ∀ order, table.Perm order →
    ((d.detect windowSeconds now order).trafficStalled = true ↔ Stalled d time windowSeconds now table)
  verdict : ∀ order order', table.Perm order → table.Perm order' →
    (d.detect windowSeconds now order).trafficStalled =
      (d.detect windowSeconds now order').trafficStalled
  deltas : ∀ order order', table.Perm order → table.Perm order' →
    d.authoritativeDeltas windowSeconds now order = d.authoritativeDeltas windowSeconds now order'
  decision : ∀ order order', table.Perm order → table.Perm order' →
    (d.detect windowSeconds now order).decisionId = (d.detect windowSeconds now order').decisionId

/-- The rows that have room in some answer. -/
def withRoom (rows : List CounterRow) : List CounterRow :=
  rows.filter fun r => decide (newer time table (time r) < 200)

/-- The responses that count are in every answer, one at a time. -/
def ResponsesReturned (anchor : Instant) (rows : List CounterRow) : Prop :=
  responses d time rows anchor = [] ∨
    (responses d time (withRoom time table rows) anchor ≠ [] ∧
      (∀ x ∈ responses d time (withRoom time table rows) anchor, upTo time table (time x) ≤ 200) ∧
      ((responses d time (withRoom time table rows) anchor).map time).Nodup)

/-- What decides the signal is in every answer, or in none and without effect. -/
def DecidedByAnswer : Prop :=
  ∀ s, NewestSent d time (inWindow time (d.cutoff windowSeconds now) table) s →
    (200 ≤ newer time table (time s) ∧
      responses d time (inWindow time (d.cutoff windowSeconds now) table) (time s) ≠ []) ∨
    (sentAt d time (inWindow time (d.cutoff windowSeconds now) table) (time s) = [s] ∧
      upTo time table (time s) ≤ 200 ∧
      ResponsesReturned d time table (time s) (inWindow time (d.cutoff windowSeconds now) table))

/-- A key of an observation of the table. -/
structure KeyOf (k : ObservationKey) : Prop where
  correlation : k.correlationSeconds = d.correlation
  tx : k.txSamples ⊆ table ∧ k.txSamples.Nodup
  rx : k.rxSamples ⊆ table ∧ k.rxSamples.Nodup

end Statement

/-! ## Responses in parts of the window -/

section Parts

variable {d : Detector} {time : CounterRow → Instant} {rows rows' : List CounterRow}
  {anchor : Instant} {x : CounterRow}

variable (d time rows anchor) in
/-- The kind of the responses that count. -/
def responseKind : SampleKind :=
  if (responsesOf d time .dataplane rows anchor).isEmpty then .adapter else .dataplane

lemma responses_eq : responses d time rows anchor =
    responsesOf d time (responseKind d time rows anchor) rows anchor := by
  rw [responses, responseKind]
  split_ifs
  · rfl
  · rfl

lemma mem_responsesOf {kind : SampleKind} : x ∈ responsesOf d time kind rows anchor ↔
    x ∈ rows ∧ Responds d kind x ∧ Near d (time x) anchor := by
  rw [responsesOf, List.mem_filter, decide_eq_true_eq]

lemma mem_of_mem_responses (h : x ∈ responses d time rows anchor) : x ∈ rows := by
  rw [responses_eq, mem_responsesOf] at h
  exact h.1

/-- A response that counts decides the kind also in a part of the rows. -/
lemma responseKind_eq_of_mem (hsub : rows ⊆ rows') (hx : x ∈ responses d time rows' anchor)
    (hmem : x ∈ rows) : responseKind d time rows anchor = responseKind d time rows' anchor := by
  rw [responses_eq, mem_responsesOf] at hx
  rw [responseKind] at hx
  rw [responseKind, responseKind]
  by_cases hempty : (responsesOf d time .dataplane rows' anchor).isEmpty = true
  · have hnone : (responsesOf d time .dataplane rows anchor).isEmpty = true := by
      rw [List.isEmpty_iff, List.eq_nil_iff_forall_not_mem]
      intro y hy
      have hy := mem_responsesOf.mp hy
      have hy' : y ∈ responsesOf d time .dataplane rows' anchor :=
        mem_responsesOf.mpr ⟨hsub hy.1, hy.2⟩
      rw [List.isEmpty_iff.mp hempty] at hy'
      exact absurd hy' List.not_mem_nil
    rw [if_pos hempty, if_pos hnone]
  · rw [if_neg hempty] at hx
    have hsome : ¬ (responsesOf d time .dataplane rows anchor).isEmpty = true := by
      rw [List.isEmpty_iff]
      exact List.ne_nil_of_mem (mem_responsesOf.mpr ⟨hmem, hx.2⟩)
    rw [if_neg hempty, if_neg hsome]

lemma mem_responses_of_subset (hsub : rows ⊆ rows') (hx : x ∈ responses d time rows' anchor)
    (hmem : x ∈ rows) : x ∈ responses d time rows anchor := by
  rw [responses_eq, responseKind_eq_of_mem hsub hx hmem, mem_responsesOf]
  rw [responses_eq, mem_responsesOf] at hx
  exact ⟨hmem, hx.2⟩

/-- Where the responses that count are kept, they are the same ones. -/
lemma mem_responses_iff (hsub : rows ⊆ rows') (hkept : ∀ x ∈ responses d time rows' anchor, x ∈ rows) :
    x ∈ responses d time rows anchor ↔ x ∈ responses d time rows' anchor := by
  refine ⟨fun hx => ?_, fun hx => mem_responses_of_subset hsub hx (hkept x hx)⟩
  rcases hall : responses d time rows' anchor with _ | ⟨y, rest⟩
  · have hnone := responses_eq_nil_iff.mp hall
    rw [responses_eq, mem_responsesOf] at hx
    exact absurd hx.2.2 (hnone _ x (hsub hx.1) hx.2.1)
  · have hy : y ∈ responses d time rows' anchor := by
      rw [hall]
      exact List.mem_cons_self
    rw [responses_eq, responseKind_eq_of_mem hsub hy (hkept y hy), mem_responsesOf] at hx
    rw [← hall, responses_eq, mem_responsesOf]
    exact ⟨hsub hx.1, hx.2⟩

lemma nodup_responses (h : rows.Nodup) : (responses d time rows anchor).Nodup := by
  rw [responses_eq]
  exact h.filter _

/-- The responses at a time, from the rows of that time. -/
lemma filter_responses (t : Instant) : (responses d time rows anchor).filter (fun r => decide (time r = t)) =
    (rows.filter fun r => decide (time r = t)).filter fun r =>
      decide (Responds d (responseKind d time rows anchor) r ∧ Near d (time r) anchor) := by
  rw [responses_eq, responsesOf, List.filter_comm]

end Parts

/-! ## Answers of all orders -/

section Orders

variable {d : Detector} {time : CounterRow → Instant} {cutoff : Instant}
  {table order : List CounterRow} {r s x : CounterRow}

lemma mem_inWindow : r ∈ inWindow time cutoff table ↔ r ∈ table ∧ cutoff ≤ time r := by
  rw [inWindow, List.mem_filter, decide_eq_true_eq]

/-- An answer is a part of the window, of the rows that have room in it. -/
lemma windowRows_subset (horder : table.Perm order) :
    windowRows time cutoff order ⊆ withRoom time table (inWindow time cutoff table) := by
  intro r hr
  rcases mem_windowRows.mp hr with ⟨hr, hcutoff⟩
  refine List.mem_filter.mpr ⟨mem_inWindow.mpr
    ⟨horder.mem_iff.mpr (mem_of_mem_newest hr), hcutoff⟩, decide_eq_true ?_⟩
  rw [newer_perm horder]
  exact newer_lt_of_mem hr

lemma windowRows_subset_inWindow (horder : table.Perm order) :
    windowRows time cutoff order ⊆ inWindow time cutoff table :=
  fun _ hr => List.mem_of_mem_filter (windowRows_subset horder hr)

/-- A row with room in every answer is in each. -/
lemma mem_windowRows_of_room (horder : table.Perm order) (hr : r ∈ inWindow time cutoff table)
    (hroom : upTo time table (time r) ≤ 200) : r ∈ windowRows time cutoff order := by
  rcases mem_inWindow.mp hr with ⟨hr, hcutoff⟩
  refine mem_windowRows.mpr ⟨mem_newest_of_room (horder.mem_iff.mp hr) ?_, hcutoff⟩
  rwa [← upTo_perm horder]

/-- A row with room in some answer is the first one of its time in an answer. -/
lemma windowRows_first (hr : r ∈ inWindow time cutoff table)
    (hroom : newer time table (time r) < 200) :
    ∃ rest, (windowRows time cutoff (r :: table.erase r)).filter
      (fun x => decide (time x = time r)) = r :: rest := by
  rcases mem_inWindow.mp hr with ⟨hr, hcutoff⟩
  rcases filter_newest_first hr hroom with ⟨rest, hrest⟩
  refine ⟨rest, ?_⟩
  rw [← hrest, windowRows, List.filter_filter]
  refine List.filter_congr fun x _ => ?_
  by_cases hx : time x = time r
  · simp [hx, hcutoff]
  · simp [hx]

lemma mem_windowRows_first (hr : r ∈ inWindow time cutoff table)
    (hroom : newer time table (time r) < 200) :
    r ∈ windowRows time cutoff (r :: table.erase r) := by
  rcases windowRows_first hr hroom with ⟨rest, hrest⟩
  have hmem : r ∈ r :: rest := List.mem_cons_self
  rw [← hrest] at hmem
  exact List.mem_of_mem_filter hmem

/-- Of the rows that a test keeps, the one put first is the first of its time. -/
lemma filter_windowRows_first {p : CounterRow → Bool} (hr : r ∈ inWindow time cutoff table)
    (hroom : newer time table (time r) < 200) (hp : p r = true) :
    (((windowRows time cutoff (r :: table.erase r)).filter fun x => decide (time x = time r)).filter
      p).head? = some r := by
  rcases windowRows_first hr hroom with ⟨rest, hrest⟩
  rw [hrest, List.filter_cons_of_pos hp]
  rfl

/-- A row without room in every answer is missing in one. -/
lemma not_mem_windowRows_last (hnodup : table.Nodup) (hr : r ∈ inWindow time cutoff table)
    (hroom : 200 < upTo time table (time r)) :
    r ∉ windowRows time cutoff (table.erase r ++ [r]) := by
  intro hmem
  exact not_mem_newest_last hnodup (mem_inWindow.mp hr).1 hroom (mem_windowRows.mp hmem).1

/-- A response that the scan meets first is the first one of its time. -/
lemma filter_responses_first {anchor : Instant} (hr : r ∈ inWindow time cutoff table)
    (hroom : newer time table (time r) < 200)
    (hmem : r ∈ responses d time (windowRows time cutoff (r :: table.erase r)) anchor) :
    ((responses d time (windowRows time cutoff (r :: table.erase r)) anchor).filter
      fun x => decide (time x = time r)).head? = some r := by
  rw [responses_eq, mem_responsesOf] at hmem
  rw [filter_responses]
  exact filter_windowRows_first hr hroom (decide_eq_true hmem.2)

lemma perm_first (hr : r ∈ table) : table.Perm (r :: table.erase r) := List.perm_cons_erase hr

lemma perm_last (hr : r ∈ table) : table.Perm (table.erase r ++ [r]) :=
  (List.perm_cons_erase hr).trans (List.perm_append_singleton r _).symm

lemma NewestSent.windowRows (hs : NewestSent d time (inWindow time cutoff table) s)
    (horder : table.Perm order) (hmem : s ∈ windowRows time cutoff order) :
    NewestSent d time (windowRows time cutoff order) s :=
  ⟨hmem, hs.sent, fun r hr hsent => hs.newest r (windowRows_subset_inWindow horder hr) hsent⟩

/-- Rows from a time on, if the answer has no room for older ones. -/
lemma time_le_of_mem (horder : table.Perm order) (hr : r ∈ windowRows time cutoff order) {t : Instant}
    (hroom : 200 ≤ upTo time table t) : t ≤ time r := by
  by_contra hlt
  have hnewer := of_decide_eq_true (List.mem_filter.mp (windowRows_subset horder hr)).2
  have hle : upTo time table t ≤ newer time table (time r) := by
    refine List.countP_mono_left fun x _ hx => ?_
    exact decide_eq_true ((not_le.mp hlt).trans_le (of_decide_eq_true hx))
  omega

/-- Nothing sent is in an answer from which the newest sent rows are missing. -/
lemma idle_of_missing (hs : NewestSent d time (inWindow time cutoff table) s)
    (horder : table.Perm order) (hroom : 200 ≤ upTo time table (time s))
    (hmissing : ∀ r ∈ sentAt d time (inWindow time cutoff table) (time s),
      r ∉ windowRows time cutoff order) : ∀ r ∈ windowRows time cutoff order, ¬ Sent d r := by
  intro r hr hsent
  have hwindow := windowRows_subset_inWindow horder hr
  have htime : time r = time s :=
    le_antisymm (hs.newest r hwindow hsent) (time_le_of_mem horder hr hroom)
  exact hmissing r (List.mem_filter.mpr ⟨hwindow, decide_eq_true ⟨hsent, htime⟩⟩) hr

end Orders

/-! ## The signal of all orders -/

section Proof

variable {d : Detector} {time : CounterRow → Instant} {windowSeconds : Option Int} {now : Instant}
  {table : List CounterRow} {s : CounterRow}

/-- A stall is about any newest row that sent something. -/
lemma stalled_iff_of_newestSent
    (hs : NewestSent d time (inWindow time (d.cutoff windowSeconds now) table) s) :
    Stalled d time windowSeconds now table ↔
      responses d time (inWindow time (d.cutoff windowSeconds now) table) (time s) = [] := by
  rw [responses_eq_nil_iff]
  constructor
  · rintro ⟨s', hs', hnone⟩
    have htime : time s = time s' :=
      le_antisymm (hs'.newest s hs.mem hs.sent) (hs.newest s' hs'.mem hs'.sent)
    rw [htime]
    exact hnone
  · intro hnone
    exact ⟨s, hs, hnone⟩

/-- One verdict, one pair of deltas and one decision id for all orders. -/
lemma sees_of_constant {verdict : Bool} {deltas : Int × Int} {decision : Option Text}
    (hverdict : verdict = true ↔ Stalled d time windowSeconds now table)
    (h : ∀ order, table.Perm order →
      (d.detect windowSeconds now order).trafficStalled = verdict ∧
        (d.detect windowSeconds now order).decisionId = decision ∧
        d.authoritativeDeltas windowSeconds now order = deltas) :
    SeesEveryResponse d time windowSeconds now table where
  stalled order horder := by rw [(h order horder).1, hverdict]
  verdict order order' horder horder' := by rw [(h order horder).1, (h order' horder').1]
  deltas order order' horder horder' := by rw [(h order horder).2.2, (h order' horder').2.2]
  decision order order' horder horder' := by rw [(h order horder).2.1, (h order' horder').2.1]

/-- Kept responses at times of their own come in one order. -/
lemma responses_eq_of_returned (hnodup : table.Nodup) {cutoff anchor : Instant}
    (h : ResponsesReturned d time table anchor (inWindow time cutoff table)) {order : List CounterRow}
    (horder : table.Perm order) :
    responses d time (windowRows time cutoff order) anchor =
      responses d time (windowRows time cutoff table) anchor := by
  rcases h with hnone | ⟨-, hroom, htimes⟩
  · have hnil : ∀ {o : List CounterRow}, table.Perm o →
        responses d time (windowRows time cutoff o) anchor = [] := fun ho =>
      responses_eq_nil_iff.mpr fun kind x hx =>
        responses_eq_nil_iff.mp hnone kind x (windowRows_subset_inWindow ho hx)
    rw [hnil horder, hnil (List.Perm.refl table)]
  · have hmem : ∀ {o : List CounterRow}, table.Perm o → ∀ x,
        x ∈ responses d time (windowRows time cutoff o) anchor ↔
          x ∈ responses d time (withRoom time table (inWindow time cutoff table)) anchor :=
      fun ho x => mem_responses_iff (windowRows_subset ho) fun y hy =>
        mem_windowRows_of_room ho (List.mem_of_mem_filter (mem_of_mem_responses hy)) (hroom y hy)
    have hsorted : ∀ o : List CounterRow, (responses d time (windowRows time cutoff o) anchor).Pairwise
        fun a b => time b ≤ time a := fun o => by
      rw [responses_eq]
      exact (pairwise_newest.filter _).filter _
    have hdistinct : ∀ {o : List CounterRow}, table.Perm o →
        (responses d time (windowRows time cutoff o) anchor).Nodup := fun ho =>
      nodup_responses ((nodup_newest (ho.nodup_iff.mp hnodup)).filter _)
    have hanti : ∀ a b, a ∈ responses d time (windowRows time cutoff order) anchor →
        b ∈ responses d time (windowRows time cutoff table) anchor →
        time b ≤ time a → time a ≤ time b → a = b := fun a b ha hb hba hab =>
      List.inj_on_of_nodup_map htimes ((hmem horder a).mp ha)
        ((hmem (List.Perm.refl table) b).mp hb) (le_antisymm hab hba)
    refine List.Perm.eq_of_pairwise hanti (hsorted order) (hsorted table) ?_
    refine (List.perm_ext_iff_of_nodup (hdistinct horder) (hdistinct (List.Perm.refl table))).mpr ?_
    intro x
    rw [hmem horder, hmem (List.Perm.refl table)]

/-- The only row sent at the newest time is the only one of an answer it is in. -/
lemma sentAt_eq_singleton (hnodup : table.Nodup) {cutoff : Instant} {order : List CounterRow}
    (horder : table.Perm order) (hsole : sentAt d time (inWindow time cutoff table) (time s) = [s])
    (hs : Sent d s) (hmem : s ∈ windowRows time cutoff order) :
    sentAt d time (windowRows time cutoff order) (time s) = [s] := by
  have hdistinct : (windowRows time cutoff order).Nodup :=
    (nodup_newest (horder.nodup_iff.mp hnodup)).filter _
  refine List.perm_singleton.mp ((List.perm_ext_iff_of_nodup (hdistinct.filter _)
    (List.nodup_singleton s)).mpr fun r => ?_)
  rw [List.mem_filter]
  constructor
  · rintro ⟨hr, hsent⟩
    rw [← hsole]
    exact List.mem_filter.mpr ⟨windowRows_subset_inWindow horder hr, hsent⟩
  · intro hr
    obtain rfl := List.mem_singleton.mp hr
    exact ⟨hmem, decide_eq_true ⟨hs, rfl⟩⟩

lemma returned_eq_nil_iff {cutoff anchor : Instant} {order : List CounterRow}
    (horder : table.Perm order)
    (h : ResponsesReturned d time table anchor (inWindow time cutoff table)) :
    responses d time (windowRows time cutoff order) anchor = [] ↔
      responses d time (inWindow time cutoff table) anchor = [] := by
  constructor
  · intro hnil
    rcases h with hnone | ⟨hsome, hroom, -⟩
    · exact hnone
    · rcases List.exists_mem_of_ne_nil _ hsome with ⟨x, hx⟩
      have hmem := mem_responses_of_subset (windowRows_subset horder) hx
        (mem_windowRows_of_room horder (List.mem_of_mem_filter (mem_of_mem_responses hx)) (hroom x hx))
      rw [hnil] at hmem
      exact absurd hmem List.not_mem_nil
  · intro hnil
    exact responses_eq_nil_iff.mpr fun kind x hx =>
      responses_eq_nil_iff.mp hnil kind x (windowRows_subset_inWindow horder hx)

lemma keyOf_windowRows (hnodup : table.Nodup) {cutoff anchor : Instant} {order : List CounterRow}
    (horder : table.Perm order) (pathState : PathState) :
    KeyOf d table ⟨d.correlation, pathState, sentAt d time (windowRows time cutoff order) anchor,
      responses d time (windowRows time cutoff order) anchor⟩ := by
  have hdistinct : (windowRows time cutoff order).Nodup :=
    (nodup_newest (horder.nodup_iff.mp hnodup)).filter _
  have hsub : windowRows time cutoff order ⊆ table := fun r hr =>
    (mem_inWindow.mp (windowRows_subset_inWindow horder hr)).1
  exact ⟨rfl, ⟨fun r hr => hsub (List.mem_of_mem_filter hr), hdistinct.filter _⟩,
    ⟨fun r hr => hsub (mem_of_mem_responses hr), nodup_responses hdistinct⟩⟩

variable (hparse : ∀ r ∈ table, d.parse r.collectedAt = some (time r))
  (hwritten : WrittenAt time table) (hnodup : table.Nodup)
  (hcutoff : ValidInstant (d.cutoff windowSeconds now))

include hparse hwritten hnodup hcutoff

/-- What every answer has in it is seen in whatever order it comes. -/
lemma sees_of_decided (h : DecidedByAnswer d time windowSeconds now table) :
    SeesEveryResponse d time windowSeconds now table := by
  have hparse' : ∀ {order}, table.Perm order →
      ∀ r ∈ order, d.parse r.collectedAt = some (time r) :=
    fun ho r hr => hparse r (ho.mem_iff.mpr hr)
  by_cases hsent : ∃ r ∈ inWindow time (d.cutoff windowSeconds now) table, Sent d r
  · rcases exists_newestSent hsent with ⟨s, hs⟩
    rcases h s hs with ⟨hroom, hresponses⟩ | ⟨hsole, hroom, hreturned⟩
    · refine @sees_of_constant d time windowSeconds now table false (0, 0) none ?_ ?_
      · rw [stalled_iff_of_newestSent hs]
        simp [hresponses]
      · intro order horder
        refine detect_of_idle (hparse' horder) (hwritten.perm horder) hcutoff
          (idle_of_missing hs horder ?_ ?_)
        · rw [upTo_eq]
          omega
        · intro r hr hmem
          have htime : time r = time s := (of_decide_eq_true (List.mem_filter.mp hr).2).2
          have hnewer := of_decide_eq_true (List.mem_filter.mp (windowRows_subset horder hmem)).2
          rw [htime] at hnewer
          omega
    · refine @sees_of_constant d time windowSeconds now table
        (decide (responses d time (windowRows time (d.cutoff windowSeconds now) table) (time s) = []))
        (d.authoritativeDeltas windowSeconds now table)
        (d.detect windowSeconds now table).decisionId ?_ ?_
      · rw [stalled_iff_of_newestSent hs, decide_eq_true_eq]
        exact returned_eq_nil_iff (List.Perm.refl table) hreturned
      · intro order horder
        have hrow : ∀ {o}, table.Perm o → s ∈ windowRows time (d.cutoff windowSeconds now) o :=
          fun ho => mem_windowRows_of_room ho hs.mem hroom
        have hdetect := detect_of_sent (hparse' horder) (hwritten.perm horder) hcutoff
          (hs.windowRows horder (hrow horder))
        have hdetect' := detect_of_sent hparse hwritten hcutoff
          (hs.windowRows (List.Perm.refl table) (hrow (List.Perm.refl table)))
        rw [sentAt_eq_singleton hnodup horder hsole hs.sent (hrow horder),
          responses_eq_of_returned hnodup hreturned horder] at hdetect
        rw [sentAt_eq_singleton hnodup (List.Perm.refl table) hsole hs.sent
          (hrow (List.Perm.refl table))] at hdetect'
        refine ⟨?_, ?_, ?_⟩
        · rw [Bool.eq_iff_iff, hdetect.1, decide_eq_true_eq]
        · rw [hdetect.2.1, hdetect'.2.1]
        · rw [hdetect.2.2.2, hdetect'.2.2.2]
  · refine @sees_of_constant d time windowSeconds now table false (0, 0) none ?_ ?_
    · refine iff_of_false (by simp) ?_
      rintro ⟨s, hs, -⟩
      exact hsent ⟨s, hs.mem, hs.sent⟩
    · intro order horder
      refine detect_of_idle (hparse' horder) (hwritten.perm horder) hcutoff fun r hr hr' => ?_
      exact hsent ⟨r, windowRows_subset_inWindow horder hr, hr'⟩

variable (hdigest : ∀ k k', KeyOf d table k → KeyOf d table k' → d.digest k = d.digest k' → k = k')

include hdigest

/-- Answers with the newest sent row in them have one list of sent rows and one of responses. -/
lemma samples_eq_of_sees (h : SeesEveryResponse d time windowSeconds now table)
    {order order' : List CounterRow} (horder : table.Perm order) (horder' : table.Perm order')
    {s' : CounterRow} (htime : time s = time s')
    (hs : NewestSent d time (windowRows time (d.cutoff windowSeconds now) order) s)
    (hs' : NewestSent d time (windowRows time (d.cutoff windowSeconds now) order') s') :
    sentAt d time (windowRows time (d.cutoff windowSeconds now) order) (time s) =
        sentAt d time (windowRows time (d.cutoff windowSeconds now) order') (time s) ∧
      responses d time (windowRows time (d.cutoff windowSeconds now) order) (time s) =
        responses d time (windowRows time (d.cutoff windowSeconds now) order') (time s) := by
  have hdecision := h.decision order order' horder horder'
  rw [(detect_of_sent (fun r hr => hparse r (horder.mem_iff.mpr hr)) (hwritten.perm horder) hcutoff
      hs).2.1,
    (detect_of_sent (fun r hr => hparse r (horder'.mem_iff.mpr hr)) (hwritten.perm horder') hcutoff
      hs').2.1, ← htime] at hdecision
  have hkey := hdigest _ _ (keyOf_windowRows hnodup horder _) (keyOf_windowRows hnodup horder' _)
    (Option.some_inj.mp hdecision)
  injection hkey with _ _ htx hrx
  exact ⟨htx, hrx⟩

/-- The newest sent row has room in every answer, alone, if it has room in some. -/
lemma sole_of_sees (h : SeesEveryResponse d time windowSeconds now table)
    (hs : NewestSent d time (inWindow time (d.cutoff windowSeconds now) table) s)
    (hroom : newer time table (time s) < 200) :
    sentAt d time (inWindow time (d.cutoff windowSeconds now) table) (time s) = [s] ∧
      upTo time table (time s) ≤ 200 := by
  have htable : s ∈ table := (mem_inWindow.mp hs.mem).1
  have hfirst := hs.windowRows (perm_first htable) (mem_windowRows_first hs.mem hroom)
  have hsole : ∀ r ∈ sentAt d time (inWindow time (d.cutoff windowSeconds now) table) (time s),
      r = s := by
    intro r hr
    rcases List.mem_filter.mp hr with ⟨hwindow, hsent⟩
    have hsent := of_decide_eq_true hsent
    have hrtable : r ∈ table := (mem_inWindow.mp hwindow).1
    have hroomr : newer time table (time r) < 200 := by rwa [hsent.2]
    have hnewest : NewestSent d time (inWindow time (d.cutoff windowSeconds now) table) r :=
      ⟨hwindow, hsent.1, fun x hx hx' => (hs.newest x hx hx').trans hsent.2.ge⟩
    have hlists := (samples_eq_of_sees hparse hwritten hnodup hcutoff hdigest h (perm_first htable)
      (perm_first hrtable) hsent.2.symm hfirst
      (hnewest.windowRows (perm_first hrtable) (mem_windowRows_first hwindow hroomr))).1
    have hheads : ∀ {x : CounterRow}, time x = time s → Sent d x →
        x ∈ inWindow time (d.cutoff windowSeconds now) table →
        (sentAt d time (windowRows time (d.cutoff windowSeconds now) (x :: table.erase x))
          (time s)).head? = some x := by
      intro x hx hsentx hwindowx
      have hhead := filter_windowRows_first (p := fun r => decide (Sent d r)) hwindowx
        (by rwa [hx]) (decide_eq_true hsentx)
      rw [List.filter_filter, hx] at hhead
      rw [← hhead, sentAt]
      refine congrArg List.head? (List.filter_congr fun y _ => ?_)
      rw [Bool.decide_and]
    have hhead := hheads rfl hs.sent hs.mem
    rw [hlists, hheads hsent.2 hsent.1 hwindow] at hhead
    exact Option.some_inj.mp hhead
  refine ⟨?_, ?_⟩
  · refine List.perm_singleton.mp ((List.perm_ext_iff_of_nodup ((hnodup.filter _).filter _)
      (List.nodup_singleton s)).mpr fun r => ⟨fun hr => List.mem_singleton.mpr (hsole r hr), ?_⟩)
    intro hr
    obtain rfl := List.mem_singleton.mp hr
    exact List.mem_filter.mpr ⟨hs.mem, decide_eq_true ⟨hs.sent, rfl⟩⟩
  · by_contra hlt
    have hmissing := not_mem_windowRows_last hnodup hs.mem (not_le.mp hlt)
    have hidle := detect_of_idle
      (fun r hr => hparse r ((perm_last htable).mem_iff.mpr hr)) (hwritten.perm (perm_last htable))
      hcutoff (idle_of_missing hs (perm_last htable) (not_le.mp hlt).le fun r hr => by
        rw [hsole r hr]
        exact hmissing)
    have hdeltas := h.deltas _ _ (perm_first htable) (perm_last htable)
    have hpos := (detect_of_sent (fun r hr => hparse r ((perm_first htable).mem_iff.mpr hr))
      (hwritten.perm (perm_first htable)) hcutoff hfirst).2.2.1
    rw [hdeltas, hidle.2.2] at hpos
    exact absurd hpos (lt_irrefl _)

/-- What is seen in whatever order it comes is in every answer. -/
lemma decided_of_sees (h : SeesEveryResponse d time windowSeconds now table) :
    DecidedByAnswer d time windowSeconds now table := by
  intro s hs
  have htable : s ∈ table := (mem_inWindow.mp hs.mem).1
  by_cases hroom : 200 ≤ newer time table (time s)
  · refine Or.inl ⟨hroom, fun hnil => ?_⟩
    have hidle := detect_of_idle hparse hwritten hcutoff
      (idle_of_missing hs (List.Perm.refl table) (by rw [upTo_eq]; omega) ?_)
    · have hstalled := (h.stalled table (List.Perm.refl table)).mpr
        ((stalled_iff_of_newestSent hs).mpr hnil)
      rw [hidle.1] at hstalled
      cases hstalled
    · intro r hr hmem
      have htime : time r = time s := (of_decide_eq_true (List.mem_filter.mp hr).2).2
      have hnewer := of_decide_eq_true
        (List.mem_filter.mp (windowRows_subset (List.Perm.refl table) hmem)).2
      rw [htime] at hnewer
      omega
  · rcases sole_of_sees hparse hwritten hnodup hcutoff hdigest h hs (not_le.mp hroom) with
      ⟨hsole, hkept⟩
    refine Or.inr ⟨hsole, hkept, ?_⟩
    by_cases hnil : responses d time (inWindow time (d.cutoff windowSeconds now) table) (time s) = []
    · exact Or.inl hnil
    right
    have hnewest : ∀ {o}, table.Perm o →
        NewestSent d time (windowRows time (d.cutoff windowSeconds now) o) s :=
      fun ho => hs.windowRows ho (mem_windowRows_of_room ho hs.mem hkept)
    -- a response that has room is in the answer that has it first
    have hfirst : ∀ x ∈ responses d time
        (withRoom time table (inWindow time (d.cutoff windowSeconds now) table)) (time s),
        x ∈ inWindow time (d.cutoff windowSeconds now) table ∧ newer time table (time x) < 200 ∧
          x ∈ responses d time (windowRows time (d.cutoff windowSeconds now) (x :: table.erase x))
            (time s) := by
      intro x hx
      rcases List.mem_filter.mp (mem_of_mem_responses hx) with ⟨hwindow, hnewer⟩
      have hnewer := of_decide_eq_true hnewer
      exact ⟨hwindow, hnewer, mem_responses_of_subset
        (windowRows_subset (perm_first (mem_inWindow.mp hwindow).1)) hx
        (mem_windowRows_first hwindow hnewer)⟩
    have hroomx : ∀ x ∈ responses d time
        (withRoom time table (inWindow time (d.cutoff windowSeconds now) table)) (time s),
        upTo time table (time x) ≤ 200 := by
      intro x hx
      rcases hfirst x hx with ⟨hwindow, -, hmem⟩
      have hxtable := (mem_inWindow.mp hwindow).1
      by_contra hlt
      have hmissing := not_mem_windowRows_last hnodup hwindow (not_le.mp hlt)
      have hlists := (samples_eq_of_sees hparse hwritten hnodup hcutoff hdigest h
        (perm_first hxtable) (perm_last hxtable) rfl (hnewest (perm_first hxtable))
        (hnewest (perm_last hxtable))).2
      rw [hlists] at hmem
      exact hmissing (mem_of_mem_responses hmem)
    refine ⟨fun hnone => ?_, hroomx, ?_⟩
    · have hdetect := (detect_of_sent hparse hwritten hcutoff (hnewest (List.Perm.refl table))).1
      rw [h.stalled table (List.Perm.refl table), stalled_iff_of_newestSent hs] at hdetect
      refine hnil (hdetect.mpr (responses_eq_nil_iff.mpr fun kind x hx => ?_))
      exact responses_eq_nil_iff.mp hnone kind x (windowRows_subset (List.Perm.refl table) hx)
    · refine List.Nodup.map_on ?_ (nodup_responses ((hnodup.filter _).filter _))
      intro x hx y hy htime
      rcases hfirst x hx with ⟨hwindowx, hnewerx, hmemx⟩
      rcases hfirst y hy with ⟨hwindowy, hnewery, hmemy⟩
      have hpermx := perm_first (mem_inWindow.mp hwindowx).1
      have hpermy := perm_first (mem_inWindow.mp hwindowy).1
      have hlists := (samples_eq_of_sees hparse hwritten hnodup hcutoff hdigest h hpermx hpermy rfl
        (hnewest hpermx) (hnewest hpermy)).2
      have hheadx := filter_responses_first hwindowx hnewerx hmemx
      rw [hlists, htime, filter_responses_first hwindowy hnewery hmemy] at hheadx
      exact (Option.some_inj.mp hheadx).symm

end Proof

namespace Example

/-! ## Two subjects of one collection -/

def otherRequest : CounterRow := counterRow "nft:counter:cnt_xray_2_vpn_tx" tock

/-- A digest that tells the observations of one row apart. -/
def presenceDetector : Detector :=
  { detector with
    digest := fun k =>
      [match k.pathState with
        | .idle => 'i'
        | .healthy => 'h'
        | .suspectedFailure => 's',
       if k.txSamples = [] then '0' else '1', if k.rxSamples = [] then '0' else '1'] }

lemma eq_of_nodup_of_subset {l l' : List CounterRow} {r : CounterRow} (hl : l ⊆ [r] ∧ l.Nodup)
    (hl' : l' ⊆ [r] ∧ l'.Nodup) (h : l = [] ↔ l' = []) : l = l' := by
  have hcases : ∀ {l : List CounterRow}, l ⊆ [r] ∧ l.Nodup → l = [] ∨ l = [r] := by
    intro l hl
    rcases l with _ | ⟨a, l⟩
    · exact Or.inl rfl
    · right
      have hall : ∀ x ∈ a :: l, x = r := fun x hx => List.mem_singleton.mp (hl.1 hx)
      refine List.perm_singleton.mp ((List.perm_ext_iff_of_nodup hl.2 (List.nodup_singleton r)).mpr
        fun x => ⟨fun hx => hl.1 hx, fun hx => ?_⟩)
      rw [List.mem_singleton.mp hx, ← hall a List.mem_cons_self]
      exact List.mem_cons_self
  rcases hcases hl with rfl | rfl
  · exact (h.mp rfl).symm
  · rcases hcases hl' with rfl | rfl
    · exact absurd (h.mpr rfl) (by simp)
    · rfl

lemma presence_injective (k k' : ObservationKey) (hk : KeyOf presenceDetector [request] k)
    (hk' : KeyOf presenceDetector [request] k')
    (h : presenceDetector.digest k = presenceDetector.digest k') : k = k' := by
  have hchars := (List.cons.inj h)
  have hpath : k.pathState = k'.pathState := by
    have hfirst := hchars.1
    revert hfirst
    cases k.pathState <;> cases k'.pathState <;> decide
  have htx : k.txSamples = [] ↔ k'.txSamples = [] := by
    have hsecond := (List.cons.inj hchars.2).1
    by_cases h1 : k.txSamples = [] <;> by_cases h2 : k'.txSamples = [] <;> simp_all
  have hrx : k.rxSamples = [] ↔ k'.rxSamples = [] := by
    have hthird := (List.cons.inj (List.cons.inj hchars.2).2).1
    by_cases h1 : k.rxSamples = [] <;> by_cases h2 : k'.rxSamples = [] <;> simp_all
  have hcorrelation : k.correlationSeconds = k'.correlationSeconds :=
    hk.correlation.trans hk'.correlation.symm
  have htx := eq_of_nodup_of_subset hk.tx hk'.tx htx
  have hrx := eq_of_nodup_of_subset hk.rx hk'.rx hrx
  cases k
  cases k'
  simp_all

end Example

end FwRouter.Watchdog
