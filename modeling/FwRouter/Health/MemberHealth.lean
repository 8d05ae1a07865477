import FwRouter.Python.Value
import FwRouter.Library.LatestWins

/-!
# Health of a logical member

`_persist_member_health` of `services/logical_topology.py`: one row for every member of a logical
server, written by an upsert that keeps the latest observation and counts failures.  The lanes of
observation import overlapping histories, so that a row sees the same observation many times and
older ones late.

The column `evidence_json` is kept as the object it holds.  What `datetime.fromisoformat` reads and
`strftime` prints is a parameter.
-/

namespace FwRouter.Health

open Py

/-! ## Timestamps -/

/-- What Python makes of an ISO text: no timestamp, an instant that has no UTC date, or the UTC text
`%Y-%m-%d %H:%M:%S`. -/
inductive IsoDate
  | invalid
  | overflow
  | utc (text : Text)

/-- `raw.replace("Z", "+00:00")`. -/
def replaceZ (t : Text) : Text := t.flatMap fun c => if c = 'Z' then "+00:00".toList else [c]

inductive HealthError
  | overflowError
  deriving DecidableEq

/-- `_canonical_timestamp`. -/
def canonicalTimestamp (iso : Text → IsoDate) (value : Option Text) :
    Except HealthError (Option Text) :=
  let raw := strip (value.getD [])
  if raw = [] then .ok none
  else
    match iso (replaceZ raw) with
    | .invalid => .ok (some raw)
    | .overflow => .error .overflowError
    | .utc text => .ok (some text)

/-! ## Rows -/

inductive HealthStatus
  | unknown
  | healthy
  | failed
  | stale
  | unsupported
  deriving DecidableEq

structure Observation where
  status : HealthStatus
  latencyMs : Option ℤ
  checkedAt : Option Text
  errorCode : Option Text
  errorMessage : Option Text
  evidence : Dict

/-- A row of `logical_server_member_health`. -/
structure HealthRow extends Observation where
  consecutiveFailures : ℤ

/-- What the event says of the member: the safe name of its server and its number. -/
structure MemberLabel where
  logicalServerLabel : Text
  memberNumber : Option ℤ

/-- The event `logical_member_health_transition`. -/
structure Transition where
  level : Text
  eventCode : Text
  label : MemberLabel
  oldStatus : Option HealthStatus
  newStatus : HealthStatus
  checkedAt : Option Text
  errorCode : Option Text
  errorMessage : Option Text
  evidence : Dict

/-- The `WHERE` of the upsert; a row that is new is always written. -/
def accepts (row : Option HealthRow) (o : Observation) : Bool :=
  match row with
  | none => true
  | some row =>
      match row.checkedAt, o.checkedAt with
      | none, _ => true
      | some _, none => false
      | some stored, some given => decide (stored ≤ given)

/-- The row after the upsert. -/
def upsertHealth (row : Option HealthRow) (o : Observation) : HealthRow :=
  match row with
  | none => { o with consecutiveFailures := if o.status = .failed then 1 else 0 }
  | some stored =>
      if accepts row o then
        { o with
          consecutiveFailures :=
            if o.status = .healthy then 0
            else if o.status = .failed then stored.consecutiveFailures + 1
            else stored.consecutiveFailures }
      else stored

/-- `_persist_member_health`: the row and the event. -/
def persistMemberHealth (iso : Text → IsoDate) (label : MemberLabel) (row : Option HealthRow)
    (o : Observation) : Except HealthError (HealthRow × Option Transition) := do
  let checkedAt ← canonicalTimestamp iso o.checkedAt
  let previousStatus := row.map (·.status)
  let resulting := upsertHealth row { o with checkedAt }
  let event : Transition := {
    level := if resulting.status = .failed then "warning".toList else "info".toList
    eventCode :=
      if resulting.status = .healthy ∧ previousStatus ∈ [some .failed, some .stale] then
        "HEALTH_MEMBER_RECOVERED".toList
      else "HEALTH_MEMBER_STATE_CHANGED".toList
    label
    oldStatus := previousStatus
    newStatus := resulting.status
    checkedAt
    errorCode := o.errorCode
    errorMessage := o.errorMessage
    evidence := o.evidence }
  return (resulting,
    if previousStatus ≠ some resulting.status ∧ resulting.checkedAt = checkedAt then some event
    else none)

/-! ## Histories -/

variable (iso : Text → IsoDate)

/-- The observation with the canonical timestamp, unless that raises. -/
def Observation.canonical (o : Observation) : Option Observation :=
  match canonicalTimestamp iso o.checkedAt with
  | .ok checkedAt => some { o with checkedAt }
  | .error _ => none

/-- The row after a call; a call that raises is rolled back. -/
def persistStep (label : MemberLabel) (row : Option HealthRow) (o : Observation) :
    Option HealthRow :=
  match persistMemberHealth iso label row o with
  | .ok (resulting, _) => some resulting
  | .error _ => row

/-- The row after the calls for one member. -/
def rowAfter (label : MemberLabel) (calls : List Observation) : Option HealthRow :=
  calls.foldl (persistStep iso label) none

/-- The canonical observations of the calls that do not raise. -/
def given (calls : List Observation) : List Observation :=
  calls.filterMap (Observation.canonical iso)

/-- A row together with the failed observations that were accepted since the last healthy one. -/
structure Tally where
  row : Option HealthRow
  failures : List Observation

def Tally.observe (t : Tally) (o : Observation) : Tally where
  row := some (upsertHealth t.row o)
  failures :=
    if accepts t.row o then
      if o.status = .healthy then [] else if o.status = .failed then t.failures ++ [o]
      else t.failures
    else t.failures

/-- The tally of the calls. -/
def tally (calls : List Observation) : Tally := (given iso calls).foldl Tally.observe ⟨none, []⟩

/-- The failed observations that were accepted since the last accepted healthy one. -/
def acceptedFailures (calls : List Observation) : List Observation :=
  (tally iso calls).failures

/-! ## The latest observation -/

/-- The order of the upsert: a missing timestamp is below every other. -/
def stamp (o : Observation) : WithBot Text := o.checkedAt

lemma accepts_iff (row : HealthRow) (o : Observation) :
    accepts (some row) o = true ↔ stamp row.toObservation ≤ stamp o := by
  rw [accepts, stamp, stamp]
  rcases row.checkedAt with _ | stored
  · simp only [true_iff]
    exact bot_le
  · rcases o.checkedAt with _ | given
    · simp only [Bool.false_eq_true, false_iff]
      exact not_le.mpr (WithBot.bot_lt_coe stored)
    · rw [decide_eq_true_iff]
      exact WithBot.coe_le_coe.symm

lemma toObservation_upsertHealth (row : Option HealthRow) (o : Observation) :
    some (upsertHealth row o).toObservation =
      LatestWins.offer stamp (row.map HealthRow.toObservation) o := by
  cases row with
  | none => rfl
  | some row =>
      simp only [upsertHealth, Option.map_some, LatestWins.offer]
      by_cases h : accepts (some row) o = true
      · rw [if_pos h, if_pos ((accepts_iff row o).mp h)]
      · rw [if_neg h, if_neg fun hle => h ((accepts_iff row o).mpr hle)]

variable {iso} {label : MemberLabel} {row : Option HealthRow} {o c : Observation}
  {calls : List Observation}

/-- A call that does not raise upserts the canonical observation, and writes an event only when the
status changes. -/
lemma persistMemberHealth_of_canonical (label : MemberLabel) (row : Option HealthRow)
    (h : o.canonical iso = some c) :
    ∃ event, persistMemberHealth iso label row o = .ok (upsertHealth row c, event) ∧
      (row.map (·.status) = some (upsertHealth row c).status → event = none) := by
  unfold Observation.canonical at h
  split at h
  · rename_i checkedAt hcanonical
    obtain rfl := Option.some.inj h
    refine ⟨_, by rw [persistMemberHealth, hcanonical]; rfl, ?_⟩
    intro hsame
    exact if_neg fun hchanged => hchanged.1 hsame
  · cases h

lemma persistStep_eq (row : Option HealthRow) (o : Observation) :
    persistStep iso label row o =
      match o.canonical iso with
      | some c => some (upsertHealth row c)
      | none => row := by
  cases h : o.canonical iso with
  | some c =>
      obtain ⟨event, hpersist, -⟩ := persistMemberHealth_of_canonical label row h
      simp only [persistStep, hpersist]
  | none =>
      unfold Observation.canonical at h
      split at h
      · cases h
      · rename_i e hraises
        simp only [persistStep, persistMemberHealth, hraises]
        rfl

/-- The row is what the canonical observations make of it. -/
lemma foldl_persistStep (row : Option HealthRow) :
    calls.foldl (persistStep iso label) row =
      (given iso calls).foldl (fun row c => some (upsertHealth row c)) row := by
  induction calls generalizing row with
  | nil => rfl
  | cons o calls ih =>
      rw [List.foldl_cons, ih, persistStep_eq, given, given, List.filterMap_cons]
      cases o.canonical iso with
      | none => rfl
      | some c => rfl

lemma toObservation_foldl (cs : List Observation) (row : Option HealthRow) :
    (cs.foldl (fun row c => some (upsertHealth row c)) row).map HealthRow.toObservation =
      cs.foldl (LatestWins.offer stamp) (row.map HealthRow.toObservation) := by
  induction cs generalizing row with
  | nil => rfl
  | cons c cs ih =>
      rw [List.foldl_cons, ih, List.foldl_cons, Option.map_some, toObservation_upsertHealth]

/-- The row that a list of upserts leaves has the columns of the latest of them. -/
lemma latest_of_upserts {cs : List Observation} {stored : HealthRow}
    (h : cs.foldl (fun row c => some (upsertHealth row c)) none = some stored) :
    LatestWins.Latest stamp cs stored.toObservation := by
  apply LatestWins.latest_of_offers
  have hcolumns := toObservation_foldl cs none
  rw [h] at hcolumns
  exact hcolumns.symm

/-- The latest observation is the last one with its timestamp. -/
lemma getLast?_of_latest {cs : List Observation} {o : Observation}
    (h : LatestWins.Latest stamp cs o) :
    (cs.filter fun c => decide (c.checkedAt = o.checkedAt)).getLast? = some o := by
  rw [← h.last]
  congr 1
  apply List.filter_congr
  intro c _
  exact decide_eq_decide.mpr Iff.rfl

/-- **Latest wins**: the columns of the row are those of the last observation with the greatest
timestamp. -/
lemma latest_of_rowAfter {stored : HealthRow} (h : rowAfter iso label calls = some stored) :
    LatestWins.Latest stamp (given iso calls) stored.toObservation := by
  rw [rowAfter, foldl_persistStep] at h
  exact latest_of_upserts h

/-! ## The count of failures -/

/-- What a tally says of its row. -/
structure Tally.Sound (t : Tally) : Prop where
  absent : t.row = none → t.failures = []
  count : ∀ row ∈ t.row, row.consecutiveFailures = t.failures.length
  failed : ∀ row ∈ t.row, row.status = .failed → row.toObservation ∈ t.failures
  healthy : ∀ row ∈ t.row, row.status = .healthy → t.failures = []

lemma Tally.observe_of_rejected {t : Tally} (h : accepts t.row o = false) : t.observe o = t := by
  obtain ⟨row, failures⟩ := t
  cases row with
  | none => cases h
  | some row =>
      simp only at h
      simp [Tally.observe, upsertHealth, h]

/-- The row that an accepted observation leaves. -/
lemma upsertHealth_of_accepts (h : accepts row o = true) :
    upsertHealth row o =
      { o with
        consecutiveFailures :=
          if o.status = .healthy then 0
          else if o.status = .failed then (row.map (·.consecutiveFailures)).getD 0 + 1
          else (row.map (·.consecutiveFailures)).getD 0 } := by
  cases row with
  | none =>
      simp only [upsertHealth, Option.map_none, Option.getD_none, zero_add]
      by_cases hfailed : o.status = .failed
      · simp [hfailed]
      · simp [hfailed]
  | some stored =>
      simp only [upsertHealth, h, if_true, Option.map_some, Option.getD_some]

lemma Tally.Sound.observe {t : Tally} (ht : t.Sound) (o : Observation) : (t.observe o).Sound := by
  by_cases h : accepts t.row o = true
  · have hcount : (t.row.map (·.consecutiveFailures)).getD 0 = t.failures.length := by
      cases hrow : t.row with
      | none => simp [ht.absent hrow]
      | some row => simp [ht.count row hrow]
    have hrow : (t.observe o).row = some (upsertHealth t.row o) := rfl
    rw [upsertHealth_of_accepts h, hcount] at hrow
    have hfailures : (t.observe o).failures =
        if o.status = .healthy then [] else if o.status = .failed then t.failures ++ [o]
        else t.failures := if_pos h
    constructor
    · intro hnone
      rw [hrow] at hnone
      cases hnone
    · intro row hmem
      rw [hrow] at hmem
      obtain rfl := Option.some.inj hmem
      rw [hfailures]
      split_ifs
      · rfl
      · simp
      · rfl
    · intro row hmem hfailed
      rw [hrow] at hmem
      obtain rfl := Option.some.inj hmem
      have hstatus : o.status = .failed := hfailed
      simp [hfailures, hstatus]
    · intro row hmem hhealthy
      rw [hrow] at hmem
      obtain rfl := Option.some.inj hmem
      have hstatus : o.status = .healthy := hhealthy
      simp [hfailures, hstatus]
  · rw [Tally.observe_of_rejected (Bool.eq_false_iff.mpr h)]
    exact ht

variable (iso) in
lemma tally_sound (calls : List Observation) : (tally iso calls).Sound := by
  rw [tally]
  generalize given iso calls = cs
  induction cs using List.reverseRecOn with
  | nil => exact ⟨fun _ => rfl, by simp, by simp, by simp⟩
  | append_singleton cs c ih =>
      rw [List.foldl_append]
      exact ih.observe c

lemma tally_row (label : MemberLabel) (calls : List Observation) :
    (tally iso calls).row = rowAfter iso label calls := by
  rw [tally, rowAfter, foldl_persistStep]
  generalize given iso calls = cs
  induction cs using List.reverseRecOn with
  | nil => rfl
  | append_singleton cs c ih =>
      rw [List.foldl_append, List.foldl_append]
      simp only [List.foldl_cons, List.foldl_nil, Tally.observe, ih]

lemma tally_snoc (calls : List Observation) (o : Observation) :
    tally iso (calls ++ [o]) =
      match o.canonical iso with
      | some c => (tally iso calls).observe c
      | none => tally iso calls := by
  rw [tally, given, List.filterMap_append, List.foldl_append]
  cases h : o.canonical iso with
  | none => simp [tally, given, h]
  | some c => simp [tally, given, h]

/-- A failed observation that is accepted is counted. -/
lemma acceptedFailures_snoc_failed (hcanonical : o.canonical iso = some c)
    (hfailed : c.status = .failed) (haccepts : accepts (rowAfter iso label calls) c = true) :
    acceptedFailures iso (calls ++ [o]) = acceptedFailures iso calls ++ [c] := by
  rw [← tally_row] at haccepts
  simp [acceptedFailures, tally_snoc, hcanonical, Tally.observe, haccepts, hfailed]

/-- The accepted failures are distinct in every state of a history if none is accepted again. -/
lemma nodup_acceptedFailures_iff (label : MemberLabel) :
    (∀ done, done <+: calls → (acceptedFailures iso done).Nodup) ↔
      ∀ done o c, done ++ [o] <+: calls → o.canonical iso = some c → c.status = .failed →
        accepts (rowAfter iso label done) c = true → c ∉ acceptedFailures iso done := by
  constructor
  · intro h done o c hdone hcanonical hfailed haccepts hmem
    have hnodup := h _ hdone
    rw [acceptedFailures_snoc_failed hcanonical hfailed haccepts] at hnodup
    exact (List.nodup_append.mp hnodup).2.2 c hmem c (by simp) rfl
  · intro h done
    induction done using List.reverseRecOn with
    | nil => exact fun _ => List.nodup_nil
    | append_singleton done o ih =>
        intro hdone
        have hnodup := ih ((List.prefix_append _ _).trans hdone)
        cases hcanonical : o.canonical iso with
        | none => simpa [acceptedFailures, tally_snoc, hcanonical] using hnodup
        | some c =>
            by_cases haccepts : accepts (rowAfter iso label done) c = true
            · by_cases hfailed : c.status = .failed
              · rw [acceptedFailures_snoc_failed hcanonical hfailed haccepts]
                refine List.nodup_append.mpr ⟨hnodup, List.nodup_singleton c, ?_⟩
                rintro a ha b hb rfl
                rw [List.mem_singleton.mp hb] at ha
                exact h done o c hdone hcanonical hfailed haccepts ha
              · rw [← tally_row] at haccepts
                rw [acceptedFailures, tally_snoc, hcanonical]
                simp only [Tally.observe, if_pos haccepts, if_neg hfailed]
                split
                · exact List.nodup_nil
                · exact hnodup
            · rw [← tally_row] at haccepts
              rw [acceptedFailures, tally_snoc, hcanonical]
              simp only [Tally.observe_of_rejected (Bool.eq_false_iff.mpr haccepts)]
              exact hnodup

lemma ncard_mem_eq_length_iff {α : Type} (l : List α) :
    {a | a ∈ l}.ncard = l.length ↔ l.Nodup := by
  classical
  rw [← List.coe_toFinset, Set.ncard_coe_finset]
  exact Multiset.toFinset_card_eq_card_iff_nodup (m := (l : Multiset α))

/-- Importing the stored observation again changes nothing, unless it is a failed one. -/
lemma reimport_iff {stored : HealthRow} (hrow : rowAfter iso label calls = some stored)
    (ho : o.canonical iso = some stored.toObservation) :
    persistMemberHealth iso label (some stored) o = .ok (stored, none) ↔ stored.status ≠ .failed := by
  have haccepts : accepts (some stored) stored.toObservation = true :=
    (accepts_iff stored _).mpr le_rfl
  obtain ⟨event, hpersist, hevent⟩ := persistMemberHealth_of_canonical label (some stored) ho
  have hupsert := upsertHealth_of_accepts haccepts
  simp only [Option.map_some, Option.getD_some] at hupsert
  rw [hpersist]
  have hcount : stored.status = .healthy → stored.consecutiveFailures = 0 := by
    intro hhealthy
    have hsound := tally_sound iso calls
    have hmem : stored ∈ (tally iso calls).row := by rw [tally_row label, hrow]; rfl
    rw [hsound.count stored hmem, hsound.healthy stored hmem hhealthy]
    rfl
  constructor
  · intro h hfailed
    have hsame : upsertHealth (some stored) stored.toObservation = stored :=
      congrArg Prod.fst (Except.ok.inj h)
    rw [hupsert] at hsame
    have := congrArg HealthRow.consecutiveFailures hsame
    simp [hfailed] at this
  · intro hfailed
    have hsame : upsertHealth (some stored) stored.toObservation = stored := by
      rw [hupsert]
      by_cases hhealthy : stored.status = .healthy
      · simp [hhealthy, ← hcount hhealthy]
      · simp [hhealthy, hfailed]
    rw [hevent (by rw [hsame]; rfl), hsame]

/-- **Member health is latest-wins, and imports are idempotent but for failures.**  The row holds the
last observation of the greatest timestamp, whatever the order of the calls.  Every call of a history
that repeats the stored observation leaves row and events, and the count is that of the distinct
failures since the last healthy observation, exactly when no failed observation is accepted again
before a healthy one; the stored observation itself can be imported again exactly when it is not a
failed one. -/
theorem member_health_idempotent_iff (iso : Text → IsoDate) (label : MemberLabel)
    (calls : List Observation) :
    (rowAfter iso label calls = none ↔ given iso calls = []) ∧
    (∀ stored, rowAfter iso label calls = some stored →
      IsGreatest {t | ∃ c ∈ given iso calls, stamp c = t} (stamp stored.toObservation) ∧
      ∃ last, ((given iso calls).filter fun c => decide (c.checkedAt = stored.checkedAt)).getLast? =
        some last ∧ stored.status = last.status ∧ stored.latencyMs = last.latencyMs) ∧
    (∀ stored o, rowAfter iso label calls = some stored →
      o.canonical iso = some stored.toObservation →
      (persistMemberHealth iso label (some stored) o = .ok (stored, none) ↔
        stored.status ≠ .failed)) ∧
    ((∀ done o stored, done ++ [o] <+: calls → rowAfter iso label done = some stored →
        o.canonical iso = some stored.toObservation →
        persistMemberHealth iso label (some stored) o = .ok (stored, none)) ∧
      (∀ done stored, done <+: calls → rowAfter iso label done = some stored →
        stored.consecutiveFailures = {c | c ∈ acceptedFailures iso done}.ncard) ↔
      ∀ done o c, done ++ [o] <+: calls → o.canonical iso = some c → c.status = .failed →
        accepts (rowAfter iso label done) c = true → c ∉ acceptedFailures iso done) := by
  have hcount : ∀ done stored, rowAfter iso label done = some stored →
      (stored.consecutiveFailures = {c | c ∈ acceptedFailures iso done}.ncard ↔
        (acceptedFailures iso done).Nodup) := by
    intro done stored hrow
    have hmem : stored ∈ (tally iso done).row := by rw [tally_row label, hrow]; rfl
    rw [(tally_sound iso done).count stored hmem, ← ncard_mem_eq_length_iff, Nat.cast_inj]
    exact eq_comm
  refine ⟨?_, ?_, fun stored o hrow ho => reimport_iff hrow ho, ?_⟩
  · rw [rowAfter, foldl_persistStep]
    have hcolumns := toObservation_foldl (given iso calls) none
    constructor
    · intro hnone
      rw [hnone] at hcolumns
      exact LatestWins.eq_nil_of_offers hcolumns.symm
    · intro hnil
      rw [hnil]
      rfl
  · intro stored hrow
    have hlatest := latest_of_rowAfter hrow
    refine ⟨⟨⟨_, hlatest.mem, rfl⟩, ?_⟩, _, getLast?_of_latest hlatest, rfl, rfl⟩
    rintro t ⟨c, hc, rfl⟩
    exact hlatest.greatest c hc
  · rw [← nodup_acceptedFailures_iff label]
    constructor
    · rintro ⟨-, hcounts⟩ done hdone
      cases hrow : rowAfter iso label done with
      | none =>
          rw [acceptedFailures, (tally_sound iso done).absent (by rw [tally_row label, hrow])]
          exact List.nodup_nil
      | some stored => exact (hcount done stored hrow).mp (hcounts done stored hdone hrow)
    · intro hnodup
      refine ⟨?_, fun done stored hdone hrow => (hcount done stored hrow).mpr (hnodup done hdone)⟩
      intro done o stored hdone hrow ho
      refine (reimport_iff hrow ho).mpr fun hfailed => ?_
      -- the stored failure is among the accepted ones, and would be accepted once more
      have hmem : stored ∈ (tally iso done).row := by rw [tally_row label, hrow]; rfl
      have hcounted := (tally_sound iso done).failed stored hmem hfailed
      refine (nodup_acceptedFailures_iff label).mp hnodup done o _ hdone ho hfailed ?_ hcounted
      rw [hrow]
      exact (accepts_iff stored _).mpr le_rfl

/-- The ISO texts of one instant. -/
def midnightIso (t : Text) : IsoDate :=
  if t = "2026-09-28T00:00:00+00:00".toList ∨ t = "2026-09-28 00:00:00".toList then
    .utc "2026-09-28 00:00:00".toList
  else .invalid

def timeoutObservation : Observation where
  status := .failed
  latencyMs := none
  checkedAt := some "2026-09-28T00:00:00Z".toList
  errorCode := some "TIMEOUT".toList
  errorMessage := none
  evidence := [("probe_lane".toList, .str "background".toList)]

/-- A failed observation that is imported again is counted again. -/
theorem failure_counted_again :
    timeoutObservation.canonical midnightIso =
        (rowAfter midnightIso ⟨"se-1".toList, some 1⟩ [timeoutObservation]).map
          HealthRow.toObservation ∧
      (rowAfter midnightIso ⟨"se-1".toList, some 1⟩ [timeoutObservation]).map
        HealthRow.consecutiveFailures = some 1 ∧
      (rowAfter midnightIso ⟨"se-1".toList, some 1⟩ [timeoutObservation, timeoutObservation]).map
        HealthRow.consecutiveFailures = some 2 := by
  refine ⟨?_, ?_, ?_⟩
  · rfl
  · decide +kernel
  · decide +kernel

end FwRouter.Health
