import FwRouter.Health.Candidates
import FwRouter.Python.Datetime

/-!
# Recent ping successes

`get_recent_runtime_ping_success` asks the table of pings for a success that is not older than a
number of seconds.  `record_ping_result` writes the time as Python prints it, the query compares it
with a cutoff that SQLite prints, and texts of the two kinds are ordered by their days alone.  So a
success is never missed while it is recent, but every success of the cutoff's day counts as recent,
whatever its hour (`recent_success_iff`, `old_success_returned`).
-/

namespace FwRouter.Health

open Py

/-! ## The source functions -/

section Source

variable (U : Unicode)

/-- A call of `record_ping_result` that leaves `checked_at` to its default, with its time. -/
structure TimedPing where
  time : ℤ
  args : PingCall

/-- The call with the timestamp of its time. -/
def TimedPing.call (p : TimedPing) : PingCall :=
  { p.args with checkedAt := none, now := isoformat p.time }

/-- The table after a history of calls. -/
def recordPings (ev : Evidence) (calls : List TimedPing) : Evidence :=
  calls.foldl (fun ev p => recordPingResult U p.call ev) ev

/-- What `_observation_from_row` makes of the last ping. -/
structure RuntimePing where
  runtimeTarget : Text
  source : Text
  status : PingStatus
  latencyMs : Option ℤ
  lastPingMs : Option ℤ
  checkedAt : Text
  checkedBy : Text
  errorCode : Option Text
  errorMessage : Option Text
  metadata : Dict

def observationFromRow (row : PingSample) (runtimeTarget : Text) : RuntimePing where
  runtimeTarget := runtimeTarget
  source := normalizePingSource U none (some row.checkedBy)
  status := row.status
  latencyMs := row.pingMs
  lastPingMs := row.pingMs
  checkedAt := row.checkedAt
  checkedBy := row.checkedBy
  errorCode := row.errorCode
  errorMessage := row.errorMessage
  metadata := row.metadata

/-- SQLite's `datetime('now', '-N seconds')`: `now` has milliseconds, and an instant before the first
day of the Julian period is `NULL`. -/
def sqliteCutoff (now ttlSeconds : ℤ) : Option Text :=
  let milliseconds := now / 1000 - ttlSeconds * 1000
  if 0 ≤ milliseconds + 148731163200000 then some (sqliteDatetime (milliseconds / 1000)) else none

/-- `get_recent_runtime_ping_success`; `runtimeTarget` is what `resolve_server_runtime_target` finds
for a server. -/
def getRecentRuntimePingSuccess (runtimeTarget : Text → Text) (ev : Evidence) (serverId : Text)
    (ttlSeconds now : ℤ) : Option RuntimePing :=
  if strip serverId = [] then none
  else (sqliteCutoff now (max 1 ttlSeconds)).bind fun cutoff =>
    (ev.pings.lookup (strip serverId)).bind fun row =>
      if row.last.status = .success ∧ cutoff ≤ row.last.checkedAt then
        some (observationFromRow U row.last (runtimeTarget (strip serverId)))
      else none

end Source

/-! ## The last record -/

section History

variable (U : Unicode) (calls : List TimedPing) (serverId : Text)

/-- The last call for the server. -/
def lastRecord : Option TimedPing :=
  (calls.filter fun p => decide (strip p.args.serverId = strip serverId)).getLast?

/-- The last call for the server, if it recorded a success. -/
def lastSuccess : Option TimedPing :=
  (lastRecord calls serverId).filter fun p => decide (normalizeStatus U p.args.status = .success)

/-- **A recent success is recent.**  What is returned is a success of at most the age asked for, up
to a second, and a success of that age is returned. -/
structure Recent (runtimeTarget : Text → Text) (ev : Evidence) (ttlSeconds now : ℤ) : Prop where
  sound : (getRecentRuntimePingSuccess U runtimeTarget (recordPings U ev calls) serverId ttlSeconds
    now).isSome = true →
      ∃ p ∈ lastSuccess U calls serverId, now - p.time ≤ (ttlSeconds + 1) * 1000000
  complete : (∃ p ∈ lastSuccess U calls serverId, now - p.time ≤ ttlSeconds * 1000000) →
    (getRecentRuntimePingSuccess U runtimeTarget (recordPings U ev calls) serverId ttlSeconds
      now).isSome = true

/-- The cutoff is an instant that SQLite can print, and what is older lies on an earlier day. -/
def CutoffSeparates (ttlSeconds now : ℤ) : Prop :=
  ∀ p ∈ lastSuccess U calls serverId,
    0 ≤ now / 1000 - ttlSeconds * 1000 + 148731163200000 ∧
      (now - p.time ≤ (ttlSeconds + 1) * 1000000 ∨
        p.time / 86400000000 < (now / 1000000 - ttlSeconds) / 86400)

end History

section Proof

variable {U : Unicode} {calls : List TimedPing} {serverId : Text}

/-- The row of a server is the one its last call wrote. -/
lemma lookup_recordPings {ev : Evidence} (hempty : ev.pings = []) :
    ((recordPings U ev calls).pings.lookup (strip serverId)).map PingRow.last =
      (lastRecord calls serverId).map fun p => p.call.sample U := by
  induction calls using List.reverseRecOn with
  | nil =>
      rw [recordPings, List.foldl_nil, hempty]
      rfl
  | append_singleton calls p ih =>
      rw [recordPings, List.foldl_append, List.foldl_cons, List.foldl_nil, ← recordPings,
        recordPingResult, lastRecord, List.filter_append]
      have hid : p.call.serverId = p.args.serverId := rfl
      rw [hid]
      by_cases hserver : strip p.args.serverId = strip serverId
      · have hfilter : [p].filter (fun p => decide (strip p.args.serverId = strip serverId)) = [p] := by
          simp [hserver]
        rw [hserver, KeyedTable.lookup_assign_self, hfilter, List.getLast?_append]
        split_ifs
        · rfl
        · rfl
      · have hfilter : [p].filter (fun p => decide (strip p.args.serverId = strip serverId)) = [] := by
          simp [hserver]
        rw [KeyedTable.lookup_assign_of_ne (Ne.symm hserver), hfilter, List.append_nil]
        exact ih

/-- What the query finds, in terms of the last success. -/
lemma isSome_getRecent_iff {ev : Evidence} (hempty : ev.pings = []) (runtimeTarget : Text → Text)
    (hserver : strip serverId ≠ []) {ttlSeconds now : ℤ} (httl : 1 ≤ ttlSeconds)
    (hnow : ValidInstant now) (hvalid : ∀ p ∈ calls, ValidInstant p.time) :
    (getRecentRuntimePingSuccess U runtimeTarget (recordPings U ev calls) serverId ttlSeconds
      now).isSome = true ↔
    ∃ p ∈ lastSuccess U calls serverId,
      0 ≤ now / 1000 - ttlSeconds * 1000 + 148731163200000 ∧
        (now / 1000000 - ttlSeconds) / 86400 ≤ p.time / 86400000000 := by
  have hlookup := @lookup_recordPings U calls serverId _ hempty
  have hlast : ∀ p, lastRecord calls serverId = some p → p ∈ calls := fun p hp =>
    (List.mem_filter.mp (List.mem_of_getLast? hp)).1
  have hseconds : (now / 1000 - ttlSeconds * 1000) / 1000 = now / 1000000 - ttlSeconds := by omega
  have hbound : (now / 1000 - ttlSeconds * 1000) / 1000 < 3652059 * 86400 := by
    have := hnow.2
    omega
  rw [getRecentRuntimePingSuccess, if_neg hserver, max_eq_right httl, sqliteCutoff]
  by_cases hrange : 0 ≤ now / 1000 - ttlSeconds * 1000 + 148731163200000
  · rw [if_pos hrange, Option.bind_some]
    cases hp : lastRecord calls serverId with
    | none =>
        rw [hp, Option.map_none, Option.map_eq_none_iff] at hlookup
        rw [hlookup, lastSuccess, hp]
        simp
    | some p =>
        rw [hp, Option.map_some, Option.map_eq_some_iff] at hlookup
        rcases hlookup with ⟨row, hrow, hsample⟩
        have hstatus : row.last.status = normalizeStatus U p.args.status := by rw [hsample]; rfl
        have hchecked : row.last.checkedAt = isoformat p.time := by rw [hsample]; rfl
        have hcompare := sqliteDatetime_le_isoformat_iff hbound (hvalid p (hlast p hp))
        rw [hseconds] at hcompare
        rw [hrow, Option.bind_some, hstatus, hchecked, Option.isSome_ite, hseconds, hcompare,
          lastSuccess, hp]
        by_cases hsuccess : normalizeStatus U p.args.status = .success
        · simp [hsuccess, hrange, Option.filter]
        · simp [hsuccess, Option.filter]
  · rw [if_neg hrange]
    refine iff_of_false (by simp) ?_
    rintro ⟨p, -, hrange', -⟩
    exact hrange hrange'

/-- **When a recent success is recent.**  For every history, server and time of the query: unless the
last record is a success that is too old but of the cutoff's day, or the cutoff is too early for
SQLite. -/
theorem recent_success_iff {ev : Evidence} (hempty : ev.pings = []) (runtimeTarget : Text → Text)
    (hserver : strip serverId ≠ []) {ttlSeconds now : ℤ} (httl : 1 ≤ ttlSeconds)
    (hnow : ValidInstant now) (hvalid : ∀ p ∈ calls, ValidInstant p.time) :
    Recent U calls serverId runtimeTarget ev ttlSeconds now ↔
      CutoffSeparates U calls serverId ttlSeconds now := by
  have hfound := @isSome_getRecent_iff U _ _ _ hempty runtimeTarget hserver _ _ httl hnow hvalid
  constructor
  · rintro ⟨hsound, hcomplete⟩ p hp
    have htime : ValidInstant p.time := by
      have hmem : lastRecord calls serverId = some p := (Option.filter_eq_some_iff.mp hp).1
      exact hvalid p (List.mem_filter.mp (List.mem_of_getLast? hmem)).1
    have hrange : 0 ≤ now / 1000 - ttlSeconds * 1000 + 148731163200000 := by
      by_contra hrange
      have hage : now - p.time ≤ ttlSeconds * 1000000 := by
        have := htime.1
        omega
      rcases hfound.mp (hcomplete ⟨p, hp, hage⟩) with ⟨-, -, hrange', -⟩
      exact hrange hrange'
    refine ⟨hrange, ?_⟩
    rcases lt_or_ge (p.time / 86400000000) ((now / 1000000 - ttlSeconds) / 86400) with hday | hday
    · exact Or.inr hday
    · left
      rcases hsound (hfound.mpr ⟨p, hp, hrange, hday⟩) with ⟨q, hq, hage⟩
      rw [Option.mem_unique hp hq]
      exact hage
  · intro h
    refine ⟨fun hsome => ?_, ?_⟩
    · rcases hfound.mp hsome with ⟨p, hp, -, hday⟩
      refine ⟨p, hp, ?_⟩
      rcases (h p hp).2 with hage | hlt
      · exact hage
      · omega
    · rintro ⟨p, hp, hage⟩
      refine hfound.mpr ⟨p, hp, (h p hp).1, ?_⟩
      omega

end Proof

namespace Example

/-! ## A server that answered in the morning -/

/-- A success that a probe of the background measured. -/
def answered (time : ℤ) : TimedPing where
  time := time
  args :=
    { serverId := "se-1".toList
      status := "success".toList
      latencyMs := some 40
      runtimeTarget := .str "SE 1".toList
      source := some "background".toList
      checkedAt := none
      checkedBy := none
      errorCode := none
      errorMessage := none
      metadata := []
      now := [] }

/-- The tables before the first ping. -/
def unpinged : Evidence := ⟨[], [], []⟩

/-- One second after midnight of the first of January 2025. -/
def morning : ℤ := 63871286401000000

/-- One second before the next midnight. -/
def evening : ℤ := 63871372799000000

/-- A success of the day before yesterday is not recent. -/
theorem second_day_not_recent :
    Recent Unicode.ascii [answered morning] "se-1".toList id unpinged 600
      (morning + 2 * 86400 * 1000000) :=
  (recent_success_iff rfl id (by decide) (by decide) (by decide) (by decide)).mpr (by
    intro p hp
    obtain rfl : answered morning = p := by
      have hlast : lastSuccess Unicode.ascii [answered morning] "se-1".toList =
          some (answered morning) := rfl
      exact Option.some_inj.mp (hlast.symm.trans hp)
    decide)

/-- A success of the morning is returned in the evening to who asks for the last ten minutes. -/
theorem old_success_returned :
    ¬ Recent Unicode.ascii [answered morning] "se-1".toList id unpinged 600 evening := by
  rintro ⟨hsound, -⟩
  rcases hsound (by decide +kernel) with ⟨p, hp, hage⟩
  obtain rfl : answered morning = p := by
    have hlast : lastSuccess Unicode.ascii [answered morning] "se-1".toList =
        some (answered morning) := rfl
    exact Option.some_inj.mp (hlast.symm.trans hp)
  exact absurd hage (by decide)

end Example

end FwRouter.Health
