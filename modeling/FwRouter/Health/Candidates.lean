import FwRouter.Health.MemberHealth
import FwRouter.Library.KeyedTable
import FwRouter.Library.Run

/-!
# Candidates of the selector

The selector ranks servers by two stores of evidence: the rows of `logical_server_member_health`,
which `_import_runtime_snapshot` writes with the lane of the probe, and `server_ping_state`, which
`record_ping_result` writes with the source of the ping.  `_load_selector_candidates` merges the two,
and a manual probe is meant to qualify no candidate.

The tables of servers, topologies and members stand still; the members of a server come in the order
`member_order, member_id` of the queries.  The outcome of a group probe and the operational log are
left out: no candidate reads them.
-/

namespace FwRouter.Health

open Py

/-! ## Tables -/

structure MemberRow where
  memberId : Text
  runtimeName : Text
  isActive : Bool

structure TopologyRow where
  activeMemberId : Option Text
  members : List MemberRow

inductive PingStatus
  | unknown
  | success
  | failed
  | skipped
  deriving DecidableEq

/-- One ping, as `server_ping_state` keeps the last one and the last manual one. -/
structure PingSample where
  status : PingStatus
  pingMs : Option ℤ
  checkedAt : Text
  checkedBy : Text
  errorCode : Option Text
  errorMessage : Option Text
  metadata : Dict

structure PingRow where
  last : PingSample
  manual : Option PingSample

structure Evidence where
  topologies : List (Text × TopologyRow)
  health : List ((Text × Text) × HealthRow)
  pings : List (Text × PingRow)

/-! ## `record_ping_result` -/

section Ping

variable (U : Unicode)

/-- `str(value or "").strip().lower()`. -/
def normalized (value : Option Text) : Text := U.lower (strip (value.getD []))

def pingSources : List Text :=
  ["manual".toList, "selector".toList, "watchdog".toList, "background".toList]

/-- `_normalize_ping_source`. -/
def normalizePingSource (source checkedBy : Option Text) : Text :=
  let normalizedSource := normalized U source
  let marker := normalized U checkedBy
  if normalizedSource ∈ pingSources then normalizedSource
  else if normalizedSource = "provider_validation".toList ∧
      marker = "provider_generation".toList then normalizedSource
  else if "selector".toList <+: marker then "selector".toList
  else if "watchdog".toList <+: marker then "watchdog".toList
  else if "sweep".toList <:+: marker ∨ "job_".toList <+: marker ∨ "background".toList <+: marker then
    "background".toList
  else "manual".toList

/-- `_normalize_status`. -/
def normalizeStatus (status : Text) : PingStatus :=
  let status := U.lower (strip status)
  if status = "unknown".toList then .unknown
  else if status = "success".toList then .success
  else if status = "skipped".toList then .skipped
  else .failed

/-- The arguments of `record_ping_result`; `runtimeTarget` is the target given or resolved, `now` the
text of the present. -/
structure PingCall where
  serverId : Text
  status : Text
  latencyMs : Option ℤ
  runtimeTarget : Value
  source : Option Text
  checkedAt : Option Text
  checkedBy : Option Text
  errorCode : Option Text
  errorMessage : Option Text
  metadata : Dict
  now : Text

/-- `value or default`. -/
def orElse (value : Option Text) (default : Text) : Text :=
  if value.getD [] = [] then default else value.getD []

def PingCall.sample (p : PingCall) : PingSample :=
  let source := normalizePingSource U p.source p.checkedBy
  { status := normalizeStatus U p.status
    pingMs := p.latencyMs
    checkedAt := orElse p.checkedAt p.now
    checkedBy := orElse p.checkedBy source
    errorCode := p.errorCode
    errorMessage := p.errorMessage
    metadata := KeyedTable.assign "source".toList (.str source)
      (KeyedTable.assign "runtime_target".toList p.runtimeTarget p.metadata) }

/-- `record_ping_result`. -/
def recordPingResult (p : PingCall) (ev : Evidence) : Evidence :=
  let sample := p.sample U
  let row : PingRow :=
    if normalizePingSource U p.source p.checkedBy = "manual".toList then ⟨sample, some sample⟩
    else ⟨sample, ((ev.pings.lookup (strip p.serverId)).map (·.manual)).getD none⟩
  { ev with pings := KeyedTable.assign (strip p.serverId) row ev.pings }

end Ping

/-! ## `_import_runtime_snapshot` -/

section Import

variable (U : Unicode) (iso : Text → IsoDate)

/-- One member of a runtime snapshot. -/
structure RuntimeObservation where
  runtimeIdentity : Option Text
  status : Option Text
  checkedAt : Option Text
  latencyMs : Option ℤ
  errorCode : Option Text
  errorMessage : Option Text

structure ImportCall where
  logicalServerId : Text
  effectiveMemberRuntimeIdentity : Option Text
  members : List RuntimeObservation
  evidenceSource : Option Text
  logicalRuntimeTarget : Value
  observedAt : Value
  snapshotId : Value
  adapterId : Value
  probeReason : Text
  probeLane : Text
  updateActive : Bool
  effectiveOnly : Bool

/-- `str(observation.get("status") or "unknown").strip().lower()`, as one of the known statuses. -/
def importStatus (status : Option Text) : HealthStatus :=
  let status := U.lower (strip (orElse status "unknown".toList))
  if status = "healthy".toList then .healthy
  else if status = "failed".toList then .failed
  else if status = "stale".toList then .stale
  else if status = "unsupported".toList then .unsupported
  else .unknown

def ImportCall.evidence (i : ImportCall) (runtimeIdentity : Text) : Dict :=
  [("adapter_id".toList, i.adapterId),
   ("provider_role".toList, .str "vpn_dataplane".toList),
   ("evidence_source".toList, .str (orElse i.evidenceSource "runtime_native".toList)),
   ("probe_reason".toList, .str i.probeReason),
   ("probe_lane".toList, .str i.probeLane),
   ("logical_runtime_target".toList, i.logicalRuntimeTarget),
   ("runtime_identity".toList, .str runtimeIdentity),
   ("snapshot_observed_at".toList, i.observedAt),
   ("snapshot_id".toList, i.snapshotId)]

/-- `by_runtime.get(name)`: of the active members with one runtime name the last. -/
def memberByRuntime (members : List MemberRow) (name : Text) : Option MemberRow :=
  (members.filter (·.isActive)).reverse.find? fun m => decide (m.runtimeName = name)

/-- The member that an observation is of and what is persisted for it; `none` is an observation of
no member. -/
def ImportCall.observe (i : ImportCall) (members : List MemberRow) (r : RuntimeObservation) :
    Except HealthError (Option (Text × Observation)) :=
  match memberByRuntime members (strip (r.runtimeIdentity.getD [])) with
  | none => .ok none
  | some member => do
      let checkedAt ← canonicalTimestamp iso r.checkedAt
      let status := importStatus U r.status
      let status :=
        if (status = .healthy ∨ status = .failed) ∧ checkedAt = none then .unknown else status
      -- `_persist_member_health` canonicalises the timestamp once more
      let stored ← canonicalTimestamp iso checkedAt
      return some (member.memberId,
        { status
          latencyMs := r.latencyMs
          checkedAt := stored
          errorCode := r.errorCode
          errorMessage := r.errorMessage
          evidence := i.evidence (strip (r.runtimeIdentity.getD [])) })

/-- What an import persists, in order. -/
def ImportCall.observations (i : ImportCall) (members : List MemberRow) :
    Except HealthError (List (Text × Observation)) := do
  let effective := strip (i.effectiveMemberRuntimeIdentity.getD [])
  let observed := i.members.filter fun r =>
    !i.effectiveOnly || decide (r.runtimeIdentity.getD [] = effective)
  return (← observed.mapM (i.observe U iso members)).reduceOption

/-- `_persist_member_health` on the table. -/
def persistAt (logicalServerId : Text) (health : List ((Text × Text) × HealthRow))
    (o : Text × Observation) : List ((Text × Text) × HealthRow) :=
  KeyedTable.assign (logicalServerId, o.1)
    (upsertHealth (health.lookup (logicalServerId, o.1)) o.2) health

/-- The update of `active_member_id`. -/
def ImportCall.activate (i : ImportCall) (topology : TopologyRow)
    (topologies : List (Text × TopologyRow)) : List (Text × TopologyRow) :=
  match i.updateActive,
    memberByRuntime topology.members (strip (i.effectiveMemberRuntimeIdentity.getD [])) with
  | true, some member =>
      KeyedTable.assign i.logicalServerId { topology with activeMemberId := some member.memberId }
        topologies
  | _, _ => topologies

/-- `_import_runtime_snapshot`; one that raises is rolled back. -/
def importRuntimeSnapshot (i : ImportCall) (ev : Evidence) : Except HealthError Evidence :=
  match ev.topologies.lookup i.logicalServerId with
  | none => .ok ev
  | some topology => do
      let observations ← i.observations U iso topology.members
      return { ev with
        health := observations.foldl (persistAt i.logicalServerId) ev.health
        topologies := i.activate topology ev.topologies }

end Import

/-! ## `_load_selector_candidates` -/

section Load

variable (U : Unicode) (reprText : Text → Text)

/-- `_member_status`; `cutoff` is the text of `datetime('now', '-1800 seconds')`. -/
def memberStatus (cutoff : Text) (row : Option HealthRow) : HealthStatus :=
  match row with
  | none => .unknown
  | some row =>
      if (row.status = .healthy ∨ row.status = .failed) ∧ ∃ t ∈ row.checkedAt, t ≤ cutoff then .stale
      else row.status

variable (ev : Evidence) (cutoff : Text) (serverId : Text)

def healthOf (memberId : Text) : Option HealthRow := ev.health.lookup (serverId, memberId)

/-- The active members that are healthy. -/
def usableMembers (topology : TopologyRow) : List MemberRow :=
  topology.members.filter fun m =>
    m.isActive && decide (memberStatus cutoff (healthOf ev serverId m.memberId) = .healthy)

/-- `active_member_id` of the projection. -/
def activeMemberId (topology : TopologyRow) : Option Text :=
  if topology.activeMemberId.getD [] = [] then
    (usableMembers ev cutoff serverId topology).head?.map (·.memberId)
  else topology.activeMemberId

/-- The member with `is_effective_active`. -/
def effectiveMember (topology : TopologyRow) : Option MemberRow :=
  topology.members.find? fun m =>
    decide (activeMemberId ev cutoff serverId topology = some m.memberId)

/-- `health.status` of the projection. -/
def topologyHealth (topology : TopologyRow) : Text :=
  let active := topology.members.filter (·.isActive)
  if usableMembers ev cutoff serverId topology ≠ [] then "usable".toList
  else if active ≠ [] ∧
      active.all fun m => decide (memberStatus cutoff (healthOf ev serverId m.memberId) = .failed) then
    "unavailable".toList
  else "unknown".toList

/-- The `ping` of a candidate. -/
structure Ping where
  status : PingStatus
  lastPingMs : Option ℤ
  checkedAt : Option Text
  checkedBy : Option Text
  source : Value
  errorCode : Option Text
  errorMessage : Option Text
  canonicalHealthStatus : Option Text

/-- `_is_manual_ping`. -/
def isManualPing (ping : Ping) : Bool :=
  let source := U.lower (strip (ping.source.textOr reprText))
  let checkedBy := normalized U ping.checkedBy
  decide (source = "manual".toList) ||
    decide (checkedBy ∈ ["manual".toList, "ui".toList, "admin_ui".toList]) ||
    decide ("manual_".toList <+: checkedBy) || decide ("ui_".toList <+: checkedBy) ||
    decide ("admin_ui".toList <+: checkedBy) || decide (":manual".toList <:+: checkedBy)

/-- The columns of `server_ping_state` in a row of the query, without the manual ones. -/
def legacyPing : Ping :=
  let row := ev.pings.lookup serverId
  let ping : Ping := {
    status := (row.map (·.last.status)).getD .unknown
    lastPingMs := row.bind (·.last.pingMs)
    checkedAt := row.map (·.last.checkedAt)
    checkedBy := row.map (·.last.checkedBy)
    source := (row.map (·.last.metadata.get "source")).getD .none
    errorCode := row.bind (·.last.errorCode)
    errorMessage := row.bind (·.last.errorMessage)
    canonicalHealthStatus := none }
  if isManualPing U reprText ping then { ping with status := .unknown, lastPingMs := none } else ping

/-- The effective member's row, if it has a timestamp: the canonical evidence. -/
def canonicalEvidence : Option (TopologyRow × HealthRow) :=
  (ev.topologies.lookup serverId).bind fun topology =>
    (effectiveMember ev cutoff serverId topology).bind fun member =>
      (healthOf ev serverId member.memberId).bind fun row =>
        if row.checkedAt.getD [] = [] then none else some (topology, row)

def candidatePing : Ping :=
  match canonicalEvidence ev cutoff serverId with
  | none => legacyPing U reprText ev serverId
  | some (topology, row) =>
      if (row.evidence.get "probe_lane").isText "manual".toList then
        { legacyPing U reprText ev serverId with
          status := .unknown
          lastPingMs := none
          source := .str "manual_only".toList }
      else
        let status := memberStatus cutoff (some row)
        { status :=
            if status = .healthy then .success else if status = .failed then .failed else .unknown
          lastPingMs := if status = .healthy then row.latencyMs else none
          checkedAt := row.checkedAt
          checkedBy := some "canonical_health".toList
          source := .str "canonical_health".toList
          errorCode := row.errorCode
          errorMessage := row.errorMessage
          canonicalHealthStatus := some (topologyHealth ev cutoff serverId topology) }

end Load

/-- The columns of an eligible server. -/
structure ServerColumns where
  serverId : Text
  serverName : Text
  providerName : Option Text
  inventoryState : Text
  runtimeTarget : Option Text
  vpnAuto : Bool
  vpnAutoPriority : Option ℤ
  globalList : Option Bool
  manuallyDeletedAt : Option Text

structure Candidate where
  serverId : Text
  serverName : Text
  providerName : Option Text
  inventoryState : Text
  runtimeTarget : Text
  vpnAuto : Bool
  vpnAutoPriority : ℤ
  globalList : Bool
  manuallyDeletedAt : Option Text
  ping : Ping

/-- The `ORDER BY` of the query. -/
def candidateOrder (ev : Evidence) (s : ServerColumns) : ℕ ×ₗ ℕ ×ₗ ℤ ×ₗ Text :=
  let ping := (ev.pings.lookup s.serverId).map (·.last)
  toLex ((if ping.map (·.status) = some .success then 0 else 1),
    toLex ((if (ping.bind (·.pingMs)).isSome then 0 else 1),
      toLex ((ping.bind (·.pingMs)).getD 0, s.serverName)))

def minVpnAutoPriority : ℤ := -1
def maxVpnAutoPriority : ℤ := 5

/-- `_load_selector_candidates`; `eligible` are the rows that the `WHERE` of the query keeps. -/
def loadSelectorCandidates (U : Unicode) (reprText : Text → Text) (ev : Evidence) (cutoff : Text)
    (eligible : List ServerColumns) : List Candidate :=
  (eligible.mergeSort fun a b => candidateOrder ev a ≤ candidateOrder ev b).map fun s =>
    { serverId := s.serverId
      serverName := s.serverName
      providerName := s.providerName
      inventoryState := s.inventoryState
      runtimeTarget := orElse s.runtimeTarget s.serverId
      vpnAuto := s.vpnAuto
      vpnAutoPriority := max minVpnAutoPriority (min maxVpnAutoPriority (s.vpnAutoPriority.getD 0))
      globalList := s.globalList.getD true
      manuallyDeletedAt := s.manuallyDeletedAt
      ping := candidatePing U reprText ev cutoff s.serverId }

/-! ## Histories -/

inductive EvidenceCall
  | ping (p : PingCall)
  | snapshot (i : ImportCall)

section History

variable (U : Unicode) (iso : Text → IsoDate)

def evidenceStep (ev : Evidence) : EvidenceCall → Evidence
  | .ping p => recordPingResult U p ev
  | .snapshot i =>
      match importRuntimeSnapshot U iso i ev with
      | .ok imported => imported
      | .error _ => ev

/-- What a call persists for one member. -/
def EvidenceCall.imported (members : List MemberRow) (serverId memberId : Text) :
    EvidenceCall → List Observation
  | .ping _ => []
  | .snapshot i =>
      if i.logicalServerId = serverId then
        match i.observations U iso members with
        | .ok observations => (observations.filter fun o => decide (o.1 = memberId)).map (·.2)
        | .error _ => []
      else []

/-- The observations of one member that a history has imported, in order. -/
def imports (ev₀ : Evidence) (calls : List EvidenceCall) (serverId memberId : Text) :
    List Observation :=
  match ev₀.topologies.lookup serverId with
  | none => []
  | some topology => calls.flatMap (EvidenceCall.imported U iso topology.members serverId memberId)

/-- The ping that a call records for a server. -/
def EvidenceCall.pingOf (serverId : Text) : EvidenceCall → Option PingCall
  | .ping p => if strip p.serverId = serverId then some p else none
  | .snapshot _ => none

/-- The last ping of a server that a history has recorded. -/
def lastPing (calls : List EvidenceCall) (serverId : Text) : Option PingCall :=
  (calls.filterMap (EvidenceCall.pingOf serverId)).getLast?

end History

/-- The lane of an observation is `manual`. -/
def Observation.isManual (o : Observation) : Bool :=
  (o.evidence.get "probe_lane").isText "manual".toList

/-- Two imports of one runtime observation. -/
def Observation.SameProbe (o p : Observation) : Prop :=
  o.status = p.status ∧ o.latencyMs = p.latencyMs ∧ o.checkedAt = p.checkedAt ∧
    o.errorCode = p.errorCode ∧ o.errorMessage = p.errorMessage

/-! ## What a history leaves -/

section Proofs

variable {U : Unicode} {iso : Text → IsoDate} {reprText : Text → Text} {ev ev₀ : Evidence}
  {serverId memberId cutoff : Text} {calls : List EvidenceCall}

lemma lookup_foldl_persistAt (logicalServerId : Text) (os : List (Text × Observation))
    (health : List ((Text × Text) × HealthRow)) :
    (os.foldl (persistAt logicalServerId) health).lookup (serverId, memberId) =
      if logicalServerId = serverId then
        ((os.filter fun o => decide (o.1 = memberId)).map (·.2)).foldl
          (fun row o => some (upsertHealth row o)) (health.lookup (serverId, memberId))
      else health.lookup (serverId, memberId) := by
  induction os generalizing health with
  | nil => simp
  | cons o os ih =>
      rw [List.foldl_cons, ih, persistAt]
      by_cases hserver : logicalServerId = serverId
      · subst hserver
        rw [if_pos rfl, if_pos rfl]
        by_cases hmember : o.1 = memberId
        · subst hmember
          rw [KeyedTable.lookup_assign_self]
          simp
        · rw [KeyedTable.lookup_assign_of_ne (by simpa using Ne.symm hmember)]
          simp [hmember]
      · rw [if_neg hserver, if_neg hserver]
        exact KeyedTable.lookup_assign_of_ne (by simpa using fun h _ => hserver h.symm) _ _

/-- **What an import can do.**  It is of no known server, or raises, or persists its observations and
may move the active member of its server. -/
lemma evidenceStep_snapshot_cases (U : Unicode) (iso : Text → IsoDate) (i : ImportCall)
    (ev : Evidence) :
    (ev.topologies.lookup i.logicalServerId = none ∧ evidenceStep U iso ev (.snapshot i) = ev) ∨
      ∃ topology, ev.topologies.lookup i.logicalServerId = some topology ∧
        ((∃ e, i.observations U iso topology.members = .error e) ∧
            evidenceStep U iso ev (.snapshot i) = ev ∨
          ∃ os, i.observations U iso topology.members = .ok os ∧
            evidenceStep U iso ev (.snapshot i) =
              { ev with
                health := os.foldl (persistAt i.logicalServerId) ev.health
                topologies := i.activate topology ev.topologies }) := by
  cases htopology : ev.topologies.lookup i.logicalServerId with
  | none =>
      refine Or.inl ⟨rfl, ?_⟩
      simp only [evidenceStep, importRuntimeSnapshot, htopology]
  | some topology =>
      refine Or.inr ⟨topology, rfl, ?_⟩
      cases hos : i.observations U iso topology.members with
      | error e =>
          refine Or.inl ⟨⟨e, rfl⟩, ?_⟩
          simp only [evidenceStep, importRuntimeSnapshot, htopology, hos]
          rfl
      | ok os =>
          refine Or.inr ⟨os, rfl, ?_⟩
          simp only [evidenceStep, importRuntimeSnapshot, htopology, hos]
          rfl

/-- The members of the topologies stand still. -/
lemma members_evidenceStep (U : Unicode) (iso : Text → IsoDate) (c : EvidenceCall) (ev : Evidence)
    (serverId : Text) :
    ((evidenceStep U iso ev c).topologies.lookup serverId).map (·.members) =
      (ev.topologies.lookup serverId).map (·.members) := by
  cases c with
  | ping p => rfl
  | snapshot i =>
      rcases evidenceStep_snapshot_cases U iso i ev with ⟨-, h⟩ |
        ⟨topology, htopology, ⟨-, h⟩ | ⟨os, -, h⟩⟩
      · rw [h]
      · rw [h]
      · rw [h]
        simp only [ImportCall.activate]
        split
        · by_cases hserver : serverId = i.logicalServerId
          · subst hserver
            simp [htopology]
          · rw [KeyedTable.lookup_assign_of_ne hserver]
        · rfl

lemma healthOf_evidenceStep (c : EvidenceCall) {topology : TopologyRow}
    (htopology : ev.topologies.lookup serverId = some topology) :
    healthOf (evidenceStep U iso ev c) serverId memberId =
      (c.imported U iso topology.members serverId memberId).foldl
        (fun row o => some (upsertHealth row o)) (healthOf ev serverId memberId) := by
  cases c with
  | ping p => rfl
  | snapshot i =>
      simp only [EvidenceCall.imported]
      by_cases hserver : i.logicalServerId = serverId
      · subst hserver
        rw [if_pos rfl]
        rcases evidenceStep_snapshot_cases U iso i ev with ⟨hnone, -⟩ |
          ⟨found, hfound, ⟨⟨e, he⟩, h⟩ | ⟨os, hos, h⟩⟩
        · rw [hnone] at htopology
          cases htopology
        · obtain rfl := Option.some.inj (hfound.symm.trans htopology)
          rw [h, he]
          rfl
        · obtain rfl := Option.some.inj (hfound.symm.trans htopology)
          rw [h, hos]
          simp only [healthOf]
          rw [lookup_foldl_persistAt, if_pos rfl]
      · rw [if_neg hserver]
        rcases evidenceStep_snapshot_cases U iso i ev with ⟨-, h⟩ |
          ⟨found, -, ⟨-, h⟩ | ⟨os, -, h⟩⟩
        · rw [h]
          rfl
        · rw [h]
          rfl
        · rw [h]
          simp only [healthOf]
          rw [lookup_foldl_persistAt, if_neg hserver]
          rfl

lemma exists_topology_of_run {topology : TopologyRow}
    (h : (calls.foldl (evidenceStep U iso) ev).topologies.lookup serverId = some topology) :
    ∃ start, ev.topologies.lookup serverId = some start := by
  induction calls using List.reverseRecOn generalizing topology with
  | nil => exact ⟨topology, h⟩
  | append_singleton calls c ih =>
      rw [List.foldl_append] at h
      have hmembers := members_evidenceStep U iso c (calls.foldl (evidenceStep U iso) ev) serverId
      simp only [List.foldl_cons, List.foldl_nil] at h
      rw [h, Option.map_some] at hmembers
      obtain ⟨previous, hprevious, -⟩ := Option.map_eq_some_iff.mp hmembers.symm
      exact ih hprevious

/-- The row of a member after a history is what its imports make of it. -/
lemma healthOf_run {topology : TopologyRow}
    (htopology : ev.topologies.lookup serverId = some topology) (calls : List EvidenceCall) :
    healthOf (calls.foldl (evidenceStep U iso) ev) serverId memberId =
      (imports U iso ev calls serverId memberId).foldl (fun row o => some (upsertHealth row o))
        (healthOf ev serverId memberId) := by
  rw [imports, htopology]
  simp only
  induction calls generalizing ev topology with
  | nil => rfl
  | cons c calls ih =>
      have hmembers := members_evidenceStep U iso c ev serverId
      rw [htopology, Option.map_some] at hmembers
      obtain ⟨next, hnext, hsame⟩ := Option.map_eq_some_iff.mp hmembers
      rw [List.foldl_cons, ih hnext, healthOf_evidenceStep c htopology, List.flatMap_cons,
        List.foldl_append, hsame]

lemma pings_evidenceStep_snapshot (i : ImportCall) (ev : Evidence) :
    (evidenceStep U iso ev (.snapshot i)).pings = ev.pings := by
  rcases evidenceStep_snapshot_cases U iso i ev with ⟨-, h⟩ | ⟨topology, -, ⟨-, h⟩ | ⟨os, -, h⟩⟩
  · rw [h]
  · rw [h]
  · rw [h]

lemma lastPing_snoc (calls : List EvidenceCall) (c : EvidenceCall) :
    lastPing (calls ++ [c]) serverId = (c.pingOf serverId).or (lastPing calls serverId) := by
  rw [lastPing, List.filterMap_append, List.getLast?_append, lastPing]
  cases h : c.pingOf serverId with
  | none => simp [h]
  | some p => simp [h]

/-- The row of `server_ping_state` holds the last ping that was recorded. -/
lemma pings_run (U : Unicode) (iso : Text → IsoDate) (ev : Evidence) {p : PingCall}
    (h : lastPing calls serverId = some p) :
    ∃ manual, (calls.foldl (evidenceStep U iso) ev).pings.lookup serverId =
      some ⟨p.sample U, manual⟩ := by
  induction calls using List.reverseRecOn with
  | nil => cases h
  | append_singleton calls c ih =>
      rw [List.foldl_append]
      rw [lastPing_snoc] at h
      cases c with
      | snapshot i =>
          simp only [List.foldl_cons, List.foldl_nil, pings_evidenceStep_snapshot]
          exact ih h
      | ping q =>
          simp only [List.foldl_cons, List.foldl_nil, evidenceStep, recordPingResult]
          by_cases hserver : strip q.serverId = serverId
          · rw [EvidenceCall.pingOf, if_pos hserver] at h
            obtain rfl := Option.some.inj h
            rw [hserver, KeyedTable.lookup_assign_self]
            split
            · exact ⟨_, rfl⟩
            · exact ⟨_, rfl⟩
          · rw [KeyedTable.lookup_assign_of_ne (Ne.symm hserver)]
            rw [EvidenceCall.pingOf, if_neg hserver] at h
            exact ih h

/-! ## What a candidate shows -/

lemma sample_source (p : PingCall) :
    (p.sample U).metadata.get "source" = .str (normalizePingSource U p.source p.checkedBy) := by
  simp only [PingCall.sample, Dict.get]
  rw [KeyedTable.lookup_assign_self]
  rfl

lemma isManualPing_of_source {ping : Ping} (h : ping.source = .str "manual".toList) :
    isManualPing U reprText ping = true := by
  have hlower : U.lower (strip (ping.source.textOr reprText)) = "manual".toList := by
    rw [h]
    change U.lower (strip "manual".toList) = "manual".toList
    rw [U.lower_ascii _ (by decide)]
    decide
  simp only [isManualPing, hlower, decide_true, Bool.true_or]

/-- A ping of source `manual` is no success. -/
lemma legacyPing_of_manual {row : PingRow} (hrow : ev.pings.lookup serverId = some row)
    (hsource : row.last.metadata.get "source" = .str "manual".toList) :
    (legacyPing U reprText ev serverId).status = .unknown := by
  simp only [legacyPing, hrow, Option.map_some, Option.getD_some]
  rw [if_pos (isManualPing_of_source hsource)]

lemma memberStatus_eq_healthy_iff {row : HealthRow} :
    memberStatus cutoff (some row) = .healthy ↔
      row.status = .healthy ∧ ¬∃ t ∈ row.checkedAt, t ≤ cutoff := by
  simp only [memberStatus]
  split_ifs with h
  · simp only [false_iff, not_and, not_not]
    exact fun _ => h.2
  · constructor
    · intro hhealthy
      exact ⟨hhealthy, fun hstale => h ⟨Or.inl hhealthy, hstale⟩⟩
    · exact fun hhealthy => hhealthy.1

lemma healthOf_of_canonicalEvidence {topology : TopologyRow} {row : HealthRow} {member : MemberRow}
    (h : canonicalEvidence ev cutoff serverId = some (topology, row))
    (hmember : effectiveMember ev cutoff serverId topology = some member) :
    ev.topologies.lookup serverId = some topology ∧
      healthOf ev serverId member.memberId = some row := by
  rw [canonicalEvidence] at h
  obtain ⟨found, hfound, h⟩ := Option.bind_eq_some_iff.mp h
  obtain ⟨effective, heffective, h⟩ := Option.bind_eq_some_iff.mp h
  obtain ⟨stored, hstored, h⟩ := Option.bind_eq_some_iff.mp h
  split_ifs at h
  obtain ⟨rfl, rfl⟩ := Prod.mk.inj (Option.some.inj h)
  obtain rfl := Option.some.inj (heffective.symm.trans hmember)
  exact ⟨hfound, hstored⟩

lemma candidatePing_ne_success_iff {topology : TopologyRow} {row : HealthRow}
    (h : canonicalEvidence ev cutoff serverId = some (topology, row)) :
    (candidatePing U reprText ev cutoff serverId).status ≠ .success ↔
      row.toObservation.isManual = true ∨ memberStatus cutoff (some row) ≠ .healthy := by
  unfold candidatePing
  rw [h, Observation.isManual]
  simp only
  by_cases hmanual : (row.evidence.get "probe_lane").isText "manual".toList = true
  · rw [if_pos hmanual]
    simp only [hmanual, true_or, iff_true]
    decide
  · rw [if_neg hmanual]
    simp only [hmanual, Bool.false_eq_true, false_or]
    by_cases hhealthy : memberStatus cutoff (some row) = .healthy
    · simp [hhealthy]
    · by_cases hfailed : memberStatus cutoff (some row) = .failed
      · simp [hfailed]
      · simp [hhealthy, hfailed]

/-- **A manual probe qualifies no candidate unless it is imported again by another lane.**  Let the
effective member's stored timestamp belong to one runtime observation whose first import was manual.
The candidate is no success exactly when the last import of that observation was manual too, or the
observation is not healthy, or it is stale.  A candidate without canonical evidence whose last
recorded ping was manual is never a success. -/
theorem manual_evidence_disqualifies_iff (U : Unicode) (iso : Text → IsoDate)
    (reprText : Text → Text) (ev₀ : Evidence) (calls : List EvidenceCall) (cutoff : Text)
    (eligible : List ServerColumns) (c : Candidate)
    (hc : c ∈ loadSelectorCandidates U reprText (calls.foldl (evidenceStep U iso) ev₀) cutoff
      eligible) :
    (∀ topology row member first last,
      canonicalEvidence (calls.foldl (evidenceStep U iso) ev₀) cutoff c.serverId =
        some (topology, row) →
      effectiveMember (calls.foldl (evidenceStep U iso) ev₀) cutoff c.serverId topology =
        some member →
      healthOf ev₀ c.serverId member.memberId = none →
      ((imports U iso ev₀ calls c.serverId member.memberId).filter fun o =>
        decide (o.checkedAt = row.checkedAt)).head? = some first →
      ((imports U iso ev₀ calls c.serverId member.memberId).filter fun o =>
        decide (o.checkedAt = row.checkedAt)).getLast? = some last →
      (∀ o ∈ imports U iso ev₀ calls c.serverId member.memberId, o.checkedAt = row.checkedAt →
        o.SameProbe first) →
      first.isManual = true →
      (c.ping.status ≠ .success ↔ last.isManual = true ∨ first.status ≠ .healthy ∨
        ∃ t ∈ first.checkedAt, t ≤ cutoff)) ∧
    (canonicalEvidence (calls.foldl (evidenceStep U iso) ev₀) cutoff c.serverId = none →
      ∀ p, lastPing calls c.serverId = some p →
        normalizePingSource U p.source p.checkedBy = "manual".toList →
        c.ping.status ≠ .success) := by
  obtain ⟨s, -, rfl⟩ := List.mem_map.mp hc
  simp only
  constructor
  · intro topology row member first last hevidence hmember hfresh _ hlast hsame _
    obtain ⟨htopology, hrow⟩ := healthOf_of_canonicalEvidence hevidence hmember
    obtain ⟨start, hstart⟩ := exists_topology_of_run htopology
    rw [healthOf_run hstart, hfresh] at hrow
    have hlatest := latest_of_upserts hrow
    obtain rfl := Option.some.inj (hlast.symm.trans (getLast?_of_latest hlatest))
    obtain ⟨hstatus, -, hchecked, -⟩ := hsame _ hlatest.mem rfl
    rw [candidatePing_ne_success_iff hevidence, Ne, memberStatus_eq_healthy_iff, ← hstatus,
      ← hchecked, not_and_or, not_not]
  · intro hnone p hp hmanual
    obtain ⟨manual, hrow⟩ := pings_run U iso ev₀ hp
    rw [candidatePing, hnone]
    simp only
    rw [legacyPing_of_manual hrow ((sample_source p).trans (by rw [hmanual]))]
    decide

end Proofs

/-! ## A manual probe and its repetition -/

/-- One server with one member, and no evidence yet. -/
def unprobed : Evidence where
  topologies := [("se-1".toList, ⟨none, [⟨"m-1".toList, "SE 1".toList, true⟩]⟩)]
  health := []
  pings := []

def eligibleServer : ServerColumns where
  serverId := "se-1".toList
  serverName := "SE".toList
  providerName := none
  inventoryState := "active".toList
  runtimeTarget := none
  vpnAuto := true
  vpnAutoPriority := none
  globalList := none
  manuallyDeletedAt := none

/-- A snapshot of the runtime with one healthy observation, imported by a lane. -/
def healthySnapshot (probeLane : String) : EvidenceCall :=
  .snapshot {
    logicalServerId := "se-1".toList
    effectiveMemberRuntimeIdentity := some "SE 1".toList
    members := [⟨some "SE 1".toList, some "healthy".toList, some "2026-09-28 00:00:00".toList,
      some 20, none, none⟩]
    evidenceSource := none
    logicalRuntimeTarget := .str "SE".toList
    observedAt := .none
    snapshotId := .none
    adapterId := .str "mihomo".toList
    probeReason := "logical_ping".toList
    probeLane := probeLane.toList
    updateActive := true
    effectiveOnly := false }

def halfAnHourBefore : Text := "2026-09-27 23:30:00".toList

/-- The evidence after one manual probe. -/
def manuallyProbed : Evidence :=
  [healthySnapshot "manual"].foldl (evidenceStep Unicode.ascii midnightIso) unprobed

/-- What the manual probe stores. -/
def manualObservation : Observation where
  status := .healthy
  latencyMs := some 20
  checkedAt := some "2026-09-28 00:00:00".toList
  errorCode := none
  errorMessage := none
  evidence :=
    match healthySnapshot "manual" with
    | .snapshot i => i.evidence "SE 1".toList
    | .ping _ => []

lemma load_singleton (U : Unicode) (reprText : Text → Text) (ev : Evidence) (cutoff : Text)
    (s : ServerColumns) :
    (loadSelectorCandidates U reprText ev cutoff [s]).map (·.ping) =
      [candidatePing U reprText ev cutoff s.serverId] := by
  rw [loadSelectorCandidates, List.mergeSort_singleton]
  rfl

/-- A manual probe alone qualifies no server. -/
theorem manual_probe_disqualifies :
    ∃ c, c ∈ loadSelectorCandidates Unicode.ascii id manuallyProbed halfAnHourBefore
      [eligibleServer] ∧ c.ping.status ≠ .success := by
  rw [loadSelectorCandidates, List.mergeSort_singleton]
  refine ⟨_, List.mem_singleton.mpr rfl, ?_⟩
  refine ((manual_evidence_disqualifies_iff Unicode.ascii midnightIso id unprobed
    [healthySnapshot "manual"] halfAnHourBefore [eligibleServer] _ ?_).1
    ⟨some "m-1".toList, [⟨"m-1".toList, "SE 1".toList, true⟩]⟩ ⟨manualObservation, 0⟩
    ⟨"m-1".toList, "SE 1".toList, true⟩ manualObservation manualObservation
    ?_ ?_ ?_ ?_ ?_ ?_ ?_).mpr ?_
  · rw [loadSelectorCandidates, List.mergeSort_singleton]
    exact List.mem_singleton.mpr rfl
  · rfl
  · rfl
  · rfl
  · rfl
  · rfl
  · intro o ho _
    obtain rfl := List.mem_singleton.mp (show o ∈ [manualObservation] from ho)
    exact ⟨rfl, rfl, rfl, rfl, rfl⟩
  · rfl
  · exact Or.inl rfl

/-- A manual probe that a background observation imports again qualifies its server. -/
theorem reimported_manual_probe_qualifies :
    ((imports Unicode.ascii midnightIso unprobed
        [healthySnapshot "manual", healthySnapshot "background"] "se-1".toList "m-1".toList).map
          fun o => (o.status, o.latencyMs, o.checkedAt, o.isManual)) =
        [(.healthy, some 20, some "2026-09-28 00:00:00".toList, true),
          (.healthy, some 20, some "2026-09-28 00:00:00".toList, false)] ∧
      (((loadSelectorCandidates Unicode.ascii id
        ([healthySnapshot "manual", healthySnapshot "background"].foldl
          (evidenceStep Unicode.ascii midnightIso) unprobed) halfAnHourBefore [eligibleServer]).map
            (·.ping)).map (·.status)) = [.success] := by
  refine ⟨?_, ?_⟩
  · decide +kernel
  · rw [load_singleton]
    decide +kernel

end FwRouter.Health
