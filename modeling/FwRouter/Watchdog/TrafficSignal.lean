import FwRouter.Watchdog.FailureState

/-!
# The traffic signal

`watchdog_traffic_signal.py`: what the snapshots of the VPN counters say about the VPN path.  Two
sets of samples are read.  The activity flag is about the samples of the latest collection, of
either kind; the outbound and response bytes are those of the latest dataplane sample that sent
anything and of the samples around it.  A signal may therefore be active without outbound bytes.

The rows are what the query returns, the latest first.  `parse` is `datetime.fromisoformat` with its
default zone, `digest` the hash of an observation, `prefixes` the counter names of the subject
types.  The totals and the sample lists that a signal carries along are left out.
-/

namespace FwRouter.Watchdog

open Py

/-- A row of `traffic_counter_snapshots` for the path `vpn`, with the entries of its metadata that
are read. -/
structure CounterRow where
  counterKey : Text
  subjectId : Option Text
  collectedAt : Text
  rxDelta : Int
  txDelta : Int
  activityObserved : Bool
  source : Text
  scope : Text
  watchdogSignal : Text
  /-- `connection_type`, else `module_role`. -/
  connectionType : Text
deriving DecidableEq

inductive SampleKind where
  | dataplane
  | adapter
deriving DecidableEq

/-- `path_state`. -/
inductive PathState where
  | idle
  | healthy
  | suspectedFailure
deriving DecidableEq

/-- What an observation is hashed from. -/
structure ObservationKey where
  correlationSeconds : Int
  pathState : PathState
  txSamples : List CounterRow
  rxSamples : List CounterRow

/-- The settings and tables the detection reads. -/
structure Detector where
  unicode : Unicode
  parse : Text → Option Instant
  digest : ObservationKey → Text
  prefixes : List Text
  trafficWindowSeconds : Int
  correlationSeconds : Int

variable (d : Detector)

/-- `bool(metadata.get("activity_observed")) or rx_delta > 0 or tx_delta > 0`. -/
def CounterRow.active (r : CounterRow) : Bool :=
  r.activityObserved || decide (0 < r.rxDelta) || decide (0 < r.txDelta)

/-- `_watchdog_nft_named_vpn_counter_allowed`. -/
def nftNamedVpnCounterAllowed (counterKey : Text) : Bool :=
  "nft:counter:cnt_".toList.isPrefixOf counterKey &&
  ("_vpn_tx".toList.isSuffixOf counterKey || "_vpn_rx".toList.isSuffixOf counterKey) &&
  d.prefixes.any fun p => p.isPrefixOf (counterKey.drop "nft:counter:cnt_".toList.length)

/-- `_watchdog_traffic_sample_kind`. -/
def sampleKind (r : CounterRow) : Option SampleKind :=
  let watchdogSignal := d.unicode.lower (strip r.watchdogSignal)
  let connectionType := d.unicode.lower (strip r.connectionType)
  if watchdogSignal = "dataplane".toList then some .dataplane
  else if watchdogSignal ∈ ["adapter_response".toList, "external_vpn_module_response".toList] ∧
      (connectionType ∈ ["external_vpn_module".toList, "vpn_module".toList] ∨
        watchdogSignal = "external_vpn_module_response".toList) then some .adapter
  else if r.source = "nftables".toList ∧ (r.counterKey = "fwrouter:global:vpn".toList ∨
      nftNamedVpnCounterAllowed d r.counterKey = true) then some .dataplane
  else none

/-- `_watchdog_effective_sample_deltas`: received and sent. -/
def effectiveSampleDeltas (r : CounterRow) : Int × Int :=
  if r.counterKey = "fwrouter:global:vpn".toList ∧ r.source = "nftables".toList ∧
      r.scope = "global".toList then (0, r.rxDelta + r.txDelta)
  else if r.source = "nftables".toList ∧ nftNamedVpnCounterAllowed d r.counterKey = true then
    if "_vpn_tx".toList.isSuffixOf r.counterKey then (0, r.rxDelta + r.txDelta)
    else (r.rxDelta + r.txDelta, 0)
  else (r.rxDelta, r.txDelta)

/-- `_build_watchdog_current_observation`. -/
structure Observation where
  pathState : PathState := .idle
  authoritativeTxDelta : Int := 0
  authoritativeRxDelta : Int := 0
  decisionId : Option Text := none

/-- The dataplane samples that sent something, with their times. -/
def sentSamples (samples : List CounterRow) : List (Instant × CounterRow) :=
  samples.filterMap fun r =>
    if sampleKind d r = some .dataplane ∧ 0 < (effectiveSampleDeltas d r).2 then
      (d.parse r.collectedAt).map fun t => (t, r)
    else none

/-- The samples of a kind within the correlation time of the anchor. -/
def correlatedSamples (samples : List CounterRow) (anchor : Instant) :
    List (Instant × CounterRow × SampleKind) :=
  samples.filterMap fun r =>
    match d.parse r.collectedAt, sampleKind d r with
    | some t, some kind =>
        if |t - anchor| ≤ max 1 (orDefault d.correlationSeconds 30) * 1000000 then
          some (t, r, kind)
        else none
    | _, _ => none

/-- The samples of a kind that received something. -/
def receivedSamples (kind : SampleKind) (correlated : List (Instant × CounterRow × SampleKind)) :
    List CounterRow :=
  correlated.filterMap fun x =>
    if x.2.2 = kind ∧ 0 < (effectiveSampleDeltas d x.2.1).1 then some x.2.1 else none

def buildCurrentObservation (samples : List CounterRow) : Observation :=
  match (sentSamples d samples).map Prod.fst with
  | [] => {}
  | t :: ts =>
      let anchor := ts.foldl max t
      let correlated := correlatedSamples d samples anchor
      let txSamples := correlated.filterMap fun x =>
        if x.2.2 = .dataplane ∧ x.1 = anchor ∧ 0 < (effectiveSampleDeltas d x.2.1).2 then some x.2.1
        else none
      let tx := (txSamples.map fun r => (effectiveSampleDeltas d r).2).sum
      let dataplane := receivedSamples d .dataplane correlated
      let rxSamples :=
        if dataplane.isEmpty then receivedSamples d .adapter correlated else dataplane
      let rx := (rxSamples.map fun r => (effectiveSampleDeltas d r).1).sum
      let pathState := if 0 < tx ∧ 0 < rx then .healthy else .suspectedFailure
      { pathState
        authoritativeTxDelta := tx
        authoritativeRxDelta := rx
        decisionId :=
          if txSamples.isEmpty then none
          else some (d.digest ⟨max 1 (orDefault d.correlationSeconds 30), pathState, txSamples,
            rxSamples⟩) }

/-- What `detect_recent_vpn_traffic_attempts` returns. -/
structure VpnTrafficSignal where
  observed : Bool
  responseObserved : Bool
  outboundObserved : Bool
  trafficStalled : Bool
  pathState : PathState
  decisionId : Option Text
  lastCollectedAt : Option Text
  lastCollectedAgeSeconds : Option Int
  authoritative : Bool

/-- `detect_recent_vpn_traffic_attempts`. -/
def detectRecentVpnTrafficAttempts (windowSeconds : Option Int) (now : Instant)
    (rows : List CounterRow) : VpnTrafficSignal :=
  let resolvedWindow :=
    match windowSeconds with
    | some w => orDefault w d.trafficWindowSeconds
    | none => d.trafficWindowSeconds
  let samples := rows.filter fun r => (sampleKind d r).isSome
  let observation := buildCurrentObservation d samples
  let lastCollectedAt := samples.head?.map CounterRow.collectedAt
  let latest := samples.filter fun r => some r.collectedAt = lastCollectedAt
  let age := (lastCollectedAt.bind d.parse).map fun t => elapsedSeconds t now
  let stale :=
    match age with
    | none => true
    | some age => decide (max d.trafficWindowSeconds resolvedWindow < age)
  -- the received bytes count only beside sent ones
  let tx := if 0 < observation.authoritativeTxDelta then observation.authoritativeTxDelta else 0
  let rx := if 0 < observation.authoritativeTxDelta then observation.authoritativeRxDelta else 0
  { observed := latest.any CounterRow.active
    responseObserved := decide (0 < rx)
    outboundObserved := decide (0 < tx)
    trafficStalled := decide (0 < tx) && decide (rx ≤ 0)
    pathState := if stale then .idle else observation.pathState
    decisionId := observation.decisionId
    lastCollectedAt
    lastCollectedAgeSeconds := age
    authoritative := !stale }

/-- Every signal with outbound bytes reports a response or a stall, and one without them
neither. -/
lemma outboundObserved_iff (windowSeconds : Option Int) (now : Instant) (rows : List CounterRow) :
    (detectRecentVpnTrafficAttempts d windowSeconds now rows).outboundObserved =
      ((detectRecentVpnTrafficAttempts d windowSeconds now rows).responseObserved ||
        (detectRecentVpnTrafficAttempts d windowSeconds now rows).trafficStalled) := by
  simp only [detectRecentVpnTrafficAttempts]
  generalize buildCurrentObservation d (rows.filter fun r => (sampleKind d r).isSome) = observation
  by_cases htx : 0 < observation.authoritativeTxDelta
  · by_cases hrx : 0 < observation.authoritativeRxDelta
    · simp [htx, hrx]
    · simp [htx, hrx, not_lt.mp hrx]
  · simp [htx]

end FwRouter.Watchdog
