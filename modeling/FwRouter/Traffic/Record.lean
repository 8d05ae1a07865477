import FwRouter.Traffic.Sample

/-!
# Recording traffic samples

`record_traffic_samples`: a batch of samples is read, the subjects and the previous snapshots it
needs are fetched once, and then each sample writes its snapshot row and credits its growth to the
month of its subject.

The tables are `subjects` (the ids that are not deleted), `traffic_counter_snapshots` and
`traffic_monthly`.  The clock enters as the call's `collectedAt` and `periodMonth`; the columns
that only hold `CURRENT_TIMESTAMP` and the log written after the transaction are not modelled.

`recordTrafficSamples_db` says what a call that is no dry run does to the tables: a fold of
`account` over the resolved samples whose subject is live.
-/

namespace FwRouter.Traffic

open Py KeyedTable

/-! ## The tables -/

/-- A row of `traffic_counter_snapshots`, without its key.  The metadata is kept as the dictionary
that is dumped to JSON. -/
structure Snapshot where
  subjectId : Option Text
  path : Path
  rxBytes : Int
  txBytes : Int
  collectedAt : Text
  metadata : Metadata
deriving DecidableEq

def Snapshot.counts (r : Snapshot) : Int × Int := (r.rxBytes, r.txBytes)

/-- The six columns of a row of `traffic_monthly`. -/
structure MonthlyRow where
  directRxBytes : Int := 0
  directTxBytes : Int := 0
  vpnRxBytes : Int := 0
  vpnTxBytes : Int := 0
  blockedRxBytes : Int := 0
  blockedTxBytes : Int := 0
deriving DecidableEq

def MonthlyRow.column (r : MonthlyRow) : Path → Dir → Int
  | .direct, .rx => r.directRxBytes
  | .direct, .tx => r.directTxBytes
  | .vpn, .rx => r.vpnRxBytes
  | .vpn, .tx => r.vpnTxBytes
  | .blocked, .rx => r.blockedRxBytes
  | .blocked, .tx => r.blockedTxBytes

/-- `{rx_column} = {rx_column} + …, {tx_column} = {tx_column} + …` for the columns of the path. -/
def MonthlyRow.credit (path : Path) (rx tx : Int) (r : MonthlyRow) : MonthlyRow :=
  match path with
  | .direct =>
      { r with directRxBytes := r.directRxBytes + rx, directTxBytes := r.directTxBytes + tx }
  | .vpn => { r with vpnRxBytes := r.vpnRxBytes + rx, vpnTxBytes := r.vpnTxBytes + tx }
  | .blocked =>
      { r with blockedRxBytes := r.blockedRxBytes + rx, blockedTxBytes := r.blockedTxBytes + tx }

structure Database where
  subjects : List Text
  snapshots : List (Text × Snapshot)
  monthly : List ((Text × Text) × MonthlyRow)
deriving DecidableEq

/-- What a call of `record_traffic_samples` is given besides its samples: the collector, the two
readings of the clock, and the registry of external connections. -/
structure Collection where
  collector : Text
  collectedAt : Text
  periodMonth : Text
  registry : Text → Option ExternalConnection

/-! ## One sample -/

/-- The dictionary stored with a snapshot. -/
def storedMetadata (call : Collection) (s : TrafficCounterSample) (δ : Delta) : Metadata :=
  let entries : Metadata :=
    [("collector".toList, .text call.collector), ("collected_at".toList, .text call.collectedAt),
      ("delta_kind".toList, .text δ.kind.text), ("rx_delta".toList, .int δ.rx),
      ("tx_delta".toList, .int δ.tx),
      ("activity_observed".toList, .bool (0 < δ.rx ∨ 0 < δ.tx))]
  entries.foldl (fun m e => assign e.1 e.2 m) s.metadata

def snapshotOf (call : Collection) (s : TrafficCounterSample) (δ : Delta) : Snapshot where
  subjectId := some s.subjectId
  path := s.path
  rxBytes := s.rxBytes
  txBytes := s.txBytes
  collectedAt := call.collectedAt
  metadata := storedMetadata call s δ

/-- The two statements of the main loop: the snapshot is replaced, and a growth is credited. -/
def Database.account (call : Collection) (db : Database) (s : TrafficCounterSample) (δ : Delta) :
    Database :=
  let row := snapshotOf call s δ
  { db with
    snapshots := assign s.counterKey row db.snapshots
    monthly :=
      if 0 < δ.rx ∨ 0 < δ.tx then
        upsert (s.subjectId, call.periodMonth) (MonthlyRow.credit s.path δ.rx δ.tx {})
          (MonthlyRow.credit s.path δ.rx δ.tx) db.monthly
      else db.monthly }

/-- Why a sample is passed over without an error. -/
inductive SkipReason where
  | staleDockerCounter (subjectId : Text)
  | staleHostCounter (subjectId : Text)
deriving DecidableEq

def SkipReason.code : SkipReason → Text
  | .staleDockerCounter _ => "STALE_DOCKER_COUNTER".toList
  | .staleHostCounter _ => "STALE_HOST_COUNTER".toList

def SkipReason.message : SkipReason → Text
  | .staleDockerCounter id => "Stale Docker counter skipped: ".toList ++ id
  | .staleHostCounter id => "Stale host counter skipped: ".toList ++ id

/-- A counter named after a subject of the given kind. -/
def isNamedCounterOf (keyPrefix idPrefix : Text) (s : TrafficCounterSample) : Bool :=
  keyPrefix.isPrefixOf s.counterKey && idPrefix.isPrefixOf s.subjectId

/-- `_is_stale_docker_named_counter`. -/
def isStaleDockerNamedCounter : TrafficCounterSample → Bool :=
  isNamedCounterOf "nft:counter:cnt_docker_".toList "docker:".toList

/-- `_is_stale_host_named_counter`. -/
def isStaleHostNamedCounter : TrafficCounterSample → Bool :=
  isNamedCounterOf "nft:counter:cnt_host_".toList "host:".toList

structure Processed where
  counterKey : Text
  subjectId : Text
  path : Path
  rxBytes : Int
  txBytes : Int
  rxDelta : Int
  txDelta : Int
  deltaKind : DeltaKind
  baselineSeeded : Bool
  applied : Bool

structure Skipped where
  counterKey : Text
  subjectId : Text
  path : Path
  reason : SkipReason

/-- An entry of `invalid_samples`: of the first loop, or of the main loop. -/
inductive Invalid where
  | payload (index : Nat) (sample : Payload) (error : SampleError)
  | subject (counterKey subjectId : Text) (path : Path) (error : SampleError)

/-- The variables of the main loop. -/
structure Progress where
  db : Database
  processed : List Processed := []
  skipped : List Skipped := []
  invalid : List Invalid := []
  updatedCount : Nat := 0
  seededCount : Nat := 0
  totalRxDelta : Int := 0
  totalTxDelta : Int := 0

section Loop

variable (U : Unicode) (call : Collection) (dryRun : Bool)
variable (previousByKey : List (Text × Snapshot)) (existing : List Text)

/-- The body of the main loop. -/
def recordStep (g : Progress) (s : TrafficCounterSample) : Progress :=
  if s.subjectId ∉ existing then
    if isStaleDockerNamedCounter s then
      { g with skipped := g.skipped ++
          [⟨s.counterKey, s.subjectId, s.path, .staleDockerCounter s.subjectId⟩] }
    else if isStaleHostNamedCounter s then
      { g with skipped := g.skipped ++
          [⟨s.counterKey, s.subjectId, s.path, .staleHostCounter s.subjectId⟩] }
    else
      { g with invalid := g.invalid ++
          [.subject s.counterKey s.subjectId s.path (.subjectNotFound s.subjectId)] }
  else
    let previous := previousByKey.lookup s.counterKey
    let δ := settledDelta U s (previous.map Snapshot.counts)
    { g with
      db := if dryRun then g.db else g.db.account call s δ
      processed := g.processed ++ [⟨s.counterKey, s.subjectId, s.path, s.rxBytes, s.txBytes,
        δ.rx, δ.tx, δ.kind, previous.isNone, !dryRun⟩]
      updatedCount := if 0 < δ.rx ∨ 0 < δ.tx then g.updatedCount + 1 else g.updatedCount
      seededCount :=
        if previous.isNone ∧ δ.kind = .seededBaseline then g.seededCount + 1 else g.seededCount
      totalRxDelta := g.totalRxDelta + δ.rx
      totalTxDelta := g.totalTxDelta + δ.tx }

/-- What one turn does to the tables. -/
def dbStep (db : Database) (s : TrafficCounterSample) : Database :=
  if s.subjectId ∈ existing then
    db.account call s (settledDelta U s ((previousByKey.lookup s.counterKey).map Snapshot.counts))
  else db

lemma foldl_recordStep_db (samples : List TrafficCounterSample) : ∀ g : Progress,
    (samples.foldl (recordStep U call false previousByKey existing) g).db =
      samples.foldl (dbStep U call previousByKey existing) g.db := by
  induction samples with
  | nil => intro g; rfl
  | cons s rest ih =>
      intro g
      rw [List.foldl_cons, List.foldl_cons, ih]
      congr 1
      rw [recordStep, dbStep]
      split_ifs <;> first | rfl | contradiction

end Loop

/-- Accounting for one sample moves the counts of its own counter only. -/
lemma counts_dbStep {U : Unicode} {call : Collection} {prev : List (Text × Snapshot)}
    {S : List Text} {db : Database} {s : TrafficCounterSample} (k : Text) :
    ((dbStep U call prev S db s).snapshots.lookup k).map Snapshot.counts =
      if s.counterKey = k ∧ s.subjectId ∈ S then some (s.rxBytes, s.txBytes)
      else (db.snapshots.lookup k).map Snapshot.counts := by
  by_cases hS : s.subjectId ∈ S
  · by_cases hk : k = s.counterKey
    · simp [dbStep, hS, hk, Database.account, snapshotOf, Snapshot.counts]
    · simp [dbStep, hS, Ne.symm hk, Database.account, lookup_assign_of_ne hk]
  · simp [dbStep, hS]

/-! ## The whole call -/

def fwrouterPrefix : Text := "fwrouter:".toList

/-- The reading of the payloads: the valid samples, and the refused payloads with their index. -/
def readPayloads (U : Unicode) (call : Collection) (payloads : List Payload) :
    List TrafficCounterSample × List Invalid :=
  let read := payloads.map fun p => (p, readPayload U call.registry call.collector p)
  (read.filterMap fun r => r.2.toOption,
    (read.zipIdx).filterMap fun r =>
      match r.1.2 with
      | .ok _ => none
      | .error e => some (.payload r.2 r.1.1 e))

/-- The `fwrouter:` subjects of a batch that do not exist yet.  Row order is not significant, so
the `sorted` of the source is only a removal of duplicates here. -/
def missingFwrouterSubjectIds (subjects : List Text) (samples : List TrafficCounterSample) :
    List Text :=
  (samples.map TrafficCounterSample.subjectId).dedup.filter fun id =>
    fwrouterPrefix.isPrefixOf id && id ∉ subjects

/-- What the call fetches and fixes before its main loop. -/
structure Opened where
  db : Database
  previousByKey : List (Text × Snapshot)
  samples : List TrafficCounterSample
  existing : List Text

def openBatch (U : Unicode) (dryRun : Bool) (db : Database) (samples : List TrafficCounterSample) :
    Opened :=
  let existing := db.subjects.filter fun id => id ∈ samples.map TrafficCounterSample.subjectId
  let missing := missingFwrouterSubjectIds existing samples
  let opened := if dryRun then db else { db with subjects := db.subjects ++ missing }
  let resolved := resolveCounterSubjectAliases U opened.subjects (existing ++ missing) samples
  ⟨opened, db.snapshots.filter fun r => r.1 ∈ samples.map TrafficCounterSample.counterKey,
    resolved.1, resolved.2⟩

structure RecordResult where
  ok : Bool
  dryRun : Bool
  collector : Text
  collectedAt : Text
  periodMonth : Text
  receivedCount : Nat
  validCount : Nat
  processedCount : Nat
  skippedCount : Nat
  staleCount : Nat
  invalidCount : Nat
  updatedCount : Nat
  seededCount : Nat
  totalRxDelta : Int
  totalTxDelta : Int
  processed : List Processed
  skippedSamples : List Skipped
  invalidSamples : List Invalid

/-- `record_traffic_samples`. -/
def recordTrafficSamples (U : Unicode) (call : Collection) (dryRun : Bool) (db : Database)
    (payloads : List Payload) : Database × RecordResult :=
  let read := readPayloads U call payloads
  let o := openBatch U dryRun db read.1
  let g := o.samples.foldl (recordStep U call dryRun o.previousByKey o.existing)
    { db := o.db, invalid := read.2 }
  (g.db,
    { ok := g.invalid.isEmpty
      dryRun := dryRun
      collector := call.collector
      collectedAt := call.collectedAt
      periodMonth := call.periodMonth
      receivedCount := payloads.length
      validCount := o.samples.length
      processedCount := g.processed.length
      skippedCount := g.skipped.length
      staleCount := g.skipped.length
      invalidCount := g.invalid.length
      updatedCount := g.updatedCount
      seededCount := g.seededCount
      totalRxDelta := g.totalRxDelta
      totalTxDelta := g.totalTxDelta
      processed := g.processed
      skippedSamples := g.skipped
      invalidSamples := g.invalid })

lemma readPayloads_fst (U : Unicode) (call : Collection) (payloads : List Payload) :
    (readPayloads U call payloads).1 =
      payloads.filterMap fun p => (readPayload U call.registry call.collector p).toOption := by
  rw [readPayloads, List.filterMap_map]
  rfl

/-- The live subjects once the batch has created its own. -/
def openSubjects (subjects : List Text) (samples : List TrafficCounterSample) : List Text :=
  subjects ++ missingFwrouterSubjectIds subjects samples

lemma mem_openSubjects {subjects : List Text} {samples : List TrafficCounterSample} {id : Text} :
    id ∈ openSubjects subjects samples ↔
      id ∈ subjects ∨ fwrouterPrefix.isPrefixOf id ∧ ∃ s ∈ samples, s.subjectId = id := by
  simp only [openSubjects, missingFwrouterSubjectIds, List.mem_append, List.mem_filter,
    List.mem_dedup, List.mem_map, Bool.and_eq_true, decide_eq_true_eq]
  tauto

/-- Opening one more sample on top of a batch. -/
lemma mem_openSubjects_concat {subjects opened : List Text} {pre : List TrafficCounterSample}
    {s : TrafficCounterSample} (h : ∀ x, x ∈ opened ↔ x ∈ openSubjects subjects pre) (x : Text) :
    x ∈ openSubjects opened [s] ↔ x ∈ openSubjects subjects (pre ++ [s]) := by
  simp only [mem_openSubjects, h, List.mem_append, List.mem_singleton]
  constructor
  · rintro ((h | ⟨h, r, hr, rfl⟩) | ⟨h, r, hr, rfl⟩)
    · exact Or.inl h
    · exact Or.inr ⟨h, r, Or.inl hr, rfl⟩
    · exact Or.inr ⟨h, r, Or.inr hr, rfl⟩
  · rintro (h | ⟨h, r, hr | hr, rfl⟩)
    · exact Or.inl (Or.inl h)
    · exact Or.inl (Or.inr ⟨h, r, hr, rfl⟩)
    · exact Or.inr ⟨h, r, hr, rfl⟩

/-- Looking at the fetched ids or at all of them makes no difference to what is missing. -/
lemma missingFwrouterSubjectIds_filter (subjects : List Text)
    (samples : List TrafficCounterSample) :
    missingFwrouterSubjectIds
        (subjects.filter fun id => id ∈ samples.map TrafficCounterSample.subjectId) samples =
      missingFwrouterSubjectIds subjects samples := by
  refine List.filter_congr fun id hid => ?_
  rw [List.mem_dedup] at hid
  simp only [List.mem_filter, hid, decide_true, and_true]

/-- The effect of opening a batch that is no dry run. -/
lemma openBatch_eq (U : Unicode) (db : Database) (samples : List TrafficCounterSample) :
    let S := openSubjects db.subjects samples
    let o := openBatch U false db samples
    o.db = { db with subjects := S } ∧ o.samples = samples.map (resolveOne U S) ∧
      ∀ s ∈ samples, ((resolveOne U S s).subjectId ∈ o.existing ↔
          (resolveOne U S s).subjectId ∈ S) ∧
        o.previousByKey.lookup s.counterKey = db.snapshots.lookup s.counterKey := by
  intro S o
  have hmissing := missingFwrouterSubjectIds_filter db.subjects samples
  have hdb : o.db = { db with subjects := S } := by
    simp only [o, S, openBatch, openSubjects, hmissing, Bool.false_eq_true, if_false]
  let known := db.subjects.filter (fun id => id ∈ samples.map TrafficCounterSample.subjectId) ++
    missingFwrouterSubjectIds db.subjects samples
  have hsub : ∀ id ∈ known, id ∈ S := by
    intro id hid
    rcases List.mem_append.mp hid with h | h
    · exact List.mem_append_left _ (List.mem_filter.mp h).1
    · exact List.mem_append_right _ h
  have hknown : ∀ s ∈ samples, s.subjectId ∈ S → s.subjectId ∈ known := by
    intro s hs hS
    rcases List.mem_append.mp hS with h | h
    · exact List.mem_append_left _
        (List.mem_filter.mpr ⟨h, decide_eq_true (List.mem_map_of_mem hs)⟩)
    · exact List.mem_append_right _ h
  have hres := resolveCounterSubjectAliases_eq (U := U) hsub hknown
  refine ⟨hdb, ?_, fun s hs => ⟨?_, ?_⟩⟩
  · rw [← hres.1]
    simp only [o, S, known, openBatch, openSubjects, hmissing, Bool.false_eq_true, if_false]
  · rw [← hres.2 s hs]
    simp only [o, S, known, openBatch, openSubjects, hmissing, Bool.false_eq_true, if_false]
  · have hkey : decide (s.counterKey ∈ samples.map TrafficCounterSample.counterKey) = true :=
      decide_eq_true (List.mem_map_of_mem hs)
    exact lookup_filter (p := fun k => k ∈ samples.map TrafficCounterSample.counterKey) hkey _

/-- **What a call does to the tables.**  The `fwrouter:` subjects of the batch are created, and
then every sample whose resolved subject is live is accounted for against the snapshot that was
stored before the call. -/
theorem recordTrafficSamples_db (U : Unicode) (call : Collection) (db : Database)
    (payloads : List Payload) :
    (recordTrafficSamples U call false db payloads).1 =
      ((readPayloads U call payloads).1.map
          (resolveOne U (openSubjects db.subjects (readPayloads U call payloads).1))).foldl
        (dbStep U call db.snapshots (openSubjects db.subjects (readPayloads U call payloads).1))
        { db with subjects := openSubjects db.subjects (readPayloads U call payloads).1 } := by
  obtain ⟨hdb, hsamples, hmem⟩ := openBatch_eq U db (readPayloads U call payloads).1
  rw [recordTrafficSamples]
  dsimp only
  rw [foldl_recordStep_db, hdb, hsamples]
  refine List.foldl_ext _ _ _ ?_
  intro d r hr
  obtain ⟨s, hs, rfl⟩ := List.mem_map.mp hr
  obtain ⟨hlive, hprev⟩ := hmem s hs
  simp only [dbStep, hlive, resolveOne_counterKey, hprev]

end FwRouter.Traffic
