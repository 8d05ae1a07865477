import FwRouter.Python.Text
import FwRouter.Library.KeyedTable

/-!
# Traffic samples

How `traffic.py` reads one counter sample: `_normalize_sample` with the automatic mapping of
named nft counters, `_bind_external_connection_metadata`, and the search of a subject whose
printed name was folded into a counter name (`_resolve_counter_subject_aliases`).

Byte counts are unbounded integers, as in Python; the 64-bit limit of an SQLite column is not
modelled.  `get_external_connection`, which decodes a row of another table, is the parameter
`registry`: nothing below depends on what it returns.
-/

namespace FwRouter.Traffic

open Py KeyedTable

/-! ## Values and metadata -/

/-- A JSON value as the accounting sees it.  Of a number that is no integer, of a list and of an
object it only asks whether it is truthy and how `str` prints it. -/
inductive Value where
  | null
  | bool (b : Bool)
  | int (n : Int)
  | text (t : Text)
  | other (truthy : Bool) (str : Text)
deriving DecidableEq

/-- `str(value or "")`. -/
def Value.strOrEmpty : Value → Text
  | .null => []
  | .bool b => if b then "True".toList else []
  | .int n => if n = 0 then [] else if n < 0 then '-' :: dec n.natAbs else dec n.natAbs
  | .text t => t
  | .other truthy str => if truthy then str else []

/-- A `dict[str, Any]`, in insertion order. -/
abbrev Metadata := List (Text × Value)

/-- `str(metadata.get(key) or "")`. -/
def Metadata.str (m : Metadata) (key : Text) : Text := ((m.lookup key).getD .null).strOrEmpty

/-- The `metadata` entry of a payload. -/
inductive PayloadMetadata where
  | absent
  | dict (m : Metadata)
  | value (v : Value)

/-- One submitted sample.  The texts are `str(payload.get(…) or "")`; a byte count is
`int(payload.get(…) or 0)`, `none` when that raises. -/
structure Payload where
  counterKey : Text
  subjectId : Text
  path : Text
  rxBytes : Option Int
  txBytes : Option Int
  metadata : PayloadMetadata

/-- `TRAFFIC_PATHS`. -/
inductive Path where
  | direct
  | vpn
  | blocked
deriving DecidableEq, Repr

def Path.ofText (t : Text) : Option Path :=
  if t = "direct".toList then some .direct
  else if t = "vpn".toList then some .vpn
  else if t = "blocked".toList then some .blocked
  else none

/-- The two directions a counter is read in. -/
inductive Dir where
  | rx
  | tx
deriving DecidableEq, Repr

/-- `TrafficCounterSample`.  A sample is only built from counts that passed the sign check. -/
structure TrafficCounterSample where
  counterKey : Text
  subjectId : Text
  path : Path
  rxBytes : Int
  txBytes : Int
  metadata : Metadata
  rx_nonneg : 0 ≤ rxBytes
  tx_nonneg : 0 ≤ txBytes
deriving DecidableEq

def TrafficCounterSample.bytes (s : TrafficCounterSample) : Dir → Int
  | .rx => s.rxBytes
  | .tx => s.txBytes

lemma TrafficCounterSample.bytes_nonneg (s : TrafficCounterSample) : ∀ d, 0 ≤ s.bytes d
  | .rx => s.rx_nonneg
  | .tx => s.tx_nonneg

/-- Why a sample is refused. -/
inductive SampleError where
  | counterKeyRequired
  | subjectIdRequired
  | pathInvalid
  | bytesInvalid
  | bytesNegative
  | externalSystemNotRegistered (connectionId : Text)
  | externalSystemTrafficUnsupported
  | subjectNotFound (subjectId : Text)
deriving DecidableEq

def SampleError.code : SampleError → Text
  | .counterKeyRequired => "COUNTER_KEY_REQUIRED".toList
  | .subjectIdRequired => "SUBJECT_ID_REQUIRED".toList
  | .pathInvalid => "TRAFFIC_PATH_INVALID".toList
  | .bytesInvalid => "TRAFFIC_BYTES_INVALID".toList
  | .bytesNegative => "TRAFFIC_BYTES_NEGATIVE".toList
  | .externalSystemNotRegistered _ => "EXTERNAL_SYSTEM_NOT_REGISTERED".toList
  | .externalSystemTrafficUnsupported => "EXTERNAL_SYSTEM_TRAFFIC_UNSUPPORTED".toList
  | .subjectNotFound _ => "SUBJECT_NOT_FOUND".toList

def SampleError.message : SampleError → Text
  | .counterKeyRequired => "counter_key is required.".toList
  | .subjectIdRequired => "subject_id is required.".toList
  | .pathInvalid => "path must be one of: blocked, direct, vpn.".toList
  | .bytesInvalid => "rx_bytes and tx_bytes must be integers.".toList
  | .bytesNegative => "rx_bytes and tx_bytes must be non-negative.".toList
  | .externalSystemNotRegistered connectionId =>
      "External connection is not registered: ".toList ++ connectionId ++ ".".toList
  | .externalSystemTrafficUnsupported =>
      ("external_management connections may call management API, " ++
        "but must not submit traffic accounting samples.").toList
  | .subjectNotFound subjectId => "Subject not found: ".toList ++ subjectId

/-! ## Named nft counters -/

/-- `t[len(p):]` when `t.startswith(p)`. -/
def cutPrefix (p t : Text) : Option Text := if p.isPrefixOf t then some (t.drop p.length) else none

/-- `t[:-len(s)]` when `t.endswith(s)`. -/
def cutSuffix (s t : Text) : Option Text :=
  if s.isSuffixOf t then some (t.take (t.length - s.length)) else none

def nftCounterPrefix : Text := "nft:counter:cnt_".toList

/-- The name without its direction suffix, and whether that was `_tx`. -/
def cutDirection (name : Text) : Text × Bool :=
  match cutSuffix "_rx".toList name with
  | some n => (n, false)
  | none =>
      match cutSuffix "_tx".toList name with
      | some n => (n, true)
      | none => (name, false)

/-- The name without its path suffix, and the path that suffix names. -/
def cutPath (name : Text) : Text × Option Text :=
  match cutSuffix "_direct".toList name with
  | some n => (n, some "direct".toList)
  | none =>
      match cutSuffix "_vpn".toList name with
      | some n => (n, some "vpn".toList)
      | none =>
          match cutSuffix "_blocked".toList name with
          | some n => (n, some "blocked".toList)
          | none => (name, none)

/-- The name prefixes the mapping tries, in order, with the subject prefix each one stands for. -/
def counterNamePrefixes : List (Text × Text) :=
  [("lan_".toList, "lan:".toList), ("host_".toList, "host:".toList),
    ("tailscale_".toList, "tailscale-node:".toList), ("docker_".toList, "docker:".toList),
    ("xray_".toList, "xray:".toList), ("fwrouter_".toList, "fwrouter:".toList)]

/-- The guess of one prefix, when the name has it. -/
def guessFrom (name : Text) (e : Text × Text) : Option Text :=
  (cutPrefix e.1 name).map fun remainder =>
    -- only the tailscale names carry a second marker
    let remainder :=
      if e.1 = "tailscale_".toList then (cutPrefix "node_".toList remainder).getD remainder
      else remainder
    e.2 ++ replaceChar '_' '-' remainder

/-- The subject a counter name is guessed to belong to. -/
def subjectOfCounterName (name : Text) : Text :=
  (counterNamePrefixes.findSome? (guessFrom name)).getD (replaceChar '_' ':' name)

/-- What the automatic mapping makes of the subject and the path of a payload. -/
structure Mapped where
  subjectId : Text
  path : Text
  isNftTx : Bool

def autoMap (counterKey subjectId path : Text) : Mapped :=
  if subjectId ≠ [] ∧ (Path.ofText path).isSome then ⟨subjectId, path, false⟩
  else
    match cutPrefix nftCounterPrefix counterKey with
    | some name =>
        let (name, isNftTx) := cutDirection name
        let (name, namedPath) := cutPath name
        let path := namedPath.getD (if (Path.ofText path).isSome then path else "direct".toList)
        ⟨if subjectId = [] then subjectOfCounterName name else subjectId, path, isNftTx⟩
    | none =>
        if counterKey = "mihomo:global".toList then
          ⟨if subjectId = [] then "fwrouter:global".toList else subjectId,
            if (Path.ofText path).isSome then path else "vpn".toList, false⟩
        else ⟨subjectId, path, false⟩

def PayloadMetadata.toDict : PayloadMetadata → Metadata
  | .absent => []
  | .dict m => m
  | .value v => [("value".toList, v)]

/-- The checks of `_normalize_sample`, after the mapping. -/
def checkSample (p : Payload) (counterKey : Text) (mapped : Mapped) :
    Except SampleError TrafficCounterSample :=
  if counterKey = [] then .error .counterKeyRequired
  else if mapped.subjectId = [] then .error .subjectIdRequired
  else
    match Path.ofText mapped.path with
    | none => .error .pathInvalid
    | some path =>
        match p.rxBytes, p.txBytes with
        | some rx, some tx =>
            -- an nft counter counts one direction, reported in `rx_bytes`
            let (rx, tx) := if mapped.isNftTx then (0, rx) else (rx, tx)
            if h : 0 ≤ rx ∧ 0 ≤ tx then
              .ok ⟨counterKey, mapped.subjectId, path, rx, tx, p.metadata.toDict, h.1, h.2⟩
            else .error .bytesNegative
        | _, _ => .error .bytesInvalid

/-- `_normalize_sample`. -/
def normalizeSample (U : Unicode) (p : Payload) : Except SampleError TrafficCounterSample :=
  checkSample p (strip p.counterKey)
    (autoMap (strip p.counterKey) (strip p.subjectId) (U.lower (strip p.path)))

/-! ## External connections -/

/-- The columns of a registered connection that the accounting copies. -/
structure ExternalConnection where
  connectionId : Text
  systemId : Text
  label : Text
  connectionType : Text
  runtimeType : Text
  location : Text

/-- `_external_connection_id_from_collector`. -/
def externalConnectionIdFromCollector (U : Unicode) (collector : Text) : Option Text :=
  let normalized := U.lower (strip collector)
  let candidate := ["external_connection:".toList, "external_client:".toList].findSome? fun pre =>
    (cutPrefix pre normalized).map strip
  candidate.filter fun c => c ≠ []

def orElse (t fallback : Text) : Text := if t = [] then fallback else t

/-- `_bind_external_connection_metadata`.  A reference that was not given explicitly never
reaches the registry, so its `explicit_reference` test always succeeds there. -/
def bindExternalConnectionMetadata (U : Unicode) (registry : Text → Option ExternalConnection)
    (collector : Text) (sample : TrafficCounterSample) :
    Except SampleError TrafficCounterSample :=
  let own := strip (sample.metadata.str "connection_id".toList)
  let reference :=
    if own ≠ [] then own else (externalConnectionIdFromCollector U collector).getD []
  if reference = [] then .ok sample
  else
    match registry reference with
    | none => .error (.externalSystemNotRegistered reference)
    | some system =>
        let connectionType := U.lower (strip system.connectionType)
        if connectionType = "external_management".toList then
          .error .externalSystemTrafficUnsupported
        else
          let entries : Metadata :=
            [("connection_id".toList, .text system.connectionId),
              ("external_system_id".toList, .text system.connectionId),
              ("external_display_system_id".toList,
                .text (orElse system.systemId system.connectionId)),
              ("external_system_label".toList, .text (orElse system.label system.connectionId)),
              ("connection_type".toList, .text connectionType),
              ("external_runtime_type".toList, .text system.runtimeType),
              ("external_connection_location".toList, .text system.location)]
          .ok { sample with
            metadata := entries.foldl (fun m e => assign e.1 e.2 m) sample.metadata }

/-- The first loop of `record_traffic_samples`: a payload is normalised, then bound. -/
def readPayload (U : Unicode) (registry : Text → Option ExternalConnection) (collector : Text)
    (p : Payload) : Except SampleError TrafficCounterSample :=
  (normalizeSample U p).bind (bindExternalConnectionMetadata U registry collector)

/-! ## Subject aliases -/

/-- `_counter_subject_suffix`. -/
def counterSubjectSuffix (U : Unicode) (value : Text) : Text :=
  stripBy (· == '_') (value.flatMap fun c => if U.isAlnum c then U.lower [c] else ['_'])

/-- The table `subject_by_suffix`: a suffix that two subjects share maps to `none`. -/
def subjectBySuffix (U : Unicode) (subjects : List Text) : List (Text × Option Text) :=
  subjects.foldl (fun t id =>
    upsert (counterSubjectSuffix U id) (some id)
      (fun old => if old ≠ some id then none else some id) t) []

/-- `subject_by_suffix.get(_counter_subject_suffix(subject_id))`. -/
def aliasOf (U : Unicode) (subjects : List Text) (subjectId : Text) : Option Text :=
  ((subjectBySuffix U subjects).lookup (counterSubjectSuffix U subjectId)).join

def TrafficCounterSample.isNftCounter (s : TrafficCounterSample) : Bool :=
  nftCounterPrefix.isPrefixOf s.counterKey

/-- The sample moved to the subject `id`. -/
def TrafficCounterSample.resolvedTo (s : TrafficCounterSample) (id : Text) :
    TrafficCounterSample :=
  { s with
    subjectId := id
    metadata := setdefault "resolved_from_subject_id".toList (.text s.subjectId) s.metadata }

/-- The loop of `_resolve_counter_subject_aliases`; it returns the samples and the grown set of
existing ids. -/
def resolveLoop (U : Unicode) (subjects : List Text) :
    List Text → List TrafficCounterSample → List TrafficCounterSample × List Text
  | existing, [] => ([], existing)
  | existing, s :: rest =>
      if s.subjectId ∈ existing ∨ ¬s.isNftCounter then
        let (resolved, existing) := resolveLoop U subjects existing rest
        (s :: resolved, existing)
      else
        match aliasOf U subjects s.subjectId with
        | none =>
            let (resolved, existing) := resolveLoop U subjects existing rest
            (s :: resolved, existing)
        | some id =>
            let (resolved, existing) := resolveLoop U subjects (existing ++ [id]) rest
            (s.resolvedTo id :: resolved, existing)

/-- `_resolve_counter_subject_aliases`. -/
def resolveCounterSubjectAliases (U : Unicode) (subjects existing : List Text)
    (samples : List TrafficCounterSample) : List TrafficCounterSample × List Text :=
  let missing := samples.filter fun s => s.subjectId ∉ existing ∧ s.isNftCounter
  if missing.isEmpty then (samples, existing) else resolveLoop U subjects existing samples

/-- What the alias search does to one sample, told by the live subjects alone. -/
def resolveOne (U : Unicode) (subjects : List Text) (s : TrafficCounterSample) :
    TrafficCounterSample :=
  if s.subjectId ∈ subjects ∨ ¬s.isNftCounter then s
  else ((aliasOf U subjects s.subjectId).map s.resolvedTo).getD s

/-- One more subject: its suffix is taken by it, or no longer decides. -/
lemma lookup_subjectBySuffix_append (U : Unicode) (k : Text) (l : List Text) (a : Text) :
    (subjectBySuffix U (l ++ [a])).lookup k =
      if k = counterSubjectSuffix U a then
        some (((subjectBySuffix U l).lookup (counterSubjectSuffix U a)).elim (some a)
          fun old => if old ≠ some a then none else some a)
      else (subjectBySuffix U l).lookup k := by
  simp only [subjectBySuffix, List.foldl_append, List.foldl_cons, List.foldl_nil]
  exact lookup_upsert (counterSubjectSuffix U a) k (some a) _ _

/-- After the whole scan a suffix nobody has is absent. -/
lemma lookup_subjectBySuffix_eq_none (U : Unicode) (k : Text) (l : List Text) :
    (subjectBySuffix U l).lookup k = none ↔ ∀ j ∈ l, counterSubjectSuffix U j ≠ k := by
  induction l using List.reverseRecOn with
  | nil => simp [subjectBySuffix]
  | append_singleton l a ih =>
      rw [lookup_subjectBySuffix_append]
      by_cases hk : k = counterSubjectSuffix U a
      · simp [hk]
      · have hak : counterSubjectSuffix U a ≠ k := fun h => hk h.symm
        rw [if_neg hk, ih]
        simp [or_imp, forall_and, hak]

/-- `id` is the only one of the subjects with the suffix `k`. -/
def OnlyWithSuffix (U : Unicode) (k id : Text) (l : List Text) : Prop :=
  (id ∈ l ∧ counterSubjectSuffix U id = k) ∧ ∀ j ∈ l, counterSubjectSuffix U j = k → j = id

/-- A last subject with another suffix changes nothing. -/
lemma onlyWithSuffix_append_of_ne {U : Unicode} {k id a : Text} {l : List Text}
    (hak : counterSubjectSuffix U a ≠ k) :
    OnlyWithSuffix U k id (l ++ [a]) ↔ OnlyWithSuffix U k id l := by
  constructor
  · rintro ⟨⟨hmem, hs⟩, huniq⟩
    refine ⟨⟨?_, hs⟩, fun j hj hjk => huniq j (List.mem_append_left _ hj) hjk⟩
    rcases List.mem_append.mp hmem with h | h
    · exact h
    · exact absurd (by rwa [List.mem_singleton.mp h] at hs) hak
  · rintro ⟨⟨hmem, hs⟩, huniq⟩
    refine ⟨⟨List.mem_append_left _ hmem, hs⟩, fun j hj hjk => ?_⟩
    rcases List.mem_append.mp hj with hj | hj
    · exact huniq j hj hjk
    · exact absurd (by rwa [List.mem_singleton.mp hj] at hjk) hak

/-- A last subject with the suffix is the only one if it is the only one before, or nobody is. -/
lemma onlyWithSuffix_append_of_eq {U : Unicode} {k id a : Text} {l : List Text}
    (hak : counterSubjectSuffix U a = k) : OnlyWithSuffix U k id (l ++ [a]) ↔
      a = id ∧ ∀ j ∈ l, counterSubjectSuffix U j = k → j = id := by
  constructor
  · rintro ⟨-, huniq⟩
    exact ⟨huniq a (List.mem_append_right _ List.mem_cons_self) hak,
      fun j hj hjk => huniq j (List.mem_append_left _ hj) hjk⟩
  · rintro ⟨rfl, huniq⟩
    refine ⟨⟨List.mem_append_right _ List.mem_cons_self, hak⟩, fun j hj hjk => ?_⟩
    rcases List.mem_append.mp hj with hj | hj
    · exact huniq j hj hjk
    · exact List.mem_singleton.mp hj

/-- After the whole scan a suffix maps to the one subject that has it. -/
lemma lookup_subjectBySuffix (U : Unicode) (k id : Text) (l : List Text) :
    (subjectBySuffix U l).lookup k = some (some id) ↔ OnlyWithSuffix U k id l := by
  induction l using List.reverseRecOn generalizing id with
  | nil => simp [subjectBySuffix, OnlyWithSuffix]
  | append_singleton l a ih =>
      rw [lookup_subjectBySuffix_append]
      by_cases hk : k = counterSubjectSuffix U a
      · rw [if_pos hk, ← hk, onlyWithSuffix_append_of_eq hk.symm]
        cases hl : (subjectBySuffix U l).lookup k with
        | none =>
            have hnone := (lookup_subjectBySuffix_eq_none U k l).mp hl
            simp only [Option.elim_none, Option.some.injEq, iff_self_and]
            exact fun _ j hj hjk => absurd hjk (hnone j hj)
        | some old =>
            simp only [Option.elim_some, Option.some.injEq]
            constructor
            · intro h
              split_ifs at h with hold
              obtain rfl : a = id := Option.some.inj h
              rw [not_not] at hold
              exact ⟨rfl, ((ih a).mp (hl.trans (by rw [hold]))).2⟩
            · rintro ⟨rfl, huniq⟩
              -- someone has the suffix already, and it is `a`
              have hex : ∃ j ∈ l, counterSubjectSuffix U j = k := by
                by_contra h
                push Not at h
                rw [(lookup_subjectBySuffix_eq_none U k l).mpr h] at hl
                cases hl
              obtain ⟨j, hj, hjk⟩ := hex
              obtain rfl : j = a := huniq j hj hjk
              have hold := (ih j).mpr ⟨⟨hj, hjk⟩, huniq⟩
              rw [hl, Option.some.injEq] at hold
              simp [hold]
      · rw [if_neg hk, ih id, onlyWithSuffix_append_of_ne fun h => hk h.symm]

/-- The alias of an id is the only live subject with the same suffix. -/
lemma aliasOf_eq_some_iff {U : Unicode} {subjects : List Text} {x id : Text} :
    aliasOf U subjects x = some id ↔
      (id ∈ subjects ∧ counterSubjectSuffix U id = counterSubjectSuffix U x) ∧
        ∀ j ∈ subjects, counterSubjectSuffix U j = counterSubjectSuffix U x → j = id := by
  rw [aliasOf, Option.join_eq_some_iff]
  exact lookup_subjectBySuffix U _ id subjects

/-- The order of the `subjects` rows does not matter to the search. -/
lemma aliasOf_congr {U : Unicode} {l l' : List Text} (h : ∀ x, x ∈ l ↔ x ∈ l') (x : Text) :
    aliasOf U l x = aliasOf U l' x := by
  ext id
  simp only [aliasOf_eq_some_iff, h]

lemma resolveOne_congr {U : Unicode} {l l' : List Text} (h : ∀ x, x ∈ l ↔ x ∈ l')
    (s : TrafficCounterSample) : resolveOne U l s = resolveOne U l' s := by
  simp only [resolveOne, h, aliasOf_congr h]

/-- The loop resolves each sample by itself: the set it threads through only ever holds live
subjects, and at the end it holds every live subject a sample was resolved to. -/
lemma resolveLoop_eq {U : Unicode} {subjects : List Text} :
    ∀ {samples : List TrafficCounterSample} {existing : List Text},
      (∀ id ∈ existing, id ∈ subjects) →
      (∀ s ∈ samples, s.subjectId ∈ subjects → s.subjectId ∈ existing) →
      (resolveLoop U subjects existing samples).1 = samples.map (resolveOne U subjects) ∧
      (∀ id ∈ (resolveLoop U subjects existing samples).2, id ∈ subjects) ∧
      (∀ id ∈ existing, id ∈ (resolveLoop U subjects existing samples).2) ∧
      ∀ s ∈ samples, (resolveOne U subjects s).subjectId ∈ subjects →
        (resolveOne U subjects s).subjectId ∈ (resolveLoop U subjects existing samples).2 := by
  intro samples
  induction samples with
  | nil =>
      intro existing hsub _
      exact ⟨rfl, hsub, fun _ h => h, by simp⟩
  | cons s rest ih =>
      intro existing hsub hmem
      have hs : s.subjectId ∈ existing ↔ s.subjectId ∈ subjects :=
        ⟨hsub _, hmem s (by simp)⟩
      have hrest : ∀ t ∈ rest, t.subjectId ∈ subjects → t.subjectId ∈ existing :=
        fun t ht => hmem t (List.mem_cons_of_mem _ ht)
      by_cases hkeep : s.subjectId ∈ existing ∨ ¬s.isNftCounter
      · obtain ⟨h1, h2, h3, h4⟩ := ih hsub hrest
        have hone : resolveOne U subjects s = s := by
          rw [resolveOne, if_pos (by rwa [hs] at hkeep)]
        simp only [resolveLoop, if_pos hkeep, List.map_cons, hone, h1, true_and]
        refine ⟨h2, h3, ?_⟩
        rintro t ht
        rcases List.mem_cons.mp ht with rfl | ht
        · rw [hone]
          exact fun h => h3 _ (hs.mpr h)
        · exact h4 t ht
      · have hkeep' : ¬(s.subjectId ∈ subjects ∨ ¬s.isNftCounter) := by rwa [hs] at hkeep
        cases halias : aliasOf U subjects s.subjectId with
        | none =>
            obtain ⟨h1, h2, h3, h4⟩ := ih hsub hrest
            have hone : resolveOne U subjects s = s := by
              rw [resolveOne, if_neg hkeep', halias]
              rfl
            simp only [resolveLoop, if_neg hkeep, halias, List.map_cons, hone, h1, true_and]
            refine ⟨h2, h3, ?_⟩
            rintro t ht
            rcases List.mem_cons.mp ht with rfl | ht
            · rw [hone]
              exact fun h => h3 _ (hs.mpr h)
            · exact h4 t ht
        | some id =>
            have hid : id ∈ subjects := (aliasOf_eq_some_iff.mp halias).1.1
            have hone : resolveOne U subjects s = s.resolvedTo id := by
              rw [resolveOne, if_neg hkeep', halias]
              rfl
            have hsub' : ∀ j ∈ existing ++ [id], j ∈ subjects := by
              intro j hj
              rcases List.mem_append.mp hj with hj | hj
              · exact hsub j hj
              · exact List.mem_singleton.mp hj ▸ hid
            obtain ⟨h1, h2, h3, h4⟩ := ih hsub' fun t ht h =>
              List.mem_append_left _ (hrest t ht h)
            simp only [resolveLoop, if_neg hkeep, halias, List.map_cons, hone, h1, true_and]
            refine ⟨h2, fun j hj => h3 j (List.mem_append_left _ hj), ?_⟩
            rintro t ht
            rcases List.mem_cons.mp ht with rfl | ht
            · rw [hone]
              exact fun _ => h3 id (by simp)
            · exact h4 t ht

/-- **The alias search, sample by sample.**  With the existing ids of the samples' own subjects at
hand, `_resolve_counter_subject_aliases` maps `resolveOne` over the samples, and afterwards a
resolved sample's subject is in the set exactly when it is a live subject. -/
lemma resolveCounterSubjectAliases_eq {U : Unicode} {subjects existing : List Text}
    {samples : List TrafficCounterSample} (hsub : ∀ id ∈ existing, id ∈ subjects)
    (hmem : ∀ s ∈ samples, s.subjectId ∈ subjects → s.subjectId ∈ existing) :
    (resolveCounterSubjectAliases U subjects existing samples).1 =
        samples.map (resolveOne U subjects) ∧
      ∀ s ∈ samples, ((resolveOne U subjects s).subjectId ∈
        (resolveCounterSubjectAliases U subjects existing samples).2 ↔
          (resolveOne U subjects s).subjectId ∈ subjects) := by
  rw [resolveCounterSubjectAliases]
  split_ifs with hnone
  · -- no sample has an unknown nft subject, so each is left as it is
    have hone : ∀ s ∈ samples, resolveOne U subjects s = s := by
      intro s hs
      have := List.isEmpty_iff.mp hnone
      rw [List.filter_eq_nil_iff] at this
      have := this s hs
      simp only [decide_eq_true_eq, not_and_or, not_not] at this
      rw [resolveOne, if_pos]
      rcases this with h | h
      · exact Or.inl (hsub _ h)
      · exact Or.inr h
    refine ⟨?_, fun s hs => ?_⟩
    · rw [List.map_congr_left hone, List.map_id']
    · rw [hone s hs]
      exact ⟨hsub _, hmem s hs⟩
  · obtain ⟨h1, h2, -, h4⟩ := resolveLoop_eq (U := U) hsub hmem
    exact ⟨h1, fun s hs => ⟨h2 _, h4 s hs⟩⟩

/-! ## Deltas -/

/-- `_is_xray_stats_sample`. -/
def isXrayStatsSample (U : Unicode) (s : TrafficCounterSample) : Bool :=
  "xray:subject:".toList.isPrefixOf s.counterKey ||
    U.lower (strip (s.metadata.str "source".toList)) = "xray_api".toList

/-- What happened between two readings of one counter. -/
inductive DeltaKind where
  | seededBaseline
  | counterReset
  | delta
  | initialXrayActivity
deriving DecidableEq

def DeltaKind.text : DeltaKind → Text
  | .seededBaseline => "seeded_baseline".toList
  | .counterReset => "counter_reset".toList
  | .delta => "delta".toList
  | .initialXrayActivity => "initial_xray_activity".toList

/-- The growth of one direction: a counter that went down was reset and has counted its whole
present value since. -/
def directionDelta (current previous : Int) : Int :=
  if previous ≤ current then current - previous else current

/-- Two byte counts that a sample is credited with, and why. -/
structure Delta where
  rx : Int
  tx : Int
  kind : DeltaKind
deriving DecidableEq

def Delta.bytes (δ : Delta) : Dir → Int
  | .rx => δ.rx
  | .tx => δ.tx

/-- The count a pair `(rx, tx)` holds for a direction. -/
def countOf (counts : Int × Int) : Dir → Int
  | .rx => counts.1
  | .tx => counts.2

/-- `_delta_from_previous`; the previous snapshot enters by its two counts. -/
def deltaFromPrevious (s : TrafficCounterSample) : Option (Int × Int) → Delta
  | none => ⟨0, 0, .seededBaseline⟩
  | some (prevRx, prevTx) =>
      ⟨directionDelta s.rxBytes prevRx, directionDelta s.txBytes prevTx,
        if s.rxBytes < prevRx ∨ s.txBytes < prevTx then .counterReset else .delta⟩

/-- The delta the main loop settles on: xray statistics start from zero, so their first reading
is traffic. -/
def settledDelta (U : Unicode) (s : TrafficCounterSample) (previous : Option (Int × Int)) : Delta :=
  if previous = none ∧ isXrayStatsSample U s ∧ (0 < s.rxBytes ∨ 0 < s.txBytes) then
    ⟨s.rxBytes, s.txBytes, .initialXrayActivity⟩
  else deltaFromPrevious s previous

lemma directionDelta_nonneg {current : Int} (h : 0 ≤ current) (previous : Int) :
    0 ≤ directionDelta current previous := by
  rw [directionDelta]
  split_ifs <;> omega

lemma settledDelta_bytes (U : Unicode) (s : TrafficCounterSample) (d : Dir) :
    ∀ previous : Option (Int × Int), (settledDelta U s previous).bytes d =
      match previous with
      | none => if isXrayStatsSample U s then s.bytes d else 0
      | some counts => directionDelta (s.bytes d) (countOf counts d)
  | some counts => by cases d <;> rfl
  | none => by
      have hrx := s.rx_nonneg
      have htx := s.tx_nonneg
      rw [settledDelta]
      split_ifs with h h' h'
      · cases d <;> rfl
      · exact absurd h.2.1 h'
      · -- an xray sample without traffic: its counts are zero
        have hzero : s.rxBytes = 0 ∧ s.txBytes = 0 := by
          simp only [true_and, h', not_or] at h
          omega
        cases d <;> simp [deltaFromPrevious, Delta.bytes, TrafficCounterSample.bytes, hzero]
      · cases d <;> rfl

lemma settledDelta_nonneg (U : Unicode) (s : TrafficCounterSample) (previous : Option (Int × Int))
    (d : Dir) : 0 ≤ (settledDelta U s previous).bytes d := by
  have hs := s.bytes_nonneg d
  rw [settledDelta_bytes]
  rcases previous with _ | ⟨prevRx, prevTx⟩
  · dsimp only
    split_ifs
    · exact hs
    · exact le_rfl
  · exact directionDelta_nonneg hs _

/-- Moving a sample to its alias changes neither its counts nor whether it is an xray statistic:
the entry it adds is not the one that is read. -/
lemma isXrayStatsSample_resolveOne (U : Unicode) (subjects : List Text)
    (s : TrafficCounterSample) :
    isXrayStatsSample U (resolveOne U subjects s) = isXrayStatsSample U s := by
  have hkey : ("source".toList : Text) ≠ "resolved_from_subject_id".toList := by decide
  have hto : ∀ id, isXrayStatsSample U (s.resolvedTo id) = isXrayStatsSample U s := by
    intro id
    have hsource : (s.resolvedTo id).metadata.str "source".toList =
        s.metadata.str "source".toList := by
      simp only [Metadata.str, TrafficCounterSample.resolvedTo, lookup_setdefault_of_ne hkey]
    rw [isXrayStatsSample, hsource]
    rfl
  rw [resolveOne]
  split_ifs
  · rfl
  · cases aliasOf U subjects s.subjectId with
    | none => rfl
    | some id => exact hto id

@[simp] lemma resolveOne_counterKey (U : Unicode) (subjects : List Text)
    (s : TrafficCounterSample) : (resolveOne U subjects s).counterKey = s.counterKey := by
  rw [resolveOne]
  split_ifs
  · rfl
  · cases aliasOf U subjects s.subjectId <;> rfl

@[simp] lemma resolveOne_path (U : Unicode) (subjects : List Text)
    (s : TrafficCounterSample) : (resolveOne U subjects s).path = s.path := by
  rw [resolveOne]
  split_ifs
  · rfl
  · cases aliasOf U subjects s.subjectId <;> rfl

@[simp] lemma resolveOne_bytes (U : Unicode) (subjects : List Text) (s : TrafficCounterSample) :
    (resolveOne U subjects s).bytes = s.bytes := by
  rw [resolveOne]
  split_ifs
  · rfl
  · cases aliasOf U subjects s.subjectId <;> (funext d; cases d <;> rfl)

lemma settledDelta_resolveOne (U : Unicode) (subjects : List Text) (s : TrafficCounterSample)
    (previous : Option (Int × Int)) :
    settledDelta U (resolveOne U subjects s) previous = settledDelta U s previous := by
  have hrx : (resolveOne U subjects s).rxBytes = s.rxBytes :=
    congrFun (resolveOne_bytes U subjects s) .rx
  have htx : (resolveOne U subjects s).txBytes = s.txBytes :=
    congrFun (resolveOne_bytes U subjects s) .tx
  cases previous <;>
    simp only [settledDelta, deltaFromPrevious, isXrayStatsSample_resolveOne, hrx, htx]

end FwRouter.Traffic
