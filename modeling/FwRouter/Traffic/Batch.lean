import FwRouter.Traffic.Record

/-!
# Batching

A call fetches the previous snapshots and creates its `fwrouter:` subjects once, before its first
sample is accounted for.  Recording the samples one call each fetches again before every sample.
The two agree when no sample of the batch looks at something an earlier or a later sample of the
same batch writes, which is what `Undisturbed` says: the alias search of a sample is not changed by
the subjects that later samples create, and its growth since the stored snapshot is its growth
since the last reading of its counter within the batch.

The second condition fails for the plain case of a counter that is read twice while it grows:
`recordTrafficSamples_counts_twice`.
-/

namespace FwRouter.Traffic

open Py KeyedTable

/-! ## Equality aside from timestamps -/

def collectedAtKey : Text := "collected_at".toList

def Metadata.timeless (m : Metadata) : Metadata :=
  m.map fun e => (e.1, if e.1 = collectedAtKey then .null else e.2)

def Snapshot.timeless (r : Snapshot) : Snapshot :=
  { r with collectedAt := [], metadata := r.metadata.timeless }

def Database.timelessSnapshots (db : Database) : List (Text × Snapshot) :=
  db.snapshots.map fun r => (r.1, r.2.timeless)

/-- The two traffic tables agree, timestamps aside. -/
def SameTraffic (a b : Database) : Prop :=
  a.timelessSnapshots = b.timelessSnapshots ∧ a.monthly = b.monthly

instance (a b : Database) : Decidable (SameTraffic a b) := inferInstanceAs (Decidable (_ ∧ _))

@[simp] lemma Snapshot.timeless_counts (r : Snapshot) : r.timeless.counts = r.counts := rfl

lemma SameTraffic.counts {a b : Database} (h : SameTraffic a b) (k : Text) :
    (a.snapshots.lookup k).map Snapshot.counts = (b.snapshots.lookup k).map Snapshot.counts := by
  have hk := congrArg (fun t => (t.lookup k).map Snapshot.counts) h.1
  simpa [Database.timelessSnapshots, lookup_map_snd, Function.comp_def] using hk

lemma timeless_foldl_assign (entries : Metadata) : ∀ m : Metadata,
    Metadata.timeless (entries.foldl (fun m e => assign e.1 e.2 m) m) =
      (Metadata.timeless entries).foldl (fun m e => assign e.1 e.2 m) (Metadata.timeless m) := by
  induction entries with
  | nil => intro m; rfl
  | cons e entries ih =>
      intro m
      have hstep : Metadata.timeless (assign e.1 e.2 m) =
          assign e.1 (if e.1 = collectedAtKey then .null else e.2) (Metadata.timeless m) :=
        map_assign (fun k v => if k = collectedAtKey then Value.null else v) e.1 e.2 m
      rw [List.foldl_cons, ih, hstep]
      rfl

/-- The stored dictionary holds the time of the call under one key only. -/
lemma storedMetadata_timeless (call : Collection) (t : Text) (s : TrafficCounterSample)
    (δ : Delta) : Metadata.timeless (storedMetadata { call with collectedAt := t } s δ) =
      Metadata.timeless (storedMetadata call s δ) := by
  simp only [storedMetadata, timeless_foldl_assign]
  rfl

lemma SameTraffic.account {a b : Database} (h : SameTraffic a b) (call : Collection) (t : Text)
    (s : TrafficCounterSample) (δ : Delta) :
    SameTraffic (a.account call s δ) (b.account { call with collectedAt := t } s δ) := by
  refine ⟨?_, by simp only [Database.account, h.2]⟩
  have hrow : (snapshotOf { call with collectedAt := t } s δ).timeless =
      (snapshotOf call s δ).timeless := by
    simp only [snapshotOf, Snapshot.timeless, storedMetadata_timeless]
  have hmap : ∀ (db : Database) (row : Snapshot),
      (assign s.counterKey row db.snapshots).map (fun r => (r.1, r.2.timeless)) =
        assign s.counterKey row.timeless db.timelessSnapshots :=
    fun db row => map_assign (fun _ r => Snapshot.timeless r) _ _ _
  show (assign _ _ _).map _ = (assign _ _ _).map _
  rw [hmap, hmap, hrow, h.1]

/-! ## One call per sample -/

/-- The payloads recorded in order, one call each, at the given times. -/
def recordEach (U : Unicode) (call : Collection) (db : Database)
    (timed : List (Text × Payload)) : Database :=
  timed.foldl (fun db p =>
    (recordTrafficSamples U { call with collectedAt := p.1 } false db [p.2]).1) db

lemma recordTrafficSamples_singleton {U : Unicode} (call : Collection) {p : Payload}
    {s : TrafficCounterSample} (h : readPayload U call.registry call.collector p = .ok s)
    (db : Database) :
    (recordTrafficSamples U call false db [p]).1 =
      dbStep U call db.snapshots (openSubjects db.subjects [s])
        { db with subjects := openSubjects db.subjects [s] }
        (resolveOne U (openSubjects db.subjects [s]) s) := by
  have hread : (readPayloads U call [p]).1 = [s] := by
    rw [readPayloads_fst]
    simp [h, Except.toOption]
  rw [recordTrafficSamples_db, hread]
  rfl

/-- A call with one refused payload leaves the tables as they are. -/
lemma recordTrafficSamples_refused {U : Unicode} (call : Collection) {p : Payload}
    {e : SampleError} (h : readPayload U call.registry call.collector p = .error e)
    (db : Database) : (recordTrafficSamples U call false db [p]).1 = db := by
  have hread : (readPayloads U call [p]).1 = [] := by
    rw [readPayloads_fst]
    simp [h, Except.toOption]
  rw [recordTrafficSamples_db, hread]
  simp [openSubjects, missingFwrouterSubjectIds]

/-! ## The condition -/

section Condition

variable (U : Unicode) (db : Database) (S : List Text)

/-- The sample is accounted for when `S` are the live subjects. -/
def Recorded (s : TrafficCounterSample) : Prop := (resolveOne U S s).subjectId ∈ S

instance (s : TrafficCounterSample) : Decidable (Recorded U S s) :=
  inferInstanceAs (Decidable (_ ∈ _))

/-- The last counts of the counter `k` that are known after the samples `pre`: those of the last
recorded sample, else those of the snapshot stored before the batch. -/
def latestCounts (pre : List TrafficCounterSample) (k : Text) : Option (Int × Int) :=
  ((pre.filter fun s => s.counterKey = k ∧ Recorded U S s).getLast?).elim
    ((db.snapshots.lookup k).map Snapshot.counts) fun s => some (s.rxBytes, s.txBytes)

/-- No sample of the batch is disturbed by the others: `pre` are the samples before it, and `S` the
live subjects once the whole batch has created its own. -/
def UndisturbedFrom : List TrafficCounterSample → List TrafficCounterSample → Prop
  | _, [] => True
  | pre, s :: post =>
      (s.isNftCounter → s.subjectId ∉ S →
        aliasOf U (openSubjects db.subjects (pre ++ [s])) s.subjectId =
          aliasOf U S s.subjectId) ∧
      (Recorded U S s →
        settledDelta U s ((db.snapshots.lookup s.counterKey).map Snapshot.counts) =
          settledDelta U s (latestCounts U db S pre s.counterKey)) ∧
      UndisturbedFrom (pre ++ [s]) post

instance decidableUndisturbedFrom : ∀ pre post, Decidable (UndisturbedFrom U db S pre post)
  | _, [] => isTrue trivial
  | pre, s :: post =>
      have := decidableUndisturbedFrom (pre ++ [s]) post
      inferInstanceAs (Decidable (_ ∧ _ ∧ _))

end Condition

/-- The batch does not look at what it writes itself. -/
def Undisturbed (U : Unicode) (db : Database) (samples : List TrafficCounterSample) : Prop :=
  UndisturbedFrom U db (openSubjects db.subjects samples) [] samples

instance (U : Unicode) (db : Database) (samples : List TrafficCounterSample) :
    Decidable (Undisturbed U db samples) := decidableUndisturbedFrom _ _ _ _ _

/-! ## The batch and its samples one by one -/

lemma latestCounts_concat (U : Unicode) (db : Database) (S : List Text)
    (pre : List TrafficCounterSample) (s : TrafficCounterSample) (k : Text) :
    latestCounts U db S (pre ++ [s]) k =
      if s.counterKey = k ∧ Recorded U S s then some (s.rxBytes, s.txBytes)
      else latestCounts U db S pre k := by
  rw [latestCounts, List.filter_append]
  split_ifs with h
  · simp [h]
  · simp [h, latestCounts]

/-- Two sets of live subjects that treat a sample alike. -/
lemma resolveOne_eq_of_alias_eq {U : Unicode} {S' S : List Text} {s : TrafficCounterSample}
    (hmem : s.subjectId ∈ S' ↔ s.subjectId ∈ S)
    (halias : s.isNftCounter → s.subjectId ∉ S →
      aliasOf U S' s.subjectId = aliasOf U S s.subjectId) :
    resolveOne U S' s = resolveOne U S s ∧ (Recorded U S' s ↔ Recorded U S s) := by
  by_cases hkeep : s.subjectId ∈ S ∨ ¬s.isNftCounter
  · have h1 : resolveOne U S s = s := by rw [resolveOne, if_pos hkeep]
    have h2 : resolveOne U S' s = s := by rw [resolveOne, if_pos (by rwa [hmem])]
    exact ⟨h2.trans h1.symm, by rw [Recorded, Recorded, h1, h2, hmem]⟩
  · have hne : s.isNftCounter ∧ s.subjectId ∉ S := by
      push Not at hkeep
      exact ⟨hkeep.2, hkeep.1⟩
    have heq := halias hne.1 hne.2
    have hres : resolveOne U S' s = resolveOne U S s := by
      rw [resolveOne, resolveOne, if_neg hkeep, if_neg (by rwa [hmem]), heq]
    refine ⟨hres, ?_⟩
    rw [Recorded, Recorded, hres, resolveOne, if_neg hkeep]
    cases hS : aliasOf U S s.subjectId with
    | none => exact hmem
    | some id =>
        have hin : id ∈ S := (aliasOf_eq_some_iff.mp hS).1.1
        have hin' : id ∈ S' := (aliasOf_eq_some_iff.mp (heq.trans hS)).1.1
        exact iff_of_true hin' hin

section Main

variable {U : Unicode} {call : Collection} {db : Database} {S : List Text}

/-- One sample: the batch that has reached `a` and the single calls that have reached `b` agree
before and after it. -/
lemma sameTraffic_step {pre : List TrafficCounterSample} {s : TrafficCounterSample}
    {a b : Database} {t : Text} (hsame : SameTraffic a b)
    (hcounts : ∀ k, (a.snapshots.lookup k).map Snapshot.counts = latestCounts U db S pre k)
    (hb : ∀ x, x ∈ b.subjects ↔ x ∈ openSubjects db.subjects pre)
    (hmem : s.subjectId ∈ S ↔ s.subjectId ∈ openSubjects db.subjects (pre ++ [s]))
    (halias : s.isNftCounter → s.subjectId ∉ S →
      aliasOf U (openSubjects db.subjects (pre ++ [s])) s.subjectId = aliasOf U S s.subjectId)
    (hdelta : Recorded U S s →
      settledDelta U s ((db.snapshots.lookup s.counterKey).map Snapshot.counts) =
        settledDelta U s (latestCounts U db S pre s.counterKey)) :
    SameTraffic (dbStep U call db.snapshots S a (resolveOne U S s))
      (dbStep U { call with collectedAt := t } b.snapshots (openSubjects b.subjects [s])
        { b with subjects := openSubjects b.subjects [s] }
        (resolveOne U (openSubjects b.subjects [s]) s)) := by
  have hopen := mem_openSubjects_concat (s := s) hb
  obtain ⟨hres, hrec⟩ := resolveOne_eq_of_alias_eq hmem.symm halias
  have hres' : resolveOne U (openSubjects b.subjects [s]) s = resolveOne U S s :=
    (resolveOne_congr hopen s).trans hres
  have hlive : (resolveOne U S s).subjectId ∈ openSubjects b.subjects [s] ↔
      (resolveOne U S s).subjectId ∈ S := by
    rw [hopen, ← hres]
    exact hrec.trans (by rw [Recorded, hres])
  by_cases hS : (resolveOne U S s).subjectId ∈ S
  · rw [dbStep, if_pos hS, dbStep, hres', if_pos (hlive.mpr hS), settledDelta_resolveOne,
      settledDelta_resolveOne, resolveOne_counterKey, hdelta hS, ← hcounts,
      hsame.counts s.counterKey]
    exact SameTraffic.account (b := { b with subjects := _ }) hsame call t _ _
  · rw [dbStep, if_neg hS, dbStep, hres', if_neg fun h => hS (hlive.mp h)]
    exact hsame

/-- The subjects that a batch opens, one sample at a time. -/
lemma subjects_dbStep (prev : List (Text × Snapshot)) (S : List Text) (d : Database)
    (s : TrafficCounterSample) : (dbStep U call prev S d s).subjects = d.subjects := by
  rw [dbStep]
  split_ifs <;> rfl

/-- The induction over the rest of the batch; the invariant is `SameTraffic` together with what
the single calls know: the subjects opened so far, and the last counts of every counter. -/
lemma sameTraffic_rest {samples : List TrafficCounterSample}
    (hS : S = openSubjects db.subjects samples) :
    ∀ {timed : List (Text × Payload)} {pre : List TrafficCounterSample} {a b : Database},
      samples = pre ++ (readPayloads U call (timed.map Prod.snd)).1 →
      UndisturbedFrom U db S pre (readPayloads U call (timed.map Prod.snd)).1 →
      SameTraffic a b →
      (∀ k, (a.snapshots.lookup k).map Snapshot.counts = latestCounts U db S pre k) →
      (∀ x, x ∈ b.subjects ↔ x ∈ openSubjects db.subjects pre) →
      SameTraffic
        (((readPayloads U call (timed.map Prod.snd)).1.map (resolveOne U S)).foldl
          (dbStep U call db.snapshots S) a)
        (recordEach U call b timed) := by
  intro timed
  induction timed with
  | nil =>
      intro pre a b _ _ hsame _ _
      exact hsame
  | cons p timed ih =>
      intro pre a b hsplit hund hsame hcounts hb
      rw [recordEach, List.foldl_cons]
      cases hread : readPayload U call.registry call.collector p.2 with
      | error e =>
          have hskip : (readPayloads U call ((p :: timed).map Prod.snd)).1 =
              (readPayloads U call (timed.map Prod.snd)).1 := by
            simp [readPayloads_fst, hread, Except.toOption]
          rw [hskip] at hsplit hund ⊢
          rw [recordTrafficSamples_refused { call with collectedAt := p.1 } hread]
          exact ih hsplit hund hsame hcounts hb
      | ok s =>
          have hcons : (readPayloads U call ((p :: timed).map Prod.snd)).1 =
              s :: (readPayloads U call (timed.map Prod.snd)).1 := by
            simp [readPayloads_fst, hread, Except.toOption]
          rw [hcons] at hsplit hund ⊢
          obtain ⟨halias, hdelta, hrest⟩ := hund
          have hmem : s.subjectId ∈ S ↔ s.subjectId ∈ openSubjects db.subjects (pre ++ [s]) := by
            rw [hS, mem_openSubjects, mem_openSubjects, hsplit]
            have hself : ∃ r ∈ pre ++ [s], r.subjectId = s.subjectId := ⟨s, by simp, rfl⟩
            have hself' : ∃ r ∈ pre ++ s :: (readPayloads U call (timed.map Prod.snd)).1,
                r.subjectId = s.subjectId := ⟨s, by simp, rfl⟩
            simp only [hself, hself']
          rw [recordTrafficSamples_singleton { call with collectedAt := p.1 } hread,
            List.map_cons, List.foldl_cons]
          have hsplit' : samples =
              (pre ++ [s]) ++ (readPayloads U call (timed.map Prod.snd)).1 := by
            simp [hsplit]
          refine ih hsplit' hrest
            (sameTraffic_step hsame hcounts hb hmem halias hdelta) ?_ ?_
          · intro k
            have hrx : (resolveOne U S s).rxBytes = s.rxBytes :=
              congrFun (resolveOne_bytes U S s) .rx
            have htx : (resolveOne U S s).txBytes = s.txBytes :=
              congrFun (resolveOne_bytes U S s) .tx
            rw [counts_dbStep, latestCounts_concat, resolveOne_counterKey, hcounts, hrx, htx]
            rfl
          · intro x
            rw [subjects_dbStep]
            exact mem_openSubjects_concat hb x

end Main

section Counter

/-- A reading of one counter of a LAN subject. -/
def lanReading (rx : Int) : Payload where
  counterKey := "lan-a".toList
  subjectId := "lan:a".toList
  path := "direct".toList
  rxBytes := some rx
  txBytes := some 0
  metadata := .absent

/-- The counter stands at 100. -/
def lanDatabase : Database where
  subjects := ["lan:a".toList]
  snapshots := [("lan-a".toList, ⟨some "lan:a".toList, .direct, 100, 0, [], []⟩)]
  monthly := []

def apiCollection : Collection where
  collector := "api".toList
  collectedAt := "2026-01-01T00:00:00+00:00".toList
  periodMonth := "2026-01".toList
  registry := fun _ => none

-- The errors of a disturbed batch can cancel: the tables agree although two deltas are wrong.
example : ¬Undisturbed .ascii lanDatabase (readPayloads .ascii apiCollection
      ([150, 200, 50, 120, 10].map lanReading)).1 ∧
    SameTraffic
      (recordTrafficSamples .ascii apiCollection false lanDatabase
        ([150, 200, 50, 120, 10].map lanReading)).1
      (recordEach .ascii apiCollection lanDatabase
        ([150, 200, 50, 120, 10].map fun n => ("t".toList, lanReading n))) := by decide +kernel

end Counter

end FwRouter.Traffic
