import FwRouter.Library.Run
import FwRouter.Traffic.Record

/-!
# Conservation of traffic

Over a whole run of calls the bytes in `traffic_monthly` are the bytes the counters counted: for
each counter the growth between consecutive readings, a reading below the one before being a
restart from zero, and for xray statistics the first reading as well.

The argument follows the trace of all samples.  `Ledger db trace` relates the tables to the trace:
the snapshot of a counter is its last reading, and the total of the month table is what the trace
credits.  One sample keeps it (`Ledger.account`), hence a call does (`Ledger.call`), hence a run.
-/

namespace FwRouter.Traffic

open Py KeyedTable

/-! ## Runs -/

/-- A call of `record_traffic_samples` that is no dry run. -/
structure Call where
  collection : Collection
  payloads : List Payload

def Call.samples (U : Unicode) (c : Call) : List TrafficCounterSample :=
  (readPayloads U c.collection c.payloads).1

def Call.run (U : Unicode) (c : Call) (db : Database) : Database :=
  (recordTrafficSamples U c.collection false db c.payloads).1

def runCalls (U : Unicode) (db : Database) (calls : List Call) : Database :=
  calls.foldl (fun db c => c.run U db) db

/-- Every payload of the call normalises, no counter occurs twice in it, and every sample resolves
to an existing subject. -/
structure Clean (U : Unicode) (db : Database) (c : Call) : Prop where
  normalises : ∀ p ∈ c.payloads,
    (readPayload U c.collection.registry c.collection.collector p).isOk = true
  distinct : ((c.samples U).map TrafficCounterSample.counterKey).Nodup
  resolves : ∀ s ∈ (openBatch U false db (c.samples U)).samples,
    s.subjectId ∈ (openBatch U false db (c.samples U)).existing

instance (U : Unicode) (db : Database) (c : Call) : Decidable (Clean U db c) :=
  decidable_of_iff (_ ∧ _ ∧ _) ⟨fun h => ⟨h.1, h.2.1, h.2.2⟩, fun h => ⟨h.1, h.2, h.3⟩⟩

/-- Every call of the run is clean in the state it finds. -/
def CleanRun (U : Unicode) (db : Database) (calls : List Call) : Prop :=
  Run.Along (fun db c => c.run U db) (Clean U) db calls

instance (U : Unicode) (db : Database) (calls : List Call) : Decidable (CleanRun U db calls) :=
  Run.decidableAlong db calls

/-! ## What the counters counted -/

/-- All samples of a run, in call order. -/
def trace (U : Unicode) (calls : List Call) : List TrafficCounterSample :=
  calls.flatMap (Call.samples U)

/-- The readings of one counter. -/
def readingsOf (k : Text) (samples : List TrafficCounterSample) : List TrafficCounterSample :=
  samples.filter fun s => s.counterKey = k

/-- The growth of a counter over the readings that follow `x`. -/
def growth (d : Dir) : TrafficCounterSample → List TrafficCounterSample → Int
  | _, [] => 0
  | x, y :: rest =>
      (if x.bytes d ≤ y.bytes d then y.bytes d - x.bytes d else y.bytes d) + growth d y rest

/-- What a counter contributes over all of its readings. -/
def credited (U : Unicode) (d : Dir) : List TrafficCounterSample → Int
  | [] => 0
  | x :: rest => (if isXrayStatsSample U x then x.bytes d else 0) + growth d x rest

/-- The bytes of one direction over all path columns of a row. -/
def MonthlyRow.total (d : Dir) (r : MonthlyRow) : Int :=
  r.column .direct d + r.column .vpn d + r.column .blocked d

/-- The bytes of one direction over all rows, months and path columns. -/
def monthlyTotal (d : Dir) (db : Database) : Int := (db.monthly.map fun r => r.2.total d).sum

/-! ## One credit -/

lemma MonthlyRow.column_credit (r : MonthlyRow) (path p : Path) (δ : Delta) (d : Dir) :
    (r.credit path δ.rx δ.tx).column p d =
      r.column p d + if p = path then δ.bytes d else 0 := by
  cases path <;> cases p <;> cases d <;> simp [credit, column, Delta.bytes]

lemma MonthlyRow.total_credit (r : MonthlyRow) (path : Path) (δ : Delta) (d : Dir) :
    (r.credit path δ.rx δ.tx).total d = r.total d + δ.bytes d := by
  cases path <;> simp only [total, column_credit, reduceCtorEq, if_true, if_false] <;> ring

section Credit

variable {δ : Delta} (hδ : ∀ d, 0 ≤ δ.bytes d)
include hδ

lemma Delta.bytes_eq_zero (h : ¬(0 < δ.rx ∨ 0 < δ.tx)) (d : Dir) : δ.bytes d = 0 := by
  have hrx : 0 ≤ δ.rx := hδ .rx
  have htx : 0 ≤ δ.tx := hδ .tx
  push Not at h
  cases d
  · exact le_antisymm h.1 hrx
  · exact le_antisymm h.2 htx

lemma monthlyTotal_account (call : Collection) (db : Database) (s : TrafficCounterSample)
    (d : Dir) : monthlyTotal d (db.account call s δ) = monthlyTotal d db + δ.bytes d := by
  rw [monthlyTotal, Database.account]
  dsimp only
  split_ifs with h
  · refine sum_upsert (f := MonthlyRow.total d) ?_ (fun v => v.total_credit s.path δ d) db.monthly
    rw [MonthlyRow.total_credit]
    cases d <;> simp [MonthlyRow.total, MonthlyRow.column]
  · rw [δ.bytes_eq_zero hδ h, add_zero, monthlyTotal]

lemma column_nonneg_account {call : Collection} {db : Database} {s : TrafficCounterSample}
    (h : ∀ r ∈ db.monthly, ∀ p d, 0 ≤ r.2.column p d) :
    ∀ r ∈ (db.account call s δ).monthly, ∀ p d, 0 ≤ r.2.column p d := by
  have hcredit : ∀ row : MonthlyRow, (∀ p d, 0 ≤ row.column p d) →
      ∀ p d, 0 ≤ (row.credit s.path δ.rx δ.tx).column p d := by
    intro row hrow p d
    rw [MonthlyRow.column_credit]
    have h1 := hrow p d
    have h2 := hδ d
    split_ifs <;> omega
  rw [Database.account]
  dsimp only
  split_ifs
  · refine forall_upsert (P := fun row : MonthlyRow => ∀ p d, 0 ≤ row.column p d) (hcredit {} ?_) hcredit h
    intro p d
    cases p <;> cases d <;> exact le_rfl
  · exact h

/-- A row of the month table stays and its columns do not shrink. -/
lemma monthly_mono_account (call : Collection) (db : Database) (s : TrafficCounterSample)
    {key : Text × Text} {row : MonthlyRow} (h : db.monthly.lookup key = some row) :
    ∃ row', (db.account call s δ).monthly.lookup key = some row' ∧
      ∀ p d, row.column p d ≤ row'.column p d := by
  rw [Database.account]
  dsimp only
  split_ifs
  · by_cases hkey : key = (s.subjectId, call.periodMonth)
    · subst hkey
      refine ⟨row.credit s.path δ.rx δ.tx, by rw [lookup_upsert_self, h, Option.elim_some],
        fun p d => ?_⟩
      rw [MonthlyRow.column_credit]
      have := hδ d
      split_ifs <;> omega
    · exact ⟨row, by rw [lookup_upsert_of_ne hkey, h], fun p d => le_rfl⟩
  · exact ⟨row, h, fun p d => le_rfl⟩

end Credit

/-! ## The ledger -/

lemma growth_concat (d : Dir) (s : TrafficCounterSample) : ∀ (l : List TrafficCounterSample)
    (x : TrafficCounterSample), growth d x (l ++ [s]) =
      growth d x l + directionDelta (s.bytes d) ((l.getLast?.getD x).bytes d)
  | [], x => by
      simp only [List.nil_append, growth, add_zero, zero_add, directionDelta]
      rfl
  | y :: l, x => by
      rw [List.cons_append, growth, growth_concat d s l y, growth, List.getLast?_cons,
        Option.getD_some]
      ring

/-- One more reading adds the settled delta of that reading against the one before it. -/
lemma credited_concat (U : Unicode) (d : Dir) (s : TrafficCounterSample)
    (l : List TrafficCounterSample) :
    credited U d (l ++ [s]) = credited U d l +
      (settledDelta U s (l.getLast?.map fun r => (r.rxBytes, r.txBytes))).bytes d := by
  rw [settledDelta_bytes]
  cases l with
  | nil => simp [credited, growth]
  | cons x l =>
      have hbytes : ∀ r : TrafficCounterSample, countOf (r.rxBytes, r.txBytes) d = r.bytes d := by
        intro r
        cases d <;> rfl
      rw [List.cons_append, credited, growth_concat, credited, List.getLast?_cons]
      simp only [Option.map_some, hbytes]
      ring

/-- The tables hold what the trace says. -/
structure Ledger (U : Unicode) (db : Database) (trace : List TrafficCounterSample) : Prop where
  counts : ∀ k, (db.snapshots.lookup k).map Snapshot.counts =
    (readingsOf k trace).getLast?.map fun s => (s.rxBytes, s.txBytes)
  total : ∀ d, ∀ K : Finset Text, (∀ s ∈ trace, s.counterKey ∈ K) →
    monthlyTotal d db = ∑ k ∈ K, credited U d (readingsOf k trace)
  nonneg : ∀ r ∈ db.monthly, ∀ p d, 0 ≤ r.2.column p d

lemma readingsOf_concat (k : Text) (l : List TrafficCounterSample) (s : TrafficCounterSample) :
    readingsOf k (l ++ [s]) =
      if s.counterKey = k then readingsOf k l ++ [s] else readingsOf k l := by
  rw [readingsOf, List.filter_append]
  split_ifs with h <;> simp [h, readingsOf]

/-- **One sample.**  Accounting for a sample against the present snapshot of its counter extends
the trace by that sample, whatever subject it was resolved to. -/
lemma Ledger.account {U : Unicode} {db : Database} {l : List TrafficCounterSample}
    (h : Ledger U db l) (call : Collection) (S : List Text) (s : TrafficCounterSample) :
    Ledger U (db.account call (resolveOne U S s)
      (settledDelta U s ((db.snapshots.lookup s.counterKey).map Snapshot.counts))) (l ++ [s]) := by
  have hδ := settledDelta_nonneg U s ((db.snapshots.lookup s.counterKey).map Snapshot.counts)
  refine ⟨?_, ?_, column_nonneg_account hδ h.nonneg⟩
  · intro k
    have hrx : (resolveOne U S s).rxBytes = s.rxBytes := congrFun (resolveOne_bytes U S s) .rx
    have htx : (resolveOne U S s).txBytes = s.txBytes := congrFun (resolveOne_bytes U S s) .tx
    rw [readingsOf_concat]
    by_cases hk : s.counterKey = k
    · subst hk
      simp [Database.account, snapshotOf, Snapshot.counts, hrx, htx]
    · rw [if_neg hk, ← h.counts k, Database.account]
      dsimp only
      rw [resolveOne_counterKey, lookup_assign_of_ne (Ne.symm hk)]
  · intro d K hK
    have hs : s.counterKey ∈ K := hK s (by simp)
    have hold := h.total d K fun r hr => hK r (by simp [hr])
    -- only the counter of the sample contributes more than before
    have hterm : ∀ k ∈ K, credited U d (readingsOf k (l ++ [s])) =
        credited U d (readingsOf k l) + if s.counterKey = k then
          (settledDelta U s ((db.snapshots.lookup s.counterKey).map Snapshot.counts)).bytes d
          else 0 := by
      intro k _
      rw [readingsOf_concat]
      split_ifs with hk
      · subst hk
        rw [credited_concat, h.counts]
      · rw [add_zero]
    rw [monthlyTotal_account hδ, hold, Finset.sum_congr rfl hterm, Finset.sum_add_distrib,
      Finset.sum_ite_eq, if_pos hs]

/-- The rest of a batch: no counter of it has been written since the snapshots were fetched. -/
lemma Ledger.batch {U : Unicode} {call : Collection} {S : List Text}
    {prev : List (Text × Snapshot)} : ∀ {samples l : List TrafficCounterSample} {db : Database},
      Ledger U db l → (samples.map TrafficCounterSample.counterKey).Nodup →
      (∀ s ∈ samples, (resolveOne U S s).subjectId ∈ S) →
      (∀ s ∈ samples, (prev.lookup s.counterKey).map Snapshot.counts =
        (db.snapshots.lookup s.counterKey).map Snapshot.counts) →
      Ledger U ((samples.map (resolveOne U S)).foldl (dbStep U call prev S) db) (l ++ samples) := by
  intro samples
  induction samples with
  | nil => intro l db h _ _ _; simpa using h
  | cons s rest ih =>
      intro l db h hnodup hlive hprev
      have hstep : dbStep U call prev S db (resolveOne U S s) =
          db.account call (resolveOne U S s)
            (settledDelta U s ((db.snapshots.lookup s.counterKey).map Snapshot.counts)) := by
        rw [dbStep, if_pos (hlive s (by simp)), resolveOne_counterKey, settledDelta_resolveOne,
          hprev s (by simp)]
      obtain ⟨hfresh, hnodup⟩ := List.nodup_cons.mp hnodup
      rw [List.map_cons, List.foldl_cons, hstep, List.append_cons]
      refine ih (h.account call S s) hnodup (fun r hr => hlive r (by simp [hr])) ?_
      intro r hr
      have hne : r.counterKey ≠ (resolveOne U S s).counterKey := by
        rw [resolveOne_counterKey]
        exact fun e => hfresh (e ▸ List.mem_map_of_mem hr)
      rw [hprev r (by simp [hr]), Database.account]
      dsimp only
      rw [lookup_assign_of_ne hne]

/-- **One call.** -/
lemma Ledger.call {U : Unicode} {db : Database} {l : List TrafficCounterSample}
    (h : Ledger U db l) {c : Call} (hc : Clean U db c) :
    Ledger U (c.run U db) (l ++ c.samples U) := by
  obtain ⟨-, hsamples, hmem⟩ := openBatch_eq U db (c.samples U)
  rw [Call.run, recordTrafficSamples_db]
  refine Ledger.batch ⟨h.counts, h.total, h.nonneg⟩ hc.distinct ?_ fun s _ => rfl
  intro s hs
  refine (hmem s hs).1.mp (hc.resolves _ ?_)
  rw [hsamples]
  exact List.mem_map_of_mem hs

lemma Ledger.runCalls {U : Unicode} {calls : List Call} {db : Database} (h : Ledger U db [])
    (hrun : CleanRun U db calls) : Ledger U (runCalls U db calls) (trace U calls) := by
  refine Run.Along.invariant (I := fun past db => Ledger U db (trace U past)) (h := []) ?_ h hrun
  intro past db c hpast hc
  have := hpast.call hc
  rwa [trace, List.flatMap_append, List.flatMap_singleton]

/-- A row of the month table outlives any call, and no column of it shrinks. -/
lemma monthly_mono_run (U : Unicode) (c : Call) (db : Database) {key : Text × Text}
    {row : MonthlyRow} (h : db.monthly.lookup key = some row) :
    ∃ row', (c.run U db).monthly.lookup key = some row' ∧
      ∀ p d, row.column p d ≤ row'.column p d := by
  have hfold : ∀ (samples : List TrafficCounterSample) (prev : List (Text × Snapshot))
      (S : List Text) (db : Database) (row : MonthlyRow), db.monthly.lookup key = some row →
      ∃ row', (samples.foldl (dbStep U c.collection prev S) db).monthly.lookup key = some row' ∧
        ∀ p d, row.column p d ≤ row'.column p d := by
    intro samples prev S
    induction samples with
    | nil => intro db row h; exact ⟨row, h, fun p d => le_rfl⟩
    | cons s rest ih =>
        intro db row h
        rw [List.foldl_cons, dbStep]
        split_ifs
        · obtain ⟨mid, hmid, hle⟩ := monthly_mono_account (settledDelta_nonneg U s _)
            c.collection db s h
          obtain ⟨row', hrow', hle'⟩ := ih _ mid hmid
          exact ⟨row', hrow', fun p d => (hle p d).trans (hle' p d)⟩
        · exact ih db row h
  rw [Call.run, recordTrafficSamples_db]
  exact hfold _ _ _ _ _ h

lemma monthly_mono_runCalls (U : Unicode) {key : Text × Text} : ∀ (calls : List Call)
    {db : Database} {row : MonthlyRow}, db.monthly.lookup key = some row →
      ∃ row', (runCalls U db calls).monthly.lookup key = some row' ∧
        ∀ p d, row.column p d ≤ row'.column p d
  | [], _, row, h => ⟨row, h, fun _ _ => le_rfl⟩
  | c :: calls, db, row, h => by
      obtain ⟨mid, hmid, hle⟩ := monthly_mono_run U c db h
      obtain ⟨row', hrow', hle'⟩ := monthly_mono_runCalls U calls hmid
      exact ⟨row', hrow', fun p d => (hle p d).trans (hle' p d)⟩

/-! ## The result -/

/-- Empty traffic tables. -/
def emptyTraffic (subjects : List Text) : Database := ⟨subjects, [], []⟩

lemma ledger_emptyTraffic (U : Unicode) (subjects : List Text) :
    Ledger U (emptyTraffic subjects) [] := by
  refine ⟨fun k => rfl, fun d K _ => ?_, ?_⟩
  · simp [monthlyTotal, emptyTraffic, readingsOf, credited]
  · intro r hr
    simp [emptyTraffic] at hr

/-- A reading of the statistics of an xray client. -/
def xrayReading (rx tx : Int) : Payload where
  counterKey := "xray:subject:b".toList
  subjectId := "xray:b".toList
  path := "vpn".toList
  rxBytes := some rx
  txBytes := some tx
  metadata := .absent

/-- A named nft counter, whose subject is found by its alias. -/
def nftReading (bytes : Int) : Payload where
  counterKey := "nft:counter:cnt_lan_a_b_direct_tx".toList
  subjectId := []
  path := []
  rxBytes := some bytes
  txBytes := some 0
  metadata := .absent

/-- Two calls: the xray client's first reading counts, the nft counter is reset in between. -/
def sampleRun : List Call :=
  let collection : Collection :=
    ⟨"api".toList, "t".toList, "2026-01".toList, fun _ => none⟩
  [⟨collection, [xrayReading 5 0, nftReading 100]⟩,
    ⟨{ collection with periodMonth := "2026-02".toList }, [nftReading 30, xrayReading 9 4]⟩]

end FwRouter.Traffic
