import FwRouter.Events.SecureEvent

/-!
# The log while it is read

`operational_logs` has no integer key of its own, so its rowids are the table's: a new row comes after
the last one, and a rowid is used again when the last row has gone.  Rows are written, retention takes
old rows away, and `VACUUM` may number the rows anew.

A reader remembers the row that was the newest when it began, its anchor.  `anchored_of_reaches` says
what it means when the anchor is still found where it was: nothing was put below it since.
-/

namespace FwRouter.Events

open Py

/-! ## The table -/

/-- `operational_logs` in descending order of rowids.  No row is older than `cutoff` that was written
after retention had used this cutoff. -/
structure Log where
  rows : List Row
  cutoff : Text
  sorted : rows.Pairwise fun r s => s.rowid < r.rowid
  positive : ∀ r ∈ rows, 0 < r.rowid
  bounded : ∀ r ∈ rows, r.rowid ≤ maxRowid
  unique : (rows.filterMap Row.eventId).Nodup

/-- The rowid of the newest row, or 0. -/
def lastRowid (rows : List Row) : ℕ := (rows.head?.map Row.rowid).getD 0

/-- The rows with the numbers 1, 2, 3, … instead of theirs. -/
def renumbered : List Row → List Row
  | [] => []
  | r :: rows => { r with rowid := rows.length + 1 } :: renumbered rows

variable (H : Host)

/-- What happens to the log. -/
inductive Step : Log → Log → Prop
  /-- A row is written, with an id that is not taken. -/
  | write {log log' : Log} (row : Row) (id : Text) (hid : row.eventId = some id) (hne : id ≠ [])
      (hfresh : id ∉ log.rows.filterMap Row.eventId) (hrowid : row.rowid = lastRowid log.rows + 1)
      (htimestamp : canonicalTimestamp H row.createdAt = true) (hclock : log.cutoff ≤ row.createdAt)
      (hrows : log'.rows = row :: log.rows) (hcutoff : log'.cutoff = log.cutoff) : Step log log'
  /-- Retention takes away rows from before its cutoff, but for some that are held. -/
  | cleanup {log log' : Log} (cutoff : Text) (held : Row → Bool) (hcutoff : log.cutoff ≤ cutoff)
      (hrows : log'.rows = log.rows.filter fun r => held r || !decide (r.createdAt < cutoff))
      (hcutoff' : log'.cutoff = cutoff) : Step log log'
  /-- `VACUUM`. -/
  | vacuum {log log' : Log} (hrows : log'.rows = renumbered log.rows)
      (hcutoff : log'.cutoff = log.cutoff) : Step log log'

/-- Any number of steps. -/
def Reaches : Log → Log → Prop := Relation.ReflTransGen (Step H)

/-! ## Compaction -/

lemma exists_mem_renumbered {rows : List Row} {x : Row} (h : x ∈ rows) :
    ∃ r ∈ renumbered rows, r.eventId = x.eventId ∧ r.createdAt = x.createdAt := by
  induction rows with
  | nil => exact absurd h List.not_mem_nil
  | cons y rows ih =>
      rcases List.mem_cons.mp h with rfl | h
      · exact ⟨_, List.mem_cons_self, rfl, rfl⟩
      · obtain ⟨r, hr, hid, hat⟩ := ih h
        exact ⟨r, List.mem_cons_of_mem _ hr, hid, hat⟩

lemma rowid_le_of_mem_renumbered {rows : List Row} {r : Row} (h : r ∈ renumbered rows) :
    r.rowid ≤ rows.length := by
  induction rows with
  | nil => exact absurd h List.not_mem_nil
  | cons y rows ih =>
      rcases List.mem_cons.mp h with rfl | h
      · exact le_rfl
      · exact (ih h).trans (Nat.le_succ _)

lemma renumbered_append (front back : List Row) : ∃ front', renumbered (front ++ back) =
    front' ++ renumbered back ∧ (∀ r ∈ front', back.length < r.rowid) ∧
      ∀ r ∈ front', ∃ x ∈ front, x.eventId = r.eventId ∧ x.createdAt = r.createdAt := by
  induction front with
  | nil => exact ⟨[], rfl, by simp, by simp⟩
  | cons y front ih =>
      obtain ⟨front', heq, hrowid, hrow⟩ := ih
      refine ⟨{ y with rowid := (front ++ back).length + 1 } :: front', ?_, ?_, ?_⟩
      · rw [List.cons_append, renumbered, heq, List.cons_append]
      · intro r hr
        rcases List.mem_cons.mp hr with rfl | hr
        · show back.length < (front ++ back).length + 1
          rw [List.length_append]
          omega
        · exact hrowid r hr
      · intro r hr
        rcases List.mem_cons.mp hr with rfl | hr
        · exact ⟨y, List.mem_cons_self, rfl, rfl⟩
        · obtain ⟨x, hx, hx'⟩ := hrow r hr
          exact ⟨x, List.mem_cons_of_mem _ hx, hx'⟩

lemma length_le_of_sorted {rows : List Row} (hsorted : rows.Pairwise fun r s => s.rowid < r.rowid)
    (hpositive : ∀ r ∈ rows, 0 < r.rowid) {n : ℕ} (hn : ∀ r ∈ rows, r.rowid ≤ n) : rows.length ≤ n := by
  induction rows generalizing n with
  | nil => exact Nat.zero_le n
  | cons r rows ih =>
      rw [List.pairwise_cons] at hsorted
      have hr := hn r List.mem_cons_self
      have hrpos := hpositive r List.mem_cons_self
      have hrest : rows.length ≤ r.rowid - 1 := by
        refine ih hsorted.2 (fun s hs => hpositive s (List.mem_cons_of_mem _ hs)) ?_
        intro s hs
        exact Nat.le_sub_one_of_lt (hsorted.1 s hs)
      rw [List.length_cons]
      omega

/-- A row keeps its number or gets a smaller one. -/
lemma exists_of_mem_renumbered {rows : List Row} (hsorted : rows.Pairwise fun r s => s.rowid < r.rowid)
    (hpositive : ∀ r ∈ rows, 0 < r.rowid) {r : Row} (h : r ∈ renumbered rows) :
    ∃ x ∈ rows, x.eventId = r.eventId ∧ x.createdAt = r.createdAt ∧ r.rowid ≤ x.rowid := by
  induction rows with
  | nil => exact absurd h List.not_mem_nil
  | cons y rows ih =>
      rcases List.mem_cons.mp h with rfl | h
      · refine ⟨y, List.mem_cons_self, rfl, rfl, ?_⟩
        refine length_le_of_sorted hsorted hpositive ?_
        intro x hx
        rcases List.mem_cons.mp hx with rfl | hx
        · exact le_rfl
        · exact ((List.pairwise_cons.mp hsorted).1 x hx).le
      · obtain ⟨x, hx, hx'⟩ := ih (List.pairwise_cons.mp hsorted).2
          (fun s hs => hpositive s (List.mem_cons_of_mem _ hs)) h
        exact ⟨x, List.mem_cons_of_mem _ hx, hx'⟩

/-- Where every rowid is in use nothing moves. -/
lemma renumbered_eq_self {rows : List Row} (hsorted : rows.Pairwise fun r s => s.rowid < r.rowid)
    (hpositive : ∀ r ∈ rows, 0 < r.rowid) (hn : ∀ r ∈ rows, r.rowid ≤ rows.length) :
    renumbered rows = rows := by
  induction rows with
  | nil => rfl
  | cons r rows ih =>
      rw [List.pairwise_cons] at hsorted
      have hpos : ∀ s ∈ rows, 0 < s.rowid := fun s hs => hpositive s (List.mem_cons_of_mem _ hs)
      have hbelow : ∀ s ∈ rows, s.rowid ≤ rows.length := by
        intro s hs
        have hr := hn r List.mem_cons_self
        have hlt := hsorted.1 s hs
        rw [List.length_cons] at hr
        omega
      have hlength : rows.length ≤ r.rowid - 1 :=
        length_le_of_sorted hsorted.2 hpos fun s hs => Nat.le_sub_one_of_lt (hsorted.1 s hs)
      have hrowid : rows.length + 1 = r.rowid := by
        have hr := hn r List.mem_cons_self
        have hrpos := hpositive r List.mem_cons_self
        rw [List.length_cons] at hr
        omega
      rw [renumbered, ih hsorted.2 hpos hbelow, hrowid]

/-! ## The anchor -/

/-- The id and the timestamp by which the anchor is recognized. -/
def SameEvent (anchor r : Row) : Prop :=
  r.eventId = anchor.eventId ∧ r.selected.timestamp H = anchor.selected.timestamp H

/-- The anchor is where it was; what is below it was there before, and what is above it was written
by a writer. -/
structure Anchored (anchor : Row) (base : List Row) (log : Log) : Prop where
  mem : anchor ∈ log.rows
  below : ∀ r ∈ log.rows, r.rowid ≤ anchor.rowid → r ∈ base
  above : ∀ r ∈ log.rows, anchor.rowid < r.rowid → ∃ id, r.eventId = some id ∧ id ≠ []

/-- The anchor has gone from its place, and will not be found there again. -/
structure Lost (anchor : Row) (log : Log) : Prop where
  gone : ∀ r ∈ log.rows, anchor.rowid ≤ r.rowid → ¬SameEvent H anchor r
  later : (∀ id, anchor.eventId = some id → id = []) ∨ anchor.createdAt < log.cutoff ∨
    ∃ r ∈ log.rows, r.eventId = anchor.eventId ∧ r.createdAt = anchor.createdAt

variable {H} {anchor : Row} {base : List Row} {log log' : Log}

lemma Log.rowid_inj (log : Log) {r s : Row} (hr : r ∈ log.rows) (hs : s ∈ log.rows)
    (h : r.rowid = s.rowid) : r = s := by
  have hnodup : (log.rows.map Row.rowid).Nodup :=
    List.pairwise_map.mpr (log.sorted.imp fun hlt => hlt.ne')
  exact List.inj_on_of_nodup_map hnodup hr hs h

lemma Log.le_head (log : Log) {head : Row} (hhead : log.rows.head? = some head) {r : Row}
    (hr : r ∈ log.rows) : r.rowid ≤ head.rowid := by
  obtain ⟨tail, heq⟩ := List.head?_eq_some_iff.mp hhead
  have hsorted := heq ▸ log.sorted
  rcases List.mem_cons.mp (heq ▸ hr) with rfl | hr
  · exact le_rfl
  · exact ((List.pairwise_cons.mp hsorted).1 r hr).le

lemma Log.eventId_inj (log : Log) {r s : Row} (hr : r ∈ log.rows) (hs : s ∈ log.rows) {id : Text}
    (hid : r.eventId = some id) (hid' : s.eventId = some id) : r = s := by
  have hsymm : Std.Symm fun r s : Row => ∀ i, r.eventId = some i → s.eventId ≠ some i :=
    ⟨fun _ _ h i hi hi' => h i hi' hi⟩
  have hpairs : log.rows.Pairwise fun r s => ∀ i, r.eventId = some i → s.eventId ≠ some i := by
    refine (List.pairwise_filterMap.mp log.unique).imp ?_
    intro r s hne i hi hi'
    exact hne i hi i hi' rfl
  by_contra hne
  exact hpairs.forall hr hs hne id hid hid'

/-- What is above the anchor is not the anchor. -/
lemma Anchored.not_sameEvent (h : Anchored anchor base log) {r : Row} {x : Row} (hx : x ∈ log.rows)
    (hrowid : anchor.rowid < x.rowid) (hid : r.eventId = x.eventId) : ¬SameEvent H anchor r := by
  rintro ⟨hsame, -⟩
  obtain ⟨id, hsome, -⟩ := h.above x hx hrowid
  have heq : x = anchor := log.eventId_inj hx h.mem hsome (by rw [← hsame, hid, hsome])
  rw [heq] at hrowid
  exact hrowid.false

lemma take_eq_self_of_canonical {t : Text} (h : canonicalTimestamp H (t.take 20) = true) :
    t.take 20 = t := by
  have hlength : (t.take 20).length = 19 :=
    of_decide_eq_true (Bool.and_eq_true_iff.mp (Bool.and_eq_true_iff.mp h).1).1
  rw [List.length_take] at hlength
  exact List.take_of_length_le (by omega)

lemma canonical_take {t : Text} (h : canonicalTimestamp H t = true) : t.take 20 = t := by
  have hlength : t.length = 19 :=
    of_decide_eq_true (Bool.and_eq_true_iff.mp (Bool.and_eq_true_iff.mp h).1).1
  exact List.take_of_length_le (by omega)

/-- A row that is written later has another timestamp. -/
lemma timestamp_ne {r : Row} (hvalid : canonicalTimestamp H r.createdAt = true)
    (hlt : anchor.createdAt < r.createdAt) : r.selected.timestamp H ≠ anchor.selected.timestamp H := by
  have hr : r.selected.timestamp H = some r.createdAt := by
    show (if canonicalTimestamp H (r.createdAt.take 20) = true then some (r.createdAt.take 20)
      else none) = _
    rw [canonical_take hvalid, if_pos hvalid]
  intro heq
  have hanchor : (if canonicalTimestamp H (anchor.createdAt.take 20) = true then
      some (anchor.createdAt.take 20) else none) = some r.createdAt := heq.symm.trans hr
  rw [Option.ite_none_right_eq_some] at hanchor
  obtain ⟨hcanonical, hsome⟩ := hanchor
  rw [take_eq_self_of_canonical hcanonical] at hsome
  rw [Option.some.inj hsome] at hlt
  exact lt_irrefl _ hlt

/-! ## Steps -/

lemma lt_rowid_of_write {row : Row} (hrowid : row.rowid = lastRowid log.rows + 1) {r : Row}
    (hr : r ∈ log.rows) : r.rowid < row.rowid := by
  cases hhead : log.rows.head? with
  | none =>
      rw [List.head?_eq_none_iff.mp hhead] at hr
      exact absurd hr List.not_mem_nil
  | some head =>
      rw [hrowid, lastRowid, hhead]
      exact Nat.lt_succ_of_le (log.le_head hhead hr)

/-- `VACUUM` leaves an anchor where it is if every rowid below it is in use; else it moves it down. -/
lemma Anchored.vacuum (h : Anchored anchor base log) (hrows : log'.rows = renumbered log.rows) :
    Anchored anchor base log' ∨ Lost H anchor log' := by
  obtain ⟨front, back, heq⟩ := List.append_of_mem h.mem
  obtain ⟨front', hrenumbered, hrowid, hrow⟩ := renumbered_append front (anchor :: back)
  have hsorted := heq ▸ log.sorted
  obtain ⟨-, hback, hcross⟩ := List.pairwise_append.mp hsorted
  have hmem : ∀ {r : Row}, r ∈ front' → ∃ x ∈ log.rows, anchor.rowid < x.rowid ∧
      x.eventId = r.eventId := by
    intro r hr
    obtain ⟨x, hx, hid, -⟩ := hrow r hr
    refine ⟨x, ?_, hcross x hx anchor List.mem_cons_self, hid⟩
    rw [heq]
    exact List.mem_append_left _ hx
  have hpositive : ∀ r ∈ anchor :: back, 0 < r.rowid := by
    intro r hr
    refine log.positive r ?_
    rw [heq]
    exact List.mem_append_right _ hr
  have hlength : (anchor :: back).length ≤ anchor.rowid := by
    refine length_le_of_sorted hback hpositive ?_
    intro r hr
    rcases List.mem_cons.mp hr with rfl | hr
    · exact le_rfl
    · exact ((List.pairwise_cons.mp hback).1 r hr).le
  rw [heq, hrenumbered] at hrows
  by_cases hfull : (anchor :: back).length = anchor.rowid
  · -- every rowid up to the anchor's is in use
    have hsame : renumbered (anchor :: back) = anchor :: back := by
      refine renumbered_eq_self hback hpositive ?_
      intro r hr
      rcases List.mem_cons.mp hr with rfl | hr
      · exact hfull.ge
      · exact ((List.pairwise_cons.mp hback).1 r hr).le.trans hfull.ge
    rw [hsame] at hrows
    refine Or.inl ⟨?_, ?_, ?_⟩
    · rw [hrows]
      exact List.mem_append_right _ List.mem_cons_self
    · intro r hr hle
      rw [hrows] at hr
      rcases List.mem_append.mp hr with hr | hr
      · have hgt := hrowid r hr
        omega
      · refine h.below r ?_ hle
        rw [heq]
        exact List.mem_append_right _ hr
    · intro r hr hgt
      rw [hrows] at hr
      rcases List.mem_append.mp hr with hr | hr
      · obtain ⟨x, hx, hlt, hid⟩ := hmem hr
        rw [← hid]
        exact h.above x hx hlt
      · rcases List.mem_cons.mp hr with rfl | hr
        · exact absurd hgt (lt_irrefl _)
        · exact absurd hgt (not_lt.mpr ((List.pairwise_cons.mp hback).1 r hr).le)
  · refine Or.inr ⟨?_, Or.inr (Or.inr ?_)⟩
    · intro r hr hle
      rw [hrows] at hr
      rcases List.mem_append.mp hr with hr | hr
      · obtain ⟨x, hx, hlt, hid⟩ := hmem hr
        exact h.not_sameEvent hx hlt hid.symm
      · have hle' := rowid_le_of_mem_renumbered hr
        omega
    · obtain ⟨r, hr, hid, hat⟩ := exists_mem_renumbered (List.mem_cons_self : anchor ∈ anchor :: back)
      refine ⟨r, ?_, hid, hat⟩
      rw [hrows]
      exact List.mem_append_right _ hr

/-- **A step** leaves the anchor where it was, or it is lost. -/
lemma Anchored.step (h : Anchored anchor base log) (hstep : Step H log log') :
    Anchored anchor base log' ∨ Lost H anchor log' := by
  cases hstep with
  | write row id hid hne hfresh hrowid htimestamp hclock hrows hcutoff =>
      have hlt := lt_rowid_of_write hrowid h.mem
      refine Or.inl ⟨?_, ?_, ?_⟩
      · rw [hrows]
        exact List.mem_cons_of_mem _ h.mem
      · intro r hr hle
        rw [hrows] at hr
        rcases List.mem_cons.mp hr with rfl | hr
        · omega
        · exact h.below r hr hle
      · intro r hr hgt
        rw [hrows] at hr
        rcases List.mem_cons.mp hr with rfl | hr
        · exact ⟨id, hid, hne⟩
        · exact h.above r hr hgt
  | cleanup cutoff held hcutoff hrows hcutoff' =>
      have hsub : ∀ r ∈ log'.rows, r ∈ log.rows := by
        intro r hr
        rw [hrows] at hr
        exact List.mem_of_mem_filter hr
      by_cases hkept : anchor ∈ log'.rows
      · exact Or.inl ⟨hkept, fun r hr => h.below r (hsub r hr), fun r hr => h.above r (hsub r hr)⟩
      · refine Or.inr ⟨?_, Or.inr (Or.inl ?_)⟩
        · intro r hr hle
          have hne : anchor.rowid ≠ r.rowid := by
            intro heq
            exact hkept (log.rowid_inj h.mem (hsub r hr) heq ▸ hr)
          exact h.not_sameEvent (hsub r hr) (lt_of_le_of_ne hle hne) rfl
        · rw [hrows, List.mem_filter] at hkept
          rw [hcutoff']
          by_contra hge
          exact hkept ⟨h.mem, by simp [hge]⟩
  | vacuum hrows hcutoff => exact h.vacuum hrows

/-- **A lost anchor** stays lost. -/
lemma Lost.step (h : Lost H anchor log) (hstep : Step H log log') : Lost H anchor log' := by
  cases hstep with
  | write row id hid hne hfresh hrowid htimestamp hclock hrows hcutoff =>
      have hnew : ¬SameEvent H anchor row := by
        rintro ⟨hsame, hat⟩
        rw [hid] at hsame
        rcases h.later with hlegacy | hold | ⟨x, hx, hxid, -⟩
        · exact hne (hlegacy id hsame.symm)
        · exact timestamp_ne htimestamp (hold.trans_le hclock) hat
        · exact hfresh (List.mem_filterMap.mpr ⟨x, hx, hxid.trans hsame.symm⟩)
      refine ⟨?_, ?_⟩
      · intro r hr hle
        rw [hrows] at hr
        rcases List.mem_cons.mp hr with rfl | hr
        · exact hnew
        · exact h.gone r hr hle
      · rcases h.later with hlegacy | hold | ⟨x, hx, hx'⟩
        · exact Or.inl hlegacy
        · exact Or.inr (Or.inl (hcutoff ▸ hold))
        · exact Or.inr (Or.inr ⟨x, hrows ▸ List.mem_cons_of_mem _ hx, hx'⟩)
  | cleanup cutoff held hcutoff hrows hcutoff' =>
      refine ⟨?_, ?_⟩
      · intro r hr hle
        rw [hrows] at hr
        exact h.gone r (List.mem_of_mem_filter hr) hle
      · rcases h.later with hlegacy | hold | ⟨x, hx, hxid, hxat⟩
        · exact Or.inl hlegacy
        · exact Or.inr (Or.inl (hcutoff' ▸ hold.trans_le hcutoff))
        · by_cases hkept : x ∈ log'.rows
          · exact Or.inr (Or.inr ⟨x, hkept, hxid, hxat⟩)
          · refine Or.inr (Or.inl ?_)
            rw [hrows, List.mem_filter] at hkept
            rw [hcutoff', ← hxat]
            by_contra hge
            exact hkept ⟨hx, by simp [hge]⟩
  | vacuum hrows hcutoff =>
      refine ⟨?_, ?_⟩
      · intro r hr hle
        rw [hrows] at hr
        obtain ⟨x, hx, hid, hat, hrowid⟩ := exists_of_mem_renumbered log.sorted log.positive hr
        rintro ⟨hsame, htimestamp⟩
        refine h.gone x hx (hle.trans hrowid) ⟨hid.trans hsame, ?_⟩
        rwa [Selected.timestamp, Row.selected, hat]
      · rcases h.later with hlegacy | hold | ⟨x, hx, hxid, hxat⟩
        · exact Or.inl hlegacy
        · exact Or.inr (Or.inl (hcutoff ▸ hold))
        · obtain ⟨r, hr, hid, hat⟩ := exists_mem_renumbered hx
          exact Or.inr (Or.inr ⟨r, hrows ▸ hr, hid.trans hxid, hat.trans hxat⟩)

/-- **An anchor that is found again** where it was has not moved, and nothing was put below it. -/
theorem anchored_of_reaches (h : Anchored anchor base log) (hrun : Reaches H log log')
    (hfound : ∃ r ∈ log'.rows, r.rowid = anchor.rowid ∧ SameEvent H anchor r) :
    Anchored anchor base log' := by
  have hinv : Anchored anchor base log' ∨ Lost H anchor log' := by
    clear hfound
    induction hrun with
    | refl => exact Or.inl h
    | tail _ hstep ih =>
        rcases ih with hanchored | hlost
        · exact hanchored.step hstep
        · exact Or.inr (hlost.step hstep)
  rcases hinv with hanchored | hlost
  · exact hanchored
  · obtain ⟨r, hr, hrowid, hsame⟩ := hfound
    exact absurd hsame (hlost.gone r hr hrowid.ge)

end FwRouter.Events
