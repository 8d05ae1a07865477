import FwRouter.Library.Rotation
import FwRouter.Python.Text

/-!
# Rotation of the member probes

`probe_members` of `logical_topology.py` probes a few of the due members in each round: some active
ones, then the three categories by turns.  All these queues go on from one cursor, the last member of
the round before.  A round always takes as many distinct members as it can.  But a queue that was cut
short before the cursor's new place has lost its own: with two categories and a budget of two a member
can be left out forever (`Example.member_starves`).  If nothing is overtaken, all members are reached
(`probe_rotation`), as where all of them are in one category (`inTurn_of_one_category`).
-/

namespace FwRouter.Health

open Py Rotation

/-! ## One round -/

/-- A row of the due members. -/
structure ProbeRow where
  logicalServerId : Text
  memberId : Text
  activeMemberId : Option Text
  status : Option Text
  checkedAt : Option Text
deriving DecidableEq

/-- What the cursor is compared with: the pair of the two ids. -/
abbrev ProbeKey := Text ×ₗ Text

namespace ProbeRow

def key (row : ProbeRow) : ProbeKey := toLex (row.logicalServerId, row.memberId)

def isActive (row : ProbeRow) : Bool := decide (row.activeMemberId = some row.memberId)

/-- The three categories: never checked, not healthy, healthy. -/
def isUnchecked (row : ProbeRow) : Bool := row.checkedAt.isNone

def isUnhealthy (row : ProbeRow) : Bool :=
  row.checkedAt.isSome && decide (row.status ≠ some "healthy".toList)

def isHealthy (row : ProbeRow) : Bool :=
  row.checkedAt.isSome && decide (row.status = some "healthy".toList)

end ProbeRow

/-- `max(1, min(int(budget), 20))`. -/
def safeBudget (budget : ℤ) : ℕ := (max 1 (min budget 20)).toNat

/-- `_rotate_probe_rows`. -/
def rotateProbeRows (rows : List ProbeRow) (cursor : ProbeKey) : List ProbeRow :=
  (rows.filter fun row => decide (cursor < row.key)) ++
    rows.filter fun row => decide (row.key ≤ cursor)

/-- The first rows of a round: active members, up to a third of the budget. -/
def activeShare (budget : ℤ) (rows : List ProbeRow) (cursor : ProbeKey) : List ProbeRow :=
  (rotateProbeRows (rows.filter ProbeRow.isActive) cursor).take (max 1 (safeBudget budget / 3))

/-- The categories of the other rows. -/
def categories (budget : ℤ) (rows : List ProbeRow) (cursor : ProbeKey) : List (List ProbeRow) :=
  let selectedKeys := (activeShare budget rows cursor).map ProbeRow.key
  let remaining := rows.filter fun row => decide (row.key ∉ selectedKeys)
  [rotateProbeRows (remaining.filter ProbeRow.isUnchecked) cursor,
    rotateProbeRows (remaining.filter ProbeRow.isUnhealthy) cursor,
    rotateProbeRows (remaining.filter ProbeRow.isHealthy) cursor]

/-- The rows that a round of `probe_members` selects. -/
def selectRows (budget : ℤ) (rows : List ProbeRow) (cursor : ProbeKey) : List ProbeRow :=
  let selected := activeShare budget rows cursor
  selected ++ serve (safeBudget budget - selected.length) (categories budget rows cursor)

/-- The cursor that a round stores. -/
def nextCursor (budget : ℤ) (rows : List ProbeRow) (cursor : ProbeKey) : ProbeKey :=
  (((selectRows budget rows cursor).getLast?).map ProbeRow.key).getD cursor

/-- The cursor after `k` rounds in which the same rows are due. -/
def cursorAfter (budget : ℤ) (rows : List ProbeRow) (cursor : ProbeKey) (k : ℕ) : ProbeKey :=
  (nextCursor budget rows)^[k] cursor

/-! ## Turns -/

/-- In a round the row has its turn after `t` others: in the share of the active members, or when the
categories are served in turn. -/
def HasTurn (budget : ℤ) (rows : List ProbeRow) (cursor : ProbeKey) (row : ProbeRow) (t : ℕ) : Prop :=
  (activeShare budget rows cursor)[t]? = some row ∨
    ∃ i m, At (categories budget rows cursor) i m row ∧
      t = (activeShare budget rows cursor).length + turn (categories budget rows cursor) i m

/-- The row whose turn is the last one of the budget comes before every row whose turn is later. -/
def InTurn (budget : ℤ) (rows : List ProbeRow) (cursor : ProbeKey) : Prop :=
  ∀ row row' t t', HasTurn budget rows cursor row t → HasTurn budget rows cursor row' t' →
    t + 1 = safeBudget budget → safeBudget budget ≤ t' → Ahead cursor row.key row'.key

section Round

variable {budget : ℤ} {rows : List ProbeRow} {cursor : ProbeKey} {row : ProbeRow} {t : ℕ}

lemma safeBudget_pos : 0 < safeBudget budget := by
  rw [safeBudget]
  omega

lemma rotateProbeRows_perm : (rotateProbeRows rows cursor).Perm rows := by
  have hother : (fun row : ProbeRow => decide (row.key ≤ cursor)) =
      fun row => !decide (cursor < row.key) := by
    funext row
    rw [← decide_not, decide_eq_decide, not_lt]
  rw [rotateProbeRows, hother]
  exact List.filter_append_perm _ _

lemma mem_activeShare (h : row ∈ activeShare budget rows cursor) : row ∈ rows := by
  have hmem := rotateProbeRows_perm.mem_iff.mp (List.mem_of_mem_take h)
  exact (List.mem_filter.mp hmem).1

lemma length_activeShare_le : (activeShare budget rows cursor).length ≤ safeBudget budget := by
  have hpos := @safeBudget_pos budget
  rw [activeShare, List.length_take]
  omega

/-- The three categories are all that the share leaves. -/
lemma flatten_categories_perm : (categories budget rows cursor).flatten.Perm
    (rows.filter fun row => decide (row.key ∉ (activeShare budget rows cursor).map ProbeRow.key)) := by
  rw [categories]
  generalize (rows.filter fun row =>
    decide (row.key ∉ (activeShare budget rows cursor).map ProbeRow.key)) = remaining
  have hchecked : remaining.filter (fun row => !row.isUnchecked) =
      remaining.filter fun row => row.checkedAt.isSome := by
    refine List.filter_congr fun row _ => ?_
    rw [ProbeRow.isUnchecked, Option.not_isNone]
  have hunhealthy : (remaining.filter fun row => row.checkedAt.isSome).filter
      (fun row => decide (row.status ≠ some "healthy".toList)) =
        remaining.filter ProbeRow.isUnhealthy := by
    rw [List.filter_filter]
    refine List.filter_congr fun row _ => ?_
    rw [ProbeRow.isUnhealthy, Bool.and_comm]
  have hhealthy : (remaining.filter fun row => row.checkedAt.isSome).filter
      (fun row => !decide (row.status ≠ some "healthy".toList)) =
        remaining.filter ProbeRow.isHealthy := by
    rw [List.filter_filter]
    refine List.filter_congr fun row _ => ?_
    rw [ProbeRow.isHealthy, Bool.and_comm, ← decide_not, decide_eq_decide.mpr not_not]
  have hstatus := List.filter_append_perm (fun row : ProbeRow =>
    decide (row.status ≠ some "healthy".toList)) (remaining.filter fun row => row.checkedAt.isSome)
  rw [hunhealthy, hhealthy, ← hchecked] at hstatus
  have hall := List.filter_append_perm ProbeRow.isUnchecked remaining
  refine List.Perm.trans ?_ ((hstatus.append_left _).trans hall)
  simp only [List.flatten_cons, List.flatten_nil, List.append_nil]
  exact rotateProbeRows_perm.append (rotateProbeRows_perm.append rotateProbeRows_perm)

/-- The share and the categories are the due rows. -/
lemma share_append_categories_perm (hkeys : (rows.map ProbeRow.key).Nodup) :
    (activeShare budget rows cursor ++ (categories budget rows cursor).flatten).Perm rows := by
  have hrows : rows.Nodup := List.Nodup.of_map _ hkeys
  have hshare : (activeShare budget rows cursor).Nodup :=
    (rotateProbeRows_perm.nodup_iff.mpr (hrows.filter _)).sublist (List.take_sublist _ _)
  have hin : (rows.filter fun row =>
      decide (row.key ∈ (activeShare budget rows cursor).map ProbeRow.key)).Perm
        (activeShare budget rows cursor) := by
    refine (List.perm_ext_iff_of_nodup (hrows.filter _) hshare).mpr fun row => ?_
    rw [List.mem_filter, decide_eq_true_eq, List.mem_map]
    constructor
    · rintro ⟨hrow, other, hother, hkey⟩
      rwa [← List.inj_on_of_nodup_map hkeys (mem_activeShare hother) hrow hkey]
    · exact fun hrow => ⟨mem_activeShare hrow, row, hrow, rfl⟩
  have hall := List.filter_append_perm (fun row : ProbeRow =>
    decide (row.key ∈ (activeShare budget rows cursor).map ProbeRow.key)) rows
  refine List.Perm.trans (hin.symm.append ?_) hall
  simpa only [decide_not] using flatten_categories_perm

/-- **A round takes distinct due rows**, as many as the budget has room for. -/
lemma selectRows_spec (hkeys : (rows.map ProbeRow.key).Nodup) :
    (selectRows budget rows cursor).Nodup ∧ selectRows budget rows cursor ⊆ rows ∧
      (selectRows budget rows cursor).length = min (safeBudget budget) rows.length := by
  obtain ⟨rest, hserved, hrest⟩ := serve_perm
    (safeBudget budget - (activeShare budget rows cursor).length) (categories budget rows cursor)
  have hperm : (selectRows budget rows cursor ++ rest).Perm rows := by
    rw [selectRows, List.append_assoc]
    exact (hserved.append_left _).trans (share_append_categories_perm hkeys)
  have hnodup := hperm.nodup_iff.mpr (List.Nodup.of_map _ hkeys)
  refine ⟨hnodup.of_append_left, fun row hrow => hperm.subset (List.mem_append_left _ hrow), ?_⟩
  have hlength := hperm.length_eq
  have hshare := @length_activeShare_le budget rows cursor
  have hroom := @length_serve_le _ (categories budget rows cursor)
    (safeBudget budget - (activeShare budget rows cursor).length)
  have hselected : (selectRows budget rows cursor).length = (activeShare budget rows cursor).length +
      (serve (safeBudget budget - (activeShare budget rows cursor).length)
        (categories budget rows cursor)).length := by
    rw [selectRows, List.length_append]
  rw [List.length_append] at hlength
  rcases hrest with rfl | hfull
  · rw [List.length_nil] at hlength
    omega
  · omega

/-! ### Every row has its turn -/

lemma exists_hasTurn (hkeys : (rows.map ProbeRow.key).Nodup) (h : row ∈ rows) :
    ∃ t, HasTurn budget rows cursor row t := by
  have hmem := (@share_append_categories_perm budget rows cursor hkeys).mem_iff.mpr h
  rcases List.mem_append.mp hmem with hshare | hcategory
  · obtain ⟨t, ht⟩ := List.mem_iff_getElem?.mp hshare
    exact ⟨t, Or.inl ht⟩
  · obtain ⟨queue, hqueue, hrow⟩ := List.mem_flatten.mp hcategory
    obtain ⟨i, hi⟩ := List.mem_iff_getElem?.mp hqueue
    obtain ⟨m, hm⟩ := List.mem_iff_getElem?.mp hrow
    exact ⟨_, Or.inr ⟨i, m, ⟨queue, hi, hm⟩, rfl⟩⟩

/-- A row whose turn the budget reaches is selected. -/
lemma HasTurn.selected (h : HasTurn budget rows cursor row t) (ht : t < safeBudget budget) :
    row ∈ selectRows budget rows cursor := by
  rw [selectRows]
  rcases h with hshare | ⟨i, m, hat, rfl⟩
  · exact List.mem_append_left _ (List.mem_of_getElem? hshare)
  · refine List.mem_append_right _ (List.mem_of_getElem? (getElem?_serve hat ?_))
    omega

/-- A selected row was selected at its turn. -/
lemma hasTurn_of_selected (h : (selectRows budget rows cursor)[t]? = some row) :
    HasTurn budget rows cursor row t := by
  rw [selectRows, List.getElem?_append] at h
  split_ifs at h with hshare
  · exact Or.inl h
  · obtain ⟨i, m, hat, hturn⟩ := turn_of_serve h
    refine Or.inr ⟨i, m, hat, ?_⟩
    omega

lemma nextCursor_of_last (h : (selectRows budget rows cursor).getLast? = some row) :
    nextCursor budget rows cursor = row.key := by rw [nextCursor, h, Option.map_some, Option.getD_some]

lemma nextCursor_mem (hkeys : (rows.map ProbeRow.key).Nodup) (hrows : 0 < rows.length) :
    nextCursor budget rows cursor ∈ rows.map ProbeRow.key := by
  obtain ⟨-, hsubset, hlength⟩ := @selectRows_spec budget rows cursor hkeys
  have hpos := @safeBudget_pos budget
  have hne : selectRows budget rows cursor ≠ [] := List.ne_nil_of_length_pos (by omega)
  rw [nextCursor_of_last (List.getLast?_eq_some_getLast hne)]
  exact List.mem_map_of_mem (hsubset (List.getLast_mem hne))

/-- **Nothing is overtaken** where the round is in turn: the new cursor comes before every row that is
left out. -/
lemma ahead_of_inTurn (hkeys : (rows.map ProbeRow.key).Nodup) (hturn : InTurn budget rows cursor)
    (hrow : row ∈ rows) (hout : row ∉ selectRows budget rows cursor) :
    Ahead cursor (nextCursor budget rows cursor) row.key := by
  obtain ⟨hnodup, hsubset, hlength⟩ := @selectRows_spec budget rows cursor hkeys
  have hpos := @safeBudget_pos budget
  have hfull : (selectRows budget rows cursor).length = safeBudget budget := by
    rcases min_choice (safeBudget budget) rows.length with hmin | hmin
    · rw [hlength, hmin]
    · -- all rows would be selected
      have hperm := (hnodup.subperm hsubset).perm_of_length_le (by rw [hlength, hmin])
      exact absurd (hperm.mem_iff.mpr hrow) hout
  have hlast : (selectRows budget rows cursor)[safeBudget budget - 1]? =
      (selectRows budget rows cursor).getLast? := by rw [List.getLast?_eq_getElem?, hfull]
  obtain ⟨last, hlast'⟩ : ∃ last, (selectRows budget rows cursor)[safeBudget budget - 1]? = some last :=
    ⟨_, List.getElem?_eq_getElem (by omega)⟩
  rw [nextCursor_of_last (hlast.symm.trans hlast')]
  obtain ⟨t', ht'⟩ := @exists_hasTurn budget rows cursor row hkeys hrow
  refine hturn last row _ t' (hasTurn_of_selected hlast') ht' (by omega) ?_
  exact not_lt.mp fun hlt => hout (ht'.selected hlt)

end Round

/-! ## All rounds -/

/-- **The rotation of the member probes.**  A round takes as many distinct due rows as the budget has
room for.  While the same rows are due, as many rounds as there are rows take all of them, if all of
these rounds are in turn. -/
theorem probe_rotation (budget : ℤ) (rows : List ProbeRow) (hkeys : (rows.map ProbeRow.key).Nodup) :
    (∀ cursor, (selectRows budget rows cursor).Nodup ∧ selectRows budget rows cursor ⊆ rows ∧
      (selectRows budget rows cursor).length = min (safeBudget budget) rows.length) ∧
    ∀ cursor, (∀ k < rows.length, InTurn budget rows (cursorAfter budget rows cursor k)) →
      ∀ row ∈ rows, ∃ k < rows.length,
        row ∈ selectRows budget rows (cursorAfter budget rows cursor k) := by
  refine ⟨fun cursor => selectRows_spec hkeys, fun cursor hturns row hrow => ?_⟩
  have hcard : (rows.map ProbeRow.key).toFinset.card = rows.length := by
    rw [List.toFinset_card_of_nodup hkeys, List.length_map]
  have hnext : ∀ k, cursorAfter budget rows cursor (k + 1) =
      nextCursor budget rows (cursorAfter budget rows cursor k) := fun k => by
    rw [cursorAfter, Function.iterate_succ_apply', cursorAfter]
  obtain ⟨k, hk, taken, htaken, hkey⟩ := exists_taken (rows.map ProbeRow.key).toFinset
    (cursorAfter budget rows cursor)
    (fun k y => ∃ row ∈ selectRows budget rows (cursorAfter budget rows cursor k), row.key = y)
    (fun k hk => by
      rw [hnext, List.mem_toFinset]
      exact nextCursor_mem hkeys (by omega))
    (fun k hk y hy hout => by
      rw [List.mem_toFinset, List.mem_map] at hy
      obtain ⟨left, hleft, rfl⟩ := hy
      rw [hnext]
      exact ahead_of_inTurn hkeys (hturns k (hcard ▸ hk)) hleft fun hin => hout ⟨left, hin, rfl⟩)
    (List.mem_toFinset.mpr (List.mem_map_of_mem hrow))
  have hsubset := (@selectRows_spec budget rows (cursorAfter budget rows cursor k) hkeys).2.1
  rw [← List.inj_on_of_nodup_map hkeys (hsubset htaken) hrow hkey]
  exact ⟨k, hcard ▸ hk, htaken⟩

/-! ## Rounds that are in turn -/

/-- With room for all rows a round is in turn. -/
lemma inTurn_of_room {budget : ℤ} {rows : List ProbeRow} {cursor : ProbeKey}
    (hkeys : (rows.map ProbeRow.key).Nodup) (h : rows.length ≤ safeBudget budget) :
    InTurn budget rows cursor := by
  intro row row' t t' _ hlater _ hle
  have hlength := (@share_append_categories_perm budget rows cursor hkeys).length_eq
  rw [List.length_append] at hlength
  rcases hlater with hshare | ⟨i, m, hat, rfl⟩
  · have := (List.getElem?_eq_some_iff.mp hshare).1
    omega
  · have := turn_lt hat
    omega

/-- Rows that stand in the order of their keys are rotated so. -/
lemma pairwise_rotateProbeRows {rows : List ProbeRow} {cursor : ProbeKey}
    (h : rows.Pairwise fun row row' => row.key < row'.key) :
    (rotateProbeRows rows cursor).Pairwise fun row row' => Ahead cursor row.key row'.key := by
  rw [rotateProbeRows, List.pairwise_append]
  have hlater : ∀ {row}, row ∈ rows.filter (fun row => decide (cursor < row.key)) → cursor < row.key :=
    fun hrow => of_decide_eq_true (List.mem_filter.mp hrow).2
  have hearlier : ∀ {row}, row ∈ rows.filter (fun row => decide (row.key ≤ cursor)) → row.key ≤ cursor :=
    fun hrow => of_decide_eq_true (List.mem_filter.mp hrow).2
  refine ⟨?_, ?_, fun row hrow row' hrow' => Or.inl ⟨hlater hrow, hearlier hrow'⟩⟩
  · refine (h.sublist List.filter_sublist).imp_of_mem fun hrow hrow' hlt => Or.inr ⟨?_, hlt⟩
    exact iff_of_true (hlater hrow) (hlater hrow')
  · refine (h.sublist List.filter_sublist).imp_of_mem fun hrow hrow' hlt => Or.inr ⟨?_, hlt⟩
    exact iff_of_false (not_lt.mpr (hearlier hrow)) (not_lt.mpr (hearlier hrow'))

/-- Where only one queue has rows, an item's turn is its index. -/
lemma turn_of_one_queue {queue : List ProbeRow} {queues : List (List ProbeRow)} {i m : ℕ} {row : ProbeRow}
    (hqueues : queues ∈ [[queue, [], []], [[], queue, []], [[], [], queue]])
    (h : At queues i m row) : queue[m]? = some row ∧ turn queues i m = m := by
  have hmin : queue[m]? = some row → min queue.length m = m := fun hrow =>
    min_eq_right (List.getElem?_eq_some_iff.mp hrow).1.le
  simp only [List.mem_cons, List.not_mem_nil, or_false] at hqueues
  rcases hqueues with rfl | rfl | rfl
  · rcases i with _ | _ | _ | i
    · have hrow : queue[m]? = some row := by simpa [At] using h
      exact ⟨hrow, by simpa [turn] using hmin hrow⟩
    all_goals simp [At] at h
  · rcases i with _ | _ | _ | i
    · simp [At] at h
    · have hrow : queue[m]? = some row := by simpa [At] using h
      exact ⟨hrow, by simpa [turn] using hmin hrow⟩
    all_goals simp [At] at h
  · rcases i with _ | _ | _ | i
    · simp [At] at h
    · simp [At] at h
    · have hrow : queue[m]? = some row := by simpa [At] using h
      exact ⟨hrow, by simpa [turn] using hmin hrow⟩
    · simp [At] at h

/-! The categories exclude each other. -/

lemma ProbeRow.others_of_unchecked {row : ProbeRow} (h : row.isUnchecked = true) :
    row.isUnhealthy = false ∧ row.isHealthy = false := by
  rw [isUnchecked, ← Option.not_isSome, Bool.not_eq_true'] at h
  rw [isUnhealthy, isHealthy, h, Bool.false_and, Bool.false_and]
  exact ⟨rfl, rfl⟩

lemma ProbeRow.others_of_unhealthy {row : ProbeRow} (h : row.isUnhealthy = true) :
    row.isUnchecked = false ∧ row.isHealthy = false := by
  rw [isUnhealthy, Bool.and_eq_true] at h
  rw [isUnchecked, isHealthy, ← Option.not_isSome, h.1, decide_eq_false (of_decide_eq_true h.2),
    Bool.and_false]
  exact ⟨rfl, rfl⟩

lemma ProbeRow.others_of_healthy {row : ProbeRow} (h : row.isHealthy = true) :
    row.isUnchecked = false ∧ row.isUnhealthy = false := by
  rw [isHealthy, Bool.and_eq_true] at h
  rw [isUnchecked, isUnhealthy, ← Option.not_isSome, h.1,
    decide_eq_false (not_not.mpr (of_decide_eq_true h.2)), Bool.and_false]
  exact ⟨rfl, rfl⟩

lemma categories_of_one {budget : ℤ} {rows : List ProbeRow} {cursor : ProbeKey} {p : ProbeRow → Bool}
    (hp : p ∈ [ProbeRow.isUnchecked, ProbeRow.isUnhealthy, ProbeRow.isHealthy])
    (hrows : ∀ row ∈ rows, p row = true) : ∃ remaining, remaining.Sublist rows ∧
      categories budget rows cursor ∈ [[rotateProbeRows remaining cursor, [], []],
        [[], rotateProbeRows remaining cursor, []], [[], [], rotateProbeRows remaining cursor]] := by
  obtain ⟨remaining, hremaining⟩ : ∃ remaining, (rows.filter fun row =>
      decide (row.key ∉ (activeShare budget rows cursor).map ProbeRow.key)) = remaining := ⟨_, rfl⟩
  have hsub : remaining.Sublist rows := hremaining ▸ List.filter_sublist
  have hall : ∀ row ∈ remaining, p row = true := fun row hrow => hrows row (hsub.subset hrow)
  have hself : remaining.filter p = remaining := List.filter_eq_self.mpr hall
  have hnone : ∀ q : ProbeRow → Bool, (∀ row ∈ remaining, q row = false) →
      rotateProbeRows (remaining.filter q) cursor = [] := by
    intro q hq
    have hempty : remaining.filter q = [] :=
      List.filter_eq_nil_iff.mpr fun row hrow => by rw [hq row hrow]; decide
    rw [hempty]
    rfl
  refine ⟨remaining, hsub, ?_⟩
  rw [categories, hremaining]
  simp only [List.mem_cons, List.not_mem_nil, or_false] at hp ⊢
  rcases hp with rfl | rfl | rfl
  · rw [hself, hnone _ fun row hrow => (ProbeRow.others_of_unchecked (hall row hrow)).1,
      hnone _ fun row hrow => (ProbeRow.others_of_unchecked (hall row hrow)).2]
    exact Or.inl rfl
  · rw [hself, hnone _ fun row hrow => (ProbeRow.others_of_unhealthy (hall row hrow)).1,
      hnone _ fun row hrow => (ProbeRow.others_of_unhealthy (hall row hrow)).2]
    exact Or.inr (Or.inl rfl)
  · rw [hself, hnone _ fun row hrow => (ProbeRow.others_of_healthy (hall row hrow)).1,
      hnone _ fun row hrow => (ProbeRow.others_of_healthy (hall row hrow)).2]
    exact Or.inr (Or.inr rfl)

/-- **Rows of one category** in the order of their keys: with a budget of two or more, so that the
active share does not take it all, every round is in turn. -/
theorem inTurn_of_one_category {budget : ℤ} {rows : List ProbeRow} {p : ProbeRow → Bool}
    (hbudget : 2 ≤ safeBudget budget) (hsorted : rows.Pairwise fun row row' => row.key < row'.key)
    (hp : p ∈ [ProbeRow.isUnchecked, ProbeRow.isUnhealthy, ProbeRow.isHealthy])
    (hrows : ∀ row ∈ rows, p row = true) (cursor : ProbeKey) : InTurn budget rows cursor := by
  obtain ⟨remaining, hsub, hqueues⟩ := @categories_of_one budget rows cursor p hp hrows
  have hpairwise := @pairwise_rotateProbeRows remaining cursor (hsorted.sublist hsub)
  have hshare : (activeShare budget rows cursor).length + 1 ≤ safeBudget budget := by
    rw [activeShare, List.length_take]
    omega
  intro row row' t t' hturn hturn' hlast hlater
  rcases hturn' with hfirst | ⟨i', m', hat', rfl⟩
  · have := (List.getElem?_eq_some_iff.mp hfirst).1
    omega
  rcases hturn with hfirst | ⟨i, m, hat, rfl⟩
  · have := (List.getElem?_eq_some_iff.mp hfirst).1
    omega
  obtain ⟨hrow, hm⟩ := turn_of_one_queue hqueues hat
  obtain ⟨hrow', hm'⟩ := turn_of_one_queue hqueues hat'
  rw [hm] at hlast
  rw [hm'] at hlater
  obtain ⟨hlt, rfl⟩ := List.getElem?_eq_some_iff.mp hrow
  obtain ⟨hlt', rfl⟩ := List.getElem?_eq_some_iff.mp hrow'
  exact List.pairwise_iff_getElem.mp hpairwise m m' hlt hlt' (by omega)

/-! ## Examples -/

namespace Example

def dueMember (memberId : String) (status checkedAt : Option Text) : ProbeRow :=
  ⟨"s".toList, memberId.toList, none, status, checkedAt⟩

/-- Three members that were never checked. -/
def uncheckedMembers : List ProbeRow :=
  [dueMember "a" none none, dueMember "b" none none, dueMember "c" none none]

def mixedMembers : List ProbeRow :=
  [dueMember "a" none none, dueMember "b" none none,
    dueMember "c" (some "failed".toList) (some "2026-01-01 00:00:00".toList)]

def startCursor : ProbeKey := toLex ([], [])

/-- The third member is reached: the second round of two goes on where the first one ended. -/
theorem unchecked_member_reached : ∃ k < 3, dueMember "c" none none ∈
    selectRows 2 uncheckedMembers (cursorAfter 2 uncheckedMembers startCursor k) :=
  (probe_rotation 2 uncheckedMembers (by decide +kernel)).2 startCursor
    (fun _ _ => inTurn_of_one_category (by decide +kernel) (by decide +kernel)
      (List.mem_cons_self (a := ProbeRow.isUnchecked)) (by decide +kernel) _)
    (dueMember "c" none none) (by decide +kernel)

/-- **A member starves**: the failed one, which comes last, takes the cursor to the end in each round,
so that the other queue starts again. -/
theorem member_starves : ¬ ∀ (budget : ℤ) (rows : List ProbeRow), (rows.map ProbeRow.key).Nodup →
    (∀ cursor, (selectRows budget rows cursor).Nodup ∧ selectRows budget rows cursor ⊆ rows ∧
      (selectRows budget rows cursor).length = min (safeBudget budget) rows.length) ∧
    ∀ cursor, ∀ row ∈ rows, ∃ k < rows.length,
      row ∈ selectRows budget rows (cursorAfter budget rows cursor k) := by
  intro h
  have hreached := (h 2 mixedMembers (by decide +kernel)).2 startCursor (dueMember "b" none none)
    (by decide +kernel)
  revert hreached
  decide +kernel

end Example

end FwRouter.Health
