import Mathlib

/-!
# Reading a table page by page

The rows of a table are listed in descending order of their keys.  A page is the first so many rows
below a key, and the last key of a page is where the next one starts.  Rows may go between two pages.

`pairwise_rows` and `lt_of_mem_rows` say that no row comes twice, whatever the tables are;
`mem_rows_of_forall` that a row which every page could still see has come, once the position is
past it.
-/

namespace Paging

variable {κ ν : Type} [LinearOrder κ] (key : ν → κ)

/-- The rows below a key. -/
def rowsBelow (last : κ) (table : List ν) : List ν := table.filter fun r => decide (key r < last)

/-- The position after a page. -/
def next (last : κ) (page : List ν) : κ := (page.getLast?.map key).getD last

/-- Some pages, each of the table as it was then, from one position to another. -/
inductive Reads : κ → List (List ν × List ν) → κ → Prop
  | nil (last : κ) : Reads last [] last
  | cons {last final : κ} {table page : List ν} {rest : List (List ν × List ν)}
      (hsorted : table.Pairwise fun r s => key s < key r) (hpage : page <+: rowsBelow key last table)
      (hrest : Reads (next key last page) rest final) : Reads last ((table, page) :: rest) final

/-- Everything that was read, in order. -/
def rows (pages : List (List ν × List ν)) : List ν := (pages.map Prod.snd).flatten

variable {key} {last final : κ} {table page : List ν} {pages : List (List ν × List ν)} {r : ν}

omit [LinearOrder κ] in
lemma next_cons : next key last (r :: page) = next key (key r) page := by
  cases page with
  | nil => rfl
  | cons s page => simp [next, List.getLast?_cons]

lemma mem_rowsBelow : r ∈ rowsBelow key last table ↔ r ∈ table ∧ key r < last := by
  simp [rowsBelow]

lemma rowsBelow_rowsBelow {last' : κ} (h : last' ≤ last) :
    rowsBelow key last' (rowsBelow key last table) = rowsBelow key last' table := by
  unfold rowsBelow
  rw [List.filter_filter]
  refine List.filter_congr ?_
  intro r _
  have himp : key r < last' → key r < last := fun hr => hr.trans_le h
  by_cases hr : key r < last'
  · simp [hr, himp hr]
  · simp [hr]

lemma next_le_key (hsorted : page.Pairwise fun r s => key s < key r) (hr : r ∈ page) :
    next key last page ≤ key r := by
  obtain ⟨front, x, rfl⟩ := List.eq_nil_or_concat page |>.resolve_left (List.ne_nil_of_mem hr)
  rw [next, List.concat_eq_append, List.getLast?_concat]
  rw [List.concat_eq_append] at hr hsorted
  rcases List.mem_append.mp hr with hfront | hx
  · exact ((List.pairwise_append.mp hsorted).2.2 r hfront x (List.mem_singleton_self x)).le
  · exact (congrArg key (List.mem_singleton.mp hx)).ge

lemma next_le (hpage : page <+: rowsBelow key last table) : next key last page ≤ last := by
  rcases List.eq_nil_or_concat page with rfl | ⟨front, x, rfl⟩
  · exact le_rfl
  · have hx : x ∈ rowsBelow key last table :=
      hpage.subset (by rw [List.concat_eq_append]; exact List.mem_append_right _ List.mem_cons_self)
    rw [next, List.concat_eq_append, List.getLast?_concat]
    exact (mem_rowsBelow.mp hx).2.le

/-- Where a page has more to come, what is left of its table is what lies below the next position. -/
lemma rowsBelow_eq_append (hsorted : table.Pairwise fun r s => key s < key r)
    (hpage : page <+: rowsBelow key last table) :
    rowsBelow key last table = page ++ rowsBelow key (next key last page) table := by
  obtain ⟨rest, hrest⟩ := hpage
  have hdesc : (page ++ rest).Pairwise fun r s => key s < key r :=
    hrest ▸ hsorted.sublist List.filter_sublist
  rw [← rowsBelow_rowsBelow (next_le ⟨rest, hrest⟩), ← hrest]
  refine congrArg (page ++ ·) ?_
  rcases List.eq_nil_or_concat page with rfl | ⟨front, x, rfl⟩
  · -- nothing was read, and all of the rest lies below the old position
    refine (List.filter_eq_self.mpr ?_).symm
    intro s hs
    have hs : s ∈ rowsBelow key last table := hrest ▸ hs
    exact decide_eq_true (mem_rowsBelow.mp hs).2
  · rw [List.concat_eq_append] at hdesc ⊢
    have hnext : next key last (front ++ [x]) = key x := by
      rw [next, List.getLast?_concat]
      rfl
    obtain ⟨hfront, hbelow, hcross⟩ := List.pairwise_append.mp hdesc
    rw [hnext, rowsBelow, List.filter_append]
    have hnone : (front ++ [x]).filter (fun s => decide (key s < key x)) = [] := by
      refine List.filter_eq_nil_iff.mpr ?_
      intro s hs
      rw [decide_eq_true_eq, not_lt, ← hnext]
      exact next_le_key hfront hs
    have hall : rest.filter (fun s => decide (key s < key x)) = rest := by
      refine List.filter_eq_self.mpr ?_
      intro s hs
      exact decide_eq_true (hcross x (by simp) s hs)
    rw [hnone, hall, List.nil_append]

/-- A row between the two positions of a page is on the page. -/
lemma mem_page (hsorted : table.Pairwise fun r s => key s < key r)
    (hpage : page <+: rowsBelow key last table) (hr : r ∈ table) (hlast : key r < last)
    (hnext : next key last page ≤ key r) : r ∈ page := by
  have hmem : r ∈ rowsBelow key last table := mem_rowsBelow.mpr ⟨hr, hlast⟩
  rw [rowsBelow_eq_append hsorted hpage] at hmem
  rcases List.mem_append.mp hmem with hpage | hbelow
  · exact hpage
  · exact absurd (mem_rowsBelow.mp hbelow).2 (not_lt.mpr hnext)

/-! ## Several pages -/

lemma Reads.le (h : Reads key last pages final) : final ≤ last := by
  induction h with
  | nil last => exact le_rfl
  | cons _ hpage _ ih => exact ih.trans (next_le hpage)

/-- Every row lies between the first position and the last. -/
lemma Reads.bounds (h : Reads key last pages final) (hr : r ∈ rows pages) :
    final ≤ key r ∧ key r < last := by
  induction h with
  | nil last => exact absurd hr List.not_mem_nil
  | cons hsorted hpage hrest ih =>
      rcases List.mem_append.mp hr with hr | hr
      · have hdesc := (hsorted.sublist List.filter_sublist).sublist hpage.sublist
        exact ⟨hrest.le.trans (next_le_key hdesc hr), (mem_rowsBelow.mp (hpage.subset hr)).2⟩
      · exact ⟨(ih hr).1, (ih hr).2.trans_le (next_le hpage)⟩

/-- **No row comes twice**, and they come in descending order. -/
theorem Reads.pairwise_rows (h : Reads key last pages final) :
    (rows pages).Pairwise fun r s => key s < key r := by
  induction h with
  | nil last => exact List.Pairwise.nil
  | cons hsorted hpage hrest ih =>
      have hdesc := (hsorted.sublist List.filter_sublist).sublist hpage.sublist
      refine List.pairwise_append.mpr ⟨hdesc, ih, ?_⟩
      intro r hr s hs
      exact (hrest.bounds hs).2.trans_le (next_le_key hdesc hr)

/-- What was read was in the table when it was read. -/
lemma Reads.exists_table (h : Reads key last pages final) (hr : r ∈ rows pages) :
    ∃ p ∈ pages, r ∈ p.1 := by
  induction h with
  | nil last => exact absurd hr List.not_mem_nil
  | cons hsorted hpage hrest ih =>
      rcases List.mem_append.mp hr with hr | hr
      · exact ⟨_, List.mem_cons_self, (mem_rowsBelow.mp (hpage.subset hr)).1⟩
      · obtain ⟨p, hp, hr⟩ := ih hr
        exact ⟨p, List.mem_cons_of_mem _ hp, hr⟩

/-- **A row that is in every table has come** once the position is not above it. -/
theorem Reads.mem_rows (h : Reads key last pages final) (hr : ∀ p ∈ pages, r ∈ p.1)
    (hlast : key r < last) (hfinal : final ≤ key r) : r ∈ rows pages := by
  induction h with
  | nil last => exact absurd hfinal (not_le.mpr hlast)
  | @cons last final table page rest hsorted hpage hrest ih =>
      refine List.mem_append.mpr ?_
      by_cases hnext : next key last page ≤ key r
      · exact Or.inl (mem_page hsorted hpage (hr _ List.mem_cons_self) hlast hnext)
      · exact Or.inr (ih (fun p hp => hr p (List.mem_cons_of_mem _ hp)) (not_le.mp hnext) hfinal)

lemma Reads.concat (h : Reads key last pages final)
    (hsorted : table.Pairwise fun r s => key s < key r) (hpage : page <+: rowsBelow key final table) :
    Reads key last (pages ++ [(table, page)]) (next key final page) := by
  induction h with
  | nil last => exact .cons hsorted hpage (.nil _)
  | cons hsorted' hpage' _ ih => exact .cons hsorted' hpage' (ih hpage)

lemma rows_concat (pages : List (List ν × List ν)) (table page : List ν) :
    rows (pages ++ [(table, page)]) = rows pages ++ page := by
  simp [rows]

/-- Rows that were all in one table come in its order. -/
lemma Reads.sublist (h : Reads key last pages final) (hsorted : table.Pairwise fun r s => key s < key r)
    (hsub : ∀ r ∈ rows pages, r ∈ table) : (rows pages).Sublist table := by
  have hanti : Std.Antisymm fun r s : ν => key s < key r := ⟨fun _ _ hlt hlt' => absurd hlt hlt'.asymm⟩
  have hirrefl : Std.Irrefl fun r s : ν => key s < key r := ⟨fun _ => lt_irrefl _⟩
  exact List.sublist_of_subperm_of_pairwise (List.subperm_of_subset h.pairwise_rows.nodup hsub)
    h.pairwise_rows hsorted

end Paging
