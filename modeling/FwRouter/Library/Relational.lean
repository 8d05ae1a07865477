import Mathlib

/-!
# Databases with foreign keys

Tables of rows, where a row maps columns to cells, under a schema with primary keys, checks and foreign
keys.  A delete takes more rows than it names: a row that refers to a deleted one by `CASCADE` is
deleted too, along whole chains of references, and a row that refers to one by `SET NULL` loses the
reference.  `doomed` says which rows of which table go, `delete` is what is left.

A column with a `SET NULL` reference is no part of a key that other rows refer to, and the references
have no cycle: chains are at most `depth` rows long.

The statements that write have one lemma each: what is left of a delete (`mem_delete_of_*`,
`delete_eq_of_not_feeds`), and that an insert or an update that succeeds has changed its own table
alone (`insertAll_eq_update`, `updateWhere_eq_update`).
-/

namespace Relational

/-- What happens to a row when the row it refers to is deleted. -/
inductive OnDelete
  | cascade
  | setNull
  deriving DecidableEq

/-- `FOREIGN KEY (columns of the child) REFERENCES parent (columns of the parent) ON DELETE …`. -/
structure Reference (τ κ : Type) where
  child : τ
  parent : τ
  columns : List (κ × κ)
  onDelete : OnDelete
  deriving DecidableEq

abbrev Row (κ ν : Type) := κ → ν

abbrev Database (τ κ ν : Type) := τ → List (Row κ ν)

/-- A schema: `admits` are the checks of one row and `clash` says that two rows break a unique index. -/
structure Schema (τ κ ν : Type) where
  null : ν
  references : List (Reference τ κ)
  depth : ℕ
  key : τ → List κ
  admits : τ → Row κ ν → Bool
  clash : τ → Row κ ν → Row κ ν → Bool

/-- Why a statement fails. -/
inductive Violation
  | check
  | unique
  | foreignKey
  deriving DecidableEq

variable {τ κ ν : Type} [DecidableEq τ] [DecidableEq ν]

/-- Deletes from `t₀` may reach `t`, along at most `n` of the references. -/
def feeds (references : List (Reference τ κ)) (t₀ : τ) : ℕ → τ → Bool
  | 0, t => decide (t = t₀)
  | n + 1, t => decide (t = t₀) ||
      references.any fun ref => decide (ref.child = t) && feeds references t₀ n ref.parent

namespace Schema

variable (S : Schema τ κ ν)

/-- The child refers to the parent; a reference with a null refers to nothing. -/
def refers (ref : Reference τ κ) (child parent : Row κ ν) : Bool :=
  ref.columns.all fun c => decide (child c.1 ≠ S.null ∧ child c.1 = parent c.2)

/-- The row has the key of the other; a key with a null is like no other. -/
def sameKey (t : τ) (r s : Row κ ν) : Bool :=
  (S.key t).all fun c => decide (r c ≠ S.null ∧ r c = s c)

/-! ## Deleting -/

/-- The rows that `DELETE FROM t₀ WHERE p` takes, along chains of at most `n` rows. -/
def doomed (db : Database τ κ ν) (t₀ : τ) (p : Row κ ν → Bool) : ℕ → τ → Row κ ν → Bool
  | 0, _, _ => false
  | n + 1, t, r => decide (t = t₀) && p r || S.references.any fun ref =>
      decide (ref.child = t) && decide (ref.onDelete = .cascade) &&
        (db ref.parent).any fun q => S.refers ref r q && doomed db t₀ p n ref.parent q

section Delete

variable [DecidableEq κ]

/-- The column holds a `SET NULL` reference to a row that the delete takes. -/
def loses (db : Database τ κ ν) (t₀ : τ) (p : Row κ ν → Bool) (t : τ) (r : Row κ ν) (c : κ) : Bool :=
  S.references.any fun ref =>
    decide (ref.child = t) && decide (ref.onDelete = .setNull) && decide (c ∈ ref.columns.map Prod.fst) &&
      (db ref.parent).any fun q => S.refers ref r q && S.doomed db t₀ p S.depth ref.parent q

/-- The row without its lost references. -/
def detached (db : Database τ κ ν) (t₀ : τ) (p : Row κ ν → Bool) (t : τ) (r : Row κ ν) : Row κ ν :=
  fun c => if S.loses db t₀ p t r c then S.null else r c

/-- `DELETE FROM t₀ WHERE p`. -/
def delete (t₀ : τ) (p : Row κ ν → Bool) (db : Database τ κ ν) : Database τ κ ν := fun t =>
  ((db t).filter fun r => !S.doomed db t₀ p S.depth t r).map (S.detached db t₀ p t)

end Delete

/-! ## Inserting and updating -/

/-- Every reference of the row is null or refers to a row. -/
def satisfied (db : Database τ κ ν) (t : τ) (r : Row κ ν) : Bool :=
  S.references.all fun ref => decide (ref.child ≠ t) ||
    ref.columns.any (fun c => decide (r c.1 = S.null)) || (db ref.parent).any (S.refers ref r)

/-- `INSERT INTO t`. -/
def insert (t : τ) (db : Database τ κ ν) (r : Row κ ν) : Except Violation (Database τ κ ν) :=
  if S.admits t r = false then .error .check
  else if (db t).any (fun s => S.sameKey t r s || S.clash t r s) then .error .unique
  else if S.satisfied db t r = false then .error .foreignKey
  else .ok (Function.update db t (db t ++ [r]))

/-- `executemany("INSERT INTO t …")`. -/
def insertAll (t : τ) (rows : List (Row κ ν)) (db : Database τ κ ν) :
    Except Violation (Database τ κ ν) := rows.foldlM (S.insert t) db

/-- `UPDATE t SET … WHERE p`; the statement leaves the keys alone. -/
def updateWhere (t : τ) (p : Row κ ν → Bool) (f : Row κ ν → Row κ ν) (db : Database τ κ ν) :
    Except Violation (Database τ κ ν) :=
  let rows := (db t).map fun r => if p r then f r else r
  if ((db t).filter p).any (fun r => S.admits t (f r) = false) then .error .check
  else if ((db t).filter p).any (fun r => S.satisfied db t (f r) = false) then .error .foreignKey
  else .ok (Function.update db t rows)

/-- `INSERT INTO t … ON CONFLICT(key) DO UPDATE SET …`. -/
def upsert (t : τ) (r : Row κ ν) (f : Row κ ν → Row κ ν) (db : Database τ κ ν) :
    Except Violation (Database τ κ ν) :=
  if (db t).any (S.sameKey t r) then S.updateWhere t (S.sameKey t r) f db else S.insert t db r

/-- What the schema promises of a database. -/
structure Valid (db : Database τ κ ν) : Prop where
  admitted : ∀ t, ∀ r ∈ db t, S.admits t r = true
  keys : ∀ t, (db t).Pairwise fun r s => S.sameKey t r s = false ∧ S.clash t r s = false
  references : ∀ t, ∀ r ∈ db t, S.satisfied db t r = true

/-! ## What a delete leaves -/

section Delete

variable {S} {db : Database τ κ ν} {t₀ t : τ} {p : Row κ ν → Bool} {r : Row κ ν} {n : ℕ}

lemma doomed_succ_iff : S.doomed db t₀ p (n + 1) t r = true ↔
    t = t₀ ∧ p r = true ∨ ∃ ref ∈ S.references, ref.child = t ∧ ref.onDelete = .cascade ∧
      ∃ q ∈ db ref.parent, S.refers ref r q = true ∧ S.doomed db t₀ p n ref.parent q = true := by
  simp only [doomed, Bool.or_eq_true, Bool.and_eq_true, decide_eq_true_eq, List.any_eq_true, and_assoc]

lemma doomed_mono {m : ℕ} (hmn : m ≤ n) (h : S.doomed db t₀ p m t r = true) :
    S.doomed db t₀ p n t r = true := by
  induction m generalizing n t r with
  | zero => cases h
  | succ m ih =>
      obtain ⟨n, rfl⟩ : ∃ k, n = k + 1 := ⟨n - 1, by omega⟩
      rw [doomed_succ_iff] at h ⊢
      rcases h with h | ⟨ref, href, hchild, hcascade, q, hq, hrefers, hdoomed⟩
      · exact Or.inl h
      · exact Or.inr ⟨ref, href, hchild, hcascade, q, hq, hrefers, ih (by omega) hdoomed⟩

/-- A row that refers to a row that goes by `CASCADE` goes too. -/
lemma doomed_of_refers {ref : Reference τ κ} {q : Row κ ν} (href : ref ∈ S.references)
    (hchild : ref.child = t) (hcascade : ref.onDelete = .cascade) (hq : q ∈ db ref.parent)
    (hrefers : S.refers ref r q = true) (hdoomed : S.doomed db t₀ p n ref.parent q = true) :
    S.doomed db t₀ p (n + 1) t r = true :=
  doomed_succ_iff.mpr (Or.inr ⟨ref, href, hchild, hcascade, q, hq, hrefers, hdoomed⟩)

lemma feeds_of_doomed (h : S.doomed db t₀ p n t r = true) : feeds S.references t₀ n t = true := by
  induction n generalizing t r with
  | zero => cases h
  | succ n ih =>
      rw [doomed_succ_iff] at h
      simp only [feeds, Bool.or_eq_true, decide_eq_true_eq, List.any_eq_true, Bool.and_eq_true]
      rcases h with ⟨ht, -⟩ | ⟨ref, href, hchild, -, q, -, -, hdoomed⟩
      · exact Or.inl ht
      · exact Or.inr ⟨ref, href, hchild, ih hdoomed⟩

/-- The row of `t₀` that a row names in its column `c` is there, and the row goes with the rows of `t₀`. -/
def Follows (S : Schema τ κ ν) (db : Database τ κ ν) (t₀ : τ) (c₀ : κ) (n : ℕ) (t : τ) (c : κ) : Prop :=
  ∀ r ∈ db t, r c ≠ S.null →
    (∃ q ∈ db t₀, q c₀ = r c) ∧ S.doomed db t₀ (fun _ => true) n t r = true

lemma follows_self (t₀ : τ) (c₀ : κ) : Follows S db t₀ c₀ 1 t₀ c₀ :=
  fun r hr _ => ⟨⟨r, hr, rfl⟩, doomed_succ_iff.mpr (Or.inl ⟨rfl, rfl⟩)⟩

lemma Follows.mono {c₀ c : κ} {m : ℕ} (h : Follows S db t₀ c₀ m t c) (hmn : m ≤ n) :
    Follows S db t₀ c₀ n t c :=
  fun r hr hc => ⟨(h r hr hc).1, doomed_mono hmn (h r hr hc).2⟩

/-- A row whose references are whole refers to a row. -/
lemma exists_of_satisfied {ref : Reference τ κ} (hsatisfied : S.satisfied db ref.child r = true)
    (href : ref ∈ S.references) (hcolumns : ∀ c ∈ ref.columns, r c.1 ≠ S.null) :
    ∃ q ∈ db ref.parent, S.refers ref r q = true := by
  have hrow := List.all_eq_true.mp hsatisfied ref href
  simp only [ne_eq, not_true_eq_false, decide_false, Bool.false_or, Bool.or_eq_true, List.any_eq_true,
    decide_eq_true_eq] at hrow
  rcases hrow with ⟨c, hc, hnull⟩ | hrefers
  · exact absurd hnull (hcolumns c hc)
  · exact hrefers

lemma Follows.child {ref : Reference τ κ} {c₀ c c' : κ} (h : Follows S db t₀ c₀ n ref.parent c')
    (href : ref ∈ S.references) (hcascade : ref.onDelete = .cascade) (hc : (c, c') ∈ ref.columns)
    (hrefers : ∀ r ∈ db ref.child, r c ≠ S.null → ∃ q ∈ db ref.parent, S.refers ref r q = true) :
    Follows S db t₀ c₀ (n + 1) ref.child c := by
  intro r hr hne
  obtain ⟨q, hq, hrow⟩ := hrefers r hr hne
  have hsame : r c ≠ S.null ∧ r c = q c' := by simpa using List.all_eq_true.mp hrow _ hc
  obtain ⟨hexists, hdoomed⟩ := h q hq (hsame.2 ▸ hsame.1)
  exact ⟨hsame.2 ▸ hexists, doomed_of_refers href rfl hcascade hq hrow hdoomed⟩

variable [DecidableEq κ]

lemma loses_iff {c : κ} : S.loses db t₀ p t r c = true ↔
    ∃ ref ∈ S.references, ref.child = t ∧ ref.onDelete = .setNull ∧ c ∈ ref.columns.map Prod.fst ∧
      ∃ q ∈ db ref.parent, S.refers ref r q = true ∧
        S.doomed db t₀ p S.depth ref.parent q = true := by
  simp only [loses, Bool.and_eq_true, decide_eq_true_eq, List.any_eq_true, and_assoc]

lemma mem_delete : r ∈ S.delete t₀ p db t ↔
    ∃ s ∈ db t, S.doomed db t₀ p S.depth t s = false ∧ S.detached db t₀ p t s = r := by
  simp only [delete, List.mem_map, List.mem_filter, Bool.not_eq_true', and_assoc]

/-- A table that the delete does not reach is as it was. -/
lemma delete_eq_of_not_feeds (h : feeds S.references t₀ (S.depth + 1) t = false) : S.delete t₀ p db t = db t := by
  have hfeeds : ∀ ref ∈ S.references, ref.child = t → feeds S.references t₀ S.depth ref.parent = false := by
    intro ref href hchild
    rw [feeds, Bool.or_eq_false_iff, List.any_eq_false] at h
    simpa [hchild] using h.2 ref href
  have hkept : ∀ r, S.doomed db t₀ p S.depth t r = false := by
    intro r
    rw [Bool.eq_false_iff]
    intro hdoomed
    have hmore : S.doomed db t₀ p (S.depth + 1) t r = true := doomed_mono (Nat.le_succ _) hdoomed
    exact absurd (feeds_of_doomed hmore) (by rw [h]; exact Bool.false_ne_true)
  have hdetached : S.detached db t₀ p t = id := by
    funext r c
    have hloses : S.loses db t₀ p t r c = false := by
      rw [Bool.eq_false_iff]
      intro hloses
      obtain ⟨ref, href, hchild, -, -, q, -, -, hdoomed⟩ := loses_iff.mp hloses
      exact absurd (feeds_of_doomed hdoomed) (by rw [hfeeds ref href hchild]; exact Bool.false_ne_true)
    rw [detached, hloses]
    rfl
  rw [delete, hdetached, List.map_id, List.filter_eq_self]
  intro r _
  rw [hkept r]
  rfl

lemma delete_all_self (hdepth : 0 < S.depth) : S.delete t₀ (fun _ => true) db t₀ = [] := by
  rw [List.eq_nil_iff_forall_not_mem]
  intro r hr
  obtain ⟨s, -, hkept, -⟩ := mem_delete.mp hr
  obtain ⟨n, hn⟩ : ∃ n, S.depth = n + 1 := ⟨S.depth - 1, by omega⟩
  have hdoomed : S.doomed db t₀ (fun _ => true) S.depth t₀ s = true := by
    rw [hn]
    exact doomed_succ_iff.mpr (Or.inl ⟨rfl, rfl⟩)
  rw [hkept] at hdoomed
  cases hdoomed

/-- A table that refers to none loses the rows that are named. -/
lemma delete_self_of_no_reference (h : ∀ ref ∈ S.references, ref.child ≠ t₀) (hdepth : 0 < S.depth) :
    S.delete t₀ p db t₀ = (db t₀).filter fun r => !p r := by
  obtain ⟨n, hn⟩ : ∃ n, S.depth = n + 1 := ⟨S.depth - 1, by omega⟩
  have hdoomed : ∀ r, S.doomed db t₀ p S.depth t₀ r = p r := by
    intro r
    rw [hn, Bool.eq_iff_iff, doomed_succ_iff]
    constructor
    · rintro (⟨-, hp⟩ | ⟨ref, href, hchild, -⟩)
      · exact hp
      · exact absurd hchild (h ref href)
    · exact fun hp => Or.inl ⟨rfl, hp⟩
  have hdetached : S.detached db t₀ p t₀ = id := by
    funext r c
    rw [detached, if_neg]
    · rfl
    · intro hloses
      obtain ⟨ref, href, hchild, -⟩ := loses_iff.mp hloses
      exact h ref href hchild
  simp only [delete, hdetached, List.map_id, hdoomed]

/-- A table whose rows refer by `SET NULL` alone keeps them all. -/
lemma delete_of_no_cascade (hne : t ≠ t₀)
    (h : ∀ ref ∈ S.references, ref.child = t → ref.onDelete ≠ .cascade) :
    S.delete t₀ p db t = (db t).map (S.detached db t₀ p t) := by
  have hkept : ∀ n r, S.doomed db t₀ p n t r = false := by
    intro n r
    rw [Bool.eq_false_iff]
    intro hdoomed
    cases n with
    | zero => cases hdoomed
    | succ n =>
        rcases doomed_succ_iff.mp hdoomed with ⟨ht, -⟩ | ⟨ref, href, hchild, hcascade, -⟩
        · exact hne ht
        · exact h ref href hchild hcascade
  rw [delete, List.filter_eq_self.mpr]
  intro r _
  rw [hkept]
  rfl

/-- A column that refers to nothing is as it was. -/
lemma detached_of_not_column {c : κ} (h : ∀ ref ∈ S.references, ref.child = t → c ∉ ref.columns.map Prod.fst) :
    S.detached db t₀ p t r c = r c := by
  rw [detached, if_neg]
  intro hloses
  obtain ⟨ref, href, hchild, -, hc, -⟩ := loses_iff.mp hloses
  exact h ref href hchild hc

lemma delete_eq_nil (h : db t = []) : S.delete t₀ p db t = [] := by
  rw [delete, h]
  rfl

/-- A row that refers to nothing is left as it was. -/
lemma mem_delete_of_unbound (hne : t ≠ t₀) (hr : r ∈ db t)
    (hnull : ∀ ref ∈ S.references, ref.child = t → ∃ c ∈ ref.columns, r c.1 = S.null) :
    r ∈ S.delete t₀ p db t := by
  have hrefers : ∀ ref ∈ S.references, ref.child = t → ∀ q, S.refers ref r q = false := by
    intro ref href hchild q
    obtain ⟨c, hc, hcell⟩ := hnull ref href hchild
    rw [Bool.eq_false_iff]
    intro hall
    have := List.all_eq_true.mp hall c hc
    simp [hcell] at this
  have hkept : ∀ n, S.doomed db t₀ p n t r = false := by
    intro n
    rw [Bool.eq_false_iff]
    intro hdoomed
    cases n with
    | zero => cases hdoomed
    | succ n =>
        rcases doomed_succ_iff.mp hdoomed with ⟨ht, -⟩ | ⟨ref, href, hchild, -, q, -, hq, -⟩
        · exact hne ht
        · rw [hrefers ref href hchild q] at hq
          cases hq
  refine mem_delete.mpr ⟨r, hr, hkept _, ?_⟩
  funext c
  rw [detached, if_neg]
  intro hloses
  obtain ⟨ref, href, hchild, -, -, q, -, hq, -⟩ := loses_iff.mp hloses
  rw [hrefers ref href hchild q] at hq
  cases hq

lemma detached_of_loses {c : κ} (h : S.loses db t₀ p t r c = true) :
    S.detached db t₀ p t r c = S.null := by
  rw [detached, if_pos h]

lemma detached_of_ne_null {c : κ} (h : S.detached db t₀ p t r c ≠ S.null) :
    S.detached db t₀ p t r c = r c := by
  rw [detached] at h ⊢
  split_ifs at h ⊢
  · exact absurd rfl h
  · rfl

/-- After all rows of `t₀` are deleted, no row that is left names one. -/
lemma null_of_mem_delete_of_follows {c₀ c : κ} (h : Follows S db t₀ c₀ S.depth t c)
    (hr : r ∈ S.delete t₀ (fun _ => true) db t) : r c = S.null := by
  obtain ⟨s, hs, hkept, rfl⟩ := mem_delete.mp hr
  by_contra hne
  rw [detached_of_ne_null hne] at hne
  rw [(h s hs hne).2] at hkept
  cases hkept

/-- The same of a row that refers by `SET NULL`. -/
lemma null_of_mem_delete_of_setNull {ref : Reference τ κ} {c c' : κ} (href : ref ∈ S.references)
    (hnull : ref.onDelete = .setNull) (hc : (c, c') ∈ ref.columns) (hdepth : 0 < S.depth)
    (hrefers : ∀ r ∈ db ref.child, r c ≠ S.null → ∃ q ∈ db ref.parent, S.refers ref r q = true)
    (hr : r ∈ S.delete ref.parent (fun _ => true) db ref.child) : r c = S.null := by
  obtain ⟨s, hs, -, rfl⟩ := mem_delete.mp hr
  by_contra hne
  have hcell := detached_of_ne_null hne
  obtain ⟨q, hq, hrow⟩ := hrefers s hs (hcell ▸ hne)
  have hdoomed : S.doomed db ref.parent (fun _ => true) S.depth ref.parent q = true :=
    doomed_mono hdepth (doomed_succ_iff.mpr (Or.inl ⟨rfl, rfl⟩))
  have hloses : S.loses db ref.parent (fun _ => true) ref.child s c = true :=
    loses_iff.mpr ⟨ref, href, rfl, hnull, List.mem_map_of_mem hc, q, hq, hrow, hdoomed⟩
  exact hne (detached_of_loses hloses)

lemma null_of_mem_delete {c : κ} (h : ∀ r ∈ db t, r c = S.null) (hr : r ∈ S.delete t₀ p db t) :
    r c = S.null := by
  obtain ⟨s, hs, -, rfl⟩ := mem_delete.mp hr
  rw [detached, h s hs, ite_self]

end Delete

/-! ## What an insert or an update changes -/

section Write

variable {S} {db db' : Database τ κ ν} {t : τ}

lemma insert_ok {r : Row κ ν} (h : S.insert t db r = .ok db') :
    db' = Function.update db t (db t ++ [r]) := by
  rw [insert] at h
  split_ifs at h
  exact (Except.ok.inj h).symm

/-- Inserts that succeed have added their rows. -/
lemma insertAll_eq_update {rows : List (Row κ ν)} (h : S.insertAll t rows db = .ok db') :
    db' = Function.update db t (db t ++ rows) := by
  induction rows generalizing db with
  | nil =>
      obtain rfl := Except.ok.inj h
      rw [List.append_nil, Function.update_eq_self]
  | cons r rows ih =>
      rw [insertAll, List.foldlM_cons] at h
      cases hinsert : S.insert t db r with
      | error e =>
          rw [hinsert] at h
          cases h
      | ok db₁ =>
          rw [hinsert] at h
          rw [ih h, insert_ok hinsert, Function.update_idem, Function.update_self, List.append_assoc]
          rfl

/-- An update that succeeds has changed its rows. -/
lemma updateWhere_eq_update {p : Row κ ν → Bool} {f : Row κ ν → Row κ ν}
    (h : S.updateWhere t p f db = .ok db') :
    db' = Function.update db t ((db t).map fun r => if p r then f r else r) := by
  simp only [updateWhere] at h
  split_ifs at h
  exact (Except.ok.inj h).symm

/-- Whether the references of a row are whole depends on their parents alone. -/
lemma satisfied_congr {db₁ db₂ : Database τ κ ν} {r : Row κ ν}
    (h : ∀ ref ∈ S.references, ref.child = t → db₁ ref.parent = db₂ ref.parent) :
    S.satisfied db₁ t r = S.satisfied db₂ t r := by
  rw [Bool.eq_iff_iff, satisfied, satisfied, List.all_eq_true, List.all_eq_true]
  refine forall₂_congr fun ref href => ?_
  by_cases hchild : ref.child = t
  · rw [h ref href hchild]
  · simp [hchild]

/-- With more rows, more references are whole. -/
lemma satisfied_mono {db₁ db₂ : Database τ κ ν} {r : Row κ ν} (h : ∀ t, db₁ t ⊆ db₂ t)
    (hsatisfied : S.satisfied db₁ t r = true) : S.satisfied db₂ t r = true := by
  rw [satisfied, List.all_eq_true] at hsatisfied ⊢
  intro ref href
  have hwhole := hsatisfied ref href
  rw [Bool.or_eq_true] at hwhole ⊢
  rcases hwhole with hwhole | hparent
  · exact Or.inl hwhole
  · obtain ⟨parent, hmem, hrefers⟩ := List.any_eq_true.mp hparent
    exact Or.inr (List.any_eq_true.mpr ⟨parent, h _ hmem, hrefers⟩)

/-- Rows that a table without their keys takes. -/
structure Insertable (S : Schema τ κ ν) (db : Database τ κ ν) (t : τ) (rows : List (Row κ ν)) : Prop where
  admitted : ∀ r ∈ rows, S.admits t r = true
  distinct : rows.Pairwise fun r s => S.sameKey t s r = false ∧ S.clash t s r = false
  references : ∀ r ∈ rows, S.satisfied db t r = true

lemma insert_of_admitted {r : Row κ ν} (hadmitted : S.admits t r = true)
    (hnew : ∀ s ∈ db t, S.sameKey t r s = false ∧ S.clash t r s = false)
    (hreferences : S.satisfied db t r = true) :
    S.insert t db r = .ok (Function.update db t (db t ++ [r])) := by
  rw [insert, if_neg (by simp [hadmitted]), if_neg, if_neg (by simp [hreferences])]
  rw [List.any_eq_true]
  rintro ⟨s, hs, hclash⟩
  obtain ⟨hkey, hunique⟩ := hnew s hs
  rw [hkey, hunique] at hclash
  cases hclash

lemma insertAll_of_insertable {rows : List (Row κ ν)}
    (hself : ∀ ref ∈ S.references, ref.child = t → ref.parent ≠ t) (h : Insertable S db t rows)
    (hnew : ∀ r ∈ rows, ∀ s ∈ db t, S.sameKey t r s = false ∧ S.clash t r s = false) :
    S.insertAll t rows db = .ok (Function.update db t (db t ++ rows)) := by
  induction rows generalizing db with
  | nil =>
      rw [List.append_nil, Function.update_eq_self]
      rfl
  | cons r rows ih =>
      obtain ⟨hadmitted, hdistinct, hreferences⟩ := h
      rw [List.pairwise_cons] at hdistinct
      have hinsert := insert_of_admitted (hadmitted r List.mem_cons_self) (hnew r List.mem_cons_self)
        (hreferences r List.mem_cons_self)
      have hparents : ∀ s, S.satisfied (Function.update db t (db t ++ [r])) t s = S.satisfied db t s :=
        fun s => satisfied_congr fun ref href hchild => Function.update_of_ne (hself ref href hchild) _ _
      rw [insertAll, List.foldlM_cons, hinsert]
      show S.insertAll t rows _ = _
      rw [ih]
      · rw [Function.update_idem, Function.update_self, List.append_assoc]
        rfl
      · refine ⟨fun s hs => hadmitted s (List.mem_cons_of_mem _ hs), hdistinct.2, fun s hs => ?_⟩
        rw [hparents]
        exact hreferences s (List.mem_cons_of_mem _ hs)
      · intro s hs q hq
        rw [Function.update_self, List.mem_append, List.mem_singleton] at hq
        rcases hq with hq | rfl
        · exact hnew s (List.mem_cons_of_mem _ hs) q hq
        · exact hdistinct.1 s hs

/-- An update succeeds where the changed rows are admitted and their references are whole. -/
lemma updateWhere_of_admitted {p : Row κ ν → Bool} {f : Row κ ν → Row κ ν}
    (hadmitted : ∀ r ∈ db t, p r = true → S.admits t (f r) = true)
    (hreferences : ∀ r ∈ db t, p r = true → S.satisfied db t (f r) = true) :
    S.updateWhere t p f db =
      .ok (Function.update db t ((db t).map fun r => if p r then f r else r)) := by
  rw [updateWhere, if_neg, if_neg]
  · rw [List.any_eq_true]
    rintro ⟨r, hr, hrow⟩
    obtain ⟨hmem, hp⟩ := List.mem_filter.mp hr
    simp [hreferences r hmem hp] at hrow
  · rw [List.any_eq_true]
    rintro ⟨r, hr, hrow⟩
    obtain ⟨hmem, hp⟩ := List.mem_filter.mp hr
    simp [hadmitted r hmem hp] at hrow

lemma upsert_of_ne {r : Row κ ν} {f : Row κ ν → Row κ ν} {t' : τ} (h : S.upsert t r f db = .ok db')
    (ht : t' ≠ t) : db' t' = db t' := by
  rw [upsert] at h
  split_ifs at h
  · rw [updateWhere_eq_update h, Function.update_of_ne ht]
  · rw [insert_ok h, Function.update_of_ne ht]

end Write

end Schema

end Relational
