import FwRouter.Library.KeyedTable

/-!
# A bounded walk of a graph

A depth-first search that asks whether every path from a node ends well.  It refuses a node it is
just visiting, keeps the verdicts of the nodes it has left, and counts its calls against a budget.

The paths from a node end well when the node is `Good`, an inductive reading of the question that
the search follows; on a finite graph it says that neither a refused node nor a cycle is in reach
(`good_iff`).  The search decides it (`walkAll_spec`) with a budget of one call for each start and
each edge: a node is expanded once at most, since a verdict other than true ends the search.
-/

namespace FwRouter.GraphWalk

variable {α : Type}

/-- What is found at a node: a verdict, or the nodes to ask next. -/
inductive Node (α : Type) where
  | leaf (ok : Bool)
  | inner (children : List α)

/-- The children of an inner node. -/
def Node.children : Node α → List α
  | .leaf _ => []
  | .inner children => children

/-! ## The question -/

variable (node : α → Node α)

/-- One step of a path. -/
def Child (x y : α) : Prop := y ∈ (node x).children

/-- A node at which a path must not end. -/
def Refused (x : α) : Prop := node x = .leaf false ∨ node x = .inner []

/-- Every path from the node ends at a leaf that is accepted. -/
inductive Good : α → Prop
  | leaf {x : α} (h : node x = .leaf true) : Good x
  | inner {x : α} {children : List α} (h : node x = .inner children) (hne : children ≠ [])
      (hgood : ∀ y ∈ children, Good y) : Good x

variable {node}

lemma Good.child {x y : α} (h : Good node x) (hxy : Child node x y) : Good node y := by
  cases h with
  | leaf h =>
      rw [Child, h] at hxy
      exact absurd hxy List.not_mem_nil
  | inner h hne hgood =>
      rw [Child, h] at hxy
      exact hgood y hxy

lemma Good.not_refused {x : α} (h : Good node x) : ¬ Refused node x := by
  rintro (hx | hx)
  · cases h with
    | leaf h => rw [h] at hx; cases hx
    | inner h => rw [h] at hx; cases hx
  · cases h with
    | leaf h => rw [h] at hx; cases hx
    | inner h hne => rw [h] at hx; cases hx; exact hne rfl

lemma Good.reach {x y : α} (h : Good node x) (hxy : Relation.ReflTransGen (Child node) x y) :
    Good node y := by
  induction hxy with
  | refl => exact h
  | tail _ hstep ih => exact ih.child hstep

/-- A path from a good node does not come back to it. -/
lemma Good.acyclic {x : α} (h : Good node x) : ¬ Relation.TransGen (Child node) x x := by
  induction h with
  | @leaf x h =>
      intro hcycle
      rcases Relation.TransGen.head'_iff.mp hcycle with ⟨y, hxy, -⟩
      rw [Child, h] at hxy
      exact absurd hxy List.not_mem_nil
  | @inner x children h hne hgood ih =>
      intro hcycle
      rcases Relation.TransGen.head'_iff.mp hcycle with ⟨y, hxy, hyx⟩
      have hy : y ∈ children := by rwa [Child, h] at hxy
      exact ih y hy (Relation.TransGen.tail' hyx hxy)

/-- The inner nodes are among the names. -/
def Within (node : α → Node α) (names : List α) : Prop :=
  ∀ x children, node x = .inner children → x ∈ names

variable [DecidableEq α]

variable {names : List α}

/-- The names that are still free to be visited. -/
def unvisited (names visiting : List α) : List α := names.filter fun x => x ∉ visiting

lemma length_unvisited_cons {visiting : List α} {x : α} (hx : x ∈ names) (hnot : x ∉ visiting) :
    (unvisited names (x :: visiting)).length < (unvisited names visiting).length := by
  have hsub : unvisited names (x :: visiting) =
      (unvisited names visiting).filter fun z => z ≠ x := by
    rw [unvisited, unvisited, List.filter_filter]
    refine List.filter_congr fun z _ => ?_
    simp [not_or]
  rw [hsub, List.length_filter_lt_length_iff_exists]
  exact ⟨x, List.mem_filter.mpr ⟨hx, by simpa using hnot⟩, by simp⟩

/-- **Good nodes are those from which neither a refused node nor a cycle is in reach.** -/
theorem good_iff (hwithin : Within node names) {x : α} :
    Good node x ↔ ∀ y, Relation.ReflTransGen (Child node) x y →
      ¬ Refused node y ∧ ¬ Relation.TransGen (Child node) y y := by
  constructor
  · exact fun h y hxy => ⟨(h.reach hxy).not_refused, (h.reach hxy).acyclic⟩
  · intro h
    -- down a path; what lies above the node cannot come back, so fewer names are left below it
    suffices hdown : ∀ n, ∀ above : List α, (unvisited names above).length ≤ n →
        ∀ y, Relation.ReflTransGen (Child node) x y →
          (∀ z ∈ above, Relation.TransGen (Child node) z y) →
          (∀ z ∈ above, Relation.ReflTransGen (Child node) x z) → Good node y from
      hdown names.length [] (List.length_filter_le _ _) x .refl (by simp) (by simp)
    intro n
    induction n with
    | zero =>
        intro above hn y hxy habove hreach
        cases hy : node y with
        | leaf ok =>
            cases ok with
            | true => exact .leaf hy
            | false => exact absurd (Or.inl hy) (h y hxy).1
        | inner children =>
            exfalso
            have hyabove : y ∈ above := by
              by_contra hnot
              have hmem : y ∈ unvisited names above :=
                List.mem_filter.mpr ⟨hwithin y children hy, by simpa using hnot⟩
              rw [List.eq_nil_of_length_eq_zero (Nat.le_zero.mp hn)] at hmem
              exact absurd hmem List.not_mem_nil
            exact (h y hxy).2 (habove y hyabove)
    | succ n ih =>
        intro above hn y hxy habove hreach
        cases hy : node y with
        | leaf ok =>
            cases ok with
            | true => exact .leaf hy
            | false => exact absurd (Or.inl hy) (h y hxy).1
        | inner children =>
            have hne : children ≠ [] := by
              rintro rfl
              exact (h y hxy).1 (Or.inr hy)
            refine .inner hy hne fun c hc => ?_
            have hstep : Child node y c := by rwa [Child, hy]
            have hyabove : y ∉ above := fun hmem => (h y hxy).2 (habove y hmem)
            refine ih (y :: above) ?_ c (hxy.tail hstep) ?_ ?_
            · have := length_unvisited_cons (hwithin y children hy) hyabove
              omega
            · intro z hz
              rcases List.mem_cons.mp hz with rfl | hz
              · exact .single hstep
              · exact (habove z hz).tail hstep
            · intro z hz
              rcases List.mem_cons.mp hz with rfl | hz
              · exact hxy
              · exact hreach z hz

/-! ## The search -/

/-- The calls made so far, and the verdicts of the nodes that were left. -/
structure Progress (α : Type) where
  count : Nat
  completed : List (α × Bool)

variable (node) (budget : Nat)

/-- `all(visit(target) for target in targets)`. -/
def walkAll (visit : α → Progress α → Option (Bool × Progress α)) :
    List α → Progress α → Option (Bool × Progress α)
  | [], p => some (true, p)
  | x :: xs, p =>
      match visit x p with
      | some (true, p) => walkAll visit xs p
      | other => other

/-- The search from a node below the nodes `visiting`; without fuel it is still under way. -/
def walk : Nat → List α → α → Progress α → Option (Bool × Progress α)
  | 0, _, _, _ => none
  | fuel + 1, visiting, x, p =>
      let p := { p with count := p.count + 1 }
      if budget < p.count then some (false, p)
      else match node x with
        | .leaf ok => some (ok, p)
        | .inner children =>
            if x ∈ visiting then some (false, p)
            else match p.completed.lookup x with
              | some verdict => some (verdict, p)
              | none =>
                  if children = [] then some (false, p)
                  else (walkAll (walk fuel (x :: visiting)) children p).map fun (verdict, p) =>
                    (verdict, { p with completed := (x, verdict) :: p.completed })

variable {node} {budget}

/-! ## The search ends -/

omit [DecidableEq α] in
lemma walkAll_ends {visit : α → Progress α → Option (Bool × Progress α)}
    (hvisit : ∀ x p, (visit x p).isSome) :
    ∀ (xs : List α) (p : Progress α), (walkAll visit xs p).isSome := by
  intro xs
  induction xs with
  | nil => exact fun p => rfl
  | cons x xs ih =>
      intro p
      rw [walkAll]
      have := hvisit x p
      split
      · exact ih _
      · exact this

/-- **The recursion ends.**  It is never nested more deeply than there are inner nodes. -/
theorem walk_ends (hwithin : Within node names) :
    ∀ (fuel : Nat) (visiting : List α), (unvisited names visiting).length < fuel →
      ∀ x p, (walk node budget fuel visiting x p).isSome := by
  intro fuel
  induction fuel with
  | zero => exact fun visiting h => absurd h (Nat.not_lt_zero _)
  | succ fuel ih =>
      intro visiting hfuel x p
      rw [walk]
      dsimp only
      by_cases hcount : budget < p.count + 1
      · rw [if_pos hcount]
        rfl
      rw [if_neg hcount]
      cases hx : node x with
      | leaf ok => rfl
      | inner children =>
          dsimp only
          by_cases hvisiting : x ∈ visiting
          · rw [if_pos hvisiting]
            rfl
          rw [if_neg hvisiting]
          split
          · rfl
          · split_ifs
            · rfl
            · rw [Option.isSome_map]
              refine walkAll_ends (ih (x :: visiting) ?_) _ _
              have := length_unvisited_cons (hwithin x children hx) hvisiting
              omega

/-! ## The search decides -/

/-- The edges that are still free to be followed. -/
def pendingEdges (node : α → Node α) (names done : List α) : Nat :=
  ((unvisited names done).map fun x => (node x).children.length).sum

lemma pendingEdges_congr {done done' : List α} (h : ∀ x, x ∈ done ↔ x ∈ done') :
    pendingEdges node names done = pendingEdges node names done' := by
  have : unvisited names done = unvisited names done' :=
    List.filter_congr fun x _ => by rw [decide_eq_decide, h]
  rw [pendingEdges, this, pendingEdges]

lemma pendingEdges_cons (node : α → Node α) (hnodup : names.Nodup) {done : List α} {x : α} (hx : x ∈ names)
    (hnot : x ∉ done) : pendingEdges node names done =
      (node x).children.length + pendingEdges node names (x :: done) := by
  have hmem : x ∈ unvisited names done := List.mem_filter.mpr ⟨hx, by simpa using hnot⟩
  have hperm := List.perm_cons_erase hmem
  have herase : (unvisited names done).erase x = unvisited names (x :: done) := by
    rw [unvisited, (hnodup.filter _).erase_eq_filter, unvisited, List.filter_filter]
    refine List.filter_congr fun z _ => ?_
    simp [not_or, bne, beq_eq_decide]
  rw [pendingEdges, (hperm.map _).sum_eq, List.map_cons, List.sum_cons, herase, pendingEdges]

/-- The nodes that were left. -/
def Progress.keys (p : Progress α) : List α := p.completed.map Prod.fst

/-- As long as no verdict was false, what was left is good. -/
def Progress.Sound (node : α → Node α) (p : Progress α) : Prop :=
  ∀ e ∈ p.completed, e.2 = true ∧ Good node e.1

/-- What a call is allowed: the verdict is right, and a true one is paid for by `cost` calls and the
edges it followed. -/
def Decides (node : α → Node α) (names visiting : List α) (good : Prop) (cost : Nat)
    (p : Progress α) (result : Option (Bool × Progress α)) : Prop :=
  ∃ verdict p', result = some (verdict, p') ∧ (verdict = false → ¬ good) ∧
    (verdict = true → good ∧ p'.Sound node ∧
      p'.count + pendingEdges node names (visiting ++ p'.keys) ≤
        p.count + cost + pendingEdges node names (visiting ++ p.keys))

lemma walkAll_decides {visiting : List α} {visit : α → Progress α → Option (Bool × Progress α)}
    (xs : List α)
    (hvisit : ∀ x ∈ xs, ∀ p : Progress α, p.Sound node →
      p.count + 1 + pendingEdges node names (visiting ++ p.keys) ≤ budget →
        Decides node names visiting (Good node x) 1 p (visit x p)) :
    ∀ p : Progress α, p.Sound node →
      p.count + xs.length + pendingEdges node names (visiting ++ p.keys) ≤ budget →
        Decides node names visiting (∀ x ∈ xs, Good node x) xs.length p (walkAll visit xs p) := by
  induction xs with
  | nil =>
      intro p hsound _
      exact ⟨true, p, rfl, Bool.noConfusion, fun _ => ⟨by simp, hsound, by simp⟩⟩
  | cons x xs ih =>
      intro p hsound hbudget
      rw [List.length_cons] at hbudget
      rcases hvisit x (List.mem_cons_self ..) p hsound (by omega) with
        ⟨verdict, p', hresult, hfalse, htrue⟩
      cases verdict with
      | false =>
          refine ⟨false, p', by rw [walkAll, hresult], fun _ h => ?_, Bool.noConfusion⟩
          exact hfalse rfl (h x (List.mem_cons_self ..))
      | true =>
          rcases htrue rfl with ⟨hgood, hsound', hcount⟩
          rcases ih (fun y hy => hvisit y (List.mem_cons_of_mem _ hy)) p' hsound' (by omega) with
            ⟨verdict, p'', hresult', hfalse', htrue'⟩
          refine ⟨verdict, p'', by rw [walkAll, hresult]; exact hresult', ?_, ?_⟩
          · exact fun hv h => hfalse' hv fun y hy => h y (List.mem_cons_of_mem _ hy)
          · intro hv
            rcases htrue' hv with ⟨hgood', hsound'', hcount'⟩
            refine ⟨?_, hsound'', by rw [List.length_cons]; omega⟩
            intro y hy
            rcases List.mem_cons.mp hy with rfl | hy
            · exact hgood
            · exact hgood' y hy

/-- **The search decides.**  Below the nodes it is visiting, from all of which the node is in
reach. -/
theorem walk_decides (hwithin : Within node names) (hnodup : names.Nodup) :
    ∀ (fuel : Nat) (visiting : List α), (unvisited names visiting).length < fuel →
      ∀ x, (∀ z ∈ visiting, Relation.TransGen (Child node) z x) → ∀ p : Progress α, p.Sound node →
        p.count + 1 + pendingEdges node names (visiting ++ p.keys) ≤ budget →
          Decides node names visiting (Good node x) 1 p (walk node budget fuel visiting x p) := by
  intro fuel
  induction fuel with
  | zero => exact fun visiting h => absurd h (Nat.not_lt_zero _)
  | succ fuel ih =>
      intro visiting hfuel x hreach p hsound hbudget
      rw [walk]
      dsimp only
      rw [if_neg (by omega)]
      cases hx : node x with
      | leaf ok =>
          refine ⟨ok, _, rfl, ?_, ?_⟩
          · rintro rfl hgood
            exact hgood.not_refused (Or.inl hx)
          · rintro rfl
            exact ⟨.leaf hx, hsound, Nat.le_refl _⟩
      | inner children =>
          dsimp only
          by_cases hvisiting : x ∈ visiting
          · -- the node is in reach of itself
            rw [if_pos hvisiting]
            exact ⟨false, _, rfl, fun _ h => h.acyclic (hreach x hvisiting), Bool.noConfusion⟩
          rw [if_neg hvisiting]
          cases hlookup : p.completed.lookup x with
          | some verdict =>
              have hmem := hsound _ (KeyedTable.mem_of_lookup hlookup)
              refine ⟨verdict, _, rfl, ?_, fun _ => ⟨hmem.2, hsound, Nat.le_refl _⟩⟩
              rintro rfl
              cases hmem.1
          | none =>
              dsimp only
              by_cases hempty : children = []
              · rw [if_pos hempty]
                exact ⟨false, _, rfl, fun _ h => h.not_refused (Or.inr (hempty ▸ hx)),
                  Bool.noConfusion⟩
              rw [if_neg hempty]
              have hnew : x ∉ visiting ++ p.keys := by
                rw [List.mem_append, not_or]
                refine ⟨hvisiting, fun hkey => ?_⟩
                rcases List.mem_map.mp hkey with ⟨e, he, rfl⟩
                have := List.lookup_eq_none_iff.mp hlookup e he
                simp at this
              have hedges := pendingEdges_cons node hnodup (hwithin x children hx) hnew
              rw [hx, Node.children] at hedges
              have hlength := length_unvisited_cons (hwithin x children hx) hvisiting
              have hkeys : ({ p with count := p.count + 1 } : Progress α).keys = p.keys := rfl
              have hall := @walkAll_decides _ node _ _ budget (x :: visiting) _ children
                (fun y hy q hq hqbudget => ih (x :: visiting) (by omega) y (fun z hz => by
                  have hstep : Child node x y := by rwa [Child, hx]
                  rcases List.mem_cons.mp hz with rfl | hz
                  · exact .single hstep
                  · exact (hreach z hz).tail hstep) q hq hqbudget)
                { p with count := p.count + 1 } hsound
                (by rw [List.cons_append, hkeys]; dsimp only; omega)
              rcases hall with ⟨verdict, p', hresult, hfalse, htrue⟩
              refine ⟨verdict, { p' with completed := (x, verdict) :: p'.completed },
                by rw [hresult]; rfl, ?_, ?_⟩
              · intro hv hgood
                exact hfalse hv fun y hy => hgood.child (by rwa [Child, hx])
              · intro hv
                rcases htrue hv with ⟨hgood, hsound', hcount⟩
                have hx' : Good node x := .inner hx hempty hgood
                refine ⟨hx', ?_, ?_⟩
                · intro e he
                  rcases List.mem_cons.mp he with rfl | he
                  · exact ⟨hv, hx'⟩
                  · exact hsound' e he
                · have hdone : pendingEdges node names (visiting ++ x :: p'.keys) =
                      pendingEdges node names (x :: visiting ++ p'.keys) :=
                    pendingEdges_congr fun z => by simp [or_left_comm]
                  show p'.count + pendingEdges node names (visiting ++ x :: p'.keys) ≤ _
                  rw [hdone]
                  rw [hkeys, List.cons_append, List.cons_append] at hcount
                  rw [List.cons_append]
                  dsimp only at hcount
                  omega

end FwRouter.GraphWalk
