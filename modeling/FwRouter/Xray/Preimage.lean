import FwRouter.Python.Text
import FwRouter.Library.GraphWalk

/-!
# The rollback preimage

Before a saved Mihomo configuration is restored, `validate_mihomo_preimage` of
`xray_generation_staging.py` asks whether its proxy groups fail closed: no member of a mandatory
group, however deeply nested, may let traffic out directly.  Here is the part of the check that reads
the groups.  An entry of `proxy-groups` that is no mapping contributes nothing, and is left out.

The walk is the library's search over the groups as nodes.  It accepts exactly the groups that fail
closed (`preimage_groups_proven_iff`), where `REJECT` is always the built-in target: a group that
bears this name is never looked into (`group_named_reject_proven`).
-/

namespace FwRouter.Xray

open Py KeyedTable GraphWalk

/-! ## The source functions -/

/-- An entry of `proxy-groups`: its name as text, and its `proxies` if they are a list. -/
structure ProxyGroup where
  name : Text
  proxies : Option (List Text)
deriving DecidableEq, Repr

def direct : Text := "DIRECT".toList

def reject : Text := "REJECT".toList

def vpnAuto : Text := "vpn-auto".toList

def vpnGlobal : Text := "vpn-global".toList

def isSubjectGroup (name : Text) : Bool := "fwrouter-subject-".toList.isPrefixOf name

/-- `name in {"vpn-auto", "vpn-global"} or name.startswith("fwrouter-subject-")`. -/
def isMandatory (name : Text) : Bool := name = vpnAuto || name = vpnGlobal || isSubjectGroup name

/-- The groups with a name. -/
def namedGroups (groups : List ProxyGroup) : List ProxyGroup :=
  groups.filter fun g => strip g.name ≠ []

/-- `group_names`. -/
def groupNames (groups : List ProxyGroup) : List Text :=
  (namedGroups groups).map fun g => strip g.name

/-- `by_name`: of two groups of one name the last one counts. -/
def byName (groups : List ProxyGroup) : List (Text × ProxyGroup) :=
  (namedGroups groups).foldl (fun t g => assign (strip g.name) g t) []

/-- A list of targets that is not empty, ends in `REJECT` and does without `DIRECT`. -/
def targetsClosed (proxies : Option (List Text)) : Bool :=
  match proxies with
  | none => false
  | some targets => targets ≠ [] && targets.getLast? = some reject && direct ∉ targets

def mandatoryNames (table : List (Text × ProxyGroup)) : List Text :=
  (table.map Prod.fst).filter isMandatory

def groupEdges (table : List (Text × ProxyGroup)) : Nat :=
  (table.map fun e => (e.2.proxies.getD []).length).sum

def policyWalkBudget (table : List (Text × ProxyGroup)) : Nat :=
  min (max (groupEdges table + table.length + (mandatoryNames table).length) 1) 100000

/-- What `mandatory_target_is_fail_closed` finds at a name: the two built-in targets, a concrete
proxy, or a group. -/
def targetNode (table : List (Text × ProxyGroup)) (name : Text) : Node Text :=
  if name = direct then .leaf false
  else if name = reject then .leaf true
  else match table.lookup name with
    | none => .leaf true
    | some nested => .inner (nested.proxies.getD [])

/-- `mandatory_target_is_fail_closed`. -/
def mandatoryTargetIsFailClosed (table : List (Text × ProxyGroup)) (fuel : Nat)
    (visiting : List Text) (name : Text) (p : Progress Text) : Option (Bool × Progress Text) :=
  walk (targetNode table) (policyWalkBudget table) fuel visiting name p

/-- The checks of `validate_mihomo_preimage` on the proxy groups; `none` while the recursion has not
ended. -/
def preimageGroupsProven (fuel : Nat) (groups : List ProxyGroup) : Option Bool :=
  let table := byName groups
  if (groupNames groups).length ≠ table.length then some false
  else if ¬ [vpnAuto, vpnGlobal].all fun name =>
      (table.lookup name).any fun g => targetsClosed g.proxies then some false
  else if ¬ (table.lookup vpnGlobal).any fun g => vpnAuto ∈ g.proxies.getD [] then some false
  else if ¬ table.all fun e => !isSubjectGroup e.1 || targetsClosed e.2.proxies then some false
  else (walkAll (mandatoryTargetIsFailClosed table fuel []) (mandatoryNames table)
    ⟨0, []⟩).map Prod.fst

/-! ## Failing closed -/

section Purpose

variable (builtin : List Text) (groups : List ProxyGroup)

/-- `y` is a member of the group `x`; the built-in names are no groups. -/
def Member (x y : Text) : Prop :=
  x ∉ builtin ∧ ∃ g ∈ groups, strip g.name = x ∧ y ∈ g.proxies.getD []

/-- A group with an empty or missing list. -/
def Hollow (x : Text) : Prop :=
  x ∉ builtin ∧ ∃ g ∈ groups, strip g.name = x ∧ g.proxies.getD [] = []

/-- **The groups fail closed.** -/
structure FailClosed : Prop where
  present : ∀ name ∈ [vpnAuto, vpnGlobal], ∃ g ∈ groups, strip g.name = name
  closed : ∀ g ∈ groups, isMandatory (strip g.name) = true →
    ∃ targets, g.proxies = some targets ∧ targets ≠ [] ∧ targets.getLast? = some reject ∧
      direct ∉ targets
  auto : ∀ g ∈ groups, strip g.name = vpnGlobal → vpnAuto ∈ g.proxies.getD []
  paths : ∀ g ∈ groups, isMandatory (strip g.name) = true →
    ∀ y, Relation.ReflTransGen (Member builtin groups) (strip g.name) y →
      y ≠ direct ∧ ¬ Hollow builtin groups y ∧ ¬ Relation.TransGen (Member builtin groups) y y

end Purpose

variable {groups : List ProxyGroup}

lemma targetsClosed_iff {proxies : Option (List Text)} : targetsClosed proxies = true ↔
    ∃ targets, proxies = some targets ∧ targets ≠ [] ∧ targets.getLast? = some reject ∧
      direct ∉ targets := by
  cases proxies with
  | none => simp [targetsClosed]
  | some targets => simp [targetsClosed, and_assoc]

lemma within_targetNode (table : List (Text × ProxyGroup)) :
    Within (targetNode table) (table.map Prod.fst) := by
  intro x children hx
  rw [targetNode] at hx
  split_ifs at hx
  cases hlookup : table.lookup x with
  | none =>
      rw [hlookup] at hx
      cases hx
  | some g => exact List.mem_map.mpr ⟨_, mem_of_lookup hlookup, rfl⟩

lemma length_byName_le : (byName groups).length ≤ groups.length := by
  have hfold : ∀ (gs : List ProxyGroup) (t : List (Text × ProxyGroup)),
      (gs.foldl (fun t g => assign (strip g.name) g t) t).length ≤ t.length + gs.length := by
    intro gs
    induction gs with
    | nil => exact fun t => le_rfl
    | cons g gs ih =>
        intro t
        rw [List.foldl_cons, List.length_cons]
        have hstep : (assign (strip g.name) g t).length ≤ t.length + 1 := by
          have hkeys := congrArg List.length (keys_upsert (strip g.name) g (fun _ => g) t)
          rw [List.length_map] at hkeys
          rw [assign, hkeys]
          split_ifs
          · simp
          · simp
        have := ih (assign (strip g.name) g t)
        omega
  refine (hfold (namedGroups groups) []).trans ?_
  rw [List.length_nil, Nat.zero_add]
  exact List.length_filter_le _ _

/-! ## Groups with different names -/

section Distinct

variable (hdistinct : (groups.map fun g => strip g.name).Nodup)
  (hnamed : ∀ g ∈ groups, strip g.name ≠ [])

include hnamed in
lemma namedGroups_eq : namedGroups groups = groups :=
  List.filter_eq_self.mpr fun g hg => by simpa using hnamed g hg

include hdistinct hnamed

lemma byName_eq : byName groups = groups.map fun g => (strip g.name, g) := by
  rw [byName, namedGroups_eq hnamed, foldl_assign (fun g => g) hdistinct]

lemma map_fst_byName : (byName groups).map Prod.fst = groups.map fun g => strip g.name := by
  rw [byName_eq hdistinct hnamed, List.map_map]
  rfl

lemma lookup_byName {name : Text} {g : ProxyGroup} :
    (byName groups).lookup name = some g ↔ g ∈ groups ∧ strip g.name = name := by
  have hkeys : ((byName groups).map Prod.fst).Nodup := by
    rw [map_fst_byName hdistinct hnamed]
    exact hdistinct
  rw [← mem_iff_lookup hkeys, byName_eq hdistinct hnamed, List.mem_map]
  constructor
  · rintro ⟨h, hh, heq⟩
    cases heq
    exact ⟨hh, rfl⟩
  · rintro ⟨hg, rfl⟩
    exact ⟨g, hg, rfl⟩

lemma lookup_any {name : Text} {P : ProxyGroup → Bool} :
    ((byName groups).lookup name).any P = true ↔ ∃ g ∈ groups, strip g.name = name ∧ P g = true := by
  rw [Option.any_eq_true]
  constructor
  · rintro ⟨g, hg, hP⟩
    rcases (lookup_byName hdistinct hnamed).mp hg with ⟨hg, hname⟩
    exact ⟨g, hg, hname, hP⟩
  · rintro ⟨g, hg, hname, hP⟩
    exact ⟨g, (lookup_byName hdistinct hnamed).mpr ⟨hg, hname⟩, hP⟩

lemma group_unique {g h : ProxyGroup} (hg : g ∈ groups) (hh : h ∈ groups)
    (heq : strip g.name = strip h.name) : g = h := by
  have := (lookup_byName hdistinct hnamed).mpr ⟨hg, heq⟩
  rw [(lookup_byName hdistinct hnamed).mpr ⟨hh, rfl⟩] at this
  exact (Option.some.inj this).symm

lemma child_iff {x y : Text} : Child (targetNode (byName groups)) x y ↔
    x ≠ direct ∧ Member [reject] groups x y := by
  rw [Child, targetNode, Member, List.mem_singleton]
  by_cases hdirect : x = direct
  · rw [if_pos hdirect]
    exact ⟨fun h => absurd h List.not_mem_nil, fun h => absurd hdirect h.1⟩
  rw [if_neg hdirect]
  by_cases hreject : x = reject
  · rw [if_pos hreject]
    exact ⟨fun h => absurd h List.not_mem_nil, fun h => absurd hreject h.2.1⟩
  rw [if_neg hreject]
  cases hlookup : (byName groups).lookup x with
  | none =>
      refine ⟨fun h => absurd h List.not_mem_nil, ?_⟩
      rintro ⟨-, -, g, hg, hname, -⟩
      rw [(lookup_byName hdistinct hnamed).mpr ⟨hg, hname⟩] at hlookup
      cases hlookup
  | some g =>
      have hg := (lookup_byName hdistinct hnamed).mp hlookup
      constructor
      · exact fun h => ⟨hdirect, hreject, g, hg.1, hg.2, h⟩
      · rintro ⟨-, -, h, hh, hname, hy⟩
        rw [group_unique hdistinct hnamed hg.1 hh (hg.2.trans hname.symm)]
        exact hy

lemma refused_iff {x : Text} : Refused (targetNode (byName groups)) x ↔
    x = direct ∨ Hollow [reject] groups x := by
  rw [Refused, targetNode, Hollow, List.mem_singleton]
  by_cases hdirect : x = direct
  · rw [if_pos hdirect]
    exact ⟨fun _ => Or.inl hdirect, fun _ => Or.inl rfl⟩
  rw [if_neg hdirect]
  by_cases hreject : x = reject
  · rw [if_pos hreject]
    constructor
    · rintro (h | h)
      · cases h
      · cases h
    · rintro (h | h)
      · exact absurd h hdirect
      · exact absurd hreject h.1
  rw [if_neg hreject]
  cases hlookup : (byName groups).lookup x with
  | none =>
      constructor
      · rintro (h | h)
        · cases h
        · cases h
      · rintro (h | ⟨-, g, hg, hname, -⟩)
        · exact absurd h hdirect
        · rw [(lookup_byName hdistinct hnamed).mpr ⟨hg, hname⟩] at hlookup
          cases hlookup
  | some g =>
      have hg := (lookup_byName hdistinct hnamed).mp hlookup
      constructor
      · rintro (h | h)
        · cases h
        · exact Or.inr ⟨hreject, g, hg.1, hg.2, by injection h⟩
      · rintro (h | ⟨-, h, hh, hname, hnil⟩)
        · exact absurd h hdirect
        · rw [← group_unique hdistinct hnamed hg.1 hh (hg.2.trans hname.symm)] at hnil
          exact Or.inr (congrArg Node.inner hnil)

/-- The paths of the search are the paths of memberships: none goes on from `DIRECT`. -/
lemma paths_iff {x : Text} :
    (∀ y, Relation.ReflTransGen (Child (targetNode (byName groups))) x y →
      ¬ Refused (targetNode (byName groups)) y ∧
        ¬ Relation.TransGen (Child (targetNode (byName groups))) y y) ↔
    ∀ y, Relation.ReflTransGen (Member [reject] groups) x y →
      y ≠ direct ∧ ¬ Hollow [reject] groups y ∧
        ¬ Relation.TransGen (Member [reject] groups) y y := by
  have hsub : ∀ a b, Child (targetNode (byName groups)) a b → Member [reject] groups a b :=
    fun a b h => ((child_iff hdistinct hnamed).mp h).2
  constructor
  · intro h
    have hdirect : ∀ y, Relation.ReflTransGen (Child (targetNode (byName groups))) x y →
        y ≠ direct := fun y hy heq =>
      (h y hy).1 ((refused_iff hdistinct hnamed).mpr (Or.inl heq))
    have hstep : ∀ a b, Relation.ReflTransGen (Child (targetNode (byName groups))) x a →
        Member [reject] groups a b → Child (targetNode (byName groups)) a b := fun a b ha hab =>
      (child_iff hdistinct hnamed).mpr ⟨hdirect a ha, hab⟩
    have hreach : ∀ y, Relation.ReflTransGen (Member [reject] groups) x y →
        Relation.ReflTransGen (Child (targetNode (byName groups))) x y := by
      intro y hy
      induction hy with
      | refl => exact .refl
      | tail _ hab ih => exact ih.tail (hstep _ _ ih hab)
    intro y hy
    have hy := hreach y hy
    refine ⟨hdirect y hy, fun hhollow =>
      (h y hy).1 ((refused_iff hdistinct hnamed).mpr (Or.inr hhollow)), fun hcycle => ?_⟩
    suffices hfrom : ∀ z, Relation.TransGen (Member [reject] groups) y z →
        Relation.TransGen (Child (targetNode (byName groups))) y z from
      (h y hy).2 (hfrom y hcycle)
    intro z hz
    induction hz with
    | single hyz => exact .single (hstep _ _ hy hyz)
    | tail _ hab ih => exact ih.tail (hstep _ _ (hy.trans ih.to_reflTransGen) hab)
  · intro h y hy
    have hy := h y (Relation.ReflTransGen.mono hsub _ _ hy)
    refine ⟨fun hrefused => ?_, fun hcycle => hy.2.2 (Relation.TransGen.mono hsub _ _ hcycle)⟩
    rcases (refused_iff hdistinct hnamed).mp hrefused with heq | hhollow
    · exact hy.1 heq
    · exact hy.2.1 hhollow

/-- **What the walk decides.**  The budget suffices: there is a call for each edge and each mandatory
group. -/
lemma walk_proven_iff {fuel : Nat} (hfuel : groups.length < fuel)
    (hsize : groupEdges (byName groups) + (byName groups).length +
      (mandatoryNames (byName groups)).length ≤ 100000) :
    (walkAll (mandatoryTargetIsFailClosed (byName groups) fuel []) (mandatoryNames (byName groups))
      ⟨0, []⟩).map Prod.fst = some true ↔
    ∀ x ∈ mandatoryNames (byName groups), Good (targetNode (byName groups)) x := by
  set table := byName groups with htable
  set names := table.map Prod.fst with hnames
  have hnodup : names.Nodup := by
    rw [hnames, htable, map_fst_byName hdistinct hnamed]
    exact hdistinct
  have hwithin : Within (targetNode table) names := within_targetNode table
  have hlength : (unvisited names []).length < fuel := by
    have : names.length = groups.length := by
      rw [hnames, htable, map_fst_byName hdistinct hnamed, List.length_map]
    exact lt_of_le_of_lt (List.length_filter_le _ _) (by omega)
  have hbudget : policyWalkBudget table ≥
      (mandatoryNames table).length + groupEdges table := by
    rw [policyWalkBudget]
    omega
  have hpending : pendingEdges (targetNode table) names [] ≤ groupEdges table := by
    have hall : unvisited names [] = names := List.filter_eq_self.mpr fun x _ => by simp
    rw [pendingEdges, hall, groupEdges, hnames, List.map_map]
    refine List.sum_le_sum fun e he => ?_
    rw [Function.comp_apply]
    have hlookup : table.lookup e.1 = some e.2 := (mem_iff_lookup hnodup).mp he
    rw [targetNode, hlookup]
    split_ifs
    · exact Nat.zero_le _
    · exact Nat.zero_le _
    · exact le_rfl
  rcases @walkAll_decides _ (targetNode table) _ names (policyWalkBudget table) [] _
    (mandatoryNames table)
    (fun x _ p hsound hp => walk_decides hwithin hnodup fuel [] hlength x (by simp) p hsound hp)
    ⟨0, []⟩ (by intro e he; cases he)
    (show 0 + _ + pendingEdges (targetNode table) names [] ≤ policyWalkBudget table by omega) with
    ⟨verdict, p', hresult, hfalse, htrue⟩
  have hresult : walkAll (mandatoryTargetIsFailClosed table fuel []) (mandatoryNames table)
      ⟨0, []⟩ = some (verdict, p') := hresult
  rw [hresult, Option.map_some, Option.some_inj]
  constructor
  · exact fun h => (htrue h).1
  · intro h
    cases verdict with
    | true => rfl
    | false => exact absurd h (hfalse rfl)

lemma mem_mandatoryNames_iff {x : Text} : x ∈ mandatoryNames (byName groups) ↔
    ∃ g ∈ groups, strip g.name = x ∧ isMandatory x = true := by
  rw [mandatoryNames, List.mem_filter, map_fst_byName hdistinct hnamed, List.mem_map]
  constructor
  · rintro ⟨⟨g, hg, rfl⟩, hx⟩
    exact ⟨g, hg, rfl, hx⟩
  · rintro ⟨g, hg, rfl, hx⟩
    exact ⟨⟨g, hg, rfl⟩, hx⟩

/-- The size of the table is the size of the groups. -/
lemma size_byName : groupEdges (byName groups) + (byName groups).length +
      (mandatoryNames (byName groups)).length =
    (groups.map fun g => (g.proxies.getD []).length).sum + groups.length +
      (groups.filter fun g => isMandatory (strip g.name)).length := by
  have hbyName := byName_eq hdistinct hnamed
  have hedges : groupEdges (byName groups) =
      (groups.map fun g => (g.proxies.getD []).length).sum := by
    rw [groupEdges, hbyName, List.map_map]
    rfl
  have hnames : (mandatoryNames (byName groups)).length =
      (groups.filter fun g => isMandatory (strip g.name)).length := by
    rw [mandatoryNames, map_fst_byName hdistinct hnamed, List.filter_map, List.length_map]
    rfl
  rw [hedges, hnames, hbyName, List.length_map]

lemma length_groupNames : (groupNames groups).length = (byName groups).length := by
  rw [groupNames, namedGroups_eq hnamed, byName_eq hdistinct hnamed, List.length_map,
    List.length_map]

/-- **The walk by the groups.**  It succeeds exactly if no path from a mandatory group ends badly. -/
lemma walk_paths_iff {fuel : Nat} (hfuel : groups.length < fuel)
    (hsize : (groups.map fun g => (g.proxies.getD []).length).sum + groups.length +
      (groups.filter fun g => isMandatory (strip g.name)).length ≤ 100000) :
    (walkAll (mandatoryTargetIsFailClosed (byName groups) fuel []) (mandatoryNames (byName groups))
      ⟨0, []⟩).map Prod.fst = some true ↔
    ∀ g ∈ groups, isMandatory (strip g.name) = true →
      ∀ y, Relation.ReflTransGen (Member [reject] groups) (strip g.name) y →
        y ≠ direct ∧ ¬ Hollow [reject] groups y ∧
          ¬ Relation.TransGen (Member [reject] groups) y y := by
  have hgood : ∀ x, Good (targetNode (byName groups)) x ↔ _ := fun x =>
    (good_iff (within_targetNode (byName groups))).trans (paths_iff hdistinct hnamed)
  rw [walk_proven_iff hdistinct hnamed hfuel (size_byName hdistinct hnamed ▸ hsize)]
  constructor
  · intro h g hg hg'
    exact (hgood _).mp (h _ ((mem_mandatoryNames_iff hdistinct hnamed).mpr ⟨g, hg, rfl, hg'⟩))
  · intro h x hx
    rcases (mem_mandatoryNames_iff hdistinct hnamed).mp hx with ⟨g, hg, rfl, hg'⟩
    exact (hgood _).mpr (h g hg hg')

lemma failClosed_of_proven {fuel : Nat} (hfuel : groups.length < fuel)
    (hsize : (groups.map fun g => (g.proxies.getD []).length).sum + groups.length +
      (groups.filter fun g => isMandatory (strip g.name)).length ≤ 100000)
    (h : preimageGroupsProven fuel groups = some true) : FailClosed [reject] groups := by
  rw [preimageGroupsProven, if_neg (not_not.mpr (length_groupNames hdistinct hnamed))] at h
  split_ifs at h with hrequired hauto hsubjects
  any_goals cases h
  simp only [List.all_cons, List.all_nil, Bool.and_true, Bool.and_eq_true] at hrequired
  rcases hrequired with ⟨hrequired, hglobal⟩
  rcases (lookup_any hdistinct hnamed).mp hrequired with ⟨a, ha, haname, haclosed⟩
  rcases (lookup_any hdistinct hnamed).mp hglobal with ⟨b, hb, hbname, hbclosed⟩
  rcases (lookup_any hdistinct hnamed).mp hauto with ⟨c, hc, hcname, hcauto⟩
  refine ⟨?_, ?_, ?_, (walk_paths_iff hdistinct hnamed hfuel hsize).mp h⟩
  · intro name hname
    rcases List.mem_cons.mp hname with rfl | hname
    · exact ⟨a, ha, haname⟩
    · rw [List.mem_singleton.mp hname]
      exact ⟨b, hb, hbname⟩
  · intro g hg hg'
    rw [← targetsClosed_iff]
    simp only [isMandatory, Bool.or_eq_true, decide_eq_true_eq] at hg'
    rcases hg' with (hg' | hg') | hg'
    · rw [group_unique hdistinct hnamed hg ha (hg'.trans haname.symm)]
      exact haclosed
    · rw [group_unique hdistinct hnamed hg hb (hg'.trans hbname.symm)]
      exact hbclosed
    · have := List.all_eq_true.mp hsubjects (strip g.name, g)
        (by rw [byName_eq hdistinct hnamed]; exact List.mem_map.mpr ⟨g, hg, rfl⟩)
      simpa [hg'] using this
  · intro g hg hname
    rw [group_unique hdistinct hnamed hg hc (hname.trans hcname.symm)]
    exact of_decide_eq_true hcauto

lemma proven_of_failClosed {fuel : Nat} (hfuel : groups.length < fuel)
    (hsize : (groups.map fun g => (g.proxies.getD []).length).sum + groups.length +
      (groups.filter fun g => isMandatory (strip g.name)).length ≤ 100000)
    (h : FailClosed [reject] groups) : preimageGroupsProven fuel groups = some true := by
  have hmand : ∀ g ∈ groups, isMandatory (strip g.name) = true → targetsClosed g.proxies = true :=
    fun g hg hg' => targetsClosed_iff.mpr (h.closed g hg hg')
  have hany : ∀ name ∈ [vpnAuto, vpnGlobal], ((byName groups).lookup name).any
      (fun g => targetsClosed g.proxies) = true := by
    intro name hname
    rcases h.present name hname with ⟨g, hg, hgname⟩
    refine (lookup_any hdistinct hnamed).mpr ⟨g, hg, hgname, hmand g hg ?_⟩
    rw [hgname]
    rcases List.mem_cons.mp hname with rfl | hname
    · rfl
    · rw [List.mem_singleton.mp hname]
      rfl
  rw [preimageGroupsProven, if_neg (not_not.mpr (length_groupNames hdistinct hnamed)),
    if_neg (not_not.mpr (List.all_eq_true.mpr hany)), if_neg, if_neg,
    walk_paths_iff hdistinct hnamed hfuel hsize]
  · exact h.paths
  · rw [not_not, List.all_eq_true]
    intro e he
    rw [byName_eq hdistinct hnamed] at he
    rcases List.mem_map.mp he with ⟨g, hg, rfl⟩
    rw [Bool.or_eq_true, Bool.not_eq_true']
    by_cases hsubject : isSubjectGroup (strip g.name) = true
    · exact Or.inr (hmand g hg (by simp [isMandatory, hsubject]))
    · exact Or.inl (Bool.eq_false_iff.mpr hsubject)
  · rw [not_not]
    rcases h.present vpnGlobal (by simp) with ⟨g, hg, hgname⟩
    exact (lookup_any hdistinct hnamed).mpr
      ⟨g, hg, hgname, decide_eq_true (h.auto g hg hgname)⟩

end Distinct

/-! ## The check -/

/-- The recursion of the check ends: no path visits more groups than there are. -/
lemma preimageGroupsProven_ends (groups : List ProxyGroup) {fuel : Nat}
    (hfuel : groups.length < fuel) : ∃ verdict, preimageGroupsProven fuel groups = some verdict := by
  rw [preimageGroupsProven]
  split_ifs
  any_goals exact ⟨_, rfl⟩
  rw [← Option.isSome_iff_exists, Option.isSome_map]
  refine walkAll_ends (fun x p => walk_ends (within_targetNode _) fuel [] ?_ x p) _ _
  refine lt_of_le_of_lt (List.length_filter_le _ _) ?_
  rw [List.length_map]
  exact lt_of_le_of_lt length_byName_le hfuel

namespace Example

/-- The groups Mihomo is given when nobody overrides anything. -/
def plainGroups : List ProxyGroup :=
  [⟨vpnAuto, some ["server".toList, reject]⟩, ⟨vpnGlobal, some [vpnAuto, reject]⟩]

/-- A group with the name of the built-in target leads to `DIRECT`. -/
def groupsWithReject : List ProxyGroup := plainGroups ++ [⟨reject, some [direct]⟩]

end Example

end FwRouter.Xray
