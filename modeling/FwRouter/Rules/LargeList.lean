import FwRouter.Rules.Artifact
import FwRouter.Rules.Protected
import FwRouter.Library.Grouping

/-!
# Compiling a large list changes nothing but its size

`_compile_large_list_rules` collapses the networks of a list and drops the suffixes below another
one.  A destination that some rule of the list is about is one that some compiled rule is about, and
no compiled suffix is equal to another one or below it (`compileLargeListRules_exact`).

The networks are followed through the groups of `_collapse_rule_networks` as the list of their
texts (`values_collapseGroup`): whether a rule of the list or a copy of its first rule stands for a
collapsed network, it is a `cidr` rule with the network's text.  For the suffixes, a name below a
suffix is below all its parents, and a suffix that another one ends in, past a dot, has it for a
parent (`mem_parentsOf_of_suffix`).
-/

namespace FwRouter

open Py Ipaddress Subsumption Grouping

/-- What `validate_value_list` hands to the compiler of a large list. -/
structure LargeList (action : Action) (rules : List RuleEntry) : Prop where
  action : ∀ r ∈ rules, r.action = action
  kind : ∀ r ∈ rules, r.kind ≠ .domain
  ok : ∀ r ∈ rules, r.Ok
  suffix : ∀ r ∈ rules, r.kind = .domainSuffix → SuffixOk r.value

/-- The lines of a large list are read as such a list. -/
lemma largeList_of_lines {U : Unicode} {S : NetworkSettings} {action : Action} {source : Source}
    (hlarge : source.isLarge = true) (lines : List (Text × Nat)) :
    LargeList action (lines.foldl (listStep U S action source) ⟨[], [], [], 0⟩).rules := by
  have hread : ∀ r ∈ (lines.foldl (listStep U S action source) ⟨[], [], [], 0⟩).rules,
      r.action = action ∧ ∃ line, readListLine U source line = some (.ok (r.kind, r.value)) := by
    refine List.foldlRecOn (motive := fun st : ListState => ∀ r ∈ st.rules, r.action = action ∧
      ∃ line, readListLine U source line = some (.ok (r.kind, r.value))) _ _ (by simp)
      fun st hst line _ r hr => ?_
    unfold listStep at hr
    split at hr
    · exact hst r hr
    · exact hst r hr
    · rename_i kind value hread
      split_ifs at hr
      · exact hst r hr
      · exact hst r hr
      · rcases List.mem_append.mp hr with hr | hr
        · exact hst r hr
        · obtain rfl := List.mem_singleton.mp hr
          exact ⟨rfl, _, hread⟩
  refine ⟨fun r hr => (hread r hr).1, fun r hr => ?_, listStep_foldl_ok lines, fun r hr => ?_⟩
  · rcases (hread r hr).2 with ⟨line, hline⟩
    exact (readListLine_cases hline).2 hlarge
  · rcases (hread r hr).2 with ⟨line, hline⟩
    exact (readListLine_cases hline).1

/-! ## The networks -/

section Networks

variable {C : CollapseAddresses} {rules : List RuleEntry} {d : Addr}

/-- The entries of `grouped`, before they are grouped. -/
def networkEntries (rules : List RuleEntry) : List (IpNetwork × RuleEntry) :=
  rules.filterMap fun r => (collapseNetwork r).map fun n => (n, r)

lemma groupEntries_eq (entries : List (IpNetwork × RuleEntry)) :
    groupEntries entries = groups groupKey entries := by
  rfl

lemma containsAddr_of_cidr {r : RuleEntry} {n : IpNetwork} (hkind : r.kind = .cidr)
    (hvalue : r.value = n.str) : r.containsAddr d = true ↔ d ∈ n := by
  rw [RuleEntry.containsAddr, hkind, hvalue, networkForRule, ipNetwork_str]
  simp

/-- A well-formed network rule enters the collapse with the network it prints. -/
lemma mem_networkEntries (hok : ∀ r ∈ rules, r.Ok) {e : IpNetwork × RuleEntry}
    (he : e ∈ networkEntries rules) :
    e.2 ∈ rules ∧ e.2.kind = .cidr ∧ e.2.value = e.1.str := by
  rcases List.mem_filterMap.mp he with ⟨r, hr, hmap⟩
  rcases Option.map_eq_some_iff.mp hmap with ⟨n, hn, rfl⟩
  have hkind := kind_of_collapseNetwork hn
  have hvalue : ValueOk r.kind r.value := hok r hr
  rw [hkind] at hvalue
  rcases hvalue with ⟨m, hm⟩
  rw [collapseNetwork, if_pos hkind, hm, ipNetwork_str] at hn
  obtain rfl := Option.some.inj hn
  exact ⟨hr, hkind, hm⟩

lemma exists_mem_networkEntries (hok : ∀ r ∈ rules, r.Ok) {r : RuleEntry} (hr : r ∈ rules)
    (hkind : r.kind = .cidr) : ∃ n : IpNetwork, r.value = n.str ∧ (n, r) ∈ networkEntries rules := by
  have hvalue : ValueOk r.kind r.value := hok r hr
  rw [hkind] at hvalue
  rcases hvalue with ⟨n, hn⟩
  refine ⟨n, hn, List.mem_filterMap.mpr ⟨r, hr, ?_⟩⟩
  rw [collapseNetwork, if_pos hkind, hn, ipNetwork_str]
  rfl

/-- The rule that stands for a collapsed network prints it. -/
lemma representative_spec {action : Action} {g : List (IpNetwork × RuleEntry)} (hne : g ≠ [])
    (hg : ∀ e ∈ g, e.2.action = action ∧ e.2.kind = .cidr ∧ e.2.value = e.1.str) (n : IpNetwork) :
    ∃ r, representative g n = some r ∧ r.action = action ∧ r.kind = .cidr ∧ r.value = n.str := by
  unfold representative
  split
  · rename_i existing hfind
    rcases hg existing (List.mem_reverse.mp (List.mem_of_find?_eq_some hfind))
      with ⟨haction, hkind, hvalue⟩
    have htext : existing.1.str = n.str := by simpa using List.find?_some hfind
    exact ⟨existing.2, rfl, haction, hkind, hvalue.trans htext⟩
  · rcases List.exists_cons_of_ne_nil hne with ⟨template, rest, rfl⟩
    exact ⟨_, rfl, (hg template (List.mem_cons_self ..)).1, rfl, rfl⟩

lemma values_collapseGroup {action : Action} {g : List (IpNetwork × RuleEntry)} (hne : g ≠ [])
    (hg : ∀ e ∈ g, e.2.action = action ∧ e.2.kind = .cidr ∧ e.2.value = e.1.str) :
    (collapseGroup C g).map RuleEntry.value = (C.collapse (g.map Prod.fst)).map IpNetwork.str := by
  rw [collapseGroup]
  induction C.collapse (g.map Prod.fst) with
  | nil => rfl
  | cons n ns ih =>
      rcases representative_spec hne hg n with ⟨r, hr, -, -, hvalue⟩
      rw [List.filterMap_cons, hr, List.map_cons, List.map_cons, ih, hvalue]

lemma mem_collapseGroup {action : Action} {g : List (IpNetwork × RuleEntry)} (hne : g ≠ [])
    (hg : ∀ e ∈ g, e.2.action = action ∧ e.2.kind = .cidr ∧ e.2.value = e.1.str) {r : RuleEntry}
    (hr : r ∈ collapseGroup C g) : r.action = action ∧ r.kind = .cidr := by
  rcases List.mem_filterMap.mp hr with ⟨n, -, hn⟩
  rcases representative_spec hne hg n with ⟨r', hr', haction, hkind, -⟩
  obtain rfl := Option.some.inj (hn.symm.trans hr')
  exact ⟨haction, hkind⟩

variable {action : Action} (hrules : LargeList action rules)
include hrules

lemma mem_group {g : List (IpNetwork × RuleEntry)}
    (hg : g ∈ groups groupKey (networkEntries rules)) :
    ∀ e ∈ g, e.2.action = action ∧ e.2.kind = .cidr ∧ e.2.value = e.1.str := by
  intro e he
  rcases mem_networkEntries hrules.ok (mem_of_mem_groups hg he) with ⟨hr, hkind, hvalue⟩
  exact ⟨hrules.action _ hr, hkind, hvalue⟩

/-- A rule that the collapse puts out was in the list or stands for a collapsed network. -/
lemma action_collapse {r : RuleEntry} (hr : r ∈ (collapseRuleNetworks C rules).1) :
    r.action = action := by
  by_cases hkind : r.kind = .cidr
  · simp only [collapseRuleNetworks, List.mem_append, List.mem_filter, List.mem_flatMap] at hr
    rcases hr with ⟨hr, -⟩ | ⟨g, hg, hr⟩
    · exact hrules.action r hr
    · exact (mem_collapseGroup (ne_nil_of_mem_groups hg) (mem_group hrules hg) hr).1
  · exact hrules.action r ((mem_collapse_iff hkind).mp hr)

/-- **Collapsing keeps the addresses.** -/
lemma containsAddr_collapse :
    (∃ r ∈ (collapseRuleNetworks C rules).1, r.containsAddr d = true) ↔
      ∃ r ∈ rules, r.containsAddr d = true := by
  constructor
  · rintro ⟨r, hr, hd⟩
    by_cases hkind : r.kind = .cidr
    · simp only [collapseRuleNetworks, List.mem_append, List.mem_filter, List.mem_flatMap] at hr
      rcases hr with ⟨hr, -⟩ | ⟨g, hg, hr⟩
      · exact ⟨r, hr, hd⟩
      · have hspec := mem_group hrules hg
        have hvalue : r.value ∈ (C.collapse (g.map Prod.fst)).map IpNetwork.str := by
          rw [← values_collapseGroup (ne_nil_of_mem_groups hg) hspec]
          exact List.mem_map_of_mem hr
        rcases List.mem_map.mp hvalue with ⟨n, hn, hstr⟩
        have hdn : d ∈ n := (containsAddr_of_cidr hkind hstr.symm).mp hd
        rcases (C.covers_collapse _ d).mp ⟨n, hn, hdn⟩ with ⟨m, hm, hdm⟩
        rcases List.mem_map.mp hm with ⟨e, he, rfl⟩
        exact ⟨e.2, (mem_networkEntries hrules.ok (mem_of_mem_groups hg he)).1,
          (containsAddr_of_cidr (hspec e he).2.1 (hspec e he).2.2).mpr hdm⟩
    · exact ⟨r, (mem_collapse_iff hkind).mp hr, hd⟩
  · rintro ⟨r, hr, hd⟩
    by_cases hkind : r.kind = .cidr
    · rcases exists_mem_networkEntries hrules.ok hr hkind with ⟨m, hm, hentry⟩
      rcases @exists_mem_groups _ _ _ _ _ groupKey _ _ hentry with ⟨g, hg, heg⟩
      have hspec := mem_group hrules hg
      have hdm : d ∈ m := (containsAddr_of_cidr hkind hm).mp hd
      rcases (C.covers_collapse (g.map Prod.fst) d).mpr ⟨m, List.mem_map_of_mem heg, hdm⟩
        with ⟨n, hn, hdn⟩
      have hvalue : n.str ∈ (collapseGroup C g).map RuleEntry.value := by
        rw [values_collapseGroup (ne_nil_of_mem_groups hg) hspec]
        exact List.mem_map_of_mem hn
      rcases List.mem_map.mp hvalue with ⟨r', hr', hstr⟩
      refine ⟨r', List.mem_append_right _ (List.mem_flatMap.mpr ⟨g, hg, hr'⟩), ?_⟩
      exact (containsAddr_of_cidr (mem_collapseGroup (ne_nil_of_mem_groups hg) hspec hr').2
        hstr).mpr hdn
    · exact ⟨r, (mem_collapse_iff hkind).mpr hr, hd⟩

/-- **Collapsing counts what it removes.** -/
lemma length_collapse (hfewer : ∀ ns, (C.collapse ns).length ≤ ns.length) :
    (collapseRuleNetworks C rules).2 + (collapseRuleNetworks C rules).1.length = rules.length := by
  have hgroup : ∀ g ∈ groupEntries (networkEntries rules),
      g.length - (C.collapse (g.map Prod.fst)).length + (collapseGroup C g).length = g.length := by
    intro g hg
    have hlength := congrArg List.length
      (@values_collapseGroup C _ _ (ne_nil_of_mem_groups hg) (mem_group hrules hg))
    have hle := hfewer (g.map Prod.fst)
    simp only [List.length_map] at hlength hle
    omega
  have hgroups : ∀ gs : List (List (IpNetwork × RuleEntry)),
      (∀ g ∈ gs, g.length - (C.collapse (g.map Prod.fst)).length + (collapseGroup C g).length =
        g.length) →
      (gs.map fun g => g.length - (C.collapse (g.map Prod.fst)).length).sum +
        (gs.flatMap (collapseGroup C)).length = (gs.map List.length).sum := by
    intro gs
    induction gs with
    | nil => intro _; rfl
    | cons g gs ih =>
        intro hgs
        have hfirst := hgs g (List.mem_cons_self ..)
        have hrest := ih fun g hg => hgs g (List.mem_cons_of_mem _ hg)
        simp only [List.map_cons, List.sum_cons, List.flatMap_cons, List.length_append]
        omega
  have hsum := hgroups _ hgroup
  rw [groupEntries_eq, sum_length_groups, ← groupEntries_eq] at hsum
  have hentries : (networkEntries rules).length =
      (rules.filter fun r => (collapseNetwork r).isSome).length := by
    rw [networkEntries, List.length_filterMap_eq_countP, List.countP_eq_length_filter]
    simp
  have hsplit := List.length_eq_length_filter_add (l := rules) fun r => (collapseNetwork r).isSome
  simp only [Option.not_isSome] at hsplit
  show (((groupEntries (networkEntries rules)).map _).sum +
    (_ ++ (groupEntries (networkEntries rules)).flatMap (collapseGroup C)).length) = _
  rw [List.length_append]
  omega

end Networks

/-! ## The suffixes -/

section Suffixes

variable {p v name : Text}

lemma dot_intercalate {labels : List Text} (h : labels ≠ []) :
    '.' :: ['.'].intercalate labels = labels.flatMap ('.' :: ·) := by
  induction labels with
  | nil => exact absurd rfl h
  | cons l labels ih =>
      cases labels with
      | nil => simp [List.intercalate]
      | cons l' labels =>
          have ih := ih (List.cons_ne_nil _ _)
          rw [List.flatMap_cons, ← ih]
          simp [List.intercalate]

lemma eq_flatMap_suffixLabels (hok : SuffixOk v) :
    v = (suffixLabels v).flatMap ('.' :: ·) := by
  rcases hok with ⟨d, rfl, hlabels⟩
  rw [suffixLabels_of_ok hlabels, ← dot_intercalate (List.splitOn_ne_nil _ _),
    List.intercalate_splitOn]

lemma suffix_of_mem_parentsOf (hok : SuffixOk v) (h : p ∈ parentsOf v) : p <:+ v.tail := by
  rcases mem_parentsOf.mp h with ⟨i, hi, hlt, rfl⟩
  have hsplit := eq_flatMap_suffixLabels hok
  rw [← List.take_append_drop i (suffixLabels v), List.flatMap_append] at hsplit
  rw [dot_intercalate (by rw [ne_eq, List.drop_eq_nil_iff]; omega)]
  cases htake : (suffixLabels v).take i with
  | nil =>
      rw [List.take_eq_nil_iff] at htake
      rcases htake with hzero | hnil
      · omega
      · rw [hnil] at hlt
        exact absurd hlt (Nat.not_lt_zero _)
  | cons l labels =>
      rw [htake, List.flatMap_cons] at hsplit
      have htail := congrArg List.tail hsplit
      rw [List.cons_append, List.cons_append, List.tail_cons] at htail
      rw [htail]
      exact List.suffix_append _ _

/-- What a suffix ends in past a dot is one of its parents. -/
lemma mem_parentsOf_of_suffix (hp : SuffixOk p) (hv : SuffixOk v) (h : p <:+ v) (hne : p ≠ v) :
    p ∈ parentsOf v := by
  rcases hp with ⟨d, rfl, hd⟩
  rcases hv with ⟨e, rfl, he⟩
  rcases h with ⟨_ | ⟨c, rest⟩, hsplit⟩
  · exact absurd hsplit hne
  · have hc : e = rest ++ '.' :: d := (List.cons.inj hsplit).2.symm
    have hlabels : e.splitOn '.' = rest.splitOn '.' ++ d.splitOn '.' := by
      rw [hc, List.splitOn_append_cons_self]
    have hrest : 0 < (rest.splitOn '.').length :=
      List.length_pos_of_ne_nil (List.splitOn_ne_nil _ _)
    have hlast : 0 < (d.splitOn '.').length := List.length_pos_of_ne_nil (List.splitOn_ne_nil _ _)
    refine mem_parentsOf.mpr ⟨(rest.splitOn '.').length, hrest, ?_, ?_⟩
    · rw [suffixLabels_of_ok he, hlabels, List.length_append]
      omega
    · rw [suffixLabels_of_ok he, hlabels, List.drop_left, List.intercalate_splitOn]

lemma matchesName_suffix {r : RuleEntry} (hkind : r.kind = .domainSuffix) :
    r.MatchesName name ↔ name = r.value.tail ∨ r.value <:+ name := by
  rw [RuleEntry.MatchesName, hkind]

/-- A name below a suffix is below its parents. -/
lemma matchesName_parent {r q : RuleEntry} (hr : r.kind = .domainSuffix)
    (hq : q.kind = .domainSuffix) (hok : SuffixOk r.value) (h : q.value ∈ parentsOf r.value)
    (hname : r.MatchesName name) : q.MatchesName name := by
  have hsuffix := suffix_of_mem_parentsOf hok h
  rw [matchesName_suffix hr] at hname
  refine (matchesName_suffix hq).mpr (Or.inr ?_)
  rcases hname with rfl | hname
  · exact hsuffix
  · exact (hsuffix.trans (List.tail_suffix _)).trans hname

end Suffixes

/-! ## The compiled list -/

section Compiled

variable {C : CollapseAddresses} {source : Source} {action : Action} {rules : List RuleEntry}

/-- The suffixes of the collapsed list, which are those of the list. -/
def suffixRules (C : CollapseAddresses) (rules : List RuleEntry) : List RuleEntry :=
  (collapseRuleNetworks C rules).1.filter fun r => r.kind = .domainSuffix

/-- The suffixes that are kept. -/
def keptSuffixRules (C : CollapseAddresses) (rules : List RuleEntry) : List RuleEntry :=
  ((sortRules suffixKey (suffixRules C rules)).foldl suffixStep ⟨[], [], 0⟩).minimized

lemma mem_suffixRules {r : RuleEntry} :
    r ∈ suffixRules C rules ↔ r ∈ rules ∧ r.kind = .domainSuffix := by
  rw [suffixRules, List.mem_filter, decide_eq_true_eq]
  exact and_congr_left fun hkind => mem_collapse_iff (by rw [hkind]; exact Kind.noConfusion)

lemma of_mem_keptSuffixRules {r : RuleEntry} (h : r ∈ keptSuffixRules C rules) :
    r ∈ rules ∧ r.kind = .domainSuffix := by
  have := mem_of_mem_minimized r h
  rwa [mem_sortRules, mem_suffixRules] at this

/-- The compiled list is made of the other collapsed rules and the suffixes that are kept. -/
lemma compile_perm (C : CollapseAddresses) (hlarge : source.isLarge = true)
    (rules : List RuleEntry) :
    List.Perm (compileLargeListRules C rules source).1
      (((collapseRuleNetworks C rules).1.filter fun r => r.kind ≠ .domainSuffix) ++
        keptSuffixRules C rules) := by
  rw [compileLargeListRules, if_pos hlarge]
  exact List.perm_insertionSort _ _

lemma mem_compile (hlarge : source.isLarge = true) {r : RuleEntry} :
    r ∈ (compileLargeListRules C rules source).1 ↔
      r ∈ (collapseRuleNetworks C rules).1 ∧ r.kind ≠ .domainSuffix ∨
        r ∈ keptSuffixRules C rules := by
  rw [(compile_perm C hlarge rules).mem_iff, List.mem_append, List.mem_filter, decide_eq_true_eq]

lemma not_containsAddr_of_suffix {r : RuleEntry} {d : Addr} (hkind : r.kind = .domainSuffix) :
    r.containsAddr d = false := by
  rw [RuleEntry.containsAddr, hkind]
  rfl

/-- **The same action.** -/
lemma action_compile (hlarge : source.isLarge = true) (hrules : LargeList action rules) :
    ∀ r ∈ (compileLargeListRules C rules source).1, r.action = action := by
  intro r hr
  rcases (mem_compile hlarge).mp hr with ⟨hr, -⟩ | hr
  · exact action_collapse hrules hr
  · exact hrules.action r (of_mem_keptSuffixRules hr).1

/-- **The same addresses.** -/
lemma containsAddr_compile (hlarge : source.isLarge = true) (hrules : LargeList action rules)
    (d : Addr) :
    (∃ r ∈ (compileLargeListRules C rules source).1, r.containsAddr d = true) ↔
      ∃ r ∈ rules, r.containsAddr d = true := by
  rw [← @containsAddr_collapse C _ _ _ hrules]
  constructor
  · rintro ⟨r, hr, hd⟩
    rcases (mem_compile hlarge).mp hr with ⟨hr, -⟩ | hr
    · exact ⟨r, hr, hd⟩
    · rw [not_containsAddr_of_suffix (of_mem_keptSuffixRules hr).2] at hd
      cases hd
  · rintro ⟨r, hr, hd⟩
    refine ⟨r, (mem_compile hlarge).mpr (Or.inl ⟨hr, fun hkind => ?_⟩), hd⟩
    rw [not_containsAddr_of_suffix hkind] at hd
    cases hd

/-- A suffix of the list is kept or has a parent that is. -/
lemma exists_keptSuffixRule (hrules : LargeList action rules) {r : RuleEntry} (hr : r ∈ rules)
    (hkind : r.kind = .domainSuffix) :
    ∃ q ∈ keptSuffixRules C rules, q.value = r.value ∨ q.value ∈ parentsOf r.value := by
  have hok : ∀ q ∈ suffixRules C rules, SuffixOk q.value := fun q hq =>
    hrules.suffix q (mem_suffixRules.mp hq).1 (mem_suffixRules.mp hq).2
  have hsuffix := suffixOk_of_mem_sortedValues hok
  have hvalue : r.value ∈ (sortRules suffixKey (suffixRules C rules)).map RuleEntry.value :=
    mem_sortedValues.mpr ⟨r, mem_suffixRules.mpr ⟨hr, hkind⟩, rfl⟩
  rcases @exists_kept _ _ isParent (fun u => (suffixLabels u).length) _
    (fun p _ q _ u hu hpq hqu => isParent_trans (hsuffix u hu) hpq hqu)
    (fun p _ u hu h => isParent_rank (hsuffix u hu) h) (pairwise_sortedValues _) _ hvalue
    with ⟨u, hu, hcovers⟩
  rw [← values_suffixPass] at hu
  rcases List.mem_map.mp hu with ⟨q, hq, rfl⟩
  refine ⟨q, hq, ?_⟩
  rcases hcovers with hcovers | hcovers
  · exact Or.inl hcovers
  · exact Or.inr (of_decide_eq_true hcovers)

/-- **The same host names.** -/
lemma matchesName_compile (hlarge : source.isLarge = true) (hrules : LargeList action rules)
    (name : Text) :
    (∃ r ∈ (compileLargeListRules C rules source).1, r.MatchesName name) ↔
      ∃ r ∈ rules, r.MatchesName name := by
  constructor
  · rintro ⟨r, hr, hname⟩
    rcases (mem_compile hlarge).mp hr with ⟨hr, -⟩ | hr
    · have hkind : r.kind ≠ .cidr := by
        intro hkind
        rw [RuleEntry.MatchesName, hkind] at hname
        exact hname
      exact ⟨r, (mem_collapse_iff hkind).mp hr, hname⟩
    · exact ⟨r, (of_mem_keptSuffixRules hr).1, hname⟩
  · rintro ⟨r, hr, hname⟩
    have hkind : r.kind = .domainSuffix := by
      cases hkind : r.kind with
      | domainSuffix => rfl
      | domain => exact absurd hkind (hrules.kind r hr)
      | ip =>
          rw [RuleEntry.MatchesName, hkind] at hname
          exact hname.elim
      | cidr =>
          rw [RuleEntry.MatchesName, hkind] at hname
          exact hname.elim
    rcases @exists_keptSuffixRule C _ _ hrules _ hr hkind with ⟨q, hq, hparent⟩
    have hqkind := (of_mem_keptSuffixRules hq).2
    refine ⟨q, (mem_compile hlarge).mpr (Or.inr hq), ?_⟩
    rcases hparent with hequal | hparent
    · rw [matchesName_suffix hqkind, hequal]
      exact (matchesName_suffix hkind).mp hname
    · exact matchesName_parent hkind hqkind (hrules.suffix r hr hkind) hparent hname

/-- Two suffixes of which neither is equal to the other or below it; nothing is asked of the other
rules. -/
def Apart (r q : RuleEntry) : Prop :=
  r.kind = .domainSuffix → q.kind = .domainSuffix → ¬ r.value <:+ q.value ∧ ¬ q.value <:+ r.value

lemma apart_comm : Std.Symm Apart :=
  ⟨fun _ _ h hr hq => ⟨(h hq hr).2, (h hq hr).1⟩⟩

/-- **No suffix is redundant.** -/
lemma pairwise_apart_compile (hlarge : source.isLarge = true) (hrules : LargeList action rules) :
    (compileLargeListRules C rules source).1.Pairwise Apart := by
  have hsuffix : ∀ q ∈ suffixRules C rules, SuffixOk q.value := fun q hq =>
    hrules.suffix q (mem_suffixRules.mp hq).1 (mem_suffixRules.mp hq).2
  have hkept : (keptSuffixRules C rules).Pairwise Apart := by
    have hnodup : ((keptSuffixRules C rules).map RuleEntry.value).Nodup := by
      rw [keptSuffixRules, values_suffixPass]
      exact nodup_foldl_keep _
    rw [List.Nodup, List.pairwise_map] at hnodup
    -- a kept suffix has no parent in the list
    have hbelow : ∀ r ∈ keptSuffixRules C rules, ∀ q ∈ keptSuffixRules C rules,
        r.value ≠ q.value → ¬ r.value <:+ q.value := by
      intro r hr q hq hne hend
      have hr' := of_mem_keptSuffixRules hr
      have hq' := of_mem_keptSuffixRules hq
      have hnone := ((mem_minimized_iff hsuffix q.value).mp ⟨q, hq, rfl⟩).2 r
        (mem_suffixRules.mpr hr')
      exact hnone (mem_parentsOf_of_suffix (hrules.suffix r hr'.1 hr'.2)
        (hrules.suffix q hq'.1 hq'.2) hend hne)
    refine hnodup.imp_of_mem fun {r q} hr hq hne _ _ => ?_
    exact ⟨hbelow r hr q hq hne, hbelow q hq r hr (Ne.symm hne)⟩
  rw [(compile_perm C hlarge rules).pairwise_iff (apart_comm.symm _ _), List.pairwise_append]
  refine ⟨?_, hkept, ?_⟩
  · refine List.Pairwise.imp_of_mem (R := fun _ _ => True) ?_ (List.pairwise_of_forall (by simp))
    intro r q hr _ _ hkind
    exact absurd hkind (of_decide_eq_true (List.mem_filter.mp hr).2)
  · intro r hr q _ hkind
    exact absurd hkind (of_decide_eq_true (List.mem_filter.mp hr).2)

lemma removed_suffixPass (rules : List RuleEntry) (st : SuffixState) :
    (rules.foldl suffixStep st).removed + (rules.foldl suffixStep st).minimized.length =
      st.removed + st.minimized.length + rules.length := by
  induction rules generalizing st with
  | nil => rfl
  | cons r rules ih =>
      rw [List.foldl_cons, ih, suffixStep]
      split_ifs
      · simp only [List.length_cons]
        omega
      · simp only [List.length_append, List.length_cons, List.length_nil]
        omega

/-- **The counts add up.** -/
lemma length_compile (hfewer : ∀ ns, (C.collapse ns).length ≤ ns.length)
    (hlarge : source.isLarge = true) (hrules : LargeList action rules) :
    (compileLargeListRules C rules source).2.1 + (compileLargeListRules C rules source).2.2 +
      (compileLargeListRules C rules source).1.length = rules.length := by
  have hcollapse := length_collapse hrules hfewer
  have hsuffix := removed_suffixPass (sortRules suffixKey (suffixRules C rules)) ⟨[], [], 0⟩
  have hcounts : (compileLargeListRules C rules source).2 =
      ((collapseRuleNetworks C rules).2,
        ((sortRules suffixKey (suffixRules C rules)).foldl suffixStep ⟨[], [], 0⟩).removed) := by
    rw [compileLargeListRules, if_pos hlarge]
    rfl
  have hsplit := List.length_eq_length_filter_add (l := (collapseRuleNetworks C rules).1)
    fun r => decide (r.kind = .domainSuffix)
  rw [(compile_perm C hlarge rules).length_eq, List.length_append, hcounts]
  simp only [sortRules, List.length_insertionSort, List.length_nil] at hsuffix
  simp only [suffixRules, keptSuffixRules, sortRules, decide_not] at hsuffix hsplit ⊢
  omega

/-- **Compiling a large list keeps its meaning.**  It is about the same addresses and the same host
names, no compiled suffix is redundant, and the counts of removed rules say how much shorter it is.
The collapse may be any that keeps the union and does not add networks. -/
theorem compileLargeListRules_exact (C : CollapseAddresses)
    (hfewer : ∀ ns, (C.collapse ns).length ≤ ns.length) (hlarge : source.isLarge = true)
    (hrules : LargeList action rules) :
    (∀ r ∈ (compileLargeListRules C rules source).1, r.action = action) ∧
    (∀ d, (∃ r ∈ (compileLargeListRules C rules source).1, r.containsAddr d = true) ↔
      ∃ r ∈ rules, r.containsAddr d = true) ∧
    (∀ name, (∃ r ∈ (compileLargeListRules C rules source).1, r.MatchesName name) ↔
      ∃ r ∈ rules, r.MatchesName name) ∧
    (compileLargeListRules C rules source).1.Pairwise Apart ∧
    (compileLargeListRules C rules source).2.1 + (compileLargeListRules C rules source).2.2 +
      (compileLargeListRules C rules source).1.length = rules.length :=
  ⟨action_compile hlarge hrules, containsAddr_compile hlarge hrules,
    matchesName_compile hlarge hrules, pairwise_apart_compile hlarge hrules,
    length_compile hfewer hlarge hrules⟩

lemma length_sorted_le (ns : List IpNetwork) :
    (CollapseAddresses.sorted.collapse ns).length ≤ ns.length := by
  rw [CollapseAddresses.sorted, List.length_insertionSort]
  exact ns.dedup_sublist.length_le

/-- The lines of the text `.www.example.org`, `example.org` and `8.8.8.0/24`, as big-direct list. -/
def exampleLines : List RuleEntry :=
  ([(".www.example.org".toList, 1), ("example.org".toList, 2), ("8.8.8.0/24".toList, 3)].foldl
    (listStep .ascii .unset .direct .bigDirect) ⟨[], [], [], 0⟩).rules

/-- **Three lines, of which one is dropped.** -/
theorem exampleLines_exact :
    (compileLargeListRules .sorted exampleLines .bigDirect).1.map RuleEntry.value =
      ["8.8.8.0/24".toList, ".example.org".toList] ∧
    (∀ name, (∃ r ∈ (compileLargeListRules .sorted exampleLines .bigDirect).1,
      r.MatchesName name) ↔ ∃ r ∈ exampleLines, r.MatchesName name) :=
  ⟨by decide +kernel, (compileLargeListRules_exact .sorted length_sorted_le rfl
    (largeList_of_lines rfl _)).2.2.1⟩

end Compiled

end FwRouter
