import FwRouter.Rules.LargeList
import FwRouter.Rules.ReadBack

/-!
# The canonical text of a large list

The text `validate_value_list` returns for a large list depends only on which lines the list has, and
validating it again gives the same rules and the same text (`largeList_canonical`).

Both follow from one comparison.  The compiled list is sorted by kind and value, so it is known when
its keys are known, with their multiplicities (`keys_compile_congr`): the addresses and the suffixes
that are kept are there once each, and the networks of one version are what the collapse makes of
the listed ones.  Of the collapse it is assumed that it looks at its input as a set and that what it
returns is collapsed already.
-/

namespace FwRouter

open Py Ipaddress Grouping

/-! ## Overlapping networks -/

lemma firstAddr_mem (n : IpNetwork) : n.firstAddr ∈ n :=
  IpNetwork.mem_def.mpr ⟨rfl, n.aligned⟩

lemma lastAddr_mem (n : IpNetwork) : n.lastAddr ∈ n := by
  refine IpNetwork.mem_def.mpr ⟨rfl, ?_⟩
  have haligned : n.networkAddress.addr.ip / 2 ^ n.hostBits * 2 ^ n.hostBits =
      n.networkAddress.addr.ip := n.aligned
  have hpos : 0 < 2 ^ n.hostBits := Nat.two_pow_pos _
  show (n.networkAddress.addr.ip + (2 ^ n.hostBits - 1)) / 2 ^ n.hostBits * 2 ^ n.hostBits = _
  rw [← haligned, Nat.add_comm, Nat.add_mul_div_right _ _ hpos,
    Nat.div_eq_of_lt (Nat.sub_lt hpos Nat.one_pos), Nat.zero_add]

/-- Networks that overlap have an address in common. -/
lemma exists_shared_of_overlaps {n m : IpNetwork} (h : n.overlaps m = true) :
    ∃ d, d ∈ n ∧ d ∈ m := by
  simp only [IpNetwork.overlaps, Bool.or_eq_true] at h
  rcases h with h | h | h | h
  · exact ⟨n.firstAddr, firstAddr_mem n, h⟩
  · exact ⟨n.lastAddr, lastAddr_mem n, h⟩
  · exact ⟨m.firstAddr, h, firstAddr_mem m⟩
  · exact ⟨m.lastAddr, h, lastAddr_mem m⟩

/-- A network that avoids the protected ones passes the check. -/
lemma not_protected_of_avoids {S : NetworkSettings} {r : RuleEntry} (h : Avoids S r) :
    isProtectedLocal S .cidr r.value = false := by
  rcases h with ⟨n, hn, havoids⟩
  rw [isProtectedLocal, networkForRule, hn, ipNetwork_str]
  simp only [List.any_eq_false, Bool.not_eq_true]
  intro m hm
  by_contra hoverlap
  rcases exists_shared_of_overlaps (by simpa using hoverlap) with ⟨d, hdn, hdm⟩
  exact havoids d hdn ⟨m, hm, hdm⟩

/-! ## The collapse -/

/-- Networks of one version without scope ids. -/
def Plain (ns : List IpNetwork) : Prop :=
  (∃ v, ∀ n ∈ ns, n.version = v) ∧ ∀ n ∈ ns, n.networkAddress.scopeId = none

/-- What is documented of `collapse_addresses`, of lists it accepts: it returns such networks, looks
at its input as a set, and what it returns is collapsed. -/
structure CollapseLaws (C : CollapseAddresses) : Prop where
  scope : ∀ ns, Plain ns → ∀ n ∈ C.collapse ns, n.networkAddress.scopeId = none
  congr : ∀ ns ms, Plain ns → Plain ms → (∀ n, n ∈ ns ↔ n ∈ ms) → C.collapse ns = C.collapse ms
  fixed : ∀ ns, Plain ns → C.collapse (C.collapse ns) = C.collapse ns

section Collapse

variable {C : CollapseAddresses} {ns : List IpNetwork}

lemma collapse_eq_nil_iff : C.collapse ns = [] ↔ ns = [] := by
  constructor
  · intro h
    rw [List.eq_nil_iff_forall_not_mem]
    intro n hn
    rcases (C.covers_collapse ns n.firstAddr).mpr ⟨n, hn, firstAddr_mem n⟩ with ⟨m, hm, -⟩
    rw [h] at hm
    cases hm
  · rintro rfl
    rw [List.eq_nil_iff_forall_not_mem]
    intro n hn
    rcases (C.covers_collapse [] n.firstAddr).mp ⟨n, hn, firstAddr_mem n⟩ with ⟨m, hm, -⟩
    cases hm

/-- The collapse does not leave the version. -/
lemma version_collapse {v : Version} (h : ∀ n ∈ ns, n.version = v) :
    ∀ n ∈ C.collapse ns, n.version = v := by
  intro n hn
  rcases (C.covers_collapse ns n.firstAddr).mp ⟨n, hn, firstAddr_mem n⟩ with ⟨m, hm, hmem⟩
  rw [← h m hm]
  exact (IpNetwork.mem_def.mp hmem).1

lemma CollapseLaws.plain (hC : CollapseLaws C) (h : Plain ns) : Plain (C.collapse ns) := by
  rcases h.1 with ⟨v, hv⟩
  exact ⟨⟨v, version_collapse hv⟩, hC.scope ns h⟩

lemma str_injective {n m : IpNetwork} (h : n.str = m.str) : n = m := by
  have hread := ipNetwork_str n
  rw [h, ipNetwork_str] at hread
  exact (Option.some.inj hread).symm

end Collapse

/-! ## Keys of the compiled list -/

section Keys

variable {C : CollapseAddresses} {source : Source} {action : Action} {rules rules' : List RuleEntry}

/-- What is compared of a rule: its kind and value. -/
def RuleEntry.listKey (r : RuleEntry) : Kind × Text := (r.kind, r.value)

/-- The listed networks of one version. -/
def cidrNetworks (rules : List RuleEntry) (v : Version) : List IpNetwork :=
  ((networkEntries rules).filter fun e => e.1.version = v).map Prod.fst

lemma mem_cidrNetworks (hok : ∀ r ∈ rules, r.Ok) {n : IpNetwork} {v : Version} :
    n ∈ cidrNetworks rules v ↔ n.version = v ∧ (Kind.cidr, n.str) ∈ rules.map RuleEntry.listKey := by
  simp only [cidrNetworks, List.mem_map, List.mem_filter, decide_eq_true_eq]
  constructor
  · rintro ⟨e, ⟨he, rfl⟩, rfl⟩
    rcases mem_networkEntries hok he with ⟨hr, hkind, hvalue⟩
    exact ⟨rfl, e.2, hr, by rw [RuleEntry.listKey, hkind, hvalue]⟩
  · rintro ⟨rfl, r, hr, hkey⟩
    rcases exists_mem_networkEntries hok hr (Prod.mk.inj hkey).1 with ⟨m, hm, hentry⟩
    obtain rfl : m = n := str_injective (hm.symm.trans (Prod.mk.inj hkey).2)
    exact ⟨_, ⟨hentry, rfl⟩, rfl⟩

lemma version_cidrNetworks {v : Version} : ∀ n ∈ cidrNetworks rules v, n.version = v := by
  intro n hn
  rcases List.mem_map.mp hn with ⟨e, he, rfl⟩
  exact of_decide_eq_true (List.mem_filter.mp he).2

/-- The keys of the networks a group is collapsed to. -/
def collapsedKeys (C : CollapseAddresses) (rules : List RuleEntry) (v : Version) :
    List (Kind × Text) :=
  (C.collapse (cidrNetworks rules v)).map fun n => (Kind.cidr, n.str)

/-- The keys of `grouped`. -/
def groupKeys (rules : List RuleEntry) : List (Action × Version) :=
  ((networkEntries rules).map groupKey).eraseDups

lemma mem_groupKeys (hrules : LargeList action rules) {key : Action × Version} :
    key ∈ groupKeys rules ↔ key.1 = action ∧ cidrNetworks rules key.2 ≠ [] := by
  rw [groupKeys, List.mem_eraseDups, List.mem_map]
  constructor
  · rintro ⟨e, he, rfl⟩
    refine ⟨hrules.action _ (mem_networkEntries hrules.ok he).1, ?_⟩
    exact List.ne_nil_of_mem (List.mem_map_of_mem (List.mem_filter.mpr ⟨he, decide_eq_true rfl⟩))
  · rintro ⟨haction, hne⟩
    rcases List.exists_mem_of_ne_nil _ hne with ⟨n, hn⟩
    rcases List.mem_map.mp hn with ⟨e, he, rfl⟩
    rcases List.mem_filter.mp he with ⟨he, hversion⟩
    refine ⟨e, he, Prod.ext ?_ (of_decide_eq_true hversion)⟩
    rw [haction]
    exact hrules.action _ (mem_networkEntries hrules.ok he).1

/-- The keys of the groups, one group after the other. -/
lemma keys_groups (hrules : LargeList action rules) :
    ((groupEntries (networkEntries rules)).flatMap (collapseGroup C)).map RuleEntry.listKey =
      (groupKeys rules).flatMap fun key => collapsedKeys C rules key.2 := by
  rw [groupEntries_eq, groups, List.map_flatMap, List.flatMap_map]
  refine List.flatMap_congr fun key hkey => ?_
  have hfilter : ((networkEntries rules).filter fun e => groupKey e = key) =
      (networkEntries rules).filter fun e => e.1.version = key.2 := by
    refine List.filter_congr fun e he => ?_
    rw [Bool.eq_iff_iff, decide_eq_true_eq, decide_eq_true_eq]
    have haction := hrules.action _ (mem_networkEntries hrules.ok he).1
    constructor
    · rintro rfl
      rfl
    · intro hversion
      exact Prod.ext (haction.trans ((mem_groupKeys hrules).mp hkey).1.symm) hversion
  have hgroup : ((networkEntries rules).filter fun e => groupKey e = key) ∈
      groups groupKey (networkEntries rules) := List.mem_map.mpr ⟨key, hkey, rfl⟩
  have hspec := mem_group hrules hgroup
  have hvalues := @values_collapseGroup C _ _ (ne_nil_of_mem_groups hgroup) hspec
  have hkinds : ∀ r ∈ collapseGroup C ((networkEntries rules).filter fun e => groupKey e = key),
      r.kind = .cidr := fun r hr =>
    (mem_collapseGroup (ne_nil_of_mem_groups hgroup) hspec hr).2
  rw [collapsedKeys, cidrNetworks, ← hfilter]
  rw [show (fun n : IpNetwork => (Kind.cidr, n.str)) = (fun t => (Kind.cidr, t)) ∘ IpNetwork.str
    from rfl, ← List.map_map, ← hvalues, List.map_map]
  exact List.map_congr_left fun r hr => by rw [RuleEntry.listKey, hkinds r hr]; rfl

/-- **The compiled list by its keys.** -/
lemma keys_compile_perm (hlarge : source.isLarge = true) (hrules : LargeList action rules) :
    List.Perm ((compileLargeListRules C rules source).1.map RuleEntry.listKey)
      ((rules.filter fun r => r.kind = .ip).map RuleEntry.listKey ++
        ((groupKeys rules).flatMap fun key => collapsedKeys C rules key.2) ++
        (keptSuffixRules C rules).map RuleEntry.listKey) := by
  have hcidr : ∀ r ∈ (groupEntries (networkEntries rules)).flatMap (collapseGroup C),
      r.kind = .cidr := by
    intro r hr
    rcases List.mem_flatMap.mp hr with ⟨g, hg, hr⟩
    exact (mem_collapseGroup (ne_nil_of_mem_groups hg) (mem_group hrules hg) hr).2
  have hother : ((collapseRuleNetworks C rules).1.filter fun r => r.kind ≠ .domainSuffix) =
      (rules.filter fun r => r.kind = .ip) ++
        (groupEntries (networkEntries rules)).flatMap (collapseGroup C) := by
    rw [show (collapseRuleNetworks C rules).1 =
      (rules.filter fun r => (collapseNetwork r).isNone) ++
        (groupEntries (networkEntries rules)).flatMap (collapseGroup C) from rfl,
      List.filter_append, List.filter_filter]
    congr 1
    · refine List.filter_congr fun r hr => ?_
      have hnone : (collapseNetwork r).isNone = true ↔ r.kind ≠ .cidr := by
        rw [Option.isNone_iff_eq_none]
        constructor
        · intro hnone hkind
          rcases exists_mem_networkEntries hrules.ok hr hkind with ⟨n, hn, -⟩
          rw [collapseNetwork, if_pos hkind, hn, ipNetwork_str] at hnone
          cases hnone
        · intro hkind
          rw [collapseNetwork, if_neg hkind]
      have hdomain := hrules.kind r hr
      rw [Bool.eq_iff_iff, Bool.and_eq_true, hnone, decide_eq_true_eq, decide_eq_true_eq]
      cases hkind : r.kind with
      | ip => simp
      | cidr => simp
      | domain => exact absurd hkind hdomain
      | domainSuffix => simp
    · refine List.filter_eq_self.mpr fun r hr => decide_eq_true ?_
      rw [hcidr r hr]
      exact Kind.noConfusion
  have hperm := (compile_perm C hlarge rules).map RuleEntry.listKey
  rw [hother, List.map_append, List.map_append, keys_groups hrules] at hperm
  exact hperm

lemma keys_eq_of_perm (hlarge : source.isLarge = true)
    (h : List.Perm ((compileLargeListRules C rules source).1.map RuleEntry.listKey)
      ((compileLargeListRules C rules' source).1.map RuleEntry.listKey)) :
    (compileLargeListRules C rules source).1.map RuleEntry.listKey =
      (compileLargeListRules C rules' source).1.map RuleEntry.listKey := by
  have hsorted : ∀ rules : List RuleEntry,
      ((compileLargeListRules C rules source).1.map RuleEntry.listKey).Pairwise
        fun a b => (toLex (a.1.rank, a.2) : Nat ×ₗ Text) ≤ toLex (b.1.rank, b.2) := by
    intro rules
    rw [List.pairwise_map, compileLargeListRules, if_pos hlarge]
    exact List.pairwise_insertionSort (fun a b => compiledKey a ≤ compiledKey b) _
  refine h.eq_of_pairwise (fun a b _ _ hab hba => ?_) (hsorted rules) (hsorted rules')
  have hkey := toLex.injective (le_antisymm hab hba)
  have hrank : ∀ k k' : Kind, k.rank = k'.rank → k = k' := by
    intro k k'
    cases k <;> cases k' <;> decide
  exact Prod.ext (hrank _ _ (Prod.mk.inj hkey).1) (Prod.mk.inj hkey).2

/-- **Lists that are compiled alike.** -/
lemma keys_compile_congr (hlarge : source.isLarge = true) (hrules : LargeList action rules)
    (hrules' : LargeList action rules') (hnodup : (rules.map RuleEntry.listKey).Nodup)
    (hnodup' : (rules'.map RuleEntry.listKey).Nodup)
    (hip : ∀ v, (Kind.ip, v) ∈ rules.map RuleEntry.listKey ↔
      (Kind.ip, v) ∈ rules'.map RuleEntry.listKey)
    (hnet : ∀ v, C.collapse (cidrNetworks rules v) = C.collapse (cidrNetworks rules' v))
    (hsuffix : ∀ v, (∃ r ∈ keptSuffixRules C rules, r.value = v) ↔
      ∃ r ∈ keptSuffixRules C rules', r.value = v) :
    (compileLargeListRules C rules source).1.map RuleEntry.listKey =
      (compileLargeListRules C rules' source).1.map RuleEntry.listKey := by
  refine keys_eq_of_perm hlarge ?_
  refine (keys_compile_perm hlarge hrules).trans (List.Perm.trans ?_
    (keys_compile_perm hlarge hrules').symm)
  refine (List.Perm.append ?_ ?_).append ?_
  · have hfilter : ∀ {rs : List RuleEntry}, (rs.map RuleEntry.listKey).Nodup →
        ((rs.filter fun r => r.kind = .ip).map RuleEntry.listKey).Nodup := fun h =>
      h.sublist (List.filter_sublist.map _)
    have hmem : ∀ {rs : List RuleEntry} {key : Kind × Text},
        key ∈ (rs.filter fun r => r.kind = .ip).map RuleEntry.listKey ↔
          key.1 = .ip ∧ key ∈ rs.map RuleEntry.listKey := by
      intro rs key
      simp only [List.mem_map, List.mem_filter, decide_eq_true_eq]
      constructor
      · rintro ⟨r, ⟨hr, hkind⟩, rfl⟩
        exact ⟨hkind, r, hr, rfl⟩
      · rintro ⟨hkind, r, hr, rfl⟩
        exact ⟨r, ⟨hr, hkind⟩, rfl⟩
    refine (List.perm_ext_iff_of_nodup (hfilter hnodup) (hfilter hnodup')).mpr fun key => ?_
    rw [hmem, hmem]
    refine and_congr_right fun hkind => ?_
    rcases key with ⟨kind, v⟩
    obtain rfl : kind = .ip := hkind
    exact hip v
  · have hkeys : List.Perm (groupKeys rules) (groupKeys rules') := by
      refine (List.perm_ext_iff_of_nodup nodup_eraseDups nodup_eraseDups).mpr fun key => ?_
      have hempty : cidrNetworks rules key.2 = [] ↔ cidrNetworks rules' key.2 = [] := by
        rw [← @collapse_eq_nil_iff C, hnet, collapse_eq_nil_iff]
      show key ∈ groupKeys rules ↔ key ∈ groupKeys rules'
      rw [mem_groupKeys hrules, mem_groupKeys hrules', ne_eq, ne_eq, hempty]
    have hsame : (fun key : Action × Version => collapsedKeys C rules key.2) =
        fun key => collapsedKeys C rules' key.2 := by
      funext key
      rw [collapsedKeys, collapsedKeys, hnet]
    rw [hsame]
    exact hkeys.flatMap_right _
  · have hkept : ∀ {rs : List RuleEntry}, LargeList action rs →
        (keptSuffixRules C rs).map RuleEntry.listKey =
          ((keptSuffixRules C rs).map RuleEntry.value).map fun v => (Kind.domainSuffix, v) := by
      intro rs _
      rw [List.map_map]
      exact List.map_congr_left fun r hr => by
        rw [RuleEntry.listKey, (of_mem_keptSuffixRules hr).2]
        rfl
    rw [hkept hrules, hkept hrules']
    refine List.Perm.map _ ?_
    have hvalues : ∀ rs : List RuleEntry, ((keptSuffixRules C rs).map RuleEntry.value).Nodup := by
      intro rs
      rw [keptSuffixRules, values_suffixPass]
      exact Subsumption.nodup_foldl_keep _
    refine (List.perm_ext_iff_of_nodup (hvalues rules) (hvalues rules')).mpr fun v => ?_
    rw [List.mem_map, List.mem_map]
    exact hsuffix v

/-- The suffixes that are kept are those listed without a parent. -/
lemma kept_suffix_iff (hrules : LargeList action rules) (v : Text) :
    (∃ r ∈ keptSuffixRules C rules, r.value = v) ↔
      (Kind.domainSuffix, v) ∈ rules.map RuleEntry.listKey ∧
        ∀ p ∈ parentsOf v, (Kind.domainSuffix, p) ∉ rules.map RuleEntry.listKey := by
  have hlisted : ∀ u, (∃ r ∈ suffixRules C rules, r.value = u) ↔
      (Kind.domainSuffix, u) ∈ rules.map RuleEntry.listKey := by
    intro u
    rw [List.mem_map]
    constructor
    · rintro ⟨r, hr, rfl⟩
      rcases mem_suffixRules.mp hr with ⟨hr, hkind⟩
      exact ⟨r, hr, by rw [RuleEntry.listKey, hkind]⟩
    · rintro ⟨r, hr, hkey⟩
      exact ⟨r, mem_suffixRules.mpr ⟨hr, (Prod.mk.inj hkey).1⟩, (Prod.mk.inj hkey).2⟩
  have hmin := mem_minimized_iff (fun r hr => hrules.suffix r
    (@mem_suffixRules C rules r |>.mp hr).1 (mem_suffixRules.mp hr).2) v
  rw [hlisted v] at hmin
  refine hmin.trans (and_congr_right fun _ => ⟨fun h p hp hlist => ?_, fun h r hr hparent => ?_⟩)
  · rcases (hlisted p).mpr hlist with ⟨r, hr, rfl⟩
    exact h r hr hp
  · exact h _ hparent ((hlisted _).mp ⟨r, hr, rfl⟩)

end Keys

/-! ## Collecting the lines -/

section Collect

variable {U : Unicode} {S : NetworkSettings} {source : Source} {action : Action}

/-- A line states the value and nothing forbids it. -/
def Kept (U : Unicode) (S : NetworkSettings) (action : Action) (source : Source)
    (lines : List Text) (key : Kind × Text) : Prop :=
  Listed U source lines key ∧ ¬ (action = .vpn ∧ isProtectedLocal S key.1 key.2 = true)

/-- After the lines `done`: one rule for each value that is kept. -/
structure Collected (U : Unicode) (S : NetworkSettings) (action : Action) (source : Source)
    (done : List Text) (st : ListState) : Prop where
  seen : st.seen = st.rules.map RuleEntry.listKey
  nodup : st.seen.Nodup
  mem : ∀ key, key ∈ st.seen ↔ Kept U S action source done key

lemma Collected.step {done : List Text} {st : ListState} (h : Collected U S action source done st)
    (line : Text) (number : Nat) :
    Collected U S action source (done ++ [line]) (listStep U S action source st (line, number)) := by
  have hold : (∀ key, readListLine U source line = some (.ok key) →
      Kept U S action source [line] key → key ∈ st.seen) →
      ∀ key, key ∈ st.seen ↔ Kept U S action source (done ++ [line]) key := by
    intro hline key
    rw [h.mem, Kept, Kept, listed_snoc]
    constructor
    · exact fun hkept => ⟨Or.inl hkept.1, hkept.2⟩
    · rintro ⟨hlisted | hread, hchecked⟩
      · exact ⟨hlisted, hchecked⟩
      · exact (h.mem key).mp (hline key hread ⟨⟨line, List.mem_singleton.mpr rfl, hread⟩, hchecked⟩)
  unfold listStep
  split
  · rename_i hread
    exact ⟨h.seen, h.nodup, hold fun key hline => by rw [hread] at hline; cases hline⟩
  · rename_i e hread
    exact ⟨h.seen, h.nodup, hold fun key hline => by rw [hread] at hline; cases hline⟩
  · rename_i kind value hread
    have hkey : ∀ key, readListLine U source line = some (.ok key) → key = (kind, value) := by
      intro key hline
      rw [hread] at hline
      cases hline
      rfl
    by_cases hprotected : action = .vpn ∧ isProtectedLocal S kind value = true
    · have hmem := hold fun key hline hkept => absurd (hkey key hline ▸ hprotected) hkept.2
      rw [if_pos hprotected]
      split_ifs
      · exact ⟨h.seen, h.nodup, hmem⟩
      · exact ⟨h.seen, h.nodup, hmem⟩
    · rw [if_neg hprotected]
      split_ifs with hseen
      · exact ⟨h.seen, h.nodup, hold fun key hline _ => by rw [hkey key hline]; exact hseen⟩
      · refine ⟨?_, ?_, fun key => ?_⟩
        · rw [List.map_append, h.seen]
          rfl
        · rw [List.nodup_append]
          refine ⟨h.nodup, by simp, ?_⟩
          rintro a ha b hb rfl
          rw [List.mem_singleton] at hb
          exact hseen (hb ▸ ha)
        · rw [List.mem_append, List.mem_singleton, h.mem, Kept, Kept, listed_snoc]
          constructor
          · rintro (hkept | rfl)
            · exact ⟨Or.inl hkept.1, hkept.2⟩
            · exact ⟨Or.inr hread, hprotected⟩
          · rintro ⟨hlisted | hline, hchecked⟩
            · exact Or.inl ⟨hlisted, hchecked⟩
            · exact Or.inr (hkey key hline)

lemma collected_foldl (lines : List Text) :
    Collected U S action source lines
      ((lines.zipIdx 1).foldl (listStep U S action source) ⟨[], [], [], 0⟩) := by
  induction lines using List.reverseRecOn with
  | nil => exact ⟨rfl, List.nodup_nil, fun key => by simp [Kept, Listed]⟩
  | append_singleton lines line ih =>
      rw [List.zipIdx_append, List.foldl_append]
      exact ih.step line _

/-- A large list has errors only where a line cannot be read. -/
lemma errors_foldl (hlarge : source.isLarge = true) (lines : List (Text × Nat))
    (hread : ∀ line ∈ lines, ∀ e, readListLine U source line.1 ≠ some (.error e)) (st : ListState) :
    (lines.foldl (listStep U S action source) st).errors = st.errors := by
  induction lines generalizing st with
  | nil => rfl
  | cons line lines ih =>
      rw [List.foldl_cons, ih fun l hl => hread l (List.mem_cons_of_mem _ hl)]
      have hline := hread line (List.mem_cons_self ..)
      unfold listStep
      split
      · rfl
      · rename_i e he
        exact absurd he (hline e)
      · split_ifs
        · rfl
        · rfl
        · rfl

end Collect

/-! ## Reading a stored line -/

section Lines

variable {U : Unicode} {source : Source} {line v : Text} {kind : Kind}

lemma split_solid {t : Text} (h : Solid t) (hne : t ≠ []) : split t = [t] := by
  rw [split, List.splitOnP_eq_singleton h]
  simp [hne]

/-- The words of a line that states a value. -/
lemma readListLine_eq_ok (h : readListLine U source line = some (.ok (kind, v))) :
    '#' ∉ strip line ∧ Solid (strip line) ∧
      ∃ k w, normalizeRuleValue U (normalizeLargeListValue U (strip line)) = .ok (k, w) ∧
        (kind, v) = if source.isLarge = true ∧ k = .domain then (.domainSuffix, '.' :: w)
          else (k, w) := by
  unfold readListLine at h
  dsimp only at h
  split_ifs at h with hskip hhash hlength
  · cases h
  · cases h
  · refine ⟨hhash, solid_of_length_split (by simpa using hlength), ?_⟩
    split at h
    · cases h
    · rename_i k w hvalue
      split_ifs at h with hlarge
      · cases h
        exact ⟨k, w, hvalue, by rw [if_pos hlarge]⟩
      · cases h
        exact ⟨_, _, hvalue, by rw [if_neg hlarge]⟩

/-- A line that holds a value that is normalised to itself. -/
lemma readListLine_fixed (hsolid : Solid v) (hne : v ≠ []) (hhash : '#' ∉ v)
    (hport : normalizeLargeListValue U v = v) (hfixed : normalizeRuleValue U v = .ok (kind, v))
    (hkind : kind ≠ .domain) : readListLine U source v = some (.ok (kind, v)) := by
  have hskip : isSkippedLine v = false := by
    rw [isSkippedLine, Bool.or_eq_false_iff, List.isEmpty_eq_false_iff, beq_eq_false_iff_ne]
    exact ⟨hne, fun hhead => hhash (List.mem_of_head? hhead)⟩
  unfold readListLine
  simp only [strip_solid hsolid, hskip, hhash, split_solid hsolid hne, hport, hfixed, hkind,
    Bool.false_eq_true, if_false, List.length_singleton, ne_eq, not_true_eq_false, and_false]

/-- Without a single colon there is no port. -/
lemma normalizeLargeListValue_of_count (hsolid : Solid v) (hcount : v.count ':' ≠ 1 ∨ '/' ∈ v) :
    normalizeLargeListValue U v = v := by
  rw [normalizeLargeListValue, strip_solid hsolid, if_neg]
  rintro ⟨hone, hslash⟩
  rcases hcount with hcount | hcount
  · exact hcount hone
  · exact hslash hcount

/-- A printed address without a scope id has no colon or several. -/
lemma count_colon_str {a : IpAddress} (h : '%' ∉ a.str) : a.str.count ':' ≠ 1 := by
  intro hcount
  obtain ⟨⟨version, ip, hlt⟩, scope, hv6, hok⟩ := a
  cases version with
  | v4 =>
      have hnone : ':' ∉ ipv4ToString ip := by
        intro hc
        rcases mem_ipv4ToString hc with hc | hc
        · exact absurd hc (by decide)
        · exact absurd hc (by decide)
      rw [show (IpAddress.mk ⟨.v4, ip, hlt⟩ scope hv6 hok).str = ipv4ToString ip from rfl,
        List.count_eq_zero_of_not_mem hnone] at hcount
      cases hcount
  | v6 =>
      cases scope with
      | some s => exact h (by simp [IpAddress.str])
      | none =>
          have hread := ipv6FromString_toString (n := ip) hlt
          rw [show (IpAddress.mk ⟨.v6, ip, hlt⟩ none hv6 hok).str = ipv6ToString ip from rfl] at hcount
          have hmem : ':' ∈ ipv6ToString ip := colon_mem_ipv6ToString hlt
          rcases List.append_of_mem hmem with ⟨hi, lo, hsplit⟩
          rw [hsplit, List.count_append, List.count_cons_self] at hcount
          have hhi : ':' ∉ hi := List.count_eq_zero.mp (by omega)
          have hlo : ':' ∉ lo := List.count_eq_zero.mp (by omega)
          rw [hsplit, ipv6FromString, List.splitOn_append_cons_self_of_not_mem hhi,
            List.splitOn_eq_singleton hlo] at hread
          cases hread

/-- With two labels a name is a name for every purpose. -/
lemma normalizeDomainName_single {d : Text} (hascii : IsAscii d)
    (h : normalizeDomainName U d false = some d) : normalizeDomainName U d true = some d := by
  unfold normalizeDomainName at h ⊢
  dsimp only at h ⊢
  split_ifs at h with hempty hlabels
  rw [if_neg hempty, if_neg hlabels]
  rw [Option.bind_eq_some_iff] at h ⊢
  rcases h with ⟨asciiLabels, henc, h⟩
  have hd : d = (U.lower (strip d)).rdropWhile isDot := by
    split_ifs at h
    · exact (Option.some.inj h).symm
    · exact (Option.some.inj h).symm
  have hencoded : d.splitOn '.' = asciiLabels := by
    rw [← hd] at henc
    exact labels_of_mapM_idnaEncode (fun l hl c hc => hascii c (mem_of_mem_splitOn hl hc))
      (Run.mapM_eq_some.mp henc)
  refine ⟨asciiLabels, henc, ?_⟩
  rw [← hencoded, List.intercalate_splitOn] at h ⊢
  simp only [Bool.false_and, Bool.false_eq_true, if_false] at h
  split_ifs at h with hdomain
  have htwo : 2 ≤ (d.splitOn '.').length := by
    simp only [matchesDomainRe, Bool.and_eq_true, decide_eq_true_eq] at hdomain
    exact hdomain.1.2
  rw [if_neg, if_pos hdomain, h]
  simp only [Bool.true_and, beq_iff_eq]
  omega

/-- A value that can be stored: as a line of its own it states itself. -/
def Stored (U : Unicode) (source : Source) (key : Kind × Text) : Prop :=
  Solid key.2 ∧ key.2 ≠ [] ∧ readListLine U source key.2 = some (.ok key)

lemma scopeId_eq_none {a : IpAddress} (h : '%' ∉ a.str) : a.scopeId = none := by
  obtain ⟨⟨version, ip, hlt⟩, scope, hv6, hok⟩ := a
  cases scope with
  | none => rfl
  | some s =>
      obtain rfl : version = .v6 := hv6 (by simp)
      exact absurd (by simp [IpAddress.str]) h

lemma not_mem_str_of_scopeFree {a : IpAddress} (h : a.scopeId = none) : '%' ∉ a.str := by
  obtain ⟨⟨version, ip, hlt⟩, scope, hv6, hok⟩ := a
  obtain rfl : scope = none := h
  cases version with
  | v4 =>
      intro hc
      rcases mem_ipv4ToString hc with hc | hc
      · exact absurd hc (by decide)
      · exact absurd hc (by decide)
  | v6 => exact not_mem_ipv6ToString (by simp)

/-- Printed networks without scope ids can be stored. -/
lemma stored_network {n : IpNetwork} (h : n.networkAddress.scopeId = none) :
    Stored U source (.cidr, n.str) := by
  have hsolid : Solid n.str := IpNetwork.solid_str fun s hs => by rw [h] at hs; cases hs
  have hhash : '#' ∉ n.str := by
    intro hc
    have hdigits : ∀ d < 16, '#' ≠ Nat.digitChar d := by decide
    rcases mem_networkStr hc with hc | hc | ⟨d, hd, hc⟩
    · rcases mem_addressStr hc with hc | ⟨d, hd, hc⟩ | ⟨s, hs, -⟩
      · exact absurd hc (by decide)
      · exact hdigits d hd hc
      · rw [h] at hs
        cases hs
    · exact absurd hc (by decide)
    · exact hdigits d hd hc
  exact ⟨hsolid, n.str_ne_nil, readListLine_fixed hsolid n.str_ne_nil hhash
    (normalizeLargeListValue_of_count hsolid (Or.inr (by simp [IpNetwork.str])))
    (normalizeRuleValue_network n) Kind.noConfusion⟩

lemma stored_suffix {d : Text} (hchars : ∀ c ∈ d, isDomainChar c = true)
    (h : normalizeDomainName U d true = some d) : Stored U source (.domainSuffix, '.' :: d) := by
  have hdots : ∀ c ∈ '.' :: d, isDomainChar c = true := by
    intro c hc
    rcases List.mem_cons.mp hc with rfl | hc
    · rfl
    · exact hchars c hc
  have hsolid : Solid ('.' :: d) := fun c hc => isSpace_of_isDomainChar (hdots c hc)
  have hcolon : ('.' :: d).count ':' ≠ 1 := by
    rw [List.count_eq_zero_of_not_mem (not_mem_domain hdots (by decide))]
    exact Nat.zero_ne_one
  exact ⟨hsolid, List.cons_ne_nil _ _, readListLine_fixed hsolid (List.cons_ne_nil _ _)
    (not_mem_domain hdots (by decide)) (normalizeLargeListValue_of_count hsolid (Or.inl hcolon))
    (normalizeRuleValue_suffix hchars h) Kind.noConfusion⟩

/-- **What a line of a large list states can be stored.** -/
lemma stored_of_read (hlarge : source.isLarge = true) (hascii : IsAscii line)
    (h : readListLine U source line = some (.ok (kind, v))) (hscope : '%' ∉ v) :
    Stored U source (kind, v) := by
  rcases readListLine_eq_ok h with ⟨hhash, hsolid, k, w, hvalue, hkey⟩
  set part := normalizeLargeListValue U (strip line) with hpart
  have hsub : ∀ c ∈ part, c ∈ strip line := fun c hc => mem_of_mem_normalizeLargeListValue hc
  have hpartSolid : Solid part := hsolid.of_subset hsub
  have hpartAscii : IsAscii part := fun c hc => hascii c (mem_of_mem_stripBy (hsub c hc))
  have hrawAscii : IsAscii (strip part) := fun c hc => hpartAscii c (mem_of_mem_stripBy hc)
  rcases normalizeRuleValue_cases hvalue with ⟨a, ha, rfl, rfl⟩ | ⟨n, hn, rfl, rfl⟩ |
    ⟨d, hd, rfl, rfl⟩ | ⟨-, -, hd, rfl⟩
  · rw [if_neg (by simp)] at hkey
    cases hkey
    have hstr := solid_normalizeRuleValue hpartAscii hpartSolid hvalue
    exact ⟨hstr, a.str_ne_nil, readListLine_fixed hstr a.str_ne_nil
      (hash_not_mem_normalizeRuleValue hpartAscii (fun hc => hhash (hsub _ hc)) hvalue)
      (normalizeLargeListValue_of_count hstr (Or.inl (count_colon_str hscope)))
      (normalizeRuleValue_address hstr) Kind.noConfusion⟩
  · rw [if_neg (by simp)] at hkey
    cases hkey
    refine stored_network (scopeId_eq_none fun hc => hscope ?_)
    rw [IpNetwork.str]
    exact List.mem_append_left _ hc
  · rw [if_neg (by simp)] at hkey
    cases hkey
    rcases normalizeDomainName_fixed
      (fun c hc => hrawAscii c ((List.dropWhile_suffix _).subset hc)) hd with ⟨hchars, hagain⟩
    exact stored_suffix hchars hagain
  · rw [if_pos ⟨hlarge, rfl⟩] at hkey
    cases hkey
    rcases normalizeDomainName_fixed hrawAscii hd with ⟨hchars, hagain⟩
    exact stored_suffix hchars
      (normalizeDomainName_single (fun c hc => ascii_of_isDomainChar (hchars c hc)) hagain)

end Lines

/-! ## The canonical text -/

section Main

variable {U : Unicode} {S : NetworkSettings} {C : CollapseAddresses} {source : Source}
  {action : Action} {text text' : Text}

/-- No line states an address or a network with a scope id. -/
def ScopeFree (U : Unicode) (source : Source) (text : Text) : Prop :=
  ∀ line ∈ splitlines text, ∀ kind v, readListLine U source line = some (.ok (kind, v)) → '%' ∉ v

/-- The key a line states, if it states one. -/
def statedKey (U : Unicode) (source : Source) (line : Text) : Option (Kind × Text) :=
  match readListLine U source line with
  | some (.ok key) => some key
  | _ => none

/-- The rules of the lines, before they are compiled. -/
def collectedRules (U : Unicode) (S : NetworkSettings) (action : Action) (source : Source)
    (text : Text) : List RuleEntry :=
  (((splitlines text).zipIdx 1).foldl (listStep U S action source) ⟨[], [], [], 0⟩).rules

lemma rules_validateValueList :
    (validateValueList U S C text action source).rules =
      (compileLargeListRules C (collectedRules U S action source text) source).1 := rfl

lemma normalizedText_validateValueList :
    (validateValueList U S C text action source).normalizedText =
      joinLines (((validateValueList U S C text action source).rules.map RuleEntry.listKey).map
        Prod.snd) := by
  rw [List.map_map]
  rfl

lemma mem_collectedRules {key : Kind × Text} :
    key ∈ (collectedRules U S action source text).map RuleEntry.listKey ↔
      Kept U S action source (splitlines text) key := by
  have h := @collected_foldl U S source action (splitlines text)
  rw [collectedRules, ← h.seen, h.mem]

lemma nodup_collectedRules :
    ((collectedRules U S action source text).map RuleEntry.listKey).Nodup := by
  have h := @collected_foldl U S source action (splitlines text)
  rw [collectedRules, ← h.seen]
  exact h.nodup

lemma largeList_collectedRules (hlarge : source.isLarge = true) :
    LargeList action (collectedRules U S action source text) :=
  largeList_of_lines hlarge _

lemma ok_collectedRules : ∀ r ∈ collectedRules U S action source text, r.Ok :=
  listStep_foldl_ok _

/-- The listed networks of one version are such as the collapse takes. -/
lemma plain_cidrNetworks (hscope : ScopeFree U source text) (v : Version) :
    Plain (cidrNetworks (collectedRules U S action source text) v) := by
  refine ⟨⟨v, version_cidrNetworks⟩, fun n hn => ?_⟩
  rcases mem_collectedRules.mp ((mem_cidrNetworks ok_collectedRules).mp hn).2
    with ⟨⟨line, hline, hread⟩, -⟩
  refine scopeId_eq_none fun hc => hscope line hline _ _ hread ?_
  rw [IpNetwork.str]
  exact List.mem_append_left _ hc

/-- Texts whose lines state the same values have the same keys. -/
lemma keys_congr (hC : CollapseLaws C) (hlarge : source.isLarge = true)
    (hscope : ScopeFree U source text) (hscope' : ScopeFree U source text')
    (h : ∀ key, Kept U S action source (splitlines text) key ↔
      Kept U S action source (splitlines text') key) :
    (validateValueList U S C text action source).rules.map RuleEntry.listKey =
      (validateValueList U S C text' action source).rules.map RuleEntry.listKey := by
  have hkeys : ∀ key, key ∈ (collectedRules U S action source text).map RuleEntry.listKey ↔
      key ∈ (collectedRules U S action source text').map RuleEntry.listKey := fun key => by
    rw [mem_collectedRules, mem_collectedRules, h]
  rw [rules_validateValueList, rules_validateValueList]
  refine keys_compile_congr hlarge (largeList_collectedRules hlarge)
    (largeList_collectedRules hlarge) nodup_collectedRules nodup_collectedRules
    (fun v => hkeys _) (fun v => ?_) (fun v => ?_)
  · refine hC.congr _ _ (plain_cidrNetworks hscope v) (plain_cidrNetworks hscope' v) fun n => ?_
    rw [mem_cidrNetworks ok_collectedRules, mem_cidrNetworks ok_collectedRules, hkeys]
  · rw [kept_suffix_iff (largeList_collectedRules hlarge),
      kept_suffix_iff (largeList_collectedRules hlarge), hkeys]
    refine and_congr_right fun _ => forall₂_congr fun p _ => ?_
    rw [hkeys]

lemma mem_compiledKeys (hlarge : source.isLarge = true) {key : Kind × Text} :
    key ∈ (validateValueList U S C text action source).rules.map RuleEntry.listKey ↔
      key.1 = .ip ∧ Kept U S action source (splitlines text) key ∨
      (∃ v n, n ∈ C.collapse (cidrNetworks (collectedRules U S action source text) v) ∧
        key = (.cidr, n.str)) ∨
      ∃ u, key = (.domainSuffix, u) ∧
        Kept U S action source (splitlines text) (.domainSuffix, u) ∧
        ∀ p ∈ parentsOf u, ¬ Kept U S action source (splitlines text) (.domainSuffix, p) := by
  have hrules : LargeList action (collectedRules U S action source text) :=
    largeList_collectedRules hlarge
  rw [rules_validateValueList, (keys_compile_perm hlarge hrules).mem_iff, List.mem_append,
    List.mem_append, or_assoc]
  refine or_congr ?_ (or_congr ?_ ?_)
  · rw [← mem_collectedRules, List.mem_map, List.mem_map]
    constructor
    · rintro ⟨r, hr, rfl⟩
      rcases List.mem_filter.mp hr with ⟨hr, hkind⟩
      exact ⟨of_decide_eq_true hkind, r, hr, rfl⟩
    · rintro ⟨hkind, r, hr, rfl⟩
      exact ⟨r, List.mem_filter.mpr ⟨hr, decide_eq_true hkind⟩, rfl⟩
  · rw [List.mem_flatMap]
    constructor
    · rintro ⟨k, -, hkey⟩
      rcases List.mem_map.mp hkey with ⟨n, hn, rfl⟩
      exact ⟨k.2, n, hn, rfl⟩
    · rintro ⟨v, n, hn, rfl⟩
      refine ⟨(action, v), (mem_groupKeys hrules).mpr ⟨rfl, fun hempty => ?_⟩,
        List.mem_map.mpr ⟨n, hn, rfl⟩⟩
      dsimp only at hempty
      rw [hempty, collapse_eq_nil_iff.mpr rfl] at hn
      cases hn
  · have hkept := @kept_suffix_iff C action _ hrules
    simp only [mem_collectedRules] at hkept
    rw [List.mem_map]
    constructor
    · rintro ⟨r, hr, rfl⟩
      refine ⟨r.value, by rw [RuleEntry.listKey, (of_mem_keptSuffixRules hr).2], ?_⟩
      exact (hkept r.value).mp ⟨r, hr, rfl⟩
    · rintro ⟨u, rfl, hu⟩
      rcases (hkept u).mpr hu with ⟨r, hr, rfl⟩
      exact ⟨r, hr, by rw [RuleEntry.listKey, (of_mem_keptSuffixRules hr).2]⟩

/-- The networks of the compiled list avoid what the listed ones avoid. -/
lemma checked_of_collapse {v : Version} {n : IpNetwork}
    (hn : n ∈ C.collapse (cidrNetworks (collectedRules U S action source text) v)) :
    ¬ (action = .vpn ∧ isProtectedLocal S .cidr n.str = true) := by
  rintro ⟨hvpn, hprotected⟩
  have havoids : ∀ m ∈ cidrNetworks (collectedRules U S action source text) v,
      ∀ d ∈ m, ¬ Covers (protectedRuleIpNetworks S) d := by
    intro m hm
    have hkept := mem_collectedRules.mp ((mem_cidrNetworks ok_collectedRules).mp hm).2
    refine not_covers_of_network ?_
    by_contra hchecked
    exact hkept.2 ⟨hvpn, by simpa using hchecked⟩
  have hclear := @not_protected_of_avoids S ⟨action, .cidr, n.str, none, source⟩ ⟨n, rfl, by
    intro d hd
    rcases (C.covers_collapse _ d).mp ⟨n, hn, hd⟩ with ⟨m, hm, hdm⟩
    exact havoids m hm d hdm⟩
  rw [hclear] at hprotected
  cases hprotected

/-- **Every value of the compiled list can be stored**, and nothing forbids it. -/
lemma stored_compiled (hC : CollapseLaws C) (hlarge : source.isLarge = true)
    (hascii : IsAscii text) (hscope : ScopeFree U source text) {key : Kind × Text}
    (hkey : key ∈ (validateValueList U S C text action source).rules.map RuleEntry.listKey) :
    Stored U source key ∧ '%' ∉ key.2 ∧
      ¬ (action = .vpn ∧ isProtectedLocal S key.1 key.2 = true) := by
  have hlisted : ∀ {key : Kind × Text}, Kept U S action source (splitlines text) key →
      Stored U source key ∧ '%' ∉ key.2 ∧
        ¬ (action = .vpn ∧ isProtectedLocal S key.1 key.2 = true) := by
    rintro ⟨kind, v⟩ ⟨⟨line, hline, hread⟩, hchecked⟩
    have hfree := hscope line hline kind v hread
    exact ⟨stored_of_read hlarge (fun c hc => hascii c (mem_of_mem_splitlines hline hc)) hread hfree,
      hfree, hchecked⟩
  rcases (mem_compiledKeys hlarge).mp hkey with ⟨-, hkept⟩ | ⟨v, n, hn, rfl⟩ | ⟨u, rfl, hkept, -⟩
  · exact hlisted hkept
  · have hnone := hC.scope _ (plain_cidrNetworks hscope v) n hn
    refine ⟨stored_network hnone, fun hc => ?_, checked_of_collapse hn⟩
    rcases mem_networkStr hc with hc | hc | ⟨d, hd, hc⟩
    · exact not_mem_str_of_scopeFree hnone hc
    · exact absurd hc (by decide)
    · have hdigits : ∀ d < 16, '%' ≠ Nat.digitChar d := by decide
      exact hdigits d hd hc
  · exact hlisted hkept

/-- The lines of the stored text are the values of the compiled list. -/
lemma splitlines_normalizedText (hC : CollapseLaws C) (hlarge : source.isLarge = true)
    (hascii : IsAscii text) (hscope : ScopeFree U source text) :
    splitlines (validateValueList U S C text action source).normalizedText =
      ((validateValueList U S C text action source).rules.map RuleEntry.listKey).map Prod.snd := by
  rw [normalizedText_validateValueList]
  refine splitlines_joinLines fun l hl => ?_
  rcases List.mem_map.mp hl with ⟨key, hkey, rfl⟩
  rcases stored_compiled hC hlarge hascii hscope hkey with ⟨⟨hsolid, hne, -⟩, -⟩
  exact ⟨hne, noLineBreak_of_solid hsolid⟩

lemma read_stored (hC : CollapseLaws C) (hlarge : source.isLarge = true) (hascii : IsAscii text)
    (hscope : ScopeFree U source text) {line : Text}
    (hline : line ∈ splitlines (validateValueList U S C text action source).normalizedText) :
    ∃ key ∈ (validateValueList U S C text action source).rules.map RuleEntry.listKey,
      readListLine U source line = some (.ok key) ∧ line = key.2 := by
  rw [splitlines_normalizedText hC hlarge hascii hscope] at hline
  rcases List.mem_map.mp hline with ⟨key, hkey, rfl⟩
  exact ⟨key, hkey, (stored_compiled hC hlarge hascii hscope hkey).1.2.2, rfl⟩

/-- The stored text keeps just the values of the compiled list. -/
lemma kept_stored_iff (hC : CollapseLaws C) (hlarge : source.isLarge = true) (hascii : IsAscii text)
    (hscope : ScopeFree U source text) (key : Kind × Text) :
    Kept U S action source
        (splitlines (validateValueList U S C text action source).normalizedText) key ↔
      key ∈ (validateValueList U S C text action source).rules.map RuleEntry.listKey := by
  constructor
  · rintro ⟨⟨line, hline, hread⟩, -⟩
    rcases read_stored hC hlarge hascii hscope hline with ⟨key', hkey', hread', -⟩
    rw [hread'] at hread
    obtain rfl : key' = key := by simpa using hread
    exact hkey'
  · intro hkey
    rcases stored_compiled hC hlarge hascii hscope hkey with ⟨⟨-, -, hread⟩, -, hchecked⟩
    refine ⟨⟨key.2, ?_, hread⟩, hchecked⟩
    rw [splitlines_normalizedText hC hlarge hascii hscope]
    exact List.mem_map_of_mem hkey

lemma scopeFree_stored (hC : CollapseLaws C) (hlarge : source.isLarge = true)
    (hascii : IsAscii text) (hscope : ScopeFree U source text) :
    ScopeFree U source (validateValueList U S C text action source).normalizedText := by
  intro line hline kind v hread
  rcases read_stored hC hlarge hascii hscope hline with ⟨key, hkey, hread', -⟩
  rw [hread'] at hread
  obtain rfl : key = (kind, v) := by simpa using hread
  exact (stored_compiled hC hlarge hascii hscope hkey).2.1

/-- **The compiled list is compiled already.** -/
lemma keys_stored (hC : CollapseLaws C) (hlarge : source.isLarge = true) (hascii : IsAscii text)
    (hscope : ScopeFree U source text) :
    (validateValueList U S C (validateValueList U S C text action source).normalizedText action
      source).rules.map RuleEntry.listKey =
      (validateValueList U S C text action source).rules.map RuleEntry.listKey := by
  set stored := (validateValueList U S C text action source).normalizedText with hstored
  have hkept : ∀ key, Kept U S action source (splitlines stored) key ↔
      key.1 = .ip ∧ Kept U S action source (splitlines text) key ∨
      (∃ v n, n ∈ C.collapse (cidrNetworks (collectedRules U S action source text) v) ∧
        key = (.cidr, n.str)) ∨
      ∃ u, key = (.domainSuffix, u) ∧
        Kept U S action source (splitlines text) (.domainSuffix, u) ∧
        ∀ p ∈ parentsOf u, ¬ Kept U S action source (splitlines text) (.domainSuffix, p) := by
    intro key
    rw [hstored, kept_stored_iff hC hlarge hascii hscope, mem_compiledKeys hlarge]
  have hsuffix : ∀ u, Kept U S action source (splitlines stored) (.domainSuffix, u) ↔
      Kept U S action source (splitlines text) (.domainSuffix, u) ∧
        ∀ p ∈ parentsOf u, ¬ Kept U S action source (splitlines text) (.domainSuffix, p) := by
    intro u
    rw [hkept]
    constructor
    · rintro (⟨hkind, -⟩ | ⟨v, n, -, hkey⟩ | ⟨u', hkey, hu⟩)
      · cases hkind
      · cases hkey
      · cases hkey
        exact hu
    · exact fun hu => Or.inr (Or.inr ⟨u, rfl, hu⟩)
  rw [rules_validateValueList, rules_validateValueList]
  refine keys_compile_congr hlarge (largeList_collectedRules hlarge)
    (largeList_collectedRules hlarge) nodup_collectedRules nodup_collectedRules
    (fun v => ?_) (fun v => ?_) (fun u => ?_)
  · rw [mem_collectedRules, mem_collectedRules, hkept]
    constructor
    · rintro (⟨-, h⟩ | ⟨_, n, -, hkey⟩ | ⟨u, hkey, -⟩)
      · exact h
      · cases hkey
      · cases hkey
    · exact fun h => Or.inl ⟨rfl, h⟩
  · -- the networks of the stored text are the collapsed ones
    have hplain := @plain_cidrNetworks U S source action text hscope v
    rw [hC.congr (cidrNetworks (collectedRules U S action source stored) v) _
      (plain_cidrNetworks (scopeFree_stored hC hlarge hascii hscope) v) (hC.plain hplain), hC.fixed _ hplain]
    intro n
    rw [mem_cidrNetworks ok_collectedRules, mem_collectedRules, hkept]
    constructor
    · rintro ⟨rfl, ⟨hkind, -⟩ | ⟨v, m, hm, hkey⟩ | ⟨u, hkey, -⟩⟩
      · cases hkind
      · obtain rfl := str_injective (Prod.mk.inj hkey).2
        rwa [version_collapse version_cidrNetworks n hm]
      · cases hkey
    · intro hn
      exact ⟨version_collapse version_cidrNetworks n hn, Or.inr (Or.inl ⟨v, n, hn, rfl⟩)⟩
  · rw [kept_suffix_iff (largeList_collectedRules hlarge),
      kept_suffix_iff (largeList_collectedRules hlarge)]
    simp only [mem_collectedRules, hsuffix]
    constructor
    · exact fun h => h.1
    · exact fun h => ⟨h, fun p hp hlisted => h.2 p hp hlisted.1⟩

/-- **Large lists have a canonical text.**  For every ASCII text that states no scope id: (a) the text
that is returned is validated without an error, to the same rules in the same order and to the same
text; (b) a text with the same lines, in any order and any number of times, is validated to the same
text. -/
theorem largeList_canonical (U : Unicode) (S : NetworkSettings) (hC : CollapseLaws C)
    (action : Action) (hlarge : source.isLarge = true) (hascii : IsAscii text)
    (hscope : ScopeFree U source text) :
    (let first := validateValueList U S C text action source
     let second := validateValueList U S C first.normalizedText action source
     second.errors = [] ∧
       second.rules.map RuleEntry.listKey = first.rules.map RuleEntry.listKey ∧
       second.normalizedText = first.normalizedText) ∧
    ∀ text', (∀ line, line ∈ splitlines text' ↔ line ∈ splitlines text) →
      (validateValueList U S C text' action source).normalizedText =
        (validateValueList U S C text action source).normalizedText := by
  refine ⟨⟨?_, keys_stored hC hlarge hascii hscope, ?_⟩, fun text' hlines => ?_⟩
  · refine errors_foldl hlarge _ (fun line hline e hread => ?_) _
    rcases read_stored hC hlarge hascii hscope (List.fst_mem_of_mem_zipIdx hline)
      with ⟨key, -, hread', -⟩
    rw [hread'] at hread
    cases hread
  · rw [normalizedText_validateValueList, keys_stored hC hlarge hascii hscope,
      ← normalizedText_validateValueList]
  · have hscope' : ScopeFree U source text' := fun line hline =>
      hscope line ((hlines line).mp hline)
    have hkept : ∀ key, Kept U S action source (splitlines text') key ↔
        Kept U S action source (splitlines text) key := by
      intro key
      simp only [Kept, Listed, hlines]
    rw [normalizedText_validateValueList, normalizedText_validateValueList,
      keys_congr hC hlarge hscope' hscope hkept]

/-- Networks of one version without scope ids are told apart by the key they are sorted by. -/
lemma eq_of_networkKey {n m : IpNetwork} (hversion : n.version = m.version)
    (hn : n.networkAddress.scopeId = none) (hm : m.networkAddress.scopeId = none)
    (h : networkKey n = networkKey m) : n = m := by
  have hkey := toLex.injective h
  obtain ⟨⟨⟨v, ip, hlt⟩, scope, hv6, hok⟩, p, hp, hal⟩ := n
  obtain ⟨⟨⟨v', ip', hlt'⟩, scope', hv6', hok'⟩, p', hp', hal'⟩ := m
  obtain rfl : v = v' := hversion
  obtain rfl : scope = none := hn
  obtain rfl : scope' = none := hm
  obtain rfl : ip = ip' := (Prod.mk.inj hkey).1
  obtain rfl : p = p' := (Prod.mk.inj hkey).2
  rfl

lemma mem_sorted {ns : List IpNetwork} {n : IpNetwork} :
    n ∈ CollapseAddresses.sorted.collapse ns ↔ n ∈ ns := by
  simp [CollapseAddresses.sorted]

lemma sorted_congr {ns ms : List IpNetwork} (hns : Plain ns)
    (h : ∀ n, n ∈ ns ↔ n ∈ ms) :
    CollapseAddresses.sorted.collapse ns = CollapseAddresses.sorted.collapse ms := by
  have hperm : List.Perm ns.dedup ms.dedup :=
    (List.perm_ext_iff_of_nodup ns.nodup_dedup ms.nodup_dedup).mpr fun n => by
      rw [List.mem_dedup, List.mem_dedup, h]
  refine List.Perm.eq_of_pairwise (fun n m hn hm hle hge => ?_)
    (List.pairwise_insertionSort (fun n m => networkKey n ≤ networkKey m) ns.dedup)
    (List.pairwise_insertionSort (fun n m => networkKey n ≤ networkKey m) ms.dedup)
    ((List.perm_insertionSort _ _).trans (hperm.trans (List.perm_insertionSort _ _).symm))
  have hn := mem_sorted.mp hn
  have hm := (h m).mpr (mem_sorted.mp hm)
  rcases hns.1 with ⟨v, hv⟩
  exact eq_of_networkKey ((hv n hn).trans (hv m hm).symm) (hns.2 n hn) (hns.2 m hm)
    (le_antisymm hle hge)

/-- The collapse that only sorts has the laws. -/
lemma collapseLaws_sorted : CollapseLaws .sorted where
  scope ns hns n hn := hns.2 n (mem_sorted.mp hn)
  congr _ _ hns _ := sorted_congr hns
  fixed ns hns := by
    rcases hns.1 with ⟨v, hv⟩
    exact sorted_congr ⟨⟨v, fun n hn => hv n (mem_sorted.mp hn)⟩,
      fun n hn => hns.2 n (mem_sorted.mp hn)⟩ fun n => mem_sorted

instance : Decidable (ScopeFree U source text) :=
  decidable_of_iff (∀ line ∈ splitlines text, ∀ key ∈ statedKey U source line, '%' ∉ key.2) (by
    refine forall₂_congr fun line _ => ?_
    cases h : readListLine U source line with
    | none => simp [statedKey, h]
    | some result =>
        cases result with
        | error e => simp [statedKey, h]
        | ok key =>
            rcases key with ⟨kind, v⟩
            simp only [statedKey, h, Option.mem_some_iff, Option.some.injEq, Except.ok.injEq,
              Prod.mk.injEq]
            exact ⟨fun hfree k u heq => heq.2 ▸ hfree _ rfl,
              fun hfree key heq => heq ▸ hfree _ _ ⟨rfl, rfl⟩⟩)

/-- A list of four lines. -/
def fourLines : Text := "b.example.org\n8.8.8.8:53\nExample.org.\n8.8.4.0/24\n".toList

/-- The same lines in another order, one of them twice. -/
def shuffledLines : Text :=
  "Example.org.\n8.8.4.0/24\nb.example.org\n8.8.8.8:53\n8.8.4.0/24".toList

lemma splitlines_fourLines : splitlines fourLines = ["b.example.org".toList, "8.8.8.8:53".toList,
    "Example.org.".toList, "8.8.4.0/24".toList] := by decide +kernel

lemma splitlines_shuffledLines : splitlines shuffledLines = ["Example.org.".toList,
    "8.8.4.0/24".toList, "b.example.org".toList, "8.8.8.8:53".toList, "8.8.4.0/24".toList] := by
  decide +kernel

/-- **The four lines in either order.** -/
theorem fourLines_canonical :
    (validateValueList .ascii .unset .sorted fourLines .vpn .bigVpn).normalizedText =
      "8.8.4.0/24\n8.8.8.8\n.example.org\n".toList ∧
    (validateValueList .ascii .unset .sorted shuffledLines .vpn .bigVpn).normalizedText =
      (validateValueList .ascii .unset .sorted fourLines .vpn .bigVpn).normalizedText := by
  have hsame : ∀ line, line ∈ splitlines shuffledLines ↔ line ∈ splitlines fourLines := by
    intro line
    rw [splitlines_fourLines, splitlines_shuffledLines]
    simp only [List.mem_cons, List.not_mem_nil, or_false]
    have hshuffle : ∀ a b c d : Prop, c ∨ d ∨ a ∨ b ∨ d ↔ a ∨ b ∨ c ∨ d := by
      intro a b c d
      tauto
    exact hshuffle _ _ _ _
  have hascii : IsAscii fourLines := by decide +kernel
  have hscope : ScopeFree .ascii .bigVpn fourLines := by decide +kernel
  have hcanonical := @largeList_canonical .sorted .bigVpn fourLines .ascii .unset
    collapseLaws_sorted .vpn rfl hascii hscope
  exact ⟨by decide +kernel, hcanonical.2 shuffledLines hsame⟩

end Main

end FwRouter
