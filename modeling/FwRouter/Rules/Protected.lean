import FwRouter.Rules.Validate
import FwRouter.Library.Subsumption

/-!
# Protected destinations

No VPN rule may take traffic for a protected destination: a network of
`protected_rule_ip_networks`, or a name in `PROTECTED_SERVICE_DOMAINS`.  For addresses and networks
the validators see to it, also after a large list has been collapsed (`collapse_avoids`).  A domain
is compared with the service names as it is spelled, so the suffix `.localhost` passes, and so does
an address of a protected network whose spelling has a dot too many to be read as one.

`vpn_rules_unprotected_iff` says which texts are affected: those in which a value of these two kinds
is stated as VPN before it is stated as DIRECT, and for a list, those in which none of its parents
is listed.
-/

namespace FwRouter

open Py Ipaddress Subsumption

/-! ## What a rule covers -/

/-- Two networks either nest or have no address in common, so four membership tests decide. -/
lemma not_mem_of_overlaps {n m : IpNetwork} (h : n.overlaps m = false) {d : Addr} (hn : d ∈ n) :
    d ∉ m := by
  intro hm
  have hclear : ∀ {h k ip : Nat}, h ≤ k → clearHost k (clearHost h ip) = clearHost k ip := by
    intro h k ip hle
    have hsplit : 2 ^ k = 2 ^ h * 2 ^ (k - h) := by rw [← pow_add]; congr 1; omega
    rw [clearHost, clearHost, hsplit, ← Nat.div_div_eq_div_mul,
      Nat.mul_div_cancel _ (Nat.two_pow_pos h), Nat.div_div_eq_div_mul, ← hsplit, clearHost]
  simp only [IpNetwork.overlaps, Bool.or_eq_false_iff] at h
  rcases h with ⟨hfirst, -, hfirst', -⟩
  rw [IpNetwork.mem_def] at hn hm
  rcases Nat.le_total n.hostBits m.hostBits with hle | hle
  · have : n.firstAddr ∈ m := by
      rw [IpNetwork.mem_def]
      refine ⟨hn.1.symm.trans hm.1, ?_⟩
      rw [IpNetwork.firstAddr, ← hn.2, hclear hle, hm.2]
    exact absurd this (by rw [Bool.eq_false_iff] at hfirst; exact hfirst)
  · have : m.firstAddr ∈ n := by
      rw [IpNetwork.mem_def]
      refine ⟨hm.1.symm.trans hn.1, ?_⟩
      rw [IpNetwork.firstAddr, ← hm.2, hclear hle, hn.2]
    exact absurd this (by rw [Bool.eq_false_iff] at hfirst'; exact hfirst')

/-- The name a domain rule is about: its value, or what follows the dot of a suffix. -/
def ruleName : Kind → Text → Option Text
  | .domain, value => some value
  | .domainSuffix, value => some value.tail
  | .ip, _ => none
  | .cidr, _ => none

/-- A domain rule matches its value, a suffix rule `.x` the name `x` and the names that end in
`.x`. -/
def RuleEntry.MatchesName (r : RuleEntry) (name : Text) : Prop :=
  match r.kind with
  | .domain => name = r.value
  | .domainSuffix => name = r.value.tail ∨ r.value <:+ name
  | .ip | .cidr => False

/-- The name is spelled like an address of a protected network. -/
def SpelledProtected (S : NetworkSettings) (name : Text) : Prop :=
  ∃ a ∈ ipv4Address name, Covers (protectedRuleIpNetworks S) a.addr

/-- **No protected destination.**  What is demanded of a rule whose action is VPN. -/
structure Unprotected (S : NetworkSettings) (r : RuleEntry) : Prop where
  address : r.kind = .ip →
    ∃ a : IpAddress, r.value = a.str ∧ ¬ Covers (protectedRuleIpNetworks S) a.addr
  network : r.kind = .cidr →
    ∃ n : IpNetwork, r.value = n.str ∧ ∀ d ∈ n, ¬ Covers (protectedRuleIpNetworks S) d
  service : ∀ name ∈ protectedServiceDomains, ¬ r.MatchesName name
  spelling : ∀ name ∈ ruleName r.kind r.value, ¬ SpelledProtected S name

/-- The values that `_is_protected_local` lets pass although they name something protected. -/
def Slips (S : NetworkSettings) (kind : Kind) (value : Text) : Prop :=
  kind = .domainSuffix ∧ value = ".localhost".toList ∨
    ∃ name ∈ ruleName kind value, SpelledProtected S name

variable {S : NetworkSettings}

lemma not_covers_of_host {a : IpAddress} (h : isProtectedLocal S .ip a.str = false) :
    ¬ Covers (protectedRuleIpNetworks S) a.addr := by
  rintro ⟨m, hm, hd⟩
  simp only [isProtectedLocal, networkForRule, ipAddress_str, Option.map_some,
    List.any_eq_false, Bool.not_eq_true] at h
  exact not_mem_of_overlaps (h m hm) (IpAddress.mem_host.mpr rfl) hd

lemma not_covers_of_network {n : IpNetwork} (h : isProtectedLocal S .cidr n.str = false) :
    ∀ d ∈ n, ¬ Covers (protectedRuleIpNetworks S) d := by
  rintro d hn ⟨m, hm, hd⟩
  simp only [isProtectedLocal, networkForRule, ipNetwork_str, List.any_eq_false,
    Bool.not_eq_true] at h
  exact not_mem_of_overlaps (h m hm) hn hd

/-- What is left to ask of a rule whose addresses avoid the protected networks. -/
lemma unprotected_iff {r : RuleEntry} (hok : r.Ok)
    (hsuffix : r.kind = .domainSuffix → ∃ x, r.value = '.' :: x)
    (hnetwork : r.kind = .cidr →
      ∃ n : IpNetwork, r.value = n.str ∧ ∀ d ∈ n, ¬ Covers (protectedRuleIpNetworks S) d)
    (hchecked : r.kind ≠ .cidr → isProtectedLocal S r.kind r.value = false) :
    Unprotected S r ↔ ¬ Slips S r.kind r.value := by
  constructor
  · rintro h (⟨hkind, hvalue⟩ | ⟨name, hname, hspelled⟩)
    · refine h.service "localhost".toList (by simp [protectedServiceDomains]) ?_
      rw [RuleEntry.MatchesName, hkind, hvalue]
      exact Or.inl rfl
    · exact h.spelling name hname hspelled
  · intro h
    refine ⟨?_, hnetwork, ?_, fun name hname hspelled => h (Or.inr ⟨name, hname, hspelled⟩)⟩
    · intro hkind
      have hok : ValueOk r.kind r.value := hok
      have hchecked := hchecked (by rw [hkind]; decide)
      rw [hkind] at hok hchecked
      rcases hok with ⟨a, -, ha⟩
      rw [ha] at hchecked
      exact ⟨a, ha, not_covers_of_host hchecked⟩
    · intro name hname hmatches
      obtain rfl : name = "localhost".toList := by simpa [protectedServiceDomains] using hname
      rw [RuleEntry.MatchesName] at hmatches
      cases hkind : r.kind with
      | ip => rw [hkind] at hmatches; exact hmatches
      | cidr => rw [hkind] at hmatches; exact hmatches
      | domain =>
          rw [hkind] at hmatches
          have hchecked := hchecked (by rw [hkind]; decide)
          rw [hkind, ← hmatches] at hchecked
          simp [isProtectedLocal, networkForRule, protectedServiceDomains] at hchecked
      | domainSuffix =>
          rw [hkind] at hmatches
          rcases hsuffix hkind with ⟨x, hx⟩
          rw [hx] at hmatches
          rcases hmatches with hmatches | hmatches
          · exact h (Or.inl ⟨hkind, by rw [hx, show x = "localhost".toList from hmatches.symm]; rfl⟩)
          · have : '.' ∈ "localhost".toList := hmatches.subset (List.mem_cons_self ..)
            exact absurd this (by decide)

/-! ## Values as they are read -/

/-- A suffix value as the validators build it: a dot and a name without empty labels. -/
def SuffixOk (value : Text) : Prop :=
  ∃ d : Text, value = '.' :: d ∧ ∀ l ∈ d.splitOn '.', l ≠ []

lemma labels_normalizeDomainName {U : Unicode} {value d : Text} {single : Bool}
    (h : normalizeDomainName U value single = some d) : ∀ l ∈ d.splitOn '.', l ≠ [] := by
  unfold normalizeDomainName at h
  dsimp only at h
  split_ifs at h with hempty hlabels
  rw [Option.bind_eq_some_iff] at h
  rcases h with ⟨asciiLabels, -, h⟩
  have hd : d = (U.lower (strip value)).rdropWhile isDot := by
    split_ifs at h <;> simpa using h.symm
  intro l hl hnil
  refine hlabels (List.any_eq_true.mpr ⟨l, hd ▸ hl, ?_⟩)
  rw [hnil]
  rfl

lemma suffixOk_normalizeRuleValue {U : Unicode} {value v : Text} {kind : Kind}
    (h : normalizeRuleValue U value = .ok (kind, v)) :
    (kind = .domainSuffix → SuffixOk v) ∧ (kind = .domain → SuffixOk ('.' :: v)) := by
  unfold normalizeRuleValue at h
  dsimp only at h
  by_cases hempty : (strip value).isEmpty
  · rw [if_pos hempty] at h
    cases h
  rw [if_neg hempty] at h
  split at h
  · cases h
    exact ⟨Kind.noConfusion, Kind.noConfusion⟩
  · split at h
    · cases h
      exact ⟨Kind.noConfusion, Kind.noConfusion⟩
    · split_ifs at h
      · split at h
        · cases h
        · rename_i d hd
          cases h
          exact ⟨fun _ => ⟨d, rfl, labels_normalizeDomainName hd⟩, Kind.noConfusion⟩
      · split at h
        · cases h
        · rename_i d hd
          cases h
          exact ⟨Kind.noConfusion, fun _ => ⟨_, rfl, labels_normalizeDomainName hd⟩⟩

/-! ## The manual text -/

section Manual

variable {U : Unicode}

/-- The action a line states for a value, if it states one. -/
def statedAction (U : Unicode) (S : NetworkSettings) (key : Kind × Text) (line : Text) :
    Option Action :=
  match readManualLine U S line with
  | some (.ok (action, kind, value)) => if (kind, value) = key then some action else none
  | _ => none

/-- The action of the first line that states one for the value. -/
def firstStated (U : Unicode) (S : NetworkSettings) (lines : List Text) (key : Kind × Text) :
    Option Action :=
  (lines.filterMap (statedAction U S key)).head?

lemma firstStated_snoc (done : List Text) (line : Text) (key : Kind × Text) :
    firstStated U S (done ++ [line]) key =
      (firstStated U S done key).or (statedAction U S key line) := by
  rw [firstStated, List.filterMap_append, List.head?_append]
  congr 1
  cases h : statedAction U S key line <;> simp [h]

lemma readManualLine_cases {line value : Text} {action : Action} {kind : Kind}
    (h : readManualLine U S line = some (.ok (action, kind, value))) :
    (∃ part, normalizeRuleValue U part = .ok (kind, value)) ∧
      (action = .vpn → isProtectedLocal S kind value = false) := by
  unfold readManualLine at h
  dsimp only at h
  split_ifs at h
  · cases h
  · split at h
    · rename_i actionPart part hsplit
      split at h
      · cases h
      · split at h
        · cases h
        · rename_i k v hv
          split_ifs at h with hprotected
          · cases h
          · cases h
            exact ⟨⟨part, hv⟩, fun hvpn => by simpa [hvpn] using hprotected⟩
    · cases h

/-- After the lines `done`: the table holds for each value the action stated first, and the rules
are the entries of the table. -/
structure ManualInv (U : Unicode) (S : NetworkSettings) (done : List Text) (st : ManualState) :
    Prop where
  seen : ∀ key, st.seen.lookup key = firstStated U S done key
  rules : ∀ key action, (∃ r ∈ st.rules, (r.kind, r.value) = key ∧ r.action = action) ↔
    firstStated U S done key = some action

lemma ManualInv.step {done : List Text} {st : ManualState} (h : ManualInv U S done st)
    (line : Text) (number : Nat) :
    ManualInv U S (done ++ [line]) (manualStep U S st (line, number)) := by
  have hsilent : (∀ key, statedAction U S key line = none) → ManualInv U S (done ++ [line]) st := by
    intro hnone
    refine ⟨fun key => ?_, fun key action => ?_⟩
    · rw [firstStated_snoc, hnone, Option.or_none, h.seen]
    · rw [firstStated_snoc, hnone, Option.or_none, h.rules]
  unfold manualStep
  split
  · rename_i hread
    exact hsilent fun key => by rw [statedAction, hread]
  · rename_i e hread
    have := hsilent fun key => by rw [statedAction, hread]
    exact ⟨this.seen, this.rules⟩
  · rename_i action kind value hread
    have hstated : ∀ key, statedAction U S key line =
        if (kind, value) = key then some action else none := by
      intro key
      rw [statedAction, hread]
    split
    · -- the value was stated before: the first action stands, and the rules stay
      rename_i previousAction hseen
      rw [h.seen] at hseen
      have hkept : ∀ key, firstStated U S (done ++ [line]) key = firstStated U S done key := by
        intro key
        rw [firstStated_snoc, hstated]
        split_ifs with hkey
        · rw [← hkey, hseen]; rfl
        · rw [Option.or_none]
      split_ifs
      · exact ⟨fun key => by rw [hkept, h.seen], fun key a => by rw [hkept, h.rules]⟩
      · exact ⟨fun key => by rw [hkept]; exact h.seen key,
          fun key a => by rw [hkept]; exact h.rules key a⟩
    · rename_i hseen
      rw [h.seen] at hseen
      refine ⟨fun key => ?_, fun key a => ?_⟩
      · rw [firstStated_snoc, hstated, List.lookup_append, h.seen]
        by_cases hkey : (kind, value) = key
        · simp [← hkey]
        · rw [if_neg hkey, List.lookup_cons, beq_eq_false_iff_ne.mpr (Ne.symm hkey)]
          rfl
      · rw [firstStated_snoc, hstated]
        constructor
        · rintro ⟨r, hr, hkey, haction⟩
          rcases List.mem_append.mp hr with hr | hr
          · rw [(h.rules key a).mp ⟨r, hr, hkey, haction⟩]
            rfl
          · obtain rfl := List.mem_singleton.mp hr
            dsimp only at hkey haction
            rw [← hkey, hseen, if_pos rfl, haction]
            rfl
        · intro hfirst
          by_cases hkey : (kind, value) = key
          · rw [← hkey, hseen, if_pos rfl] at hfirst
            exact ⟨_, List.mem_append_right _ (List.mem_singleton.mpr rfl), hkey,
              Option.some.inj hfirst⟩
          · rw [if_neg hkey, Option.or_none] at hfirst
            rcases (h.rules key a).mpr hfirst with ⟨r, hr, hrest⟩
            exact ⟨r, List.mem_append_left _ hr, hrest⟩

lemma manualInv_foldl (lines : List Text) :
    ManualInv U S lines ((lines.zipIdx 1).foldl (manualStep U S) ⟨[], [], []⟩) := by
  induction lines using List.reverseRecOn with
  | nil => exact ⟨fun key => rfl, fun key action => by simp [firstStated]⟩
  | append_singleton lines line ih =>
      rw [List.zipIdx_append, List.foldl_append]
      exact ih.step line _

lemma mem_manualRules_iff {text : Text} {kind : Kind} {value : Text} {action : Action} :
    (∃ r ∈ (validateManualRules U S text).rules, (r.kind, r.value) = (kind, value) ∧
      r.action = action) ↔ firstStated U S (splitlines text) (kind, value) = some action :=
  (manualInv_foldl (splitlines text)).rules _ _

end Manual

/-! ## The suffix pass -/

/-- The proper parents of a suffix, the longest first. -/
def parentsOf (value : Text) : List Text :=
  (List.range' 1 ((suffixLabels value).length - 1)).map fun i =>
    '.' :: ['.'].intercalate ((suffixLabels value).drop i)

def isParent (p value : Text) : Bool := decide (p ∈ parentsOf value)

lemma mem_parentsOf {p value : Text} : p ∈ parentsOf value ↔
    ∃ i, 1 ≤ i ∧ i < (suffixLabels value).length ∧
      p = '.' :: ['.'].intercalate ((suffixLabels value).drop i) := by
  simp only [parentsOf, List.mem_map, List.mem_range'_1]
  constructor
  · rintro ⟨i, ⟨hi, hlt⟩, rfl⟩
    exact ⟨i, hi, by omega, rfl⟩
  · rintro ⟨i, hi, hlt, rfl⟩
    exact ⟨i, ⟨hi, by omega⟩, rfl⟩

lemma suffixSubsumed_eq (value : Text) (kept : List Text) :
    suffixSubsumed value kept = kept.any fun p => isParent p value := by
  rw [Bool.eq_iff_iff]
  simp only [suffixSubsumed, isParent, List.any_eq_true, List.contains_iff_mem, decide_eq_true_eq,
    parentsOf, List.mem_map]
  constructor
  · rintro ⟨i, hi, hkept⟩
    exact ⟨_, hkept, i, hi, rfl⟩
  · rintro ⟨_, hkept, i, hi, rfl⟩
    exact ⟨i, hi, hkept⟩

lemma suffixLabels_of_ok {d : Text} (h : ∀ l ∈ d.splitOn '.', l ≠ []) :
    suffixLabels ('.' :: d) = d.splitOn '.' := by
  have hd : ('.' :: d).dropWhile isDot = d := by
    cases d with
    | nil => exact absurd rfl (h [] (by simp))
    | cons c rest =>
        rw [List.dropWhile_cons, if_pos (by rfl), List.dropWhile_cons, if_neg]
        intro hc
        obtain rfl : c = '.' := by simpa [isDot] using hc
        exact absurd rfl (h [] (by rw [List.splitOn, List.splitOnP_cons_eq_if_modifyHead]; simp))
  rw [suffixLabels, hd]

lemma suffixLabels_parent {value : Text} (hok : SuffixOk value) {i : Nat}
    (hi : i < (suffixLabels value).length) :
    suffixLabels ('.' :: ['.'].intercalate ((suffixLabels value).drop i)) =
      (suffixLabels value).drop i := by
  rcases hok with ⟨d, rfl, hlabels⟩
  rw [suffixLabels_of_ok hlabels] at hi ⊢
  have hsplit : (['.'].intercalate ((d.splitOn '.').drop i)).splitOn '.' = (d.splitOn '.').drop i :=
    List.splitOn_intercalate '.' (fun l hl => not_mem_of_mem_splitOn (List.mem_of_mem_drop hl))
      (by rw [ne_eq, List.drop_eq_nil_iff]; omega)
  rw [suffixLabels_of_ok, hsplit]
  rw [hsplit]
  exact fun l hl => hlabels l (List.mem_of_mem_drop hl)

lemma isParent_rank {p value : Text} (hok : SuffixOk value) (h : isParent p value = true) :
    (suffixLabels p).length < (suffixLabels value).length := by
  rcases mem_parentsOf.mp (of_decide_eq_true h) with ⟨i, hi, hlt, rfl⟩
  rw [suffixLabels_parent hok hlt, List.length_drop]
  omega

lemma isParent_trans {p q value : Text} (hok : SuffixOk value) (hpq : isParent p q = true)
    (hq : isParent q value = true) : isParent p value = true := by
  rcases mem_parentsOf.mp (of_decide_eq_true hq) with ⟨i, hi, hlt, rfl⟩
  rcases mem_parentsOf.mp (of_decide_eq_true hpq) with ⟨j, hj, hlt', rfl⟩
  rw [suffixLabels_parent hok hlt, List.length_drop] at hlt'
  refine decide_eq_true (mem_parentsOf.mpr ⟨i + j, by omega, by omega, ?_⟩)
  rw [suffixLabels_parent hok hlt, List.drop_drop]

lemma kept_foldl (rules : List RuleEntry) (st : SuffixState) :
    (rules.foldl suffixStep st).kept = (rules.map RuleEntry.value).foldl (keep isParent) st.kept := by
  induction rules generalizing st with
  | nil => rfl
  | cons r rules ih =>
      rw [List.foldl_cons, ih, List.map_cons, List.foldl_cons]
      congr 1
      rw [suffixStep, keep, suffixSubsumed_eq]
      split_ifs <;> rfl

lemma values_minimized (rules : List RuleEntry) :
    ((rules.foldl suffixStep ⟨[], [], 0⟩).minimized.map RuleEntry.value) =
      (rules.foldl suffixStep ⟨[], [], 0⟩).kept := by
  refine List.foldlRecOn (motive := fun st : SuffixState =>
    st.minimized.map RuleEntry.value = st.kept) _ _ rfl fun st hst r hr => ?_
  rw [suffixStep]
  split_ifs
  · exact hst
  · rw [List.map_append, hst]
    rfl

/-- The values the suffix pass keeps, as a walk over the sorted values. -/
lemma values_suffixPass (rules : List RuleEntry) :
    ((sortRules suffixKey rules).foldl suffixStep ⟨[], [], 0⟩).minimized.map RuleEntry.value =
      ((sortRules suffixKey rules).map RuleEntry.value).foldl (keep isParent) [] := by
  rw [values_minimized, kept_foldl]

lemma mem_sortedValues {rules : List RuleEntry} {u : Text} :
    u ∈ (sortRules suffixKey rules).map RuleEntry.value ↔ ∃ r ∈ rules, r.value = u := by
  simp [mem_sortRules]

lemma suffixOk_of_mem_sortedValues {rules : List RuleEntry} (hok : ∀ r ∈ rules, SuffixOk r.value) :
    ∀ u ∈ (sortRules suffixKey rules).map RuleEntry.value, SuffixOk u := by
  intro u hu
  rcases mem_sortedValues.mp hu with ⟨r, hr, rfl⟩
  exact hok r hr

lemma pairwise_sortedValues (rules : List RuleEntry) :
    ((sortRules suffixKey rules).map RuleEntry.value).Pairwise fun p u =>
      (suffixLabels p).length ≤ (suffixLabels u).length := by
  rw [List.pairwise_map]
  refine (List.pairwise_insertionSort (fun a b => suffixKey a ≤ suffixKey b) rules).imp ?_
  exact fun h => Prod.Lex.monotone_fst _ _ h

/-- **What the suffix pass keeps.**  The listed suffixes without a listed parent. -/
lemma mem_minimized_iff {rules : List RuleEntry} (hok : ∀ r ∈ rules, SuffixOk r.value) (v : Text) :
    (∃ r ∈ ((sortRules suffixKey rules).foldl suffixStep ⟨[], [], 0⟩).minimized, r.value = v) ↔
      (∃ r ∈ rules, r.value = v) ∧ ∀ r ∈ rules, r.value ∉ parentsOf v := by
  have hsuffix := suffixOk_of_mem_sortedValues hok
  have hkept := @mem_foldl_keep_iff _ _ isParent (fun u => (suffixLabels u).length) _
    (fun p _ q _ u hu hpq hqu => isParent_trans (hsuffix u hu) hpq hqu)
    (fun p _ u hu h => isParent_rank (hsuffix u hu) h) (pairwise_sortedValues rules) v
  rw [← values_suffixPass, List.mem_map, mem_sortedValues] at hkept
  rw [hkept]
  refine and_congr_right fun _ => ⟨fun h r hr => ?_, fun h p hp => ?_⟩
  · exact of_decide_eq_false (h _ (mem_sortedValues.mpr ⟨r, hr, rfl⟩))
  · rcases mem_sortedValues.mp hp with ⟨r, hr, rfl⟩
    exact decide_eq_false (h r hr)

/-! ## Value lists -/

section Lists

variable {U : Unicode} {C : CollapseAddresses} {source : Source}

/-- Some line of the text states the value. -/
def Listed (U : Unicode) (source : Source) (lines : List Text) (key : Kind × Text) : Prop :=
  ∃ line ∈ lines, readListLine U source line = some (.ok key)

lemma listed_snoc {done : List Text} {line : Text} {key : Kind × Text} :
    Listed U source (done ++ [line]) key ↔
      Listed U source done key ∨ readListLine U source line = some (.ok key) := by
  simp [Listed, or_and_right, exists_or]

/-- The two forms in which a line of a list states a domain. -/
lemma readListLine_cases {line value : Text} {kind : Kind}
    (h : readListLine U source line = some (.ok (kind, value))) :
    (kind = .domainSuffix → SuffixOk value) ∧ (source.isLarge = true → kind ≠ .domain) := by
  unfold readListLine at h
  dsimp only at h
  split_ifs at h
  · cases h
  · cases h
  · split at h
    · cases h
    · rename_i k v hv
      have hok := suffixOk_normalizeRuleValue hv
      split_ifs at h with hlarge
      · cases h
        exact ⟨fun _ => hok.2 hlarge.2, fun _ => Kind.noConfusion⟩
      · cases h
        exact ⟨hok.1, fun hl hkind => hlarge ⟨hl, hkind⟩⟩

/-- The values the VPN rules of a list may have. -/
def Accepted (U : Unicode) (S : NetworkSettings) (source : Source) (lines : List Text)
    (key : Kind × Text) : Prop :=
  Listed U source lines key ∧ isProtectedLocal S key.1 key.2 = false

/-- After the lines `done` of a VPN list, the rules are the accepted values. -/
structure ListInv (U : Unicode) (S : NetworkSettings) (source : Source) (done : List Text)
    (st : ListState) : Prop where
  seen : ∀ key, key ∈ st.seen ↔ Accepted U S source done key
  rules : ∀ key, (∃ r ∈ st.rules, (r.kind, r.value) = key) ↔ Accepted U S source done key

lemma ListInv.step {done : List Text} {st : ListState} (h : ListInv U S source done st)
    (line : Text) (number : Nat) :
    ListInv U S source (done ++ [line]) (listStep U S .vpn source st (line, number)) := by
  have hsilent : (∀ key, readListLine U source line = some (.ok key) →
      ¬ (isProtectedLocal S key.1 key.2 = false) ∨ key ∈ st.seen) →
      ∀ key, Accepted U S source (done ++ [line]) key ↔ Accepted U S source done key := by
    intro hread key
    rw [Accepted, listed_snoc, Accepted]
    constructor
    · rintro ⟨hlisted | hline, hchecked⟩
      · exact ⟨hlisted, hchecked⟩
      · rcases hread key hline with hprotected | hseen
        · exact absurd hchecked hprotected
        · exact (h.seen key).mp hseen
    · exact fun hdone => ⟨Or.inl hdone.1, hdone.2⟩
  unfold listStep
  split
  · rename_i hread
    have := hsilent fun key hline => by rw [hread] at hline; cases hline
    exact ⟨fun key => by rw [this, h.seen], fun key => by rw [this, h.rules]⟩
  · rename_i e hread
    have := hsilent fun key hline => by rw [hread] at hline; cases hline
    exact ⟨fun key => by rw [this]; exact h.seen key, fun key => by rw [this]; exact h.rules key⟩
  · rename_i kind value hread
    have hkey : ∀ key, readListLine U source line = some (.ok key) → key = (kind, value) := by
      intro key hline
      rw [hread] at hline
      cases hline
      rfl
    by_cases hprotected : isProtectedLocal S kind value = true
    · have := hsilent fun key hline => Or.inl (by rw [hkey key hline, hprotected]; exact Bool.noConfusion)
      rw [if_pos ⟨rfl, hprotected⟩]
      split_ifs
      · exact ⟨fun key => by rw [this]; exact h.seen key, fun key => by rw [this]; exact h.rules key⟩
      · exact ⟨fun key => by rw [this]; exact h.seen key, fun key => by rw [this]; exact h.rules key⟩
    · rw [if_neg fun hp => hprotected hp.2]
      split_ifs with hseen
      · have := hsilent fun key hline => Or.inr (by rw [hkey key hline]; exact hseen)
        exact ⟨fun key => by rw [this, h.seen], fun key => by rw [this, h.rules]⟩
      · have haccepted : ∀ key, Accepted U S source (done ++ [line]) key ↔
            Accepted U S source done key ∨ key = (kind, value) := by
          intro key
          rw [Accepted, listed_snoc, Accepted]
          constructor
          · rintro ⟨hlisted | hline, hchecked⟩
            · exact Or.inl ⟨hlisted, hchecked⟩
            · exact Or.inr (hkey key hline)
          · rintro (⟨hlisted, hchecked⟩ | rfl)
            · exact ⟨Or.inl hlisted, hchecked⟩
            · exact ⟨Or.inr hread, Bool.eq_false_iff.mpr hprotected⟩
        refine ⟨fun key => ?_, fun key => ?_⟩
        · rw [haccepted, List.mem_append, List.mem_singleton, h.seen]
        · rw [haccepted, ← h.rules key]
          constructor
          · rintro ⟨r, hr, hrkey⟩
            rcases List.mem_append.mp hr with hr | hr
            · exact Or.inl ⟨r, hr, hrkey⟩
            · obtain rfl := List.mem_singleton.mp hr
              exact Or.inr hrkey.symm
          · rintro (⟨r, hr, hrkey⟩ | rfl)
            · exact ⟨r, List.mem_append_left _ hr, hrkey⟩
            · exact ⟨_, List.mem_append_right _ (List.mem_singleton.mpr rfl), rfl⟩

lemma listInv_foldl (lines : List Text) :
    ListInv U S source lines
      ((lines.zipIdx 1).foldl (listStep U S .vpn source) ⟨[], [], [], 0⟩) := by
  induction lines using List.reverseRecOn with
  | nil => exact ⟨fun key => by simp [Accepted, Listed], fun key => by simp [Accepted, Listed]⟩
  | append_singleton lines line ih =>
      rw [List.zipIdx_append, List.foldl_append]
      exact ih.step line _

/-! ## Collapsing -/

lemma kind_of_collapseNetwork {r : RuleEntry} {n : IpNetwork} (h : collapseNetwork r = some n) :
    r.kind = .cidr := by
  by_contra hkind
  rw [collapseNetwork, if_neg hkind] at h
  cases h

/-- Collapsing leaves the rules of other kinds alone. -/
lemma mem_collapse_iff {rules : List RuleEntry} {r : RuleEntry} (hkind : r.kind ≠ .cidr) :
    r ∈ (collapseRuleNetworks C rules).1 ↔ r ∈ rules := by
  simp only [collapseRuleNetworks, List.mem_append, List.mem_filter, List.mem_flatMap]
  constructor
  · rintro (⟨hr, -⟩ | ⟨g, hg, hr⟩)
    · exact hr
    · exfalso
      rcases List.mem_filterMap.mp hr with ⟨n, -, hn⟩
      unfold representative at hn
      split at hn
      · rename_i existing hfind
        obtain rfl := Option.some.inj hn
        rcases List.mem_map.mp hg with ⟨key, -, rfl⟩
        have hmem := List.mem_reverse.mp (List.mem_of_find?_eq_some hfind)
        rcases List.mem_filterMap.mp (List.mem_filter.mp hmem).1 with ⟨r', -, hmap⟩
        rcases Option.map_eq_some_iff.mp hmap with ⟨m, hm, rfl⟩
        exact hkind (kind_of_collapseNetwork hm)
      · rcases Option.map_eq_some_iff.mp hn with ⟨template, -, rfl⟩
        exact hkind rfl
  · intro hr
    exact Or.inl ⟨hr, by rw [collapseNetwork, if_neg hkind]; rfl⟩

/-- The network of the rule avoids the protected ones. -/
def Avoids (S : NetworkSettings) (r : RuleEntry) : Prop :=
  ∃ n : IpNetwork, r.value = n.str ∧ ∀ d ∈ n, ¬ Covers (protectedRuleIpNetworks S) d

/-- **Collapsing adds no destination.**  A collapsed network covers what the listed networks of its
group cover. -/
lemma collapse_avoids {rules : List RuleEntry} (h : ∀ r ∈ rules, r.kind = .cidr → Avoids S r) :
    ∀ r ∈ (collapseRuleNetworks C rules).1, r.kind = .cidr → Avoids S r := by
  intro r hr hkind
  simp only [collapseRuleNetworks, List.mem_append, List.mem_filter, List.mem_flatMap] at hr
  rcases hr with ⟨hr, -⟩ | ⟨g, hg, hr⟩
  · exact h r hr hkind
  · have hentries : ∀ e ∈ g, e.2 ∈ rules ∧ e.2.kind = .cidr ∧ ipNetwork e.2.value = some e.1 := by
      intro e he
      rcases List.mem_map.mp hg with ⟨key, -, rfl⟩
      rcases List.mem_filterMap.mp (List.mem_filter.mp he).1 with ⟨r', hr', hmap⟩
      rcases Option.map_eq_some_iff.mp hmap with ⟨m, hm, rfl⟩
      have hcidr := kind_of_collapseNetwork hm
      rw [collapseNetwork, if_pos hcidr] at hm
      exact ⟨hr', hcidr, hm⟩
    rcases List.mem_filterMap.mp hr with ⟨n, hn, hrep⟩
    unfold representative at hrep
    split at hrep
    · rename_i existing hfind
      obtain rfl := Option.some.inj hrep
      have hmem := hentries existing (List.mem_reverse.mp (List.mem_of_find?_eq_some hfind))
      exact h _ hmem.1 hkind
    · rcases Option.map_eq_some_iff.mp hrep with ⟨template, -, rfl⟩
      refine ⟨n, rfl, fun d hd => ?_⟩
      rcases (C.covers_collapse _ d).mp ⟨n, hn, hd⟩ with ⟨m, hm, hdm⟩
      rcases List.mem_map.mp hm with ⟨e, he, rfl⟩
      rcases hentries e he with ⟨hrule, hcidr, hread⟩
      rcases h _ hrule hcidr with ⟨n', hn', havoid⟩
      rw [hn', ipNetwork_str] at hread
      obtain rfl := Option.some.inj hread
      exact havoid d hdm

lemma mem_compile_of_large (hlarge : source.isLarge = true) {rules : List RuleEntry}
    {r : RuleEntry} (h : r ∈ (compileLargeListRules C rules source).1) :
    r ∈ (collapseRuleNetworks C rules).1 := by
  rw [compileLargeListRules, if_pos hlarge] at h
  simp only [mem_sortRules, List.mem_append, List.mem_filter] at h
  rcases h with ⟨h, -⟩ | h
  · exact h
  · have := mem_of_mem_minimized r h
    simp only [mem_sortRules, List.mem_filter] at this
    exact this.1

/-- The suffixes a large list is compiled to. -/
lemma mem_compile_suffix_iff (C : CollapseAddresses) (hlarge : source.isLarge = true)
    {rules : List RuleEntry} (hok : ∀ r ∈ rules, r.kind = .domainSuffix → SuffixOk r.value)
    (v : Text) :
    (∃ r ∈ (compileLargeListRules C rules source).1, (r.kind, r.value) = (.domainSuffix, v)) ↔
      (∃ r ∈ rules, (r.kind, r.value) = (.domainSuffix, v)) ∧
        ∀ r ∈ rules, r.kind = .domainSuffix → r.value ∉ parentsOf v := by
  set suffixRules := (collapseRuleNetworks C rules).1.filter fun r => r.kind = .domainSuffix
    with hsuffixRules
  have hmem : ∀ r, r ∈ suffixRules ↔ r ∈ rules ∧ r.kind = .domainSuffix := by
    intro r
    rw [hsuffixRules, List.mem_filter, decide_eq_true_eq]
    refine and_congr_left fun hkind => mem_collapse_iff (by rw [hkind]; exact Kind.noConfusion)
  have hkept := mem_minimized_iff
    (fun r hr => hok r ((hmem r).mp hr).1 ((hmem r).mp hr).2) v
  have hout : (∃ r ∈ (compileLargeListRules C rules source).1,
      (r.kind, r.value) = (.domainSuffix, v)) ↔
      ∃ r ∈ ((sortRules suffixKey suffixRules).foldl suffixStep ⟨[], [], 0⟩).minimized,
        r.value = v := by
    rw [compileLargeListRules, if_pos hlarge]
    simp only [mem_sortRules, List.mem_append, List.mem_filter, decide_eq_true_eq, ← hsuffixRules]
    constructor
    · rintro ⟨r, hr | hr, hkey⟩
      · exact absurd (Prod.mk.inj hkey).1 hr.2
      · exact ⟨r, hr, (Prod.mk.inj hkey).2⟩
    · rintro ⟨r, hr, rfl⟩
      have hr' := mem_of_mem_minimized r hr
      rw [mem_sortRules, hmem] at hr'
      exact ⟨r, Or.inr hr, by rw [hr'.2]⟩
  rw [hout, hkept]
  refine and_congr ⟨?_, ?_⟩ ⟨fun h r hr hkind => h r ((hmem r).mpr ⟨hr, hkind⟩),
    fun h r hr => h r ((hmem r).mp hr).1 ((hmem r).mp hr).2⟩
  · rintro ⟨r, hr, rfl⟩
    exact ⟨r, ((hmem r).mp hr).1, by rw [((hmem r).mp hr).2]⟩
  · rintro ⟨r, hr, hkey⟩
    exact ⟨r, (hmem r).mpr ⟨hr, (Prod.mk.inj hkey).1⟩, (Prod.mk.inj hkey).2⟩

end Lists

/-! ## Which texts are affected -/

section Main

variable {U : Unicode} {C : CollapseAddresses} {source : Source}

/-- No value that slips through is stated as VPN before it is stated as DIRECT. -/
def ManualSafe (U : Unicode) (S : NetworkSettings) (text : Text) : Prop :=
  ∀ kind value, Slips S kind value →
    firstStated U S (splitlines text) (kind, value) ≠ some .vpn

/-- A value that slips through is listed in a large list only, together with one of its parents. -/
def ListSafe (U : Unicode) (source : Source) (S : NetworkSettings) (text : Text) : Prop :=
  ∀ kind value, Slips S kind value → Listed U source (splitlines text) (kind, value) →
    source.isLarge = true ∧
      ∃ p ∈ parentsOf value, Listed U source (splitlines text) (.domainSuffix, p)

lemma exists_of_firstStated {lines : List Text} {kind : Kind} {value : Text} {action : Action}
    (h : firstStated U S lines (kind, value) = some action) :
    ∃ line, readManualLine U S line = some (.ok (action, kind, value)) := by
  rcases List.mem_filterMap.mp (List.mem_of_head? h) with ⟨line, -, hline⟩
  refine ⟨line, ?_⟩
  unfold statedAction at hline
  split at hline
  · rename_i a k v hread
    split_ifs at hline with hkey
    cases hkey
    cases hline
    exact hread
  · cases hline

lemma suffix_of_ok {value : Text} (h : SuffixOk value) : ∃ x, value = '.' :: x := by
  rcases h with ⟨d, rfl, -⟩
  exact ⟨d, rfl⟩

lemma avoids_of_checked {r : RuleEntry} (hok : r.Ok) (hkind : r.kind = .cidr)
    (h : isProtectedLocal S r.kind r.value = false) : Avoids S r := by
  have hok : ValueOk r.kind r.value := hok
  rw [hkind] at hok h
  rcases hok with ⟨n, hn⟩
  rw [hn] at h
  exact ⟨n, hn, not_covers_of_network h⟩

lemma manual_unprotected_iff (text : Text) :
    (∀ r ∈ (validateManualRules U S text).rules, r.action = .vpn → Unprotected S r) ↔
      ManualSafe U S text := by
  have hrule : ∀ r ∈ (validateManualRules U S text).rules, r.action = .vpn →
      (Unprotected S r ↔ ¬ Slips S r.kind r.value) := by
    intro r hr haction
    have hok := validateManualRules_ok U S text r hr
    rcases exists_of_firstStated (mem_manualRules_iff.mp ⟨r, hr, rfl, haction⟩) with ⟨line, hline⟩
    rcases readManualLine_cases hline with ⟨⟨part, hpart⟩, hchecked⟩
    have hchecked := hchecked rfl
    exact unprotected_iff hok (fun hkind => suffix_of_ok ((suffixOk_normalizeRuleValue hpart).1 hkind))
      (fun hkind => avoids_of_checked hok hkind hchecked) fun _ => hchecked
  constructor
  · intro h kind value hslips hstated
    rcases mem_manualRules_iff.mpr hstated with ⟨r, hr, hkey, haction⟩
    cases hkey
    exact (hrule r hr haction).mp (h r hr haction) hslips
  · intro h r hr haction
    refine (hrule r hr haction).mpr fun hslips => ?_
    exact h _ _ hslips (mem_manualRules_iff.mp ⟨r, hr, rfl, haction⟩)

lemma Slips.kind {kind : Kind} {value : Text} (h : Slips S kind value) :
    kind = .domain ∨ kind = .domainSuffix := by
  rcases h with ⟨hkind, -⟩ | ⟨name, hname, -⟩
  · exact Or.inr hkind
  · cases kind with
    | ip => cases hname
    | cidr => cases hname
    | domain => exact Or.inl rfl
    | domainSuffix => exact Or.inr rfl

/-- No suffix is protected: the service names are written without a dot. -/
lemma not_protected_of_suffix {value : Text} (h : SuffixOk value) :
    isProtectedLocal S .domainSuffix value = false := by
  rcases h with ⟨d, rfl, -⟩
  rw [isProtectedLocal, networkForRule, protectedServiceDomains]
  simp only [List.contains_eq_mem, List.mem_singleton, decide_eq_false_iff_not]
  intro heq
  exact absurd (congrArg List.head? heq) (by simp)

/-- What slips through is never found by the check. -/
lemma Slips.checked {kind : Kind} {value : Text} (h : Slips S kind value)
    (hsuffix : kind = .domainSuffix → SuffixOk value) :
    isProtectedLocal S kind value = false := by
  rcases h with ⟨rfl, -⟩ | ⟨name, hname, a, ha, -⟩
  · exact not_protected_of_suffix (hsuffix rfl)
  · cases kind with
    | ip => cases hname
    | cidr => cases hname
    | domainSuffix => exact not_protected_of_suffix (hsuffix rfl)
    | domain =>
        obtain rfl := Option.some.inj hname
        rw [isProtectedLocal, networkForRule, protectedServiceDomains]
        simp only [List.contains_eq_mem, List.mem_singleton, decide_eq_false_iff_not]
        rintro rfl
        rw [show ipv4Address "localhost".toList = none by decide +kernel] at ha
        cases ha

lemma list_unprotected_iff (text : Text) :
    (∀ r ∈ (validateValueList U S C text .vpn source).rules, Unprotected S r) ↔
      ListSafe U source S text := by
  set st := ((splitlines text).zipIdx 1).foldl (listStep U S .vpn source) ⟨[], [], [], 0⟩ with hst
  have hout : (validateValueList U S C text .vpn source).rules =
      (compileLargeListRules C st.rules source).1 := rfl
  have hinv : ListInv U S source (splitlines text) st := listInv_foldl _
  have haccepted : ∀ r ∈ st.rules, Accepted U S source (splitlines text) (r.kind, r.value) :=
    fun r hr => (hinv.rules _).mp ⟨r, hr, rfl⟩
  have hstOk : ∀ r ∈ st.rules, r.Ok := listStep_foldl_ok _
  have hsuffix : ∀ r ∈ st.rules, r.kind = .domainSuffix → SuffixOk r.value := by
    intro r hr
    rcases (haccepted r hr).1 with ⟨line, -, hline⟩
    exact (readListLine_cases hline).1
  have hnetworks : ∀ r ∈ st.rules, r.kind = .cidr → Avoids S r := fun r hr hkind =>
    avoids_of_checked (hstOk r hr) hkind (haccepted r hr).2
  -- a rule of another kind than `cidr` that is compiled was collected
  have hcollected : ∀ r ∈ (compileLargeListRules C st.rules source).1, r.kind ≠ .cidr →
      r ∈ st.rules := by
    intro r hr hkind
    by_cases hlarge : source.isLarge = true
    · exact (mem_collapse_iff hkind).mp (mem_compile_of_large hlarge hr)
    · rw [compileLargeListRules, if_neg hlarge] at hr
      exact hr
  have hrule : ∀ r ∈ (compileLargeListRules C st.rules source).1,
      (Unprotected S r ↔ ¬ Slips S r.kind r.value) := by
    intro r hr
    refine unprotected_iff (compileLargeListRules_ok C source hstOk r hr) ?_ ?_ ?_
    · intro hkind
      exact suffix_of_ok (hsuffix r (hcollected r hr (by rw [hkind]; exact Kind.noConfusion)) hkind)
    · intro hkind
      by_cases hlarge : source.isLarge = true
      · exact collapse_avoids hnetworks r (mem_compile_of_large hlarge hr) hkind
      · rw [compileLargeListRules, if_neg hlarge] at hr
        exact hnetworks r hr hkind
    · exact fun hkind => (haccepted r (hcollected r hr hkind)).2
  rw [hout]
  constructor
  · intro h kind value hslips hlisted
    have hforms : (kind = .domainSuffix → SuffixOk value) ∧
        (source.isLarge = true → kind ≠ .domain) := by
      rcases hlisted with ⟨line, -, hline⟩
      exact readListLine_cases hline
    rcases (hinv.rules _).mpr ⟨hlisted, hslips.checked hforms.1⟩ with ⟨r, hr, hkey⟩
    by_cases hlarge : source.isLarge = true
    · refine ⟨hlarge, ?_⟩
      have hkind : kind = .domainSuffix := hslips.kind.resolve_left (hforms.2 hlarge)
      rw [hkind] at hkey hslips
      by_contra hparents
      push Not at hparents
      have hkept := (mem_compile_suffix_iff C hlarge hsuffix value).mpr
        ⟨⟨r, hr, hkey⟩, fun q hq hqkind hqmem => hparents _ hqmem
          (by have := (haccepted q hq).1; rwa [hqkind] at this)⟩
      rcases hkept with ⟨q, hq, hqkey⟩
      rw [← (Prod.mk.inj hqkey).1, ← (Prod.mk.inj hqkey).2] at hslips
      exact (hrule q hq).mp (h q hq) hslips
    · exfalso
      have hr' : r ∈ (compileLargeListRules C st.rules source).1 := by
        rwa [compileLargeListRules, if_neg hlarge]
      cases hkey
      exact (hrule r hr').mp (h r hr') hslips
  · intro h r hr
    refine (hrule r hr).mpr fun hslips => ?_
    have hkind : r.kind ≠ .cidr := by
      intro hkind
      rcases hslips.kind with h | h
      · rw [hkind] at h; cases h
      · rw [hkind] at h; cases h
    have hr' := haccepted r (hcollected r hr hkind)
    rcases h _ _ hslips hr'.1 with ⟨hlarge, p, hp, hlisted⟩
    have hforms : p ∈ parentsOf r.value ∧ SuffixOk p ∧ r.kind ≠ .domain := by
      rcases hlisted with ⟨line, -, hread⟩
      rcases hr'.1 with ⟨line', -, hread'⟩
      exact ⟨hp, (readListLine_cases hread).1 rfl, (readListLine_cases hread').2 hlarge⟩
    rcases (hinv.rules (.domainSuffix, p)).mpr ⟨hlisted, not_protected_of_suffix hforms.2.1⟩
      with ⟨q, hq, hqkey⟩
    have hkept := (mem_compile_suffix_iff C hlarge hsuffix r.value).mp
      ⟨r, hr, by rw [hslips.kind.resolve_left hforms.2.2]⟩
    refine hkept.2 q hq (Prod.mk.inj hqkey).1 ?_
    rw [(Prod.mk.inj hqkey).2]
    exact hp

/-- **Which VPN rules leave protected destinations alone.**  All rules of a text do unless a suffix
`.localhost`, or a domain spelled like a protected address, slips through: in the manual text as the
first statement about that value, in a list without one of its parents beside it. -/
theorem vpn_rules_unprotected_iff (U : Unicode) (S : NetworkSettings) (C : CollapseAddresses)
    (source : Source) (text : Text) :
    ((∀ r ∈ (validateManualRules U S text).rules, r.action = .vpn → Unprotected S r) ↔
      ManualSafe U S text) ∧
    ((∀ r ∈ (validateValueList U S C text .vpn source).rules, Unprotected S r) ↔
      ListSafe U source S text) :=
  ⟨manual_unprotected_iff text, list_unprotected_iff text⟩

/-- **The suffix `.localhost` is routed through the VPN.** -/
theorem localhost_suffix_accepted :
    (validateManualRules .ascii .unset "VPN .localhost".toList).rules =
      [⟨.vpn, .domainSuffix, ".localhost".toList, some 1, .manual⟩] ∧
    ¬∀ r ∈ (validateManualRules .ascii .unset "VPN .localhost".toList).rules,
      r.action = .vpn → Unprotected .unset r := by
  have hrules : (validateManualRules .ascii .unset "VPN .localhost".toList).rules =
      [⟨.vpn, .domainSuffix, ".localhost".toList, some 1, .manual⟩] := by decide +kernel
  refine ⟨hrules, fun h => ?_⟩
  rw [hrules] at h
  exact (h _ (List.mem_singleton.mpr rfl) rfl).service "localhost".toList
    (List.mem_singleton.mpr rfl) (Or.inl rfl)

/-- An address of a protected network with a dot after it, in a manual text and in a large list. -/
example : (validateManualRules .ascii .unset "VPN 10.0.0.1.".toList).rules =
      [⟨.vpn, .domain, "10.0.0.1".toList, some 1, .manual⟩] ∧
    (validateValueList .ascii .unset .sorted "10.0.0.1.".toList .vpn .bigVpn).rules =
      [⟨.vpn, .domainSuffix, ".10.0.0.1".toList, some 1, .bigVpn⟩] := by decide +kernel

end Main

end FwRouter
