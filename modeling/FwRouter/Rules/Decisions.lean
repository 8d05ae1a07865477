import FwRouter.Library.FirstMatch
import FwRouter.Rules.Artifact
import FwRouter.Rules.Protected

/-!
# What the artifact decides

`build_effective_rules_artifact` drops a rule whose kind and value an earlier rule has, whatever the
actions of the two are.  Kind and value are all that a rule looks at, so the dropped rule never was
the first to match: the artifact decides every address and every host name as the whole
concatenation of the five sources does (`artifact_decides`).
-/

namespace FwRouter

open Py Ipaddress FirstMatch

/-! ## Queries -/

/-- What is looked up: a destination address or a host name. -/
inductive Query where
  | address (d : Addr)
  | host (name : Text)

instance (r : RuleEntry) (name : Text) : Decidable (r.MatchesName name) := by
  unfold RuleEntry.MatchesName
  cases r.kind <;> infer_instance

/-- The rule matches the query. -/
def RuleEntry.matches (r : RuleEntry) : Query → Bool
  | .address d => r.containsAddr d
  | .host name => decide (r.MatchesName name)

/-- What a rule looks at. -/
def EffectiveRule.key (r : EffectiveRule) : Kind × Text := (r.kind, r.value)

/-- The decision of a rule about a query: its action, with its priority. -/
def EffectiveRule.decides (r : EffectiveRule) (q : Query) : Option (Action × Nat) :=
  if r.matches q then some (r.action, r.priority) else none

/-- The decision of the first rule that matches. -/
def firstDecision (rules : List EffectiveRule) (q : Query) : Option (Action × Nat) :=
  eval EffectiveRule.decides rules q

/-- A source of the artifact: its name, its priority and its rules. -/
abbrev RuleSource := Source × Nat × List RuleEntry

/-- The rules of a source with its priority. -/
def enriched (s : RuleSource) : List EffectiveRule :=
  s.2.2.map fun entry => { toRuleEntry := entry, priority := s.2.1 }

/-- The five sources in the order of their priority. -/
def orderedSources (S : NetworkSettings) (manualValidation : ManualValidation)
    (staticDirectValidation bigDirectValidation bigVpnValidation : Option ListValidation) :
    List RuleSource :=
  let listRules := fun (v : Option ListValidation) => (v.map ListValidation.rules).getD []
  [(.protectedNet, 1, protectedRules S),
    (.manual, 2, rulesFromValidation manualValidation.rules .manual),
    (.staticDirect, 3, rulesFromValidation (listRules staticDirectValidation) .staticDirect),
    (.bigDirect, 4, rulesFromValidation (listRules bigDirectValidation) .bigDirect),
    (.bigVpn, 5, rulesFromValidation (listRules bigVpnValidation) .bigVpn)]

/-! ## The merging loop -/

lemma enriched_cons (source : Source) (priority : Nat) (entry : RuleEntry)
    (entries : List RuleEntry) : enriched (source, priority, entry :: entries) =
      { toRuleEntry := entry, priority } :: enriched (source, priority, entries) := rfl

/-- One source: the rules whose key is new are appended. -/
lemma mergeSource_spec (st : MergeState) (s : RuleSource) :
    (mergeSource st s).effectiveRules =
        st.effectiveRules ++ firsts EffectiveRule.key st.seen (enriched s) ∧
      (mergeSource st s).seen =
        st.seen ++ (firsts EffectiveRule.key st.seen (enriched s)).map EffectiveRule.key := by
  obtain ⟨source, priority, entries⟩ := s
  induction entries generalizing st with
  | nil => exact ⟨(List.append_nil _).symm, (List.append_nil _).symm⟩
  | cons entry entries ih =>
      have hfirst : mergeSource st (source, priority, entry :: entries) =
          mergeSource (mergeEntry source priority st entry) (source, priority, entries) := rfl
      obtain ⟨hrules, hseen⟩ := ih (mergeEntry source priority st entry)
      rw [hfirst, hrules, hseen, enriched_cons, firsts, mergeEntry, EffectiveRule.key]
      split_ifs
      · exact ⟨rfl, rfl⟩
      · rw [List.append_assoc, List.append_assoc]
        exact ⟨rfl, rfl⟩

/-- **The merged list** is the concatenation without the repeated keys. -/
lemma foldl_mergeSource_rules (sources : List RuleSource) (st : MergeState) :
    (sources.foldl mergeSource st).effectiveRules =
      st.effectiveRules ++ firsts EffectiveRule.key st.seen (sources.flatMap enriched) := by
  induction sources generalizing st with
  | nil => exact (List.append_nil _).symm
  | cons s sources ih =>
      obtain ⟨hrules, hseen⟩ := mergeSource_spec st s
      rw [List.foldl_cons, ih, hrules, hseen, List.flatMap_cons, firsts_append, List.append_assoc]

/-- The counts of the five sources together. -/
def totalCount (counts : Source → Nat) : Nat :=
  counts .protectedNet + counts .manual + counts .staticDirect + counts .bigDirect + counts .bigVpn

lemma totalCount_update (counts : Source → Nat) (source : Source) :
    totalCount (Function.update counts source (counts source + 1)) = totalCount counts + 1 := by
  unfold totalCount
  cases source <;> simp [Function.update] <;> omega

lemma totalCount_mergeEntry {source : Source} {priority : Nat} {st : MergeState} (entry : RuleEntry)
    (h : totalCount st.sourceCounts = st.effectiveRules.length) :
    totalCount (mergeEntry source priority st entry).sourceCounts =
      (mergeEntry source priority st entry).effectiveRules.length := by
  rw [mergeEntry]
  split_ifs
  · exact h
  · rw [totalCount_update, h, List.length_append, List.length_singleton]

lemma totalCount_foldl (sources : List RuleSource) :
    totalCount (sources.foldl mergeSource ⟨[], [], fun _ => 0⟩).sourceCounts =
      (sources.foldl mergeSource ⟨[], [], fun _ => 0⟩).effectiveRules.length :=
  List.foldlRecOn (motive := fun st : MergeState =>
    totalCount st.sourceCounts = st.effectiveRules.length) _ _ rfl fun _ hst s _ =>
      List.foldlRecOn (motive := fun st : MergeState =>
        totalCount st.sourceCounts = st.effectiveRules.length) s.2.2 _ hst fun _ hst entry _ =>
          totalCount_mergeEntry entry hst

/-! ## The decisions -/

/-- Rules with one key match the same queries. -/
lemma decides_eq_none_of_key {q : Query} (a b : EffectiveRule) (hkey : a.key = b.key)
    (h : a.decides q = none) : b.decides q = none := by
  obtain ⟨hkind, hvalue⟩ := Prod.mk.inj hkey
  have hmatches : b.matches q = a.matches q := by
    cases q with
    | address d => rw [RuleEntry.matches, RuleEntry.matches, RuleEntry.containsAddr,
        RuleEntry.containsAddr, hkind, hvalue]
    | host name =>
        refine decide_eq_decide.mpr ?_
        rw [RuleEntry.MatchesName, RuleEntry.MatchesName, hkind, hvalue]
  unfold EffectiveRule.decides at h ⊢
  rw [hmatches]
  split_ifs at h ⊢
  rfl

/-- In sources of rising priority the rules have rising priorities. -/
lemma enriched_sorted {sources : List RuleSource}
    (h : sources.Pairwise fun s s' => s.2.1 ≤ s'.2.1) :
    (sources.flatMap enriched).Pairwise fun a b => a.priority ≤ b.priority := by
  rw [List.pairwise_flatMap]
  constructor
  · intro s _
    rw [enriched, List.pairwise_map]
    exact List.pairwise_of_forall fun _ _ => le_rfl
  · refine h.imp fun {s s'} hle a ha b hb => ?_
    obtain ⟨_, -, rfl⟩ := List.mem_map.mp ha
    obtain ⟨_, -, rfl⟩ := List.mem_map.mp hb
    exact hle

/-- The merged list of any sources decides as their concatenation. -/
lemma merged_decides (sources : List RuleSource) (q : Query) :
    firstDecision (sources.foldl mergeSource ⟨[], [], fun _ => 0⟩).effectiveRules q =
      firstDecision (sources.flatMap enriched) q := by
  rw [foldl_mergeSource_rules, List.nil_append]
  exact eval_firsts decides_eq_none_of_key fun _ _ hmem => absurd hmem List.not_mem_nil

lemma merged_nodup (sources : List RuleSource) :
    ((sources.foldl mergeSource ⟨[], [], fun _ => 0⟩).effectiveRules.map
      EffectiveRule.key).Nodup := by
  rw [foldl_mergeSource_rules, List.nil_append]
  exact nodup_firsts

lemma merged_sorted {sources : List RuleSource}
    (h : sources.Pairwise fun s s' => s.2.1 ≤ s'.2.1) :
    (sources.foldl mergeSource ⟨[], [], fun _ => 0⟩).effectiveRules.Pairwise
      fun a b => a.priority ≤ b.priority := by
  rw [foldl_mergeSource_rules, List.nil_append]
  exact (enriched_sorted h).sublist firsts_sublist

/-- The artifact is what the loop makes of the five sources. -/
lemma artifact_rules (S : NetworkSettings) (manual : ManualValidation) (dflt : Action)
    (staticDirect bigDirect bigVpn : Option ListValidation) :
    (buildEffectiveRulesArtifact S manual dflt staticDirect bigDirect bigVpn).rules =
      ((orderedSources S manual staticDirect bigDirect bigVpn).foldl mergeSource
        ⟨[], [], fun _ => 0⟩).effectiveRules := by
  unfold buildEffectiveRulesArtifact orderedSources
  rfl

lemma artifact_counts (S : NetworkSettings) (manual : ManualValidation) (dflt : Action)
    (staticDirect bigDirect bigVpn : Option ListValidation) :
    (buildEffectiveRulesArtifact S manual dflt staticDirect bigDirect bigVpn).sourceCounts =
      ((orderedSources S manual staticDirect bigDirect bigVpn).foldl mergeSource
        ⟨[], [], fun _ => 0⟩).sourceCounts := by
  unfold buildEffectiveRulesArtifact orderedSources
  rfl

/-- **Dropping repeated rules keeps every decision.**  The first rule of the concatenation that
matches an address or a host name and the first such rule of the artifact have the same action and
priority, or there is neither.  In the artifact no pair of kind and value is repeated, the priorities
do not fall, and the counts of the sources add up to its length. -/
theorem artifact_decides (S : NetworkSettings) (manualValidation : ManualValidation)
    (selectiveDefault : Action)
    (staticDirectValidation bigDirectValidation bigVpnValidation : Option ListValidation) :
    let A := buildEffectiveRulesArtifact S manualValidation selectiveDefault staticDirectValidation
      bigDirectValidation bigVpnValidation
    (∀ q, firstDecision A.rules q = firstDecision ((orderedSources S manualValidation
      staticDirectValidation bigDirectValidation bigVpnValidation).flatMap enriched) q) ∧
    (A.rules.map fun r => (r.kind, r.value)).Nodup ∧
    (A.rules.Pairwise fun a b => a.priority ≤ b.priority) ∧
    A.sourceCounts .protectedNet + A.sourceCounts .manual + A.sourceCounts .staticDirect +
      A.sourceCounts .bigDirect + A.sourceCounts .bigVpn = A.rules.length := by
  intro A
  have hsorted : (orderedSources S manualValidation staticDirectValidation bigDirectValidation
      bigVpnValidation).Pairwise fun s s' => s.2.1 ≤ s'.2.1 := by
    simp [orderedSources]
  have hrules := artifact_rules S manualValidation selectiveDefault staticDirectValidation
    bigDirectValidation bigVpnValidation
  have hcounts := artifact_counts S manualValidation selectiveDefault staticDirectValidation
    bigDirectValidation bigVpnValidation
  change A.rules = _ at hrules
  change A.sourceCounts = _ at hcounts
  rw [hrules, hcounts]
  exact ⟨merged_decides _, merged_nodup _, merged_sorted hsorted, totalCount_foldl _⟩

end FwRouter
