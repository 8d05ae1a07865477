import FwRouter.Rules.Validate

/-!
# The effective rules artifact

`build_effective_rules_artifact` merges the protected rules and the four rule lists into one list,
in the order of their priority, and keeps the first rule of each `(kind, value)` pair.  The
dataplane renderers start from the artifact.

`EffectiveRules.declaredAction` is what the artifact promises for a destination address: the
action of the rule of smallest priority that contains it, and the default when there is none.
-/

namespace FwRouter

open Py Ipaddress

/-- A rule with the priority of its source. -/
structure EffectiveRule extends RuleEntry where
  priority : Nat
deriving DecidableEq, Repr

/-- `_protected_rules`. -/
def protectedRules (S : NetworkSettings) : List RuleEntry :=
  (protectedRuleIpNetworks S).map (fun n => ⟨.direct, .cidr, n.str, none, .protectedNet⟩)
    ++ protectedServiceDomains.map fun domain => ⟨.direct, .domain, domain, none, .protectedNet⟩

/-- `_rules_from_validation`. -/
def rulesFromValidation (rules : List RuleEntry) (source : Source) : List RuleEntry :=
  rules.map fun r => { r with source }

/-- The locals of the merging loop. -/
structure MergeState where
  effectiveRules : List EffectiveRule
  seen : List (Kind × Text)
  sourceCounts : Source → Nat

/-- The inner loop body of `build_effective_rules_artifact`. -/
def mergeEntry (source : Source) (priority : Nat) (st : MergeState) (entry : RuleEntry) :
    MergeState :=
  if (entry.kind, entry.value) ∈ st.seen then st
  else
    { seen := st.seen ++ [(entry.kind, entry.value)]
      effectiveRules := st.effectiveRules ++ [{ toRuleEntry := entry, priority }]
      sourceCounts := Function.update st.sourceCounts source (st.sourceCounts source + 1) }

/-- The outer loop body. -/
def mergeSource (st : MergeState) (s : Source × Nat × List RuleEntry) : MergeState :=
  s.2.2.foldl (mergeEntry s.1 s.2.1) st

structure EffectiveCounts where
  total : Nat
  direct : Nat
  vpn : Nat
  protectedNet : Nat
deriving DecidableEq, Repr

/-- What `build_effective_rules_artifact` returns; `selective_default` is one of `direct` and
`vpn`.  The time stamp, the constant `priority_order` and the echo of the runtime state are left
out. -/
structure EffectiveRules where
  selectiveDefault : Action
  rules : List EffectiveRule
  manualRules : List RuleEntry
  sourceCounts : Source → Nat
  effectiveCounts : EffectiveCounts

def EffectiveRules.defaultAction (A : EffectiveRules) : Text := A.selectiveDefault.text

/-- `build_effective_rules_artifact`. -/
def buildEffectiveRulesArtifact (S : NetworkSettings) (manualValidation : ManualValidation)
    (selectiveDefault : Action)
    (staticDirectValidation bigDirectValidation bigVpnValidation : Option ListValidation) :
    EffectiveRules :=
  let listRules := fun (v : Option ListValidation) => (v.map ListValidation.rules).getD []
  let manualRules := rulesFromValidation manualValidation.rules .manual
  let orderedSources : List (Source × Nat × List RuleEntry) :=
    [(.protectedNet, 1, protectedRules S),
      (.manual, 2, manualRules),
      (.staticDirect, 3, rulesFromValidation (listRules staticDirectValidation) .staticDirect),
      (.bigDirect, 4, rulesFromValidation (listRules bigDirectValidation) .bigDirect),
      (.bigVpn, 5, rulesFromValidation (listRules bigVpnValidation) .bigVpn)]
  let st := orderedSources.foldl mergeSource ⟨[], [], fun _ => 0⟩
  { selectiveDefault
    rules := st.effectiveRules
    manualRules
    sourceCounts := st.sourceCounts
    effectiveCounts :=
      { total := st.effectiveRules.length
        direct := st.effectiveRules.countP fun r => r.action = .direct
        vpn := st.effectiveRules.countP fun r => r.action = .vpn
        protectedNet := st.sourceCounts .protectedNet } }

/-- The four rule texts the service keeps. -/
structure RuleTexts where
  manual : Text
  staticDirect : Text
  bigDirect : Text
  bigVpn : Text

/-- The artifact of `prepare_manual_rules_candidate`: each text through its validator, with the
action its list is for. -/
def effectiveRulesOfTexts (U : Unicode) (S : NetworkSettings) (C : CollapseAddresses)
    (texts : RuleTexts) (selectiveDefault : Action) : EffectiveRules :=
  buildEffectiveRulesArtifact S (validateManualRules U S texts.manual) selectiveDefault
    (some (validateValueList U S C texts.staticDirect .direct .staticDirect))
    (some (validateValueList U S C texts.bigDirect .direct .bigDirect))
    (some (validateValueList U S C texts.bigVpn .vpn .bigVpn))

/-! ## Rules and addresses -/

/-- The rule is about addresses and contains this one. -/
def RuleEntry.containsAddr (r : RuleEntry) (d : Addr) : Bool :=
  (networkForRule r.kind r.value).any fun n => decide (d ∈ n)

/-- The address rule of smallest priority that contains the address; the earliest one among
rules of the same source. -/
def EffectiveRules.topRule (A : EffectiveRules) (d : Addr) : Option EffectiveRule :=
  (A.rules.filter fun r => r.containsAddr d).argmin EffectiveRule.priority

/-- **The declared classification of a destination.** -/
def EffectiveRules.declaredAction (A : EffectiveRules) (d : Addr) : Action :=
  match A.topRule d with
  | some r => r.action
  | none => A.selectiveDefault

/-! ## The merged list -/

/-- A list of effective rules in priority order, none after priority `p`, all well formed. -/
structure Merged (p : Nat) (rules : List EffectiveRule) : Prop where
  sorted : rules.Pairwise fun a b => a.priority ≤ b.priority
  bounded : ∀ r ∈ rules, r.priority ≤ p
  ok : ∀ r ∈ rules, r.toRuleEntry.Ok

lemma Merged.nil (p : Nat) : Merged p [] := ⟨List.Pairwise.nil, by simp, by simp⟩

lemma Merged.mergeEntry {p : Nat} {source : Source} {st : MergeState} {entry : RuleEntry}
    (h : Merged p st.effectiveRules) (hentry : entry.Ok) :
    Merged p (mergeEntry source p st entry).effectiveRules := by
  unfold FwRouter.mergeEntry
  split_ifs
  · exact h
  · refine ⟨List.pairwise_append.mpr ⟨h.sorted, List.pairwise_singleton _ _, ?_⟩, ?_, ?_⟩
    · intro a ha b hb
      obtain rfl := List.mem_singleton.mp hb
      exact h.bounded a ha
    · intro r hr
      rcases List.mem_append.mp hr with hr | hr
      · exact h.bounded r hr
      · obtain rfl := List.mem_singleton.mp hr
        exact le_rfl
    · intro r hr
      rcases List.mem_append.mp hr with hr | hr
      · exact h.ok r hr
      · obtain rfl := List.mem_singleton.mp hr
        exact hentry

/-- A source of the same or a later priority can be appended. -/
lemma Merged.mergeSource {p q : Nat} {source : Source} {st : MergeState} {entries : List RuleEntry}
    (h : Merged p st.effectiveRules) (hpq : p ≤ q) (hentries : ∀ e ∈ entries, e.Ok) :
    Merged q (mergeSource st (source, q, entries)).effectiveRules := by
  have hq : Merged q st.effectiveRules :=
    ⟨h.sorted, fun r hr => (h.bounded r hr).trans hpq, h.ok⟩
  exact List.foldlRecOn (motive := fun st : MergeState => Merged q st.effectiveRules) _ _ hq
    fun st hst e he => hst.mergeEntry (hentries e he)

lemma protectedRules_ok (S : NetworkSettings) : ∀ r ∈ protectedRules S, r.Ok := by
  intro r hr
  rcases List.mem_append.mp hr with hr | hr
  · obtain ⟨n, -, rfl⟩ := List.mem_map.mp hr
    exact ⟨n, rfl⟩
  · obtain ⟨d, hd, rfl⟩ := List.mem_map.mp hr
    obtain rfl : d = "localhost".toList := by simpa [protectedServiceDomains] using hd
    exact (by decide : DomainOk "localhost".toList)

lemma rulesFromValidation_ok {rules : List RuleEntry} {source : Source} (h : ∀ r ∈ rules, r.Ok) :
    ∀ r ∈ rulesFromValidation rules source, r.Ok := by
  intro r hr
  obtain ⟨r', hr', rfl⟩ := List.mem_map.mp hr
  exact h r' hr'

/-- The artifact of well-formed lists is in priority order and well formed. -/
lemma buildEffectiveRulesArtifact_merged (S : NetworkSettings) {manual : ManualValidation}
    (dflt : Action) {staticDirect bigDirect bigVpn : ListValidation}
    (hm : ∀ r ∈ manual.rules, r.Ok) (hs : ∀ r ∈ staticDirect.rules, r.Ok)
    (hd : ∀ r ∈ bigDirect.rules, r.Ok) (hv : ∀ r ∈ bigVpn.rules, r.Ok) :
    Merged 5 (buildEffectiveRulesArtifact S manual dflt (some staticDirect) (some bigDirect)
      (some bigVpn)).rules :=
  ((((Merged.nil 1).mergeSource le_rfl (protectedRules_ok S)).mergeSource (by decide)
    (rulesFromValidation_ok hm)).mergeSource (by decide) (rulesFromValidation_ok hs)).mergeSource
      (by decide) (rulesFromValidation_ok hd) |>.mergeSource (by decide) (rulesFromValidation_ok hv)

/-- **The artifact of any four texts is in priority order and well formed.** -/
lemma effectiveRulesOfTexts_merged (U : Unicode) (S : NetworkSettings) (C : CollapseAddresses)
    (texts : RuleTexts) (dflt : Action) :
    Merged 5 (effectiveRulesOfTexts U S C texts dflt).rules :=
  buildEffectiveRulesArtifact_merged S dflt (validateManualRules_ok U S _)
    (validateValueList_ok U S C _ _ _) (validateValueList_ok U S C _ _ _)
    (validateValueList_ok U S C _ _ _)

/-- In a list sorted by `f` the first element is the first minimal one. -/
lemma argmin_eq_head? {α : Type} {f : α → Nat} :
    ∀ {l : List α}, l.Pairwise (fun a b => f a ≤ f b) → l.argmin f = l.head?
  | [], _ => rfl
  | a :: l, h => by
      obtain ⟨ha, hl⟩ := List.pairwise_cons.mp h
      rw [List.argmin_cons, argmin_eq_head? hl]
      cases l with
      | nil => rfl
      | cons b l =>
          have : ¬ f b < f a := Nat.not_lt.mpr (ha b (by simp))
          simp [this]

/-- The top rule is the first rule of the artifact that contains the address. -/
lemma topRule_eq_find? {A : EffectiveRules} {p : Nat} (h : Merged p A.rules) (d : Addr) :
    A.topRule d = A.rules.find? fun r => r.containsAddr d := by
  rw [EffectiveRules.topRule, argmin_eq_head? (h.sorted.filter _), List.head?_filter]

end FwRouter
