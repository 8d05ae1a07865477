import FwRouter.Rules.Model

/-!
# Rule list validators

`validate_manual_rules` reads the manual rule text, one `ACTION VALUE` pair a line;
`validate_value_list` reads a list of bare values whose action is fixed by where the list comes
from.  Both walk the lines once and collect errors, rules and the keys already seen.  Large lists
are compiled afterwards: networks of one action and version are collapsed, and a domain suffix
below another one is dropped.

The result that the rest of the development uses is that whatever comes out is well formed,
`validateManualRules_ok` and `validateValueList_ok`.
-/

namespace FwRouter

open Py Ipaddress

/-! ## Errors -/

/-- What a line can be refused for.  The two validators word a malformed line differently. -/
inductive ErrorDetail where
  | inlineComment (text : Text)
  | ruleFormat (text : Text)
  | entryFormat (text : Text)
  | invalidAction (action : Text)
  | badValue (e : ValueError)
  | vpnLocalDirectProtected (value : Text)
  | manualRuleConflict (value : Text) (previousAction action : Action)
deriving DecidableEq, Repr

def ErrorDetail.code : ErrorDetail → String
  | .inlineComment _ => "INLINE_COMMENT_NOT_SUPPORTED"
  | .ruleFormat _ | .entryFormat _ => "INVALID_FORMAT"
  | .invalidAction _ => "INVALID_ACTION"
  | .badValue e => e.code
  | .vpnLocalDirectProtected _ => "VPN_LOCAL_DIRECT_PROTECTED"
  | .manualRuleConflict .. => "MANUAL_RULE_CONFLICT"

def ErrorDetail.message : ErrorDetail → String
  | .inlineComment _ => "Inline comments are not supported."
  | .ruleFormat _ => "Rule must have exactly two fields: ACTION VALUE."
  | .entryFormat _ => "Large list entries must contain exactly one value per line."
  | .invalidAction _ => "Rule action must be DIRECT/VPN or supported localized aliases."
  | .badValue e => e.message
  | .vpnLocalDirectProtected _ =>
      "Protected local/private/service pools cannot be routed through VPN."
  | .manualRuleConflict .. => "The same value cannot be both DIRECT and VPN."

/-- An entry of `errors`; only the list validator records its source. -/
structure ValidationError where
  line : Nat
  source : Option Source
  detail : ErrorDetail
deriving DecidableEq, Repr

/-! ## The manual text -/

/-- What `validate_manual_rules` returns. -/
structure ManualValidation where
  errors : List ValidationError
  rules : List RuleEntry
  normalizedText : Text
deriving DecidableEq, Repr

def ManualValidation.valid (v : ManualValidation) : Bool := v.errors.isEmpty

/-- A blank line or a comment. -/
def isSkippedLine (stripped : Text) : Bool := stripped.isEmpty || stripped.head? == some '#'

/-- The part of the loop body of `validate_manual_rules` that does not look at earlier lines:
nothing for a skipped line, else the rule the line states or the error it raises. -/
def readManualLine (U : Unicode) (S : NetworkSettings) (originalLine : Text) :
    Option (Except ErrorDetail (Action × Kind × Text)) :=
  let stripped := strip originalLine
  if isSkippedLine stripped then none
  else if '#' ∈ stripped then some (.error (.inlineComment originalLine))
  else match split stripped with
    | [actionPart, value] =>
        let rawAction := strip actionPart
        match ruleActionAliases.lookup (U.upper rawAction) with
        | none => some (.error (.invalidAction rawAction))
        | some action =>
            match normalizeRuleValue U value with
            | .error e => some (.error (.badValue e))
            | .ok (kind, normalizedValue) =>
                if action = .vpn ∧ isProtectedLocal S kind normalizedValue = true then
                  some (.error (.vpnLocalDirectProtected normalizedValue))
                else some (.ok (action, kind, normalizedValue))
    | _ => some (.error (.ruleFormat originalLine))

/-- The locals of the loop of `validate_manual_rules`. -/
structure ManualState where
  errors : List ValidationError
  rules : List RuleEntry
  seen : List ((Kind × Text) × Action)

/-- One pass of the loop of `validate_manual_rules`. -/
def manualStep (U : Unicode) (S : NetworkSettings) (st : ManualState) (line : Text × Nat) :
    ManualState :=
  match readManualLine U S line.1 with
  | none => st
  | some (.error e) => { st with errors := st.errors ++ [⟨line.2, none, e⟩] }
  | some (.ok (action, kind, value)) =>
      match st.seen.lookup (kind, value) with
      | some previousAction =>
          if previousAction = action then st
          else { st with
                 errors := st.errors ++
                   [⟨line.2, none, .manualRuleConflict value previousAction action⟩] }
      | none =>
          { st with
            seen := st.seen ++ [((kind, value), action)]
            rules := st.rules ++ [⟨action, kind, value, some line.2, .manual⟩] }

/-- `"\n".join(lines)`, ended by a newline unless there is nothing. -/
def joinLines (lines : List Text) : Text :=
  let text := ['\n'].intercalate lines
  if text.isEmpty then text else text ++ ['\n']

/-- `validate_manual_rules`. -/
def validateManualRules (U : Unicode) (S : NetworkSettings) (text : Text) : ManualValidation :=
  let st := ((splitlines text).zipIdx 1).foldl (manualStep U S) ⟨[], [], []⟩
  { errors := st.errors
    rules := st.rules
    normalizedText := joinLines (st.rules.map fun r => r.action.text ++ ' ' :: r.value) }

/-! ## Value lists -/

/-- The part of the loop body of `validate_value_list` that does not look at earlier lines. -/
def readListLine (U : Unicode) (source : Source) (originalLine : Text) :
    Option (Except ErrorDetail (Kind × Text)) :=
  let stripped := strip originalLine
  if isSkippedLine stripped then none
  else if '#' ∈ stripped then some (.error (.inlineComment originalLine))
  else if (split stripped).length ≠ 1 then some (.error (.entryFormat originalLine))
  else match normalizeRuleValue U (normalizeLargeListValue U stripped) with
    | .error e => some (.error (.badValue e))
    | .ok (kind, value) =>
        -- a domain of a large list stands for its whole subtree
        if source.isLarge = true ∧ kind = .domain then some (.ok (.domainSuffix, '.' :: value))
        else some (.ok (kind, value))

/-- The locals of the loop of `validate_value_list`. -/
structure ListState where
  errors : List ValidationError
  rules : List RuleEntry
  seen : List (Kind × Text)
  skippedProtectedVpn : Nat

/-- One pass of the loop of `validate_value_list`. -/
def listStep (U : Unicode) (S : NetworkSettings) (action : Action) (source : Source)
    (st : ListState) (line : Text × Nat) : ListState :=
  match readListLine U source line.1 with
  | none => st
  | some (.error e) => { st with errors := st.errors ++ [⟨line.2, some source, e⟩] }
  | some (.ok (kind, value)) =>
      if action = .vpn ∧ isProtectedLocal S kind value = true then
        if source.isLarge then { st with skippedProtectedVpn := st.skippedProtectedVpn + 1 }
        else { st with
               errors := st.errors ++ [⟨line.2, some source, .vpnLocalDirectProtected value⟩] }
      else if (kind, value) ∈ st.seen then st
      else
        { st with
          seen := st.seen ++ [(kind, value)]
          rules := st.rules ++ [⟨action, kind, value, some line.2, source⟩] }

/-! ## Compiling a large list -/

/-- The network a rule enters the collapse with; `none` for a rule that is passed through. -/
def collapseNetwork (r : RuleEntry) : Option IpNetwork :=
  if r.kind = .cidr then ipNetwork r.value else none

/-- `(action, version)`, the key of `grouped`. -/
def groupKey (e : IpNetwork × RuleEntry) : Action × Version := (e.2.action, e.1.version)

/-- The groups of `_collapse_rule_networks` in the order in which their keys first appear. -/
def groupEntries (entries : List (IpNetwork × RuleEntry)) : List (List (IpNetwork × RuleEntry)) :=
  (entries.map groupKey).eraseDups.map fun key => entries.filter fun e => groupKey e = key

/-- The rule that stands for a collapsed network: the last rule of the group with that text, else
a copy of the group's first rule. -/
def representative (entries : List (IpNetwork × RuleEntry)) (n : IpNetwork) : Option RuleEntry :=
  match entries.reverse.find? fun e => e.1.str = n.str with
  | some existing => some existing.2
  | none => entries.head?.map fun template =>
      { template.2 with kind := .cidr, value := n.str }

/-- The rules one group is collapsed to. -/
def collapseGroup (C : CollapseAddresses) (entries : List (IpNetwork × RuleEntry)) :
    List RuleEntry :=
  (C.collapse (entries.map Prod.fst)).filterMap (representative entries)

/-- `_collapse_rule_networks`. -/
def collapseRuleNetworks (C : CollapseAddresses) (rules : List RuleEntry) :
    List RuleEntry × Nat :=
  let entries := rules.filterMap fun r => (collapseNetwork r).map fun n => (n, r)
  let groups := groupEntries entries
  let removed := groups.map fun g => g.length - (C.collapse (g.map Prod.fst)).length
  (rules.filter (fun r => (collapseNetwork r).isNone) ++ groups.flatMap (collapseGroup C),
    removed.sum)

/-- `str.lstrip(".").split(".")`. -/
def suffixLabels (value : Text) : List Text := (value.dropWhile isDot).splitOn '.'

/-- `_suffix_subsumed`: a proper parent of the suffix is kept already. -/
def suffixSubsumed (value : Text) (keptSuffixes : List Text) : Bool :=
  let labels := suffixLabels value
  (List.range' 1 (labels.length - 1)).any fun i =>
    keptSuffixes.contains ('.' :: ['.'].intercalate (labels.drop i))

/-- The sort key of the suffix pass: number of labels, length, text. -/
def suffixKey (r : RuleEntry) : Nat ×ₗ Nat ×ₗ Text :=
  toLex ((suffixLabels r.value).length, toLex (r.value.length, r.value))

/-- The locals of the suffix pass. -/
structure SuffixState where
  minimized : List RuleEntry
  kept : List Text
  removed : Nat

def suffixStep (st : SuffixState) (r : RuleEntry) : SuffixState :=
  if r.value ∈ st.kept ∨ suffixSubsumed r.value st.kept = true then
    { st with removed := st.removed + 1 }
  else { st with kept := st.kept ++ [r.value], minimized := st.minimized ++ [r] }

def Kind.rank : Kind → Nat
  | .cidr => 0
  | .ip => 1
  | .domain => 2
  | .domainSuffix => 3

/-- The sort key of the compiled list: kind, then text. -/
def compiledKey (r : RuleEntry) : Nat ×ₗ Text := toLex (r.kind.rank, r.value)

/-- `sorted(rules, key=key)`: stable. -/
def sortRules {κ : Type} [LinearOrder κ] (key : RuleEntry → κ) (rules : List RuleEntry) :
    List RuleEntry :=
  rules.insertionSort fun a b => key a ≤ key b

structure CompileStats where
  cidrCollapsedRemoved : Nat
  domainSuffixSubsumedRemoved : Nat
  protectedVpnSkipped : Nat
deriving DecidableEq, Repr

/-- `_compile_large_list_rules`; the rules and the two counts of removed ones. -/
def compileLargeListRules (C : CollapseAddresses) (rules : List RuleEntry) (source : Source) :
    List RuleEntry × Nat × Nat :=
  if source.isLarge then
    let (collapsedRules, cidrRemoved) := collapseRuleNetworks C rules
    let nonSuffixRules := collapsedRules.filter fun r => r.kind ≠ .domainSuffix
    let suffixRules := collapsedRules.filter fun r => r.kind = .domainSuffix
    let st := (sortRules suffixKey suffixRules).foldl suffixStep ⟨[], [], 0⟩
    (sortRules compiledKey (nonSuffixRules ++ st.minimized), cidrRemoved, st.removed)
  else (rules, 0, 0)

/-- What `validate_value_list` returns. -/
structure ListValidation where
  errors : List ValidationError
  rules : List RuleEntry
  compileStats : CompileStats
  normalizedText : Text
deriving DecidableEq, Repr

def ListValidation.valid (v : ListValidation) : Bool := v.errors.isEmpty

/-- `validate_value_list`. -/
def validateValueList (U : Unicode) (S : NetworkSettings) (C : CollapseAddresses) (text : Text)
    (action : Action) (source : Source) : ListValidation :=
  let st := ((splitlines text).zipIdx 1).foldl (listStep U S action source) ⟨[], [], [], 0⟩
  let (compiledRules, cidrRemoved, suffixRemoved) := compileLargeListRules C st.rules source
  { errors := st.errors
    rules := compiledRules
    compileStats := ⟨cidrRemoved, suffixRemoved, st.skippedProtectedVpn⟩
    normalizedText := joinLines (compiledRules.map RuleEntry.value) }

/-! ## The output is well formed -/

lemma readManualLine_ok {U : Unicode} {S : NetworkSettings} {line value : Text} {action : Action}
    {kind : Kind} (h : readManualLine U S line = some (.ok (action, kind, value))) :
    ValueOk kind value := by
  unfold readManualLine at h
  dsimp only at h
  split_ifs at h
  · simp at h
  · split at h
    · rename_i actionPart part hsplit
      have hpart : Solid part := (solid_of_mem_split (by rw [hsplit]; simp)).1
      split at h
      · simp at h
      · split at h
        · simp at h
        · rename_i k v hv
          split_ifs at h
          · simp at h
          · simp only [Option.some.injEq, Except.ok.injEq, Prod.mk.injEq] at h
            obtain ⟨-, rfl, rfl⟩ := h
            exact valueOk_normalizeRuleValue hpart hv
    · simp at h

/-- **Manual rules are well formed.** -/
lemma validateManualRules_ok (U : Unicode) (S : NetworkSettings) (text : Text) :
    ∀ r ∈ (validateManualRules U S text).rules, r.Ok := by
  unfold validateManualRules
  dsimp only
  -- along the lines: every rule collected so far is well formed
  refine List.foldlRecOn (motive := fun st : ManualState => ∀ r ∈ st.rules, r.Ok) _ _
    (by simp) fun st hst line _ => ?_
  unfold manualStep
  split
  · exact hst
  · exact hst
  · rename_i action kind value hread
    split
    · split_ifs <;> exact hst
    · intro r hr
      rcases List.mem_append.mp hr with hr | hr
      · exact hst r hr
      · obtain rfl := List.mem_singleton.mp hr
        exact readManualLine_ok hread

lemma mem_of_mem_normalizeLargeListValue {U : Unicode} {t : Text} {c : Char}
    (h : c ∈ normalizeLargeListValue U t) : c ∈ t := by
  have hstrip : c ∈ strip t → c ∈ t := mem_of_mem_stripBy
  have hhost : c ∈ (strip t).takeWhile (· ≠ ':') → c ∈ t := fun hc =>
    hstrip ((List.takeWhile_prefix _).subset hc)
  unfold normalizeLargeListValue at h
  dsimp only at h
  split_ifs at h
  · split at h <;> exact hhost h
  · split at h
    · exact hhost h
    · exact hstrip h
  · exact hstrip h
  · exact hstrip h

lemma domainOk_dot {d : Text} (h : DomainOk d) : DomainOk ('.' :: d) := by
  refine ⟨fun c hc => ?_, fun c hc => ?_⟩
  · rcases List.mem_cons.mp hc with rfl | hc
    · decide
    · exact h.1 c hc
  · rcases List.mem_cons.mp hc with rfl | hc
    · simp
    · exact h.2 c hc

lemma readListLine_ok {U : Unicode} {source : Source} {line value : Text} {kind : Kind}
    (h : readListLine U source line = some (.ok (kind, value))) : ValueOk kind value := by
  unfold readListLine at h
  dsimp only at h
  split_ifs at h with hskip hcomment hlen
  · simp at h
  · simp at h
  · have hsolid : Solid (strip line) := solid_of_length_split (by simpa using hlen)
    have hnorm : Solid (normalizeLargeListValue U (strip line)) :=
      hsolid.of_subset fun c hc => mem_of_mem_normalizeLargeListValue hc
    split at h
    · simp at h
    · rename_i k v hv
      have hok := valueOk_normalizeRuleValue hnorm hv
      split_ifs at h with hlarge
      · simp only [Option.some.injEq, Except.ok.injEq, Prod.mk.injEq] at h
        obtain ⟨rfl, rfl⟩ := h
        rw [hlarge.2] at hok
        exact domainOk_dot hok
      · simp only [Option.some.injEq, Except.ok.injEq, Prod.mk.injEq] at h
        obtain ⟨rfl, rfl⟩ := h
        exact hok

/-- One line of a value list adds at most the rule it states. -/
lemma listStep_rules {U : Unicode} {S : NetworkSettings} {action : Action} {source : Source}
    {st : ListState} {line : Text × Nat} {r : RuleEntry}
    (h : r ∈ (listStep U S action source st line).rules) :
    r ∈ st.rules ∨ r.action = action ∧ r.source = source ∧ r.Ok := by
  unfold listStep at h
  split at h
  · exact Or.inl h
  · exact Or.inl h
  · rename_i kind value hread
    split_ifs at h
    · exact Or.inl h
    · exact Or.inl h
    · exact Or.inl h
    · rcases List.mem_append.mp h with h | h
      · exact Or.inl h
      · obtain rfl := List.mem_singleton.mp h
        exact Or.inr ⟨rfl, rfl, readListLine_ok hread⟩

lemma listStep_foldl_ok {U : Unicode} {S : NetworkSettings} {action : Action} {source : Source}
    (lines : List (Text × Nat)) :
    ∀ r ∈ (lines.foldl (listStep U S action source) ⟨[], [], [], 0⟩).rules, r.Ok := by
  refine List.foldlRecOn (motive := fun st : ListState => ∀ r ∈ st.rules, r.Ok) _ _
    (by simp) fun st hst line _ r hr => ?_
  rcases listStep_rules hr with hr | ⟨-, -, hr⟩
  · exact hst r hr
  · exact hr

lemma representative_ok {entries : List (IpNetwork × RuleEntry)} {n : IpNetwork} {r : RuleEntry}
    (hentries : ∀ e ∈ entries, e.2.Ok) (h : representative entries n = some r) : r.Ok := by
  unfold representative at h
  split at h
  · rename_i existing hfind
    obtain rfl := Option.some.inj h
    exact hentries existing (List.mem_reverse.mp (List.mem_of_find?_eq_some hfind))
  · obtain ⟨template, -, rfl⟩ := Option.map_eq_some_iff.mp h
    exact ⟨n, rfl⟩

lemma collapseRuleNetworks_ok (C : CollapseAddresses) {rules : List RuleEntry}
    (h : ∀ r ∈ rules, r.Ok) : ∀ r ∈ (collapseRuleNetworks C rules).1, r.Ok := by
  intro r hr
  simp only [collapseRuleNetworks, List.mem_append, List.mem_filter, List.mem_flatMap] at hr
  rcases hr with ⟨hr, -⟩ | ⟨g, hg, hr⟩
  · exact h r hr
  · obtain ⟨n, -, hn⟩ := List.mem_filterMap.mp hr
    refine representative_ok (fun e he => ?_) hn
    obtain ⟨key, -, rfl⟩ := List.mem_map.mp hg
    obtain ⟨r', hr', hmap⟩ := List.mem_filterMap.mp (List.mem_filter.mp he).1
    obtain ⟨m, -, rfl⟩ := Option.map_eq_some_iff.mp hmap
    exact h r' hr'

lemma mem_sortRules {κ : Type} [LinearOrder κ] {key : RuleEntry → κ} {rules : List RuleEntry}
    {r : RuleEntry} : r ∈ sortRules key rules ↔ r ∈ rules := by
  simp [sortRules]

lemma mem_of_mem_minimized {rules : List RuleEntry} :
    ∀ r ∈ (rules.foldl suffixStep ⟨[], [], 0⟩).minimized, r ∈ rules := by
  refine List.foldlRecOn (motive := fun st : SuffixState => ∀ r ∈ st.minimized, r ∈ rules) _ _
    (by simp) fun st hst r hr x hx => ?_
  unfold suffixStep at hx
  split_ifs at hx
  · exact hst x hx
  · rcases List.mem_append.mp hx with hx | hx
    · exact hst x hx
    · obtain rfl := List.mem_singleton.mp hx
      exact hr

lemma compileLargeListRules_ok (C : CollapseAddresses) {rules : List RuleEntry} (source : Source)
    (h : ∀ r ∈ rules, r.Ok) : ∀ r ∈ (compileLargeListRules C rules source).1, r.Ok := by
  intro r hr
  unfold compileLargeListRules at hr
  split_ifs at hr
  · simp only [mem_sortRules, List.mem_append, List.mem_filter] at hr
    rcases hr with ⟨hr, -⟩ | hr
    · exact collapseRuleNetworks_ok C h r hr
    · have := mem_of_mem_minimized r hr
      simp only [mem_sortRules, List.mem_filter] at this
      exact collapseRuleNetworks_ok C h r this.1
  · exact h r hr

/-- **List rules are well formed.** -/
lemma validateValueList_ok (U : Unicode) (S : NetworkSettings) (C : CollapseAddresses)
    (text : Text) (action : Action) (source : Source) :
    ∀ r ∈ (validateValueList U S C text action source).rules, r.Ok :=
  compileLargeListRules_ok C source (listStep_foldl_ok _)

end FwRouter
