import FwRouter.Ipaddress.Collapse

/-!
# Rules

The rule values of `rules_compile.py`: what a line of a rule list may say, how its value is
normalised, and which values the protected networks of `network_contract.py` shut out.

A rule keeps its value as text, as the source does; the address or network it stands for is read
from the text again wherever it is needed.  The `match` label and the `protected` marker of a
rule entry are not modelled: no function below reads them.
-/

namespace FwRouter

open Py Ipaddress

/-! ## Rule entries -/

/-- The two rule actions, `DIRECT` and `VPN`. -/
inductive Action where
  | direct
  | vpn
deriving DecidableEq, Repr

def Action.text : Action → Text
  | .direct => "DIRECT".toList
  | .vpn => "VPN".toList

/-- The global routing modes. -/
inductive RoutingMode where
  | direct
  | vpn
  | selective
deriving DecidableEq, Repr

/-- `RULE_ACTION_ALIASES`. -/
def ruleActionAliases : List (Text × Action) :=
  [("DIRECT".toList, .direct), ("DIR".toList, .direct), ("DIRECTLY".toList, .direct),
    ("ДИРЕКТ".toList, .direct), ("ПРЯМО".toList, .direct), ("НАПРЯМУЮ".toList, .direct),
    ("VPN".toList, .vpn), ("ВПН".toList, .vpn)]

/-- The kinds `_normalize_rule_value` assigns. -/
inductive Kind where
  | ip
  | cidr
  | domain
  | domainSuffix
deriving DecidableEq, Repr

/-- Where a rule comes from; the order is the declared priority, the source `protected`
first. -/
inductive Source where
  | protectedNet
  | manual
  | staticDirect
  | bigDirect
  | bigVpn
deriving DecidableEq, Repr

/-- `source in {RULESET_BIG_DIRECT, RULESET_BIG_VPN}`. -/
def Source.isLarge : Source → Bool
  | .bigDirect | .bigVpn => true
  | _ => false

/-- What `_build_rule_entry` builds. -/
structure RuleEntry where
  action : Action
  kind : Kind
  value : Text
  line : Option Nat
  source : Source
deriving DecidableEq, Repr

instance lawfulBEqKindText : LawfulBEq (Kind × Text) := inferInstance

/-! ## The network contract -/

def defaultProtectedIpv4Networks : List Text :=
  ["127.0.0.0/8".toList, "10.0.0.0/8".toList, "172.16.0.0/12".toList, "192.168.0.0/16".toList,
    "100.64.0.0/10".toList, "169.254.0.0/16".toList, "224.0.0.0/4".toList]

def defaultProtectedIpv6Networks : List Text :=
  ["::1/128".toList, "fc00::/7".toList, "fe80::/10".toList, "ff00::/8".toList]

def defaultRulesExtraProtectedNetworks : List Text := ["0.0.0.0/8".toList, "240.0.0.0/4".toList]

/-- The settings `network_contract` reads; `none` is an unset list. -/
structure NetworkSettings where
  protectedIpv4Networks : Option (List Text)
  protectedIpv6Networks : Option (List Text)
  rulesExtraProtectedNetworks : Option (List Text)

/-- Nothing configured: the defaults apply. -/
def NetworkSettings.unset : NetworkSettings := ⟨none, none, none⟩

/-- The defaults without `240.0.0.0/4`: no two of these protected networks can be merged. -/
def NetworkSettings.noClassE : NetworkSettings := ⟨none, none, some ["0.0.0.0/8".toList]⟩

/-- `_normalize_network_strings`: the printed form of every value that reads as a network of the
wanted version, first occurrences only; the fallback when nothing is left. -/
def normalizeNetworkStrings (values : Option (List Text)) (fallback : List Text)
    (version : Option Version) : List Text :=
  let read := ((values.getD fallback).filterMap fun raw => ipNetwork (strip raw)).filter fun n =>
    version.all fun v => n.version = v
  let normalized := (read.map IpNetwork.str).eraseDups
  if normalized.isEmpty then fallback else normalized

def protectedIpv4Networks (s : NetworkSettings) : List Text :=
  normalizeNetworkStrings s.protectedIpv4Networks defaultProtectedIpv4Networks (some .v4)

def protectedIpv6Networks (s : NetworkSettings) : List Text :=
  normalizeNetworkStrings s.protectedIpv6Networks defaultProtectedIpv6Networks (some .v6)

def rulesExtraProtectedNetworks (s : NetworkSettings) : List Text :=
  normalizeNetworkStrings s.rulesExtraProtectedNetworks defaultRulesExtraProtectedNetworks none

def protectedRuleNetworkStrings (s : NetworkSettings) : List Text :=
  normalizeNetworkStrings
    (some (rulesExtraProtectedNetworks s ++ protectedIpv4Networks s ++ protectedIpv6Networks s))
    (defaultRulesExtraProtectedNetworks ++ defaultProtectedIpv4Networks
      ++ defaultProtectedIpv6Networks) none

/-- `protected_rule_ip_networks`.  Every string it reads is a printed network or one of the defaults,
so none is dropped. -/
def protectedRuleIpNetworks (s : NetworkSettings) : List IpNetwork :=
  (protectedRuleNetworkStrings s).filterMap ipNetwork

/-! ## Domain names -/

/-- `[a-z0-9]`. -/
def isLowerAlnum (c : Char) : Bool := ('a' ≤ c && c ≤ 'z') || ('0' ≤ c && c ≤ '9')

/-- `DOMAIN_LABEL_RE`: up to 63 letters, digits and inner hyphens. -/
def matchesDomainLabelRe (t : Text) : Bool :=
  t.length ≤ 63 && t.head?.any isLowerAlnum && t.getLast?.any isLowerAlnum
    && t.all fun c => isLowerAlnum c || c == '-'

/-- `DOMAIN_RE`: at least two labels, at most 253 characters. -/
def matchesDomainRe (t : Text) : Bool :=
  t.length ≤ 253 && 2 ≤ (t.splitOn '.').length && (t.splitOn '.').all matchesDomainLabelRe

def isDot (c : Char) : Bool := c == '.'

/-- `_normalize_domain_name`. -/
def normalizeDomainName (U : Unicode) (value : Text) (allowSingleLabel : Bool) : Option Text :=
  let normalized := (U.lower (strip value)).rdropWhile isDot
  if normalized.isEmpty then none
  else
    let labels := normalized.splitOn '.'
    if labels.any List.isEmpty then none
    else (labels.mapM U.idnaEncode).bind fun asciiLabels =>
      let asciiDomain := ['.'].intercalate asciiLabels
      if allowSingleLabel && asciiLabels.length == 1 then
        if matchesDomainLabelRe asciiDomain then some normalized else none
      else if matchesDomainRe asciiDomain then some normalized else none

/-! ## Rule values -/

/-- The errors of `_normalize_rule_value`. -/
inductive ValueError where
  | emptyValue
  | invalidDomainSuffix (value : Text)
  | invalidCidr (value : Text)
  | invalidDomain (value : Text)
deriving DecidableEq, Repr

def ValueError.code : ValueError → String
  | .emptyValue => "EMPTY_VALUE"
  | .invalidDomainSuffix _ => "INVALID_DOMAIN_SUFFIX"
  | .invalidCidr _ => "INVALID_CIDR"
  | .invalidDomain _ => "INVALID_DOMAIN"

def ValueError.message : ValueError → String
  | .emptyValue => "Rule value is empty."
  | .invalidDomainSuffix _ => "Invalid domain suffix rule value."
  | .invalidCidr _ => "Invalid IP/CIDR rule value."
  | .invalidDomain _ => "Invalid domain rule value."

/-- `_normalize_rule_value`. -/
def normalizeRuleValue (U : Unicode) (value : Text) : Except ValueError (Kind × Text) :=
  let raw := strip value
  if raw.isEmpty then .error .emptyValue
  else match ipAddress raw with
    | some a => .ok (.ip, a.str)
    | none => match ipNetwork raw with
      | some n => .ok (.cidr, n.str)
      | none =>
          if raw.head? = some '.' then
            match normalizeDomainName U (raw.dropWhile isDot) true with
            | none => .error (.invalidDomainSuffix raw)
            | some d => .ok (.domainSuffix, '.' :: d)
          else if '/' ∈ raw then .error (.invalidCidr raw)
          else match normalizeDomainName U raw false with
            | none => .error (.invalidDomain raw)
            | some d => .ok (.domain, d)

/-- `_normalize_large_list_value`: a `host:port` entry loses its port. -/
def normalizeLargeListValue (U : Unicode) (value : Text) : Text :=
  let stripped := strip value
  if stripped.count ':' = 1 ∧ '/' ∉ stripped then
    let hostPart := stripped.takeWhile (· ≠ ':')
    let portPart := (stripped.dropWhile (· ≠ ':')).tail
    if portPart ≠ [] ∧ portPart.all U.isDigit then
      match ipAddress hostPart with
      | some _ => hostPart
      | none => if '.' ∈ hostPart then hostPart else stripped
    else stripped
  else stripped

/-- `_network_for_rule`. -/
def networkForRule (kind : Kind) (value : Text) : Option IpNetwork :=
  match kind with
  | .domain | .domainSuffix => none
  | .ip => (ipAddress value).map IpAddress.host
  | .cidr => ipNetwork value

/-- `PROTECTED_SERVICE_DOMAINS` of the rules compiler. -/
def protectedServiceDomains : List Text := ["localhost".toList]

/-- `_is_protected_local`. -/
def isProtectedLocal (S : NetworkSettings) (kind : Kind) (value : Text) : Bool :=
  match networkForRule kind value with
  | none => protectedServiceDomains.contains value
  | some n => (protectedRuleIpNetworks S).any n.overlaps

/-! ## Well-formed values

What every rule that leaves the validators looks like.  An `ip` value is a printed address, a
`cidr` value a printed network, and a domain has none of the punctuation a Mihomo rule line is
built from.
-/

/-- A domain name without white space, commas and parentheses. -/
def DomainOk (t : Text) : Prop := Solid t ∧ ∀ c ∈ t, c ∉ [',', '(', ')']

instance (t : Text) : Decidable (DomainOk t) :=
  have : Decidable (∀ c ∈ t, c ∉ [',', '(', ')']) := List.decidableBAll _ t
  inferInstanceAs (Decidable (_ ∧ _))

/-- The form of a normalised value of each kind. -/
def ValueOk (kind : Kind) (value : Text) : Prop :=
  match kind with
  | .ip => ∃ a : IpAddress, (∀ s ∈ a.scopeId, Solid s) ∧ value = a.str
  | .cidr => ∃ n : IpNetwork, value = n.str
  | .domain | .domainSuffix => DomainOk value

/-- A rule whose value has the form of its kind. -/
def RuleEntry.Ok (r : RuleEntry) : Prop := ValueOk r.kind r.value

/-- The scope id of an address that was read is a piece of the text. -/
lemma mem_of_mem_scopeId {s : Text} {a : IpAddress} (h : ipAddress s = some a) :
    ∀ t ∈ a.scopeId, ∀ c ∈ t, c ∈ s := by
  intro t ht c hc
  have h : ipv4Address s = some a ∨ ipv6Address s = some a := by
    unfold ipAddress at h
    cases h4 : ipv4Address s <;> simp_all
  rcases h with h | h
  · simp only [ipv4Address, Option.bind_eq_some_iff] at h
    obtain ⟨n, -, h⟩ := h
    split_ifs at h
    simp only [Option.some.injEq] at h
    subst h
    simp [IpAddress.ofAddr] at ht
  · unfold ipv6Address at h
    split_ifs at h
    simp only [Option.bind_eq_some_iff, Prod.exists] at h
    obtain ⟨addr, scope, hsplit, n, -, h⟩ := h
    split_ifs at h
    simp only [Option.some.injEq] at h
    subst h
    unfold splitScopeId at hsplit
    split at hsplit
    · simp only [Option.some.injEq, Prod.mk.injEq] at hsplit
      simp [← hsplit.2] at ht
    · rename_i p rest hdrop
      split_ifs at hsplit
      simp only [Option.some.injEq, Prod.mk.injEq] at hsplit
      simp only [← hsplit.2, Option.mem_some_iff] at ht
      subst ht
      exact (List.dropWhile_suffix _).subset (hdrop ▸ List.mem_cons_of_mem p hc)

lemma isLowerAlnum_not_punct {c : Char} (h : (isLowerAlnum c || c == '-') = true) :
    c ∉ [',', '(', ')'] := by
  intro hc
  simp only [List.mem_cons, List.not_mem_nil, or_false] at hc
  rcases hc with rfl | rfl | rfl <;> exact absurd h (by decide)

lemma not_punct_of_matchesDomainLabelRe {t : Text} (h : matchesDomainLabelRe t = true) :
    ∀ c ∈ t, c ∉ [',', '(', ')'] := by
  intro c hc
  simp only [matchesDomainLabelRe, Bool.and_eq_true, List.all_eq_true] at h
  exact isLowerAlnum_not_punct (h.2 c hc)

lemma not_punct_of_matchesDomainRe {t : Text} (h : matchesDomainRe t = true) :
    ∀ c ∈ t, c ∉ [',', '(', ')'] := by
  intro c hc
  simp only [matchesDomainRe, Bool.and_eq_true, List.all_eq_true] at h
  rcases mem_splitOn (x := '.') hc with rfl | ⟨l, hl, hcl⟩
  · simp
  · exact not_punct_of_matchesDomainLabelRe (h.2 l hl) c hcl

/-- A normalised domain name can stand in a rule line. -/
lemma domainOk_normalizeDomainName {U : Unicode} {value d : Text} {single : Bool}
    (hv : Solid value) (h : normalizeDomainName U value single = some d) : DomainOk d := by
  unfold normalizeDomainName at h
  dsimp only at h
  split_ifs at h with hempty hlabels
  rw [Option.bind_eq_some_iff] at h
  obtain ⟨asciiLabels, henc, h⟩ := h
  have hd : d = (U.lower (strip value)).rdropWhile isDot := by
    split_ifs at h <;> simpa using h.symm
  have hre : ∀ c ∈ ['.'].intercalate asciiLabels, c ∉ [',', '(', ')'] := by
    split_ifs at h with h1 h2 h2
    · exact not_punct_of_matchesDomainLabelRe h2
    · exact not_punct_of_matchesDomainRe h2
  have hlower : ∀ c ∈ d, c ∈ U.lower (strip value) := by
    rw [hd]; exact fun c hc => (List.rdropWhile_prefix _ _).subset hc
  refine ⟨fun c hc => ?_, fun c hc hp => ?_⟩
  · by_contra hs
    have := U.lower_punct _ c (hlower c hc) (Or.inr (by simpa using hs))
    exact hs (hv c (mem_of_mem_stripBy this))
  · -- the punctuation would survive into the encoded label, which the pattern refuses
    rcases mem_splitOn (x := '.') hc with rfl | ⟨l, hl, hcl⟩
    · simp at hp
    · rw [hd] at hl
      obtain ⟨e, he, hel⟩ := exists_mem_of_mapM henc l hl
      exact hre c (mem_intercalate_of_mem he (U.idnaEncode_keeps l e hel c hcl hp)) hp

/-- **Normalised values are well formed.** -/
lemma valueOk_normalizeRuleValue {U : Unicode} {value v : Text} {kind : Kind} (hv : Solid value)
    (h : normalizeRuleValue U value = .ok (kind, v)) : ValueOk kind v := by
  have hraw : Solid (strip value) := fun c hc => hv c (mem_of_mem_stripBy hc)
  unfold normalizeRuleValue at h
  dsimp only at h
  by_cases hempty : (strip value).isEmpty
  · rw [if_pos hempty] at h
    cases h
  rw [if_neg hempty] at h
  split at h
  · rename_i a ha
    simp only [Except.ok.injEq, Prod.mk.injEq] at h
    obtain ⟨rfl, rfl⟩ := h
    exact ⟨a, fun s hs c hc => hraw c (mem_of_mem_scopeId ha s hs c hc), rfl⟩
  · split at h
    · rename_i n hn
      simp only [Except.ok.injEq, Prod.mk.injEq] at h
      obtain ⟨rfl, rfl⟩ := h
      exact ⟨n, rfl⟩
    · split_ifs at h with hdot hslash
      · split at h
        · simp at h
        · rename_i d hd
          simp only [Except.ok.injEq, Prod.mk.injEq] at h
          obtain ⟨rfl, rfl⟩ := h
          have hsolid : Solid ((strip value).dropWhile isDot) :=
            hraw.of_subset fun c hc => (List.dropWhile_suffix _).subset hc
          have hok := domainOk_normalizeDomainName hsolid hd
          refine ⟨fun c hc => ?_, fun c hc => ?_⟩
          · rcases List.mem_cons.mp hc with rfl | hc
            · decide
            · exact hok.1 c hc
          · rcases List.mem_cons.mp hc with rfl | hc
            · simp
            · exact hok.2 c hc
      · split at h
        · simp at h
        · rename_i d hd
          simp only [Except.ok.injEq, Prod.mk.injEq] at h
          obtain ⟨rfl, rfl⟩ := h
          exact domainOk_normalizeDomainName hraw hd

end FwRouter
