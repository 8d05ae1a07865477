import FwRouter.Mihomo.Rule

/-!
# The UDP guard

A VPN rule is mandatory, but Mihomo passes over it when its target cannot carry UDP.  So
`_guard_mandatory_vpn_rules` puts behind every VPN line a line that rejects UDP under the same
condition.  The guard is built by cutting the text of the line apart again:
`splitMihomoRuleTarget_text` says that this finds the condition and the target of every line the
builders write, and `guardMandatoryVpnRules_text` that the guarded list is the printed form of
`guardRules`.  The rest is an induction over rule lists.
-/

namespace FwRouter.Mihomo

open Py Ipaddress

/-! ## The source functions -/

/-- `_split_mihomo_rule_target`: the condition and the target of a line. -/
def splitMihomoRuleTarget (U : Unicode) (rule : Text) : Option (Text × Text) :=
  match (rule.splitOn ',').map strip with
  | ruleType :: second :: rest =>
      if U.upper ruleType = "MATCH".toList then
        if rest ≠ [] ∨ second = [] then none else some ("MATCH".toList, second)
      else if U.upper ruleType = "AND".toList then
        -- `AND` owns its complete nested payload and has no outer parameters
        let parts := ruleType :: second :: rest
        let target := parts.getLast?.getD []
        if rest = [] ∨ U.lower target ∈ ["no-resolve".toList, "src".toList] then none
        else
          let condition := joinFields parts.dropLast
          if condition ≠ [] ∧ target ≠ [] then some (condition, target) else none
      else match rest with
        | [] => none
        | target :: tail =>
            let params := tail.map U.lower
            if target = [] ∨ ¬ ∀ p ∈ params, p ∈ ["no-resolve".toList, "src".toList] then none
            else if ¬ params.Nodup then none
            else if "src".toList ∈ params ∧
                U.upper ruleType ∉ ["IP-CIDR".toList, "IP-CIDR6".toList] then none
            else
              let condition := joinFields (ruleType :: second ::
                ["src".toList, "no-resolve".toList].filter fun p => p ∈ params)
              if condition = [] then none else some (condition, target)
  | _ => none

/-- `_mandatory_vpn_udp_guard`. -/
def mandatoryVpnUdpGuard (U : Unicode) (rule : Text) : Option Text :=
  (splitMihomoRuleTarget U rule).bind fun (condition, target) =>
    if target ≠ "vpn-global".toList ∧ "fwrouter-subject-".toList.isPrefixOf target = false then none
    else if condition = "MATCH".toList then some "NETWORK,udp,REJECT".toList
    else some ("AND,((NETWORK,udp),(".toList ++ condition ++ ")),REJECT".toList)

/-- `_guard_mandatory_vpn_rules`. -/
def guardMandatoryVpnRules (U : Unicode) (rules : List Text) : List Text :=
  rules.flatMap fun rule => rule :: (mandatoryVpnUdpGuard U rule).toList

/-- `_build_source_scoped_vpn_rule`. -/
def buildSourceScopedVpnRule (U : Unicode) (rule sourceCidr target : Text) : Option Text :=
  (splitMihomoRuleTarget U rule).bind fun (condition, originalTarget) =>
    if originalTarget ≠ "vpn-global".toList then none
    else some ("AND,((SRC-IP-CIDR,".toList ++ sourceCidr ++ "),(".toList ++ condition
      ++ ")),".toList ++ target)

/-! ## Cutting a printed line apart -/

lemma map_strip_eq {fields : List Text} (h : ∀ t ∈ fields, Solid t) : fields.map strip = fields :=
  (List.map_congr_left fun t ht => strip_solid (h t ht)).trans (List.map_id' _)

lemma upper_typeText (U : Unicode) (a : Atom) : U.upper a.typeText = a.typeText := by
  have h : IsAscii a.typeText ∧ a.typeText.map Char.toUpper = a.typeText := by
    cases a <;> dsimp only [Atom.typeText] <;> decide
  rw [U.upper_ascii _ h.1, h.2]

lemma lower_params (U : Unicode) (a : Atom) : a.params.map U.lower = a.params := by
  have h : ∀ t ∈ a.params, IsAscii t ∧ t.map Char.toLower = t := by
    cases a with
    | ipCidr n src noResolve | ipCidr6 n src noResolve =>
        cases src <;> cases noResolve <;> dsimp only [Atom.params] <;> decide
    | _ => simp [Atom.params]
  refine (List.map_congr_left fun t ht => ?_).trans (List.map_id' _)
  rw [U.lower_ascii _ (h t ht).1, (h t ht).2]

lemma isAscii_target (t : Target) : IsAscii t.text := by
  cases t with
  | subject d =>
      intro c hc
      rcases List.mem_append.mp hc with hc | hc
      · exact (by decide : IsAscii "fwrouter-subject-".toList) c hc
      · have h := d.ok
        simp only [isHexDigest, Bool.and_eq_true, List.all_eq_true] at h
        exact (by decide : IsAscii "0123456789abcdef".toList) c (by simpa using h.2 c hc)
  | direct | reject | vpnGlobal => dsimp only [Target.text]; decide

lemma target_ne_nil (t : Target) : t.text ≠ [] := by
  cases t with
  | subject d => exact List.append_ne_nil_of_left_ne_nil (by decide) _
  | direct | reject | vpnGlobal => dsimp only [Target.text]; decide

lemma lower_target_not_param (U : Unicode) (t : Target) :
    U.lower t.text ∉ ["no-resolve".toList, "src".toList] := by
  rw [U.lower_ascii _ (isAscii_target t)]
  cases t with
  | subject d =>
      intro h
      have hhead : (("fwrouter-subject-".toList ++ d.text).map Char.toLower).head? = some 'f' := by
        rw [List.head?_map, List.head?_append_of_ne_nil _ (by decide)]
        decide
      simp only [List.mem_cons, List.not_mem_nil, or_false] at h
      rcases h with h | h <;>
      · rw [show (Target.subject d).text = "fwrouter-subject-".toList ++ d.text from rfl] at h
        rw [h] at hhead
        exact absurd hhead (by decide)
  | direct | reject | vpnGlobal => dsimp only [Target.text]; decide

/-- The condition text of a line: `MATCH`, or the condition as it stands inside an `AND`. -/
def Rule.conditionText (r : Rule) : Text :=
  match r.cond with
  | none => "MATCH".toList
  | some c => c.text

lemma paramTexts_accepted (src noResolve : Bool) :
    (∀ p ∈ paramTexts src noResolve, p ∈ ["no-resolve".toList, "src".toList]) ∧
    (paramTexts src noResolve).Nodup ∧
    (["src".toList, "no-resolve".toList].filter fun p => p ∈ paramTexts src noResolve)
      = paramTexts src noResolve := by
  cases src <;> cases noResolve <;> decide

/-- The parameters of a printed line are accepted, and come back in the same order. -/
lemma params_accepted (a : Atom) :
    (∀ p ∈ a.params, p ∈ ["no-resolve".toList, "src".toList]) ∧ a.params.Nodup ∧
    (["src".toList, "no-resolve".toList].filter fun p => p ∈ a.params) = a.params ∧
    ¬ ("src".toList ∈ a.params ∧ a.typeText ∉ ["IP-CIDR".toList, "IP-CIDR6".toList]) := by
  cases a with
  | ipCidr n src noResolve =>
      obtain ⟨h1, h2, h3⟩ := paramTexts_accepted src noResolve
      exact ⟨h1, h2, h3, fun h => h.2 (by dsimp only [Atom.typeText]; simp)⟩
  | ipCidr6 n src noResolve =>
      obtain ⟨h1, h2, h3⟩ := paramTexts_accepted src noResolve
      exact ⟨h1, h2, h3, fun h => h.2 (by dsimp only [Atom.typeText]; simp)⟩
  | _ => simp [Atom.params]

lemma solid_splitOn {t : Text} (h : Solid t) : ∀ w ∈ t.splitOn ',', Solid w := by
  intro w hw c hc
  refine h c ?_
  have ht : [','].intercalate (t.splitOn ',') = t := List.intercalate_splitOn ','
  rw [← ht]
  exact mem_intercalate_of_mem hw hc

lemma solid_joinFields {fields : List Text} (h : ∀ t ∈ fields, DomainOk t) :
    Solid (joinFields fields) := by
  intro c hc
  rcases mem_intercalate hc with rfl | ⟨t, ht, hc⟩
  · decide
  · exact (h t ht).1 c hc

lemma solid_cond : ∀ c : Cond, Solid c.text
  | .atom a => solid_joinFields (domainOk_fields a)
  | .and c d => by
      have hc := solid_cond c
      have hd := solid_cond d
      have hopen : Solid ['A', 'N', 'D', ',', '(', '('] := by decide
      have hmid : Solid [')', ',', '('] := by decide
      have hclose : Solid [')', ')'] := by decide
      have := (((hopen.append hc).append hmid).append hd).append hclose
      rw [Cond.text_and]
      simpa using this

/-- A condition inside an `AND` is no `MATCH`. -/
lemma cond_text_ne_match (c : Cond) : c.text ≠ "MATCH".toList := by
  intro h
  have hcomma : ',' ∈ c.text := by
    cases c with
    | atom a => rw [Cond.text_atom]; simp
    | and c d => rw [Cond.text_and]; simp
  rw [h] at hcomma
  exact absurd hcomma (by decide)

lemma cond_text_ne_nil (c : Cond) : c.text ≠ [] :=
  List.ne_nil_of_length_pos ((Nat.zero_le _).trans_lt c.depth_lt_length)

/-- **The condition and the target of a printed line are found.** -/
lemma splitMihomoRuleTarget_text (U : Unicode) (r : Rule) :
    splitMihomoRuleTarget U r.text = some (r.conditionText, r.target.text) := by
  obtain ⟨cond, target⟩ := r
  have hsolid := (domainOk_target target).1
  rcases cond with _ | (a | ⟨c, d⟩)
  · show splitMihomoRuleTarget U (joinFields ["MATCH".toList, target.text]) = _
    have hupper : U.upper "MATCH".toList = "MATCH".toList := by
      rw [U.upper_ascii _ (by decide)]; decide
    have hstrip : ["MATCH".toList, target.text].map strip = ["MATCH".toList, target.text] := by
      refine map_strip_eq fun t ht => ?_
      rcases List.mem_cons.mp ht with rfl | ht
      · decide
      · obtain rfl := List.mem_singleton.mp ht
        exact hsolid
    rw [splitMihomoRuleTarget, splitOn_match, hstrip]
    dsimp only
    rw [if_pos hupper, if_neg (by simp [target_ne_nil])]
    rfl
  · show splitMihomoRuleTarget U
      (joinFields (a.typeText :: a.payloadText :: target.text :: a.params)) = _
    have hstrip : (a.typeText :: a.payloadText :: target.text :: a.params).map strip
        = a.typeText :: a.payloadText :: target.text :: a.params := by
      refine map_strip_eq fun t ht => ?_
      simp only [List.mem_cons] at ht
      rcases ht with rfl | rfl | rfl | ht
      · exact (domainOk_typeText a).1
      · exact (domainOk_payloadText a).1
      · exact hsolid
      · exact (domainOk_params a t ht).1
    obtain ⟨hall, hnodup, hfilter, hsrc⟩ := params_accepted a
    rw [splitMihomoRuleTarget, splitOn_atom, hstrip]
    dsimp only
    have hne : joinFields (a.typeText :: a.payloadText :: a.params) ≠ [] :=
      cond_text_ne_nil (.atom a)
    rw [upper_typeText, if_neg (typeText_ne a).1, if_neg (typeText_ne a).2, lower_params,
      if_neg (not_or.mpr ⟨target_ne_nil _, not_not.mpr hall⟩), if_neg (not_not.mpr hnodup),
      if_neg hsrc, hfilter, if_neg hne]
    rfl
  · show splitMihomoRuleTarget U ((Cond.and c d).text ++ ',' :: target.text) = _
    obtain ⟨second, rest, hfields⟩ := splitOn_cond_and c d
    have hupper : U.upper "AND".toList = "AND".toList := by
      rw [U.upper_ascii _ (by decide)]; decide
    have hjoin : joinFields ("AND".toList :: second :: rest) = (Cond.and c d).text := by
      rw [← hfields]
      exact List.intercalate_splitOn ','
    have hstrip : ((Cond.and c d).text.splitOn ',' ++ [target.text]).map strip
        = (Cond.and c d).text.splitOn ',' ++ [target.text] := by
      refine map_strip_eq fun t ht => ?_
      rcases List.mem_append.mp ht with ht | ht
      · exact solid_splitOn (solid_cond _) t ht
      · obtain rfl := List.mem_singleton.mp ht
        exact hsolid
    rw [splitMihomoRuleTarget, splitOn_and, hstrip, hfields, List.cons_append, List.cons_append]
    dsimp only
    rw [if_neg (by rw [hupper]; decide), if_pos hupper, ← List.cons_append, ← List.cons_append,
      List.getLast?_concat, Option.getD_some, List.dropLast_concat, hjoin,
      if_neg (not_or.mpr ⟨by simp, lower_target_not_param U target⟩),
      if_pos ⟨cond_text_ne_nil _, target_ne_nil target⟩]
    rfl

/-! ## The guarded list -/

/-- The rule behind a VPN rule: reject UDP under the same condition. -/
def guardRule (r : Rule) : Rule where
  cond := match r.cond with
    | none => some (.atom .networkUdp)
    | some c => some (.and (.atom .networkUdp) c)
  target := .reject

/-- What `_guard_mandatory_vpn_rules` does to a list of rules. -/
def guardRules (rules : List Rule) : List Rule :=
  rules.flatMap fun r => r :: if r.target.isVpn then [guardRule r] else []

/-- The test on the target text recognises the VPN targets. -/
lemma isVpn_text (t : Target) :
    (t.text ≠ "vpn-global".toList ∧ "fwrouter-subject-".toList.isPrefixOf t.text = false)
      ↔ t.isVpn = false := by
  cases t with
  | subject d =>
      have h : "fwrouter-subject-".toList.isPrefixOf (Target.subject d).text = true := by
        show "fwrouter-subject-".toList.isPrefixOf ("fwrouter-subject-".toList ++ d.text) = true
        simp
      constructor
      · rintro ⟨-, h'⟩
        rw [h] at h'
        cases h'
      · intro h'
        cases h'
  | direct | reject | vpnGlobal => decide

/-- The text of an `AND` whose first condition is atomic. -/
lemma text_and_atom (a : Atom) (c : Cond) (t : Target) :
    (⟨some (.and (.atom a) c), t⟩ : Rule).text
      = "AND,((".toList ++ (Cond.atom a).text ++ "),(".toList ++ c.text ++ "))".toList
        ++ ',' :: t.text := rfl

/-- **The guard of a printed line is the printed guard.** -/
lemma mandatoryVpnUdpGuard_text (U : Unicode) (r : Rule) :
    mandatoryVpnUdpGuard U r.text = if r.target.isVpn then some (guardRule r).text else none := by
  rw [mandatoryVpnUdpGuard, splitMihomoRuleTarget_text, Option.bind_some]
  dsimp only
  cases hvpn : r.target.isVpn with
  | false => rw [if_pos ((isVpn_text _).mpr hvpn)]; rfl
  | true =>
      rw [if_neg (by rw [isVpn_text, hvpn]; decide)]
      obtain ⟨cond, target⟩ := r
      cases cond with
      | none => rfl
      | some c =>
          show (if c.text = "MATCH".toList then _ else some ("AND,((NETWORK,udp),(".toList ++ c.text
            ++ ")),REJECT".toList)) = some (Rule.text ⟨some (.and (.atom .networkUdp) c), .reject⟩)
          rw [if_neg (cond_text_ne_match c), text_and_atom]
          have h1 : "AND,((NETWORK,udp),(".toList
              = "AND,((".toList ++ (Cond.atom .networkUdp).text ++ "),(".toList := by decide
          have h2 : ")),REJECT".toList = "))".toList ++ ',' :: Target.reject.text := by decide
          rw [h1, h2]
          simp only [List.append_assoc]

/-- **The guarded printed list is the printed guarded list.** -/
lemma guardMandatoryVpnRules_text (U : Unicode) (rules : List Rule) :
    guardMandatoryVpnRules U (rules.map Rule.text) = (guardRules rules).map Rule.text := by
  induction rules with
  | nil => rfl
  | cons r rules ih =>
      have hcons : ∀ l : List Text, guardMandatoryVpnRules U (r.text :: l)
          = r.text :: (mandatoryVpnUdpGuard U r.text).toList ++ guardMandatoryVpnRules U l :=
        fun l => by simp [guardMandatoryVpnRules]
      rw [List.map_cons, hcons, ih, mandatoryVpnUdpGuard_text]
      cases h : r.target.isVpn <;> simp [guardRules, h]

/-! ## What the guard changes -/

lemma guardRule_matches (conn : Conn) (r : Rule) :
    (guardRule r).matches conn = (decide (conn.network = .udp) && r.matches conn) := by
  obtain ⟨cond, target⟩ := r
  cases cond <;> simp [guardRule, Rule.matches, Cond.holds, Conn.meets]

lemma route_cons (noUdp : Target → Bool) (conn : Conn) (r : Rule) (rules : List Rule) :
    route noUdp conn (r :: rules)
      = if r.matches conn && carries noUdp conn r.target then some r.target
        else route noUdp conn rules := by
  unfold route
  rw [List.find?_cons]
  cases r.matches conn && carries noUdp conn r.target <;> rfl

lemma firstMatch_cons (conn : Conn) (r : Rule) (rules : List Rule) :
    firstMatch conn (r :: rules)
      = if r.matches conn = true then some r else firstMatch conn rules := by
  unfold firstMatch
  rw [List.find?_cons]
  cases r.matches conn <;> rfl

/-- A guarded rule, and its guard if it has one, in front of a list. -/
lemma route_guardRules_cons (noUdp : Target → Bool) (conn : Conn) (r : Rule) (rules : List Rule) :
    route noUdp conn (guardRules (r :: rules))
      = if r.matches conn = true then
          if carries noUdp conn r.target = true then some r.target else some .reject
        else route noUdp conn (guardRules rules) := by
  have hcons : guardRules (r :: rules)
      = (r :: if r.target.isVpn then [guardRule r] else []) ++ guardRules rules := by
    simp [guardRules]
  have hreject : carries noUdp conn (guardRule r).target = true := by
    simp [carries, guardRule, Target.isVpn]
  rw [hcons, List.cons_append, route_cons]
  by_cases hm : r.matches conn = true
  · by_cases hc : carries noUdp conn r.target = true
    · simp [hm, hc]
    · -- only a VPN target on a UDP connection is passed over, and then the guard is next
      obtain ⟨⟨hvpn, -⟩, hudp⟩ : (r.target.isVpn = true ∧ noUdp r.target = true) ∧
          conn.network = .udp := by simpa [carries] using hc
      simp only [hm, hc, Bool.and_false, Bool.false_eq_true, if_false, hvpn, if_true,
        List.singleton_append, route_cons, guardRule_matches, hudp, hreject, decide_true,
        Bool.and_self]
      rfl
  · have hg : (guardRule r).matches conn = false := by
      rw [guardRule_matches]
      simp [hm]
    cases hvpn : r.target.isVpn <;> simp [hm, route_cons, hg]

/-- **A guarded list, rule by rule**: the first match decides, and a target that cannot carry the
connection becomes a rejection. -/
lemma route_guardRules (noUdp : Target → Bool) (conn : Conn) (rules : List Rule) :
    route noUdp conn (guardRules rules)
      = (firstMatch conn rules).map fun r =>
          if carries noUdp conn r.target = true then r.target else .reject := by
  induction rules with
  | nil => rfl
  | cons r rules ih =>
      rw [route_guardRules_cons, ih, firstMatch_cons]
      by_cases hm : r.matches conn = true
      · rw [if_pos hm, if_pos hm, Option.map_some]
        split_ifs <;> rfl
      · rw [if_neg hm, if_neg hm]

lemma route_tcp {noUdp : Target → Bool} {conn : Conn} (h : conn.network = .tcp)
    (rules : List Rule) :
    route noUdp conn rules = (firstMatch conn rules).map Rule.target := by
  have hcarries : ∀ t, carries noUdp conn t = true := fun t => by simp [carries, h]
  simp only [route, firstMatch, hcarries, Bool.and_true]

/-- **UDP fails closed and nothing else changes.**  TCP connections keep their target; a UDP
connection whose first match is a VPN rule gets that target or is rejected; any other first match
decides as before. -/
theorem guardMandatoryVpnRules_fails_closed (U : Unicode) (noUdp : Target → Bool) (conn : Conn)
    (rules : List Rule) :
    (conn.network = .tcp →
      routeLines noUdp conn (guardMandatoryVpnRules U (rules.map Rule.text))
        = routeLines noUdp conn (rules.map Rule.text)) ∧
    (conn.network = .udp → ∀ r, firstMatch conn rules = some r → r.target.isVpn = true →
      routeLines noUdp conn (guardMandatoryVpnRules U (rules.map Rule.text)) = some r.target ∨
      routeLines noUdp conn (guardMandatoryVpnRules U (rules.map Rule.text)) = some .reject) ∧
    (conn.network = .udp → ∀ r, firstMatch conn rules = some r → r.target.isVpn = false →
      routeLines noUdp conn (guardMandatoryVpnRules U (rules.map Rule.text)) = some r.target) := by
  rw [guardMandatoryVpnRules_text, routeLines_text, routeLines_text, route_guardRules]
  refine ⟨fun htcp => ?_, fun _ r hr _ => ?_, fun _ r hr hvpn => ?_⟩
  · rw [route_tcp htcp]
    cases firstMatch conn rules <;> simp [carries, htcp]
  · rw [hr, Option.map_some]
    by_cases hc : carries noUdp conn r.target = true <;> simp [hc]
  · rw [hr, Option.map_some]
    simp [carries, hvpn]

/-- One VPN rule and a direct fallback. -/
def examplePayload : Payload := ⟨"example.com".toList, by decide⟩

def exampleRules : List Rule :=
  [⟨some (.atom (.domain examplePayload)), .vpnGlobal⟩, ⟨none, .direct⟩]

/-- A UDP connection to the named host. -/
def exampleConn : Conn := ⟨.udp, fun a => a = .domain examplePayload⟩

/-- With a `vpn-global` that carries no UDP the connection keeps to the first rule's target or is
rejected; it does not leak to the fallback. -/
theorem guardMandatoryVpnRules_udp_example :
    firstMatch exampleConn exampleRules
      = some ⟨some (.atom (.domain examplePayload)), .vpnGlobal⟩ ∧
    (routeLines (fun t => t = .vpnGlobal) exampleConn
        (guardMandatoryVpnRules .ascii (exampleRules.map Rule.text)) = some .vpnGlobal ∨
      routeLines (fun t => t = .vpnGlobal) exampleConn
        (guardMandatoryVpnRules .ascii (exampleRules.map Rule.text)) = some .reject) :=
  ⟨by decide, (guardMandatoryVpnRules_fails_closed .ascii (fun t => t = .vpnGlobal) exampleConn
    exampleRules).2.1 rfl ⟨some (.atom (.domain examplePayload)), .vpnGlobal⟩ (by decide) rfl⟩

end FwRouter.Mihomo
