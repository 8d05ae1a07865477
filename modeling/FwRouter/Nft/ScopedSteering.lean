import FwRouter.Nft.Steering

/-!
# Scoped steering decides the path of its subject

The block of a subject tests the source in each of its rules, and its last rule tests nothing else.  So
it is silent about the packets of all others (`silent_of_elsewhere`), and it ends the evaluation for
its own: with the branch of its path, or, for a selective path, with what the lines of the selective
mode would decide (`eval_selectiveBlock`, `evaluate_selective`).  With disjoint sources only one block
speaks (`scoped_steering`).
-/

namespace FwRouter.Steering

open Py Ipaddress FirstMatch

section Statement

variable (U : Unicode) (reprText : Text → Text) (nft : Text → Text → Addr → Bool)
  (sets : SetName → List IpNetwork)

/-- The subject has a scoped matcher, and the address is one of its sources. -/
def IsSource (subject : Dict) (m : ScopedMatcher) (a : Addr) : Prop :=
  scopedMatcher reprText subject = some (some m) ∧ nft m.expr m.val a = true

/-- No address is a source of two subjects. -/
def DisjointSources (subjects : List Dict) : Prop :=
  subjects.Pairwise fun subject other => ∀ a m m', IsSource reprText nft subject m a →
    ¬ IsSource reprText nft other m' a

/-- The destination is neither local nor protected, and not the management port. -/
structure Ordinary (p : SentPacket) : Prop where
  remote : p.fibLocal = false
  unprotected : ∀ set ∈ [.protectedIpv4, .protectedIpv6],
    (LineMatch.daddr set).holds sets p.toPacket = false
  port : p.tcpDport ≠ some 22

/-- The paths that have rules. -/
def steeredPaths : List Text :=
  ["direct".toList, "vpn".toList, "blocked".toList, "selective".toList]

def familyText : Version → Text
  | .v4 => "ipv4".toList
  | .v6 => "ipv6".toList

/-- The chain of the global mode selective, with the same default and readiness. -/
def Settings.selectiveChain (s : Settings) : List ClassifyRule :=
  { s with mode := "selective".toList }.chain []

/-- The branch of the default of a selective path. -/
def Settings.defaultBranch (s : Settings) : Outcome :=
  if s.selectiveDefault = "vpn".toList then if s.selectiveVpnPolicyReady then .vpn else .drop
  else .direct

/-- **The chain decides the path** of a subject with that matcher. -/
structure DecidesPath (s : Settings) (chain : List ClassifyRule) (p : SentPacket) (path : Text)
    (m : ScopedMatcher) : Prop where
  direct : path = "direct".toList → evaluate nft sets chain p = some .direct
  vpn : path = "vpn".toList → evaluate nft sets chain p = some .vpnFull
  blocked : path = "blocked".toList → m.family ∈ ["ipv4".toList, "ipv6".toList] →
    ∃ icmp, evaluate nft sets chain p = some (.reject icmp)
  blockedOther : path = "blocked".toList → m.family ∉ ["ipv4".toList, "ipv6".toList] →
    evaluate nft sets chain p = some .drop
  selective : path = "selective".toList → m.family = familyText p.daddr.version →
    ∃ outcome, (evaluate nft sets chain p).map Outcome.branch = some outcome ∧
      (evaluate nft sets s.selectiveChain p).map Outcome.branch = some outcome ∧
      (outcome = .direct ∨ outcome = .vpn ∨ outcome = .drop ∧ s.selectiveVpnPolicyReady = false)
  selectiveOther : path = "selective".toList → m.family ≠ familyText p.daddr.version →
    (evaluate nft sets chain p).map Outcome.branch = some s.defaultBranch

end Statement

section Proof

variable {U : Unicode} {reprText : Text → Text} {nft : Text → Text → Addr → Bool}
  {sets : SetName → List IpNetwork} {s : Settings} {subject : Dict} {m : ScopedMatcher} {id path : Text}
  {p : SentPacket} {block rules : List SteeringRule}

/-! ### Silent blocks -/

/-- The rule tests the source of the matcher. -/
def TestsSource (m : ScopedMatcher) (r : SteeringRule) : Prop := r.expr = m.expr ∧ r.val = m.val

lemma testsSource_vpnRule {set : SetName} {comment degraded : String} :
    TestsSource m (vpnRule s m id set comment degraded) := by
  rw [vpnRule]
  split_ifs
  · exact ⟨rfl, rfl⟩
  · exact ⟨rfl, rfl⟩

lemma testsSource_defaultRule : TestsSource m (defaultRule s m id) := by
  rw [defaultRule]
  split_ifs
  all_goals exact ⟨rfl, rfl⟩

lemma testsSource_selectiveBlock {r : SteeringRule} (h : r ∈ selectiveBlock s m id) :
    TestsSource m r := by
  rw [selectiveBlock, List.mem_append, List.mem_singleton] at h
  rcases h with h | rfl
  · split_ifs at h
    · simp only [List.mem_cons, List.not_mem_nil, or_false] at h
      rcases h with rfl | rfl | rfl | rfl
      · exact ⟨rfl, rfl⟩
      · exact ⟨rfl, rfl⟩
      · exact testsSource_vpnRule
      · exact testsSource_vpnRule
    · simp only [List.mem_cons, List.not_mem_nil, or_false] at h
      rcases h with rfl | rfl
      · exact ⟨rfl, rfl⟩
      · exact testsSource_vpnRule
    · cases h
  · exact testsSource_defaultRule

/-- All rules of a block test the source of its matcher. -/
lemma testsSource_of_mem {r : SteeringRule} (h : r ∈ steeringBlock s path m id) : TestsSource m r := by
  rw [steeringBlock] at h
  split at h
  · exact testsSource_selectiveBlock h
  split at h
  · obtain rfl := List.mem_singleton.mp h
    exact ⟨rfl, rfl⟩
  split at h
  · obtain rfl := List.mem_singleton.mp h
    exact ⟨rfl, rfl⟩
  · cases h

/-- **A block is silent** about packets from elsewhere. -/
lemma silent_of_elsewhere (hblock : steeringRules U reprText s subject = some block)
    (h : ∀ m, ¬ IsSource reprText nft subject m p.saddr) :
    Silent (ClassifyRule.decides nft sets) (block.map .steering) p := by
  intro rule hrule
  obtain ⟨r, hr, rfl⟩ := List.mem_map.mp hrule
  rw [steeringRules, Option.map_eq_some_iff] at hblock
  obtain ⟨matcher, hmatcher, rfl⟩ := hblock
  cases matcher with
  | none => cases hr
  | some m =>
      obtain ⟨hexpr, hval⟩ := testsSource_of_mem hr
      have hsource : nft m.expr m.val p.saddr = false := by
        rw [← Bool.not_eq_true]
        exact fun hin => h m ⟨hmatcher, hin⟩
      rw [ClassifyRule.decides, hexpr, hval, hsource]
      rfl

/-- The first lines are silent about an ordinary packet. -/
lemma evaluate_chain (hp : Ordinary sets p) (rules : List SteeringRule) :
    evaluate nft sets (s.chain rules) p =
      FirstMatch.eval (ClassifyRule.decides nft sets)
        (rules.map .steering ++ (globalLines s).map .line) p := by
  have hhead : Silent (ClassifyRule.decides nft sets) (classifyHead.map .line) p := by
    intro rule hrule
    obtain ⟨l, hl, rfl⟩ := List.mem_map.mp hrule
    have hholds : l.on.holds sets p.toPacket = false := by
      simp only [classifyHead, List.mem_cons, List.not_mem_nil, or_false] at hl
      rcases hl with rfl | rfl | rfl | rfl
      · exact hp.remote
      · exact hp.unprotected _ (by simp)
      · exact hp.unprotected _ (by simp)
      · simpa [LineMatch.holds] using hp.port
    rw [ClassifyRule.decides, hholds]
    rfl
  rw [evaluate, Settings.chain, List.append_assoc, hhead.eval_append]

/-! ### The block of the subject -/

/-- A rule of a block, for a packet from its source. -/
lemma eval_steering_cons {r : SteeringRule} {rest : List ClassifyRule}
    (hsource : nft r.expr r.val p.saddr = true) :
    FirstMatch.eval (ClassifyRule.decides nft sets) (.steering r :: rest) p =
      if r.daddr.all fun set => (LineMatch.daddr set).holds sets p.toPacket then some r.outcome
      else FirstMatch.eval (ClassifyRule.decides nft sets) rest p := by
  rw [eval_cons, ClassifyRule.decides, hsource, Bool.true_and]
  split_ifs with hset
  · rfl
  · rfl

lemma eval_line_cons {l : ChainLine} {rest : List ClassifyRule} :
    FirstMatch.eval (ClassifyRule.decides nft sets) (.line l :: rest) p =
      if l.on.holds sets p.toPacket then
        (outcomeOf l.verdict).orElse fun _ => FirstMatch.eval (ClassifyRule.decides nft sets) rest p
      else FirstMatch.eval (ClassifyRule.decides nft sets) rest p := by
  rw [eval_cons, ClassifyRule.decides]
  split_ifs with hset
  · rfl
  · rfl

/-- The branch of a destination under a selective path. -/
def selectiveBranch (sets : SetName → List IpNetwork) (s : Settings) (p : SentPacket) : Outcome :=
  let inSet (set : SetName) : Bool := (LineMatch.daddr set).holds sets p.toPacket
  if inSet .directIpv4 || inSet .dnsDirectIpv4 || inSet .directIpv6 then .direct
  else if inSet .vpnIpv4 || inSet .dnsVpnIpv4 || inSet .vpnIpv6 then
    if s.selectiveVpnPolicyReady then .vpn else .drop
  else s.defaultBranch

lemma selectiveBranch_cases : selectiveBranch sets s p = .direct ∨ selectiveBranch sets s p = .vpn ∨
    selectiveBranch sets s p = .drop ∧ s.selectiveVpnPolicyReady = false := by
  simp only [selectiveBranch, Settings.defaultBranch]
  split_ifs with _ _ hready _ hready
  all_goals simp_all

/-- A set of the other version does not match. -/
lemma holds_of_version {set : SetName} (h : p.daddr.version ≠ set.version) :
    (LineMatch.daddr set).holds sets p.toPacket = false := by
  rw [LineMatch.holds]
  exact decide_eq_false fun hboth => h hboth.1

lemma eval_default (hmode : s.mode = "selective".toList) : ∃ tested dflt,
    globalLines s = tested ++ dflt ∧
      (FirstMatch.eval (ClassifyRule.decides nft sets) (dflt.map .line) p).map Outcome.branch =
        some s.defaultBranch ∧
      tested = [⟨.daddr .directIpv4, .gotoDirect, "selective direct IPv4"⟩,
        ⟨.daddr .dnsDirectIpv4, .gotoDirect, "selective dns direct IPv4"⟩,
        ⟨.daddr .directIpv6, .gotoDirect, "selective direct IPv6"⟩,
        vpnLine s.selectiveVpnPolicyReady .vpnIpv4 "selective vpn IPv4"
          "selective degraded block VPN IPv4",
        vpnLine s.selectiveVpnPolicyReady .dnsVpnIpv4 "selective dns vpn IPv4"
          "selective degraded block DNS VPN IPv4",
        vpnLine s.selectiveVpnPolicyReady .vpnIpv6 "selective vpn IPv6"
          "selective degraded block VPN IPv6"] := by
  have hdirect : s.mode ≠ "direct".toList := by
    rw [hmode]
    decide
  have hvpn : s.mode ≠ "vpn".toList := by
    rw [hmode]
    decide
  refine ⟨_, _, by rw [globalLines, if_neg hdirect, if_neg hvpn, if_pos hmode], ?_, rfl⟩
  rw [Settings.defaultBranch]
  split_ifs
  all_goals simp [eval_line_cons, LineMatch.holds, outcomeOf, Outcome.branch]

/-- Tests with one outcome, then tests with another one. -/
lemma ite_tests (a b c d e f : Bool) (x y z : Outcome) : (
    if a then some x else if b then some x else if c then some x
    else if d then some y else if e then some y else if f then some y else some z) =
      some (if a || b || c then x else if d || e || f then y else z) := by
  cases a with
  | true => rfl
  | false =>
  cases b with
  | true => rfl
  | false =>
  cases c with
  | true => rfl
  | false =>
  cases d with
  | true => rfl
  | false =>
  cases e with
  | true => rfl
  | false =>
  cases f with
  | true => rfl
  | false => rfl

lemma branch_directLine {set : SetName} {comment : String} {rest : List ClassifyRule} :
    (FirstMatch.eval (ClassifyRule.decides nft sets)
      (.line ⟨.daddr set, .gotoDirect, comment⟩ :: rest) p).map Outcome.branch =
      if (LineMatch.daddr set).holds sets p.toPacket then some .direct
      else (FirstMatch.eval (ClassifyRule.decides nft sets) rest p).map Outcome.branch := by
  rw [eval_line_cons]
  split_ifs
  · rfl
  · rfl

lemma branch_vpnLine {ready : Bool} {set : SetName} {comment degraded : String}
    {rest : List ClassifyRule} :
    (FirstMatch.eval (ClassifyRule.decides nft sets)
      (.line (vpnLine ready set comment degraded) :: rest) p).map Outcome.branch =
      if (LineMatch.daddr set).holds sets p.toPacket then some (if ready then .vpn else .drop)
      else (FirstMatch.eval (ClassifyRule.decides nft sets) rest p).map Outcome.branch := by
  cases ready with
  | true =>
      rw [vpnLine, if_pos rfl, eval_line_cons]
      split
      · rfl
      · rfl
  | false =>
      rw [vpnLine, if_neg (by decide), eval_line_cons]
      split
      · rfl
      · rfl

/-- **The lines of the selective mode** take the branch of the destination. -/
lemma evaluate_selective (hp : Ordinary sets p) :
    (evaluate nft sets s.selectiveChain p).map Outcome.branch = some (selectiveBranch sets s p) := by
  rw [Settings.selectiveChain, evaluate_chain hp, List.map_nil, List.nil_append]
  obtain ⟨tested, dflt, hlines, hdflt, rfl⟩ := @eval_default nft sets
    { s with mode := "selective".toList } p rfl
  rw [hlines, List.map_append]
  simp only [List.map_cons, List.map_nil, List.cons_append, List.nil_append, branch_directLine,
    branch_vpnLine, hdflt]
  exact ite_tests _ _ _ _ _ _ _ _ _

/-- A rule of the subject for some destinations. -/
lemma branch_setRule {set : SetName} {outcome : Outcome} {comment : Text} {rest : List ClassifyRule}
    (hsource : nft m.expr m.val p.saddr = true) :
    (FirstMatch.eval (ClassifyRule.decides nft sets)
      (.steering ⟨m.expr, m.val, some set, outcome, comment⟩ :: rest) p).map Outcome.branch =
      if (LineMatch.daddr set).holds sets p.toPacket then some outcome.branch
      else (FirstMatch.eval (ClassifyRule.decides nft sets) rest p).map Outcome.branch := by
  rw [eval_steering_cons hsource, Option.all_some]
  split_ifs
  · rfl
  · rfl

/-- A rule of the subject for all destinations ends the evaluation. -/
lemma eval_lastRule {outcome : Outcome} {comment : Text} {rest : List ClassifyRule}
    (hsource : nft m.expr m.val p.saddr = true) :
    FirstMatch.eval (ClassifyRule.decides nft sets)
      (.steering ⟨m.expr, m.val, none, outcome, comment⟩ :: rest) p = some outcome := by
  rw [eval_steering_cons hsource]
  rfl

lemma branch_vpnRule {set : SetName} {comment degraded : String} {rest : List ClassifyRule}
    (hsource : nft m.expr m.val p.saddr = true) :
    (FirstMatch.eval (ClassifyRule.decides nft sets)
      (.steering (vpnRule s m id set comment degraded) :: rest) p).map Outcome.branch =
      if (LineMatch.daddr set).holds sets p.toPacket then
        some (if s.selectiveVpnPolicyReady then .vpn else .drop)
      else (FirstMatch.eval (ClassifyRule.decides nft sets) rest p).map Outcome.branch := by
  rw [vpnRule]
  cases s.selectiveVpnPolicyReady with
  | true => exact branch_setRule hsource
  | false => exact branch_setRule hsource

lemma branch_defaultRule (hsource : nft m.expr m.val p.saddr = true) :
    (FirstMatch.eval (ClassifyRule.decides nft sets) [.steering (defaultRule s m id)] p).map
      Outcome.branch = some s.defaultBranch := by
  rw [defaultRule, Settings.defaultBranch]
  by_cases hdflt : s.selectiveDefault = "vpn".toList
  · cases hready : s.selectiveVpnPolicyReady with
    | true =>
        rw [if_neg (by simp), if_pos hdflt, if_pos hdflt, eval_lastRule hsource]
        rfl
    | false =>
        rw [if_pos ⟨hdflt, rfl⟩, if_pos hdflt, eval_lastRule hsource]
        rfl
  · rw [if_neg fun h => hdflt h.1, if_neg hdflt, if_neg hdflt, eval_lastRule hsource]
    rfl

/-- **The block of a selective subject**, of the packet's family, takes the branch of the destination;
one of another family takes the default. -/
lemma eval_selectiveBlock (hsource : nft m.expr m.val p.saddr = true) :
    (FirstMatch.eval (ClassifyRule.decides nft sets) ((selectiveBlock s m id).map .steering) p).map
      Outcome.branch = some (if m.family = familyText p.daddr.version then selectiveBranch sets s p
        else s.defaultBranch) := by
  have hother4 : p.daddr.version = .v6 → ∀ set ∈ [.directIpv4, .dnsDirectIpv4, .vpnIpv4, .dnsVpnIpv4],
      (LineMatch.daddr set).holds sets p.toPacket = false := fun hversion set hset =>
    holds_of_version (by rw [hversion]; revert set; decide)
  have hother6 : p.daddr.version = .v4 → ∀ set ∈ [.directIpv6, .vpnIpv6],
      (LineMatch.daddr set).holds sets p.toPacket = false := fun hversion set hset =>
    holds_of_version (by rw [hversion]; revert set; decide)
  have hfamilies : "ipv6".toList ≠ "ipv4".toList := by decide
  rw [selectiveBlock, List.map_append, List.map_singleton]
  by_cases h4 : m.family = "ipv4".toList
  · rw [if_pos h4]
    simp only [List.map_cons, List.map_nil, List.cons_append, List.nil_append]
    rw [branch_setRule hsource, branch_setRule hsource, branch_vpnRule hsource, branch_vpnRule hsource,
      branch_defaultRule hsource]
    cases hversion : p.daddr.version with
    | v4 =>
        have hfamily : m.family = familyText .v4 := h4
        rw [if_pos hfamily]
        simp only [selectiveBranch, hother6 hversion .directIpv6 (by simp),
          hother6 hversion .vpnIpv6 (by simp)]
        exact ite_tests _ _ false _ _ false _ _ _
    | v6 =>
        have hfamily : m.family ≠ familyText .v6 := by
          rw [h4]
          exact hfamilies.symm
        rw [if_neg hfamily]
        simp [hother4 hversion]
  rw [if_neg h4]
  by_cases h6 : m.family = "ipv6".toList
  · rw [if_pos h6]
    simp only [List.map_cons, List.map_nil, List.cons_append, List.nil_append]
    rw [branch_setRule hsource, branch_vpnRule hsource, branch_defaultRule hsource]
    cases hversion : p.daddr.version with
    | v4 =>
        have hfamily : m.family ≠ familyText .v4 := h4
        rw [if_neg hfamily]
        simp [hother6 hversion]
    | v6 =>
        have hfamily : m.family = familyText .v6 := h6
        rw [if_pos hfamily]
        simp only [selectiveBranch, hother4 hversion .directIpv4 (by simp),
          hother4 hversion .dnsDirectIpv4 (by simp), hother4 hversion .vpnIpv4 (by simp),
          hother4 hversion .dnsVpnIpv4 (by simp)]
        exact ite_tests false false _ false false _ _ _ _
  · have hfamily : m.family ≠ familyText p.daddr.version := by
      cases p.daddr.version with
      | v4 => exact h4
      | v6 => exact h6
    rw [if_neg h6, if_neg hfamily, List.map_nil, List.nil_append, branch_defaultRule hsource]

/-! ### The chain of a manifest -/

lemma chain_of_manifest {manifest : Dict} {chain : List ClassifyRule}
    (hbypass : coreBypassEnabled manifest = false)
    (h : renderClassifyChain U reprText manifest = some chain) : ∃ s blocks,
      settingsOf U reprText manifest = some s ∧
      (activeSubjects manifest).mapM (steeringRules U reprText s) = some blocks ∧
      chain = s.chain blocks.flatten := by
  rw [renderClassifyChain, hbypass, if_neg (by decide), Option.bind_eq_bind,
    Option.bind_eq_some_iff] at h
  obtain ⟨s, hs, h⟩ := h
  rw [Option.bind_eq_bind, Option.bind_eq_some_iff] at h
  obtain ⟨blocks, hblocks, h⟩ := h
  exact ⟨s, blocks, hs, hblocks, (Option.some.inj h).symm⟩

/-- The blocks of subjects that come one after the other. -/
lemma blocks_of_append {before after : List Dict} {blocks : List (List SteeringRule)}
    (h : (before ++ subject :: after).mapM (steeringRules U reprText s) = some blocks) :
    ∃ first block last, blocks = first ++ block :: last ∧
      before.mapM (steeringRules U reprText s) = some first ∧
      steeringRules U reprText s subject = some block := by
  simp only [List.mapM_append, List.mapM_cons, Option.bind_eq_bind, Option.bind_eq_some_iff,
    Option.pure_def, Option.some.injEq] at h
  obtain ⟨first, hfirst, -, ⟨block, hblock, last, -, rfl⟩, rfl⟩ := h
  exact ⟨first, block, last, rfl, hfirst, hblock⟩

/-- Where every subject is silent, all the blocks are. -/
lemma silent_blocks {subjects : List Dict} {blocks : List (List SteeringRule)}
    (h : subjects.mapM (steeringRules U reprText s) = some blocks)
    (hsilent : ∀ other ∈ subjects, ∀ block, steeringRules U reprText s other = some block →
      Silent (ClassifyRule.decides nft sets) (block.map .steering) p) :
    ∀ block ∈ blocks.map (List.map ClassifyRule.steering),
      Silent (ClassifyRule.decides nft sets) block p := by
  intro block hblock
  obtain ⟨rules, hrules, rfl⟩ := List.mem_map.mp hblock
  obtain ⟨other, hother, hb⟩ := Run.exists_input (Run.mapM_eq_some.mp h) hrules
  exact hsilent other hother rules hb

/-- **The subject's block decides**, if the subjects before it have other sources. -/
lemma evaluate_of_block {before after : List Dict} {blocks : List (List SteeringRule)} {v : Outcome}
    (hp : Ordinary sets p)
    (h : (before ++ subject :: after).mapM (steeringRules U reprText s) = some blocks)
    (hblock : steeringRules U reprText s subject = some block)
    (hbefore : ∀ other ∈ before, ∀ m, ¬ IsSource reprText nft other m p.saddr)
    (hv : FirstMatch.eval (ClassifyRule.decides nft sets) (block.map .steering) p = some v) :
    evaluate nft sets (s.chain blocks.flatten) p = some v := by
  obtain ⟨first, block', last, rfl, hfirst, hblock'⟩ := blocks_of_append h
  obtain rfl : block' = block := Option.some.inj (hblock'.symm.trans hblock)
  have hsilent := @silent_blocks U reprText nft sets s p _ _ hfirst fun other hother b hb =>
    silent_of_elsewhere hb (hbefore other hother)
  rw [evaluate_chain hp, List.map_flatten, List.map_append, List.map_cons]
  exact eval_append_of_decided (eval_flatten_of_decided hsilent hv)

/-- A subject whose path has no rules is silent, and so is one whose sources are elsewhere. -/
lemma silent_of_unsteered (hblock : steeringRules U reprText s subject = some block)
    (h : ∀ m, IsSource reprText nft subject m p.saddr →
      resolvedSubjectPath U reprText subject ∉ steeredPaths) :
    Silent (ClassifyRule.decides nft sets) (block.map .steering) p := by
  by_cases hpath : resolvedSubjectPath U reprText subject ∈ steeredPaths
  · exact silent_of_elsewhere hblock fun m hm => h m hm hpath
  · rw [steeringRules, Option.map_eq_some_iff] at hblock
    obtain ⟨matcher, -, rfl⟩ := hblock
    have hnil : ∀ m id, steeringBlock s (resolvedSubjectPath U reprText subject) m id = [] := by
      intro m id
      simp only [steeredPaths, List.mem_cons, List.not_mem_nil, or_false, not_or] at hpath
      rw [steeringBlock, if_neg hpath.2.2.2, if_neg hpath.2.2.1, if_neg]
      simp only [List.mem_cons, List.not_mem_nil, or_false, not_or]
      exact ⟨hpath.2.1, hpath.1⟩
    cases matcher with
    | none => exact fun rule hrule => absurd hrule List.not_mem_nil
    | some m =>
        dsimp only
        rw [hnil]
        exact fun rule hrule => absurd hrule List.not_mem_nil

/-- What the block of a subject decides, the chain decides. -/
lemma decidesPath_of_block {chain : List ClassifyRule} (hp : Ordinary sets p)
    (hsource : nft m.expr m.val p.saddr = true)
    (hdecides : ∀ v, FirstMatch.eval (ClassifyRule.decides nft sets)
      ((steeringBlock s path m id).map .steering) p = some v → evaluate nft sets chain p = some v) :
    DecidesPath nft sets s chain p path m := by
  have hselective : path = "selective".toList → (evaluate nft sets chain p).map Outcome.branch =
      some (if m.family = familyText p.daddr.version then selectiveBranch sets s p
        else s.defaultBranch) := by
    intro hpath
    have hblock := @eval_selectiveBlock nft sets s m id p hsource
    rw [steeringBlock, if_pos hpath] at hdecides
    rw [Option.map_eq_some_iff] at hblock
    obtain ⟨v, hv, hbranch⟩ := hblock
    rw [hdecides v hv, Option.map_some, hbranch]
  have hblocked : path = "blocked".toList → evaluate nft sets chain p = some (blockedOutcome m) := by
    rintro rfl
    refine hdecides _ ?_
    rw [steeringBlock, if_neg (by decide), if_pos rfl]
    exact eval_lastRule hsource
  refine ⟨?_, ?_, fun hpath hfamily => ?_, fun hpath hfamily => ?_, fun hpath hfamily => ?_,
    fun hpath hfamily => ?_⟩
  · rintro rfl
    refine hdecides _ ?_
    rw [steeringBlock, if_neg (by decide), if_neg (by decide), if_pos (by decide)]
    exact eval_lastRule hsource
  · rintro rfl
    refine hdecides _ ?_
    rw [steeringBlock, if_neg (by decide), if_neg (by decide), if_pos (by decide)]
    exact eval_lastRule hsource
  · rw [hblocked hpath, blockedOutcome]
    split_ifs with h6 h4
    · exact ⟨_, rfl⟩
    · exact ⟨_, rfl⟩
    · simp only [List.mem_cons, List.not_mem_nil, or_false] at hfamily
      exact absurd hfamily (not_or.mpr ⟨h4, h6⟩)
  · simp only [List.mem_cons, List.not_mem_nil, or_false, not_or] at hfamily
    rw [hblocked hpath, blockedOutcome, if_neg hfamily.2, if_neg hfamily.1]
  · refine ⟨selectiveBranch sets s p, ?_, evaluate_selective hp, selectiveBranch_cases⟩
    rw [hselective hpath, if_pos hfamily]
  · rw [hselective hpath, if_neg hfamily]

end Proof

/-! ## The result -/

/-- **Scoped steering decides exactly the path of the subject.**  In the chain of an accepted manifest
whose active subjects have disjoint sources, an ordinary packet from a source of a subject ends as the
subject's path says; one that comes from no subject with such a path is decided by the global mode, as
if there were no subjects. -/
theorem scoped_steering (U : Unicode) (reprText : Text → Text) (nft : Text → Text → Addr → Bool)
    (sets : SetName → List IpNetwork) (manifest : Dict) (chain : List ClassifyRule) (p : SentPacket)
    (hbypass : coreBypassEnabled manifest = false)
    (hchain : renderClassifyChain U reprText manifest = some chain)
    (hdisjoint : DisjointSources reprText nft (activeSubjects manifest)) (hp : Ordinary sets p) :
    ∃ s, settingsOf U reprText manifest = some s ∧
      (∀ subject ∈ activeSubjects manifest, ∀ m, IsSource reprText nft subject m p.saddr →
        DecidesPath nft sets s chain p (resolvedSubjectPath U reprText subject) m) ∧
      ((∀ subject ∈ activeSubjects manifest, ∀ m, IsSource reprText nft subject m p.saddr →
          resolvedSubjectPath U reprText subject ∉ steeredPaths) →
        evaluate nft sets chain p = evaluate nft sets (s.chain []) p) := by
  obtain ⟨s, blocks, hs, hblocks, rfl⟩ := chain_of_manifest hbypass hchain
  refine ⟨s, hs, fun subject hsubject m hsource => ?_, fun hnone => ?_⟩
  · obtain ⟨before, after, hactive⟩ := List.append_of_mem hsubject
    rw [hactive] at hblocks hdisjoint
    have hbefore : ∀ other ∈ before, ∀ m', ¬ IsSource reprText nft other m' p.saddr :=
      fun other hother m' hother' =>
        (List.pairwise_append.mp hdisjoint).2.2 other hother subject List.mem_cons_self _ _ _ hother'
          hsource
    have hblock : steeringRules U reprText s subject = some (steeringBlock s
        (resolvedSubjectPath U reprText subject) m ((subject.get "subject_id").text reprText)) := by
      rw [steeringRules, hsource.1, Option.map_some]
    have hdecides : ∀ v, FirstMatch.eval (ClassifyRule.decides nft sets) ((steeringBlock s
        (resolvedSubjectPath U reprText subject) m ((subject.get "subject_id").text reprText)).map
          .steering) p = some v → evaluate nft sets (s.chain blocks.flatten) p = some v :=
      fun v hv => evaluate_of_block hp hblocks hblock hbefore hv
    exact decidesPath_of_block hp hsource.2 hdecides
  · have hsilent := @silent_blocks U reprText nft sets s p _ _ hblocks fun other hother b hb =>
      silent_of_unsteered hb fun m hm => hnone other hother m hm
    rw [evaluate_chain hp, evaluate_chain hp, List.map_flatten, (silent_flatten hsilent).eval_append,
      List.map_nil, List.nil_append]

/-! ## The global mode -/

section Global

variable {nft : Text → Text → Addr → Bool} {sets : SetName → List IpNetwork} {p : SentPacket}

def modeText : RoutingMode → Text
  | .direct => "direct".toList
  | .vpn => "vpn".toList
  | .selective => "selective".toList

def defaultText : Action → Text
  | .direct => "direct".toList
  | .vpn => "vpn".toList

/-- Without subjects the chain is that of `buildClassifyChainLines`. -/
lemma lines_of_settings (mode : RoutingMode) (dflt : Action) (ready degraded : Bool) :
    classifyHead ++ globalLines ⟨modeText mode, defaultText dflt, ready, degraded⟩ =
      buildClassifyChainLines mode dflt ready degraded [] := by
  cases mode with
  | direct => rfl
  | vpn => rfl
  | selective =>
      cases dflt with
      | direct => cases ready <;> rfl
      | vpn => cases ready <;> rfl

lemma evaluate_lines (lines : List ChainLine) :
    evaluate nft sets (lines.map .line) p = (classify sets lines p.toPacket).bind outcomeOf := by
  induction lines with
  | nil => rfl
  | cons l lines ih =>
      rw [evaluate] at ih
      rw [evaluate, List.map_cons, eval_line_cons, ih, classify_cons]
      cases hverdict : l.verdict with
      | counter => simp [Verdict.terminal, outcomeOf]
      | _ => cases l.on.holds sets p.toPacket <;> simp [Verdict.terminal, outcomeOf]

/-- **The decision of the global mode** is the one of the classify chain without subjects. -/
lemma evaluate_global (mode : RoutingMode) (dflt : Action) (ready degraded : Bool) :
    evaluate nft sets (Settings.chain ⟨modeText mode, defaultText dflt, ready, degraded⟩ []) p =
      (classify sets (buildClassifyChainLines mode dflt ready degraded []) p.toPacket).bind
        outcomeOf := by
  rw [← evaluate_lines, ← lines_of_settings, Settings.chain, List.map_nil, List.append_nil,
    List.map_append]

end Global

/-! ## The matchers of the scoped egress -/

section IpMatcher

/-- What nft documents of source expressions: each looks at packets of its version only. -/
structure NftLaw (nft : Text → Text → Addr → Bool) : Prop where
  ipv4 : ∀ val a, nft "ip saddr".toList val a = true → a.version = .v4
  ipv6 : ∀ val a, nft "ip6 saddr".toList val a = true → a.version = .v6

/-- The matcher of `_ip_matcher`; `none` is a `ValueError`. -/
def ipMatcher (candidateIp : Text) : Option Dict :=
  (ipAddress candidateIp).map fun parsed =>
    match parsed.addr.version with
    | .v4 => [("family".toList, .str "ipv4".toList), ("nft_type".toList, .str "ipv4_addr".toList),
        ("nft_expr".toList, .str "ip saddr".toList), ("value".toList, .str candidateIp)]
    | .v6 => [("family".toList, .str "ipv6".toList), ("nft_type".toList, .str "ipv6_addr".toList),
        ("nft_expr".toList, .str "ip6 saddr".toList), ("value".toList, .str candidateIp)]

/-- **A matcher of `_ip_matcher` names the family of every packet that it matches**, so the paths of
its subject are decided as they say. -/
theorem family_of_ipMatcher {reprText : Text → Text} {nft : Text → Text → Addr → Bool} (hnft : NftLaw nft)
    {candidateIp : Text} {matcher scopedRuntime subject : Dict} {m : ScopedMatcher} {p : SentPacket}
    (hmatcher : ipMatcher candidateIp = some matcher)
    (hscoped : subject.get "scoped_runtime" = .dict scopedRuntime)
    (hfield : scopedRuntime.get "matcher" = .dict matcher)
    (hsource : IsSource reprText nft subject m p.saddr) : m.family = familyText p.daddr.version := by
  obtain ⟨hread, hin⟩ := hsource
  rw [scopedMatcher, hscoped] at hread
  dsimp only at hread
  rw [matcherDict, hfield] at hread
  dsimp only at hread
  split at hread
  · cases hread
  rw [ipMatcher, Option.map_eq_some_iff] at hmatcher
  obtain ⟨parsed, -, rfl⟩ := hmatcher
  rw [← p.sameVersion]
  cases hversion : parsed.addr.version with
  | v4 =>
      rw [hversion] at hread
      obtain rfl := Option.some.inj (Option.some.inj hread)
      rw [hnft.ipv4 _ _ hin]
      rfl
  | v6 =>
      rw [hversion] at hread
      obtain rfl := Option.some.inj (Option.some.inj hread)
      rw [hnft.ipv6 _ _ hin]
      rfl

end IpMatcher

/-! ## Examples -/

namespace Example

/-- nft for the single addresses of the examples. -/
def nft (expr val : Text) (a : Addr) : Bool :=
  (decide (expr = "ip saddr".toList) && decide (a.version = .v4) ||
    decide (expr = "ip6 saddr".toList) && decide (a.version = .v6)) &&
  (ipAddress val).any fun parsed => decide (parsed.addr = a)

def subject (id path : String) (fields : List (String × String)) : Value :=
  .dict [("subject_id".toList, .str id.toList), ("is_active".toList, .bool true),
    ("dataplane_path".toList, .str path.toList),
    ("scoped_runtime".toList, .dict [("matcher".toList, .dict (fields.map fun field =>
      (field.1.toList, .str field.2.toList)))])]

def manifest (mode : String) (subjects : List Value) : Dict :=
  [("summary".toList, .dict [("global_mode".toList, .str mode.toList)]),
    ("global_preflight".toList, .dict []), ("subjects".toList, .list subjects)]

/-- A packet from `10.0.0.5` to `8.8.8.8`, port 443. -/
def packet : SentPacket :=
  ⟨⟨⟨.v4, 134744072, resolver_lt⟩, false, some 443⟩, ⟨.v4, 167772165, by decide⟩, rfl⟩

/-- A VPN subject at `10.0.0.5`, and a blocked one at `10.0.0.6`. -/
def home : Dict := manifest "direct"
  [subject "b" "blocked" [("family", "ipv4"), ("nft_expr", "ip saddr"), ("value", "10.0.0.6")],
    subject "a" "vpn" [("family", "ipv4"), ("nft_expr", "ip saddr"), ("value", "10.0.0.5")]]

/-- A blocked subject whose matcher has no family. -/
def nameless : Dict := manifest "direct"
  [subject "a" "blocked" [("nft_expr", "ip saddr"), ("value", "10.0.0.5")]]

def render (manifest : Dict) : Option (List ClassifyRule) := renderClassifyChain Unicode.ascii id manifest

lemma nftLaw : NftLaw nft := by
  refine ⟨fun val a h => ?_, fun val a h => ?_⟩
  · rw [nft, Bool.and_eq_true, Bool.or_eq_true, Bool.and_eq_true, Bool.and_eq_true] at h
    rcases h.1 with hexpr | hexpr
    · exact of_decide_eq_true hexpr.2
    · exact absurd (of_decide_eq_true hexpr.1) (by decide)
  · rw [nft, Bool.and_eq_true, Bool.or_eq_true, Bool.and_eq_true, Bool.and_eq_true] at h
    rcases h.1 with hexpr | hexpr
    · exact absurd (of_decide_eq_true hexpr.1) (by decide)
    · exact of_decide_eq_true hexpr.2

lemma ordinary : Ordinary (fun _ => []) packet := by
  refine ⟨rfl, fun set _ => ?_, by decide⟩
  rw [LineMatch.holds]
  exact decide_eq_false fun h => by simpa [Covers] using h.2

/-- A source is the one address of the matcher. -/
lemma addr_of_source {expr val : Text} {a : Addr} {parsed : IpAddress} (hparsed : ipAddress val = some parsed)
    (h : nft expr val a = true) : parsed.addr = a := by
  rw [nft, Bool.and_eq_true, hparsed] at h
  exact of_decide_eq_true h.2

lemma home_subjects : ∃ blocked vpn, activeSubjects home = [blocked, vpn] ∧
    scopedMatcher id blocked = some (some ⟨"ip saddr".toList, "10.0.0.6".toList, "ipv4".toList⟩) ∧
    scopedMatcher id vpn = some (some ⟨"ip saddr".toList, "10.0.0.5".toList, "ipv4".toList⟩) ∧
    resolvedSubjectPath Unicode.ascii id vpn = "vpn".toList :=
  ⟨_, _, rfl, rfl, rfl, by decide +kernel⟩

/-- The packet of the VPN subject goes to the full VPN branch, past the rule of the other one. -/
theorem vpn_subject_steered : ∃ chain, render home = some chain ∧
    evaluate nft (fun _ => []) chain packet = some .vpnFull := by
  obtain ⟨chain, hchain⟩ : ∃ chain, render home = some chain := ⟨_, rfl⟩
  obtain ⟨blocked, vpn, hactive, hblocked, hvpn, hpath⟩ := home_subjects
  have hdisjoint : DisjointSources id nft (activeSubjects home) := by
    rw [hactive, DisjointSources]
    refine List.pairwise_pair.mpr fun a m m' h h' => ?_
    obtain rfl := Option.some.inj (Option.some.inj (hblocked.symm.trans h.1))
    obtain rfl := Option.some.inj (Option.some.inj (hvpn.symm.trans h'.1))
    have hsix : ipAddress "10.0.0.6".toList = some (.ofAddr ⟨.v4, 167772166, by decide⟩) := by
      decide +kernel
    have hfive : ipAddress "10.0.0.5".toList = some (.ofAddr ⟨.v4, 167772165, by decide⟩) := by
      decide +kernel
    have hsame := (addr_of_source hsix h.2).trans (addr_of_source hfive h'.2).symm
    exact absurd hsame (by decide)
  obtain ⟨s, -, hdecides, -⟩ := scoped_steering Unicode.ascii id nft (fun _ => []) home chain packet
    (by decide +kernel) hchain hdisjoint ordinary
  refine ⟨chain, hchain, (hdecides vpn (by rw [hactive]; simp) _ ⟨hvpn, ?_⟩).vpn hpath⟩
  decide +kernel

/-- **A matcher without a family** has a blocked subject dropped, not rejected. -/
theorem dropped_without_family : ¬ ∀ U reprText nft sets manifest chain (p : SentPacket),
    NftLaw nft → coreBypassEnabled manifest = false →
    renderClassifyChain U reprText manifest = some chain →
    DisjointSources reprText nft (activeSubjects manifest) → Ordinary sets p →
    ∀ subject ∈ activeSubjects manifest, ∀ m, IsSource reprText nft subject m p.saddr →
      resolvedSubjectPath U reprText subject = "blocked".toList →
        ∃ icmp, evaluate nft sets chain p = some (.reject icmp) := by
  intro h
  obtain ⟨chain, hchain⟩ : ∃ chain, render nameless = some chain := ⟨_, rfl⟩
  obtain ⟨blocked, hactive, hblocked, hpath⟩ : ∃ blocked, activeSubjects nameless = [blocked] ∧
      scopedMatcher id blocked = some (some ⟨"ip saddr".toList, "10.0.0.5".toList, []⟩) ∧
      resolvedSubjectPath Unicode.ascii id blocked = "blocked".toList :=
    ⟨_, rfl, rfl, by decide +kernel⟩
  have hdrop : (render nameless).bind (fun chain => evaluate nft (fun _ => []) chain packet) =
      some .drop := by decide +kernel
  rw [hchain, Option.bind_some] at hdrop
  have hdisjoint : DisjointSources id nft (activeSubjects nameless) := by
    rw [hactive]
    exact List.pairwise_singleton _ _
  obtain ⟨icmp, hreject⟩ := h Unicode.ascii id nft (fun _ => []) nameless chain packet nftLaw
    (by decide +kernel) hchain hdisjoint ordinary blocked (by rw [hactive]; simp) _
    ⟨hblocked, by decide +kernel⟩ hpath
  rw [hdrop] at hreject
  cases hreject

end Example

end FwRouter.Steering
