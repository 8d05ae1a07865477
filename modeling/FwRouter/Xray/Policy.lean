import FwRouter.Xray.Egress

/-!
# The policy of an Xray client

Which outbound a client of the managed inbound meets in a configuration that
`_materialize_managed_egress` has written.  The rules are one for each client, so the first rule
that matches can be read off the lists of modes and bindings (`find_rules`); the outbound then
follows from its tag, which names one outbound as long as no two bound servers share a digest.

A client that is in neither list, and that no other rule matches, meets the first outbound of the
list.  That is the outbound of the API, and not the blackhole that is called the fallback.
-/

namespace Xray

open Py

/-! ## How Xray routes

The rules are tried in order on the inbound and the user of a connection, as
`_verify_active_config_client_modes` reads them too: a rule that names no inbound, or no user, is
for all of them.  The outbound is found by its tag; without a rule it is the first one. -/

/-- `not tags or tag in tags`, where a text stands for the list of itself. -/
def admits (tag : Text) (v : Value) : Bool :=
  !v.truthy || v.isText tag || v.listOr.any (Value.isText tag)

def ruleMatches (inbound email : Text) (rule : Value) : Bool :=
  rule.asDict.any fun rule =>
    admits inbound (rule.get "inboundTag") && admits email (rule.get "user")

section Routing

variable (U : Unicode) (reprText : Text → Text) (sha1 : Sha1)

def hasTag (tag : Text) (o : Value) : Bool := o.asDict.any fun o => decide (tagOf reprText "tag" o = tag)

/-- The outbound of a connection on `inbound` by the user `email`. -/
def route (payload : Dict) (inbound email : Text) : Option Value :=
  match (rulesOf payload).find? (ruleMatches inbound email) with
  | some rule => (outboundsOf payload).find? (hasTag reprText (tagOf reprText "outboundTag" rule.dictOr))
  | none => (outboundsOf payload).head?

/-! ## What the configuration is to decide -/

/-- The mode of the first entry that names the client and has a mode with a rule.  An entry
without an email names nobody. -/
def directiveOf (clientModes : List ClientMode) (email : Text) : Option Text :=
  (clientModes.find? fun m =>
    decide (m.email ≠ [] ∧ m.email = email ∧ m.mode U ∈ explicitModes)).map (ClientMode.mode U)

/-- The binding binds the client to a server. -/
def ClientBinding.Binds (b : ClientBinding) (email : Text) : Prop :=
  b.email = email ∧ email ≠ [] ∧ b.server ≠ []

/-- **The policy of a client is what its connections meet**, on the managed inbound, in the
configuration that comes out of one run over `payload`. -/
structure DecidesPolicy (payload : Dict) (bindings : List ClientBinding)
    (clientModes : List ClientMode) (email : Text) (m : Materialized) : Prop where
  direct : directiveOf U clientModes email = some "direct".toList →
    route reprText m.payload xrayInboundTag email = some explicitDirectOutbound
  blocked : ∀ mode, directiveOf U clientModes email = some mode → mode ≠ "direct".toList →
    route reprText m.payload xrayInboundTag email = some fallbackBlackholeOutbound
  bound : ∀ b ∈ bindings, b.Binds email →
    ∃ socks, (egressByServer m.assignments).lookup b.server = some socks ∧
      route reprText m.payload xrayInboundTag email = some socks
  unlisted : directiveOf U clientModes email = none → (∀ b ∈ bindings, ¬b.Binds email) →
    (∀ preserved, preservedRules reprText (rulesOf payload) = some preserved →
      ∀ rule ∈ preserved, ruleMatches xrayInboundTag email rule = false) →
    route reprText m.payload xrayInboundTag email = some fallbackBlackholeOutbound
  tags : ∀ rule, Value.dict rule ∈ rulesOf m.payload → isManagedRule reprText rule = some true →
    ((outboundsOf m.payload).filter
      (hasTag reprText (tagOf reprText "outboundTag" rule))).length = 1
  outbounds : preservedOutbounds reprText (outboundsOf m.payload) =
    preservedOutbounds reprText (outboundsOf payload)
  rules : preservedRules reprText (rulesOf m.payload) = preservedRules reprText (rulesOf payload)
  again : materializeManagedEgress U reprText sha1 m.payload bindings clientModes none = some m

end Routing

/-! ## Which rule a client meets -/

section Rules

variable {U : Unicode} {reprText : Text → Text} {sha1 : Sha1} {bindings : List ClientBinding}
  {clientModes : List ClientMode} {assignments : List Assignment} {email : Text}

lemma admits_singleton (tag s : Text) : admits tag (.list [.str s]) = decide (s = tag) := by
  simp [admits, Value.truthy, Value.isText, Value.listOr]

/-- On the managed inbound a client's rule is for that client. -/
lemma ruleMatches_clientRule (owner tag : Text) :
    ruleMatches xrayInboundTag email (clientRule owner tag) = decide (owner = email) := by
  show (admits xrayInboundTag (.list [.str xrayInboundTag]) &&
    admits email (.list [.str owner])) = _
  rw [admits_singleton, admits_singleton, decide_eq_true rfl, Bool.true_and]

lemma ruleMatches_apiRule : ruleMatches xrayInboundTag email managedApiRule = false := by
  show (admits xrayInboundTag (.list [.str xrayApiTag]) && admits email .none) = false
  have hne : ¬xrayApiTag = xrayInboundTag := by decide
  rw [admits_singleton, decide_eq_false hne, Bool.false_and]

/-- The first mode rule of a client comes from its directive. -/
lemma find_modeRules :
    (managedModeRules U clientModes).find? (ruleMatches xrayInboundTag email) =
      (directiveOf U clientModes email).map fun mode => clientRule email (modeOutboundTag mode) := by
  induction clientModes with
  | nil => rfl
  | cons c clientModes ih =>
      rw [managedModeRules, directiveOf, List.filterMap_cons, List.find?_cons]
      rw [managedModeRules, directiveOf] at ih
      by_cases hc : c.email = [] ∨ c.mode U ∉ explicitModes
      · have hskip : ¬(c.email ≠ [] ∧ c.email = email ∧ c.mode U ∈ explicitModes) := by
          rintro ⟨hemail, -, hmode⟩
          exact hc.elim hemail fun h => h hmode
        rw [modeRule, if_pos hc, decide_eq_false hskip]
        exact ih
      · rw [modeRule, if_neg hc]
        rw [not_or, not_not] at hc
        dsimp only
        rw [List.find?_cons, ruleMatches_clientRule]
        by_cases he : c.email = email
        · rw [decide_eq_true he, decide_eq_true ⟨hc.1, he, hc.2⟩, ← he]
          rfl
        · rw [decide_eq_false he, decide_eq_false fun h => he h.2.1]
          exact ih

/-- The bound servers are those with an assignment. -/
lemma exists_assignment_iff (h : buildXrayHandoffAssignments sha1 bindings [] = some assignments)
    {s : Text} : (∃ a ∈ assignments, a.selectedServerId = s) ↔
      s ≠ [] ∧ ∃ b ∈ bindings, b.server = s := by
  obtain ⟨-, htargets, -⟩ := build_spec wellPlaced_nil h
  rw [← @mem_boundServers sha1, boundServers, ← htargets, List.map_map, List.mem_map]
  rfl

/-- Different clients have different emails. -/
def DistinctEmails (bindings : List ClientBinding) : Prop :=
  ∀ b ∈ bindings, ∀ c ∈ bindings, b.email = c.email → b.email ≠ [] → b = c

/-- The rules of the bindings that match are those of the client's bindings. -/
lemma of_mem_bindingRules (h : buildXrayHandoffAssignments sha1 bindings [] = some assignments)
    {v : Value} (hv : v ∈ managedRoutingRulesFromBindings bindings (egressTagsByServer assignments)) :
    ∃ b ∈ bindings, b.Binds b.email ∧ v = clientRule b.email (xrayManagedEgressTag sha1 b.server) := by
  obtain ⟨hplaced, -, -⟩ := build_spec wellPlaced_nil h
  obtain ⟨b, hb, hrule⟩ := List.mem_filterMap.mp hv
  obtain ⟨hemail, hbound, rfl⟩ := (bindingRule_eq_some hplaced).mp hrule
  exact ⟨b, hb, ⟨rfl, hemail, ((exists_assignment_iff h).mp hbound).1⟩, rfl⟩

lemma find_bindingRules (h : buildXrayHandoffAssignments sha1 bindings [] = some assignments)
    (hdistinct : DistinctEmails bindings) {b : ClientBinding} (hb : b ∈ bindings)
    (hbinds : b.Binds email) :
    (managedRoutingRulesFromBindings bindings (egressTagsByServer assignments)).find?
        (ruleMatches xrayInboundTag email) =
      some (clientRule email (xrayManagedEgressTag sha1 b.server)) := by
  obtain ⟨hplaced, -, -⟩ := build_spec wellPlaced_nil h
  obtain ⟨rfl, hemail, hserver⟩ := hbinds
  have hmem : clientRule b.email (xrayManagedEgressTag sha1 b.server) ∈
      managedRoutingRulesFromBindings bindings (egressTagsByServer assignments) := by
    refine List.mem_filterMap.mpr ⟨b, hb, (bindingRule_eq_some hplaced).mpr ⟨hemail, ?_, rfl⟩⟩
    exact (exists_assignment_iff h).mpr ⟨hserver, b, hb, rfl⟩
  cases hfound : (managedRoutingRulesFromBindings bindings
      (egressTagsByServer assignments)).find? (ruleMatches xrayInboundTag b.email) with
  | none =>
      have := List.find?_eq_none.mp hfound _ hmem
      rw [ruleMatches_clientRule, decide_eq_true rfl] at this
      exact absurd rfl this
  | some v =>
      obtain ⟨c, hc, -, rfl⟩ := of_mem_bindingRules h (List.mem_of_find?_eq_some hfound)
      have hmatch := List.find?_some hfound
      rw [ruleMatches_clientRule] at hmatch
      obtain rfl : b = c := hdistinct b hb c hc (of_decide_eq_true hmatch).symm hemail
      rfl

lemma find_bindingRules_none (h : buildXrayHandoffAssignments sha1 bindings [] = some assignments)
    (hfree : ∀ b ∈ bindings, ¬b.Binds email) :
    (managedRoutingRulesFromBindings bindings (egressTagsByServer assignments)).find?
        (ruleMatches xrayInboundTag email) = none := by
  rw [List.find?_eq_none]
  intro v hv hmatch
  obtain ⟨b, hb, hbinds, rfl⟩ := of_mem_bindingRules h hv
  rw [ruleMatches_clientRule] at hmatch
  exact hfree b hb (of_decide_eq_true hmatch ▸ hbinds)

end Rules

/-! ## Which outbound a tag names -/

section Outbounds

variable {reprText : Text → Text} {sha1 : Sha1} {assignments : List Assignment}

lemma hasTag_outbound (tag t : Text) (protocol : String) (settings : Dict) :
    hasTag reprText t (outbound tag protocol settings) = decide (tag = t) := by
  show decide ((Value.str tag).textOr reprText = t) = _
  rw [Value.textOr_str]

/-- A tag of a bound server is none of the fixed ones. -/
lemma egressTag_ne {tag : Text} (h : xrayManagedEgressPrefix.isPrefixOf tag = false) (s : Text) :
    ¬tag = xrayManagedEgressTag sha1 s := by
  rintro rfl
  have hpre : xrayManagedEgressPrefix.isPrefixOf (xrayManagedEgressTag sha1 s) = true := by
    rw [List.isPrefixOf_iff_prefix]
    exact List.prefix_append _ _
  rw [hpre] at h
  exact absurd h (by decide)

lemma hasTag_fixed (s : Text) :
    ∀ o ∈ fixedOutbounds, hasTag reprText (xrayManagedEgressTag sha1 s) o = false := by
  intro o ho
  simp only [fixedOutbounds, List.mem_cons, List.not_mem_nil, or_false] at ho
  rcases ho with rfl | rfl | rfl | rfl
  · exact (hasTag_outbound _ _ _ _).trans (decide_eq_false (egressTag_ne (by decide) s))
  · exact (hasTag_outbound _ _ _ _).trans (decide_eq_false (egressTag_ne (by decide) s))
  · exact (hasTag_outbound _ _ _ _).trans (decide_eq_false (egressTag_ne (by decide) s))
  · exact (hasTag_outbound _ _ _ _).trans (decide_eq_false (egressTag_ne (by decide) s))

/-- An outbound that stays has no managed tag. -/
lemma hasTag_preserved {tag : Text} (htag : isManagedTag tag = true) {outbounds : List Value} :
    ∀ o ∈ preservedOutbounds reprText outbounds, hasTag reprText tag o = false := by
  intro o ho
  obtain ⟨-, hstay⟩ := List.mem_filter.mp ho
  rw [hasTag]
  cases hdict : o.asDict with
  | none => rfl
  | some fields =>
      rw [hdict] at hstay
      have hmanaged : isManagedOutbound reprText fields = false := by simpa using hstay
      rw [Option.any_some, decide_eq_false]
      rintro rfl
      rw [isManagedOutbound, htag] at hmanaged
      exact absurd hmanaged (by decide)

/-- The SOCKS outbound of an assignment has the tag of its server. -/
lemma hasTag_egress (h : WellPlaced sha1 assignments) {a : Assignment} (ha : a ∈ assignments)
    (t : Text) : hasTag reprText t (buildSocksHandoffOutbound a.tag a.port) =
      decide (xrayManagedEgressTag sha1 a.selectedServerId = t) := by
  rw [buildSocksHandoffOutbound, hasTag_outbound, (h.named a ha).tag]

lemma egressTag_inj {s t : Text} : xrayManagedEgressTag sha1 s = xrayManagedEgressTag sha1 t ↔
    xrayHandoffDigest sha1 s = xrayHandoffDigest sha1 t := by
  rw [xrayManagedEgressTag, xrayManagedEgressTag, List.append_cancel_left_eq]

lemma egress_values (h : WellPlaced sha1 assignments) :
    (egressByServer assignments).map Prod.snd =
      assignments.map fun a => buildSocksHandoffOutbound a.tag a.port := by
  rw [egressByServer_eq h, List.map_map]
  rfl

/-- The SOCKS outbounds with the tag of a server are those of the servers with its digest. -/
lemma filter_egress (h : WellPlaced sha1 assignments) (s : Text) :
    ((egressByServer assignments).map Prod.snd).filter
        (hasTag reprText (xrayManagedEgressTag sha1 s)) =
      (assignments.filter fun a => decide (xrayHandoffDigest sha1 a.selectedServerId =
        xrayHandoffDigest sha1 s)).map fun a => buildSocksHandoffOutbound a.tag a.port := by
  rw [egress_values h, List.filter_map]
  congr 1
  refine List.filter_congr fun a ha => ?_
  show hasTag reprText _ (buildSocksHandoffOutbound a.tag a.port) = _
  rw [hasTag_egress h ha]
  exact decide_eq_decide.mpr egressTag_inj

end Outbounds

/-! ## The policy of a client -/

section Policy

variable {U : Unicode} {reprText : Text → Text} {sha1 : Sha1} {payload : Dict}
  {bindings : List ClientBinding} {clientModes : List ClientMode} {email : Text} {m : Materialized}

/-- No bound server shares its digest with a server that a client has a rule for. -/
def DistinctDigests (sha1 : Sha1) (bindings : List ClientBinding) : Prop :=
  ∀ b ∈ bindings, b.Binds b.email → ∀ c ∈ bindings, c.server ≠ [] →
    xrayHandoffDigest sha1 c.server = xrayHandoffDigest sha1 b.server → c.server = b.server

/-- Somebody has decided about the client: a directive, a binding, or a rule of the configuration
that FWRouter does not own. -/
def Listed (U : Unicode) (reprText : Text → Text) (payload : Dict) (bindings : List ClientBinding)
    (clientModes : List ClientMode) (email : Text) : Prop :=
  (directiveOf U clientModes email).isSome = true ∨ (∃ b ∈ bindings, b.Binds email) ∨
    ∃ preserved, preservedRules reprText (rulesOf payload) = some preserved ∧
      ∃ rule ∈ preserved, ruleMatches xrayInboundTag email rule = true

/-- A list without repetitions whose elements are all the same has at most one. -/
lemma length_eq_one {α : Type} {l : List α} {a : α} (hnodup : l.Nodup) (ha : a ∈ l)
    (hall : ∀ x ∈ l, x = a) : l.length = 1 := by
  obtain ⟨n, hn⟩ : ∃ n, l = List.replicate n a := ⟨l.length, List.eq_replicate_iff.mpr ⟨rfl, hall⟩⟩
  rw [hn, List.nodup_replicate] at hnodup
  rw [hn, List.mem_replicate] at ha
  rw [hn, List.length_replicate]
  omega

/-- The tag of a server that a client is bound to names one outbound exactly when no other bound
server has its digest. -/
lemma filter_egress_length (h : buildXrayHandoffAssignments sha1 bindings [] = some m.assignments)
    {b : ClientBinding} (hb : b ∈ bindings) (hserver : b.server ≠ []) :
    (((egressByServer m.assignments).map Prod.snd).filter
        (hasTag reprText (xrayManagedEgressTag sha1 b.server))).length = 1 ↔
      ∀ c ∈ bindings, c.server ≠ [] →
        xrayHandoffDigest sha1 c.server = xrayHandoffDigest sha1 b.server → c.server = b.server := by
  obtain ⟨hplaced, -, -⟩ := build_spec wellPlaced_nil h
  rw [filter_egress hplaced, List.length_map]
  obtain ⟨a, ha, hab⟩ := (exists_assignment_iff h).mpr ⟨hserver, b, hb, rfl⟩
  have hmem : a ∈ m.assignments.filter fun a => decide (xrayHandoffDigest sha1 a.selectedServerId =
      xrayHandoffDigest sha1 b.server) :=
    List.mem_filter.mpr ⟨ha, decide_eq_true (by rw [hab])⟩
  constructor
  · intro hone c hc hcs hdigest
    obtain ⟨a', ha', hac⟩ := (exists_assignment_iff h).mpr ⟨hcs, c, hc, rfl⟩
    have hmem' : a' ∈ m.assignments.filter fun a =>
        decide (xrayHandoffDigest sha1 a.selectedServerId = xrayHandoffDigest sha1 b.server) :=
      List.mem_filter.mpr ⟨ha', decide_eq_true (by rw [hac, hdigest])⟩
    obtain ⟨x, hx⟩ := List.length_eq_one_iff.mp hone
    rw [hx, List.mem_singleton] at hmem hmem'
    rw [← hac, ← hab, hmem, hmem']
  · intro hunique
    refine length_eq_one ((List.Nodup.of_map _ hplaced.servers).filter _) hmem ?_
    intro x hx
    obtain ⟨hx, hdigest⟩ := List.mem_filter.mp hx
    obtain ⟨hxs, c, hc, hcx⟩ := (exists_assignment_iff h).mp ⟨x, hx, rfl⟩
    have hsame : x.selectedServerId = a.selectedServerId := by
      rw [hab, ← hcx]
      refine hunique c hc (by rw [hcx]; exact hxs) ?_
      rw [hcx]
      exact of_decide_eq_true hdigest
    exact List.inj_on_of_nodup_map hplaced.servers hx ha hsame

/-- The outbounds of the result with a managed tag are fixed ones or SOCKS ones. -/
lemma filter_outbounds {outbounds : List Value} {egress : List Value} {tag : Text}
    (htag : isManagedTag tag = true) :
    (fixedOutbounds ++ egress ++ preservedOutbounds reprText outbounds).filter (hasTag reprText tag) =
      fixedOutbounds.filter (hasTag reprText tag) ++ egress.filter (hasTag reprText tag) := by
  have hpreserved : (preservedOutbounds reprText outbounds).filter (hasTag reprText tag) = [] :=
    List.filter_eq_nil_iff.mpr fun o ho => by rw [hasTag_preserved htag o ho]; decide
  rw [List.filter_append, List.filter_append, hpreserved, List.append_nil]

/-- The fixed tags name their outbounds; no SOCKS outbound has one of them. -/
lemma filter_fixed (hplaced : WellPlaced sha1 m.assignments) {tag : Text}
    (htag : xrayManagedEgressPrefix.isPrefixOf tag = false) :
    ((egressByServer m.assignments).map Prod.snd).filter (hasTag reprText tag) = [] := by
  rw [List.filter_eq_nil_iff, egress_values hplaced]
  intro o ho
  obtain ⟨a, ha, rfl⟩ := List.mem_map.mp ho
  rw [hasTag_egress hplaced ha, decide_eq_true_eq]
  exact fun h => egressTag_ne htag _ h.symm

lemma filter_mode_length (mode : Text) :
    (fixedOutbounds.filter (hasTag reprText (modeOutboundTag mode))).length = 1 := by
  rw [modeOutboundTag]
  split_ifs
  · rfl
  · rfl

/-- **Every managed rule names exactly one outbound** exactly when the digests differ. -/
lemma managed_tags_iff
    (h : materializeManagedEgress U reprText sha1 payload bindings clientModes none = some m) :
    (∀ rule, Value.dict rule ∈ rulesOf m.payload → isManagedRule reprText rule = some true →
        ((outboundsOf m.payload).filter
          (hasTag reprText (tagOf reprText "outboundTag" rule))).length = 1) ↔
      DistinctDigests sha1 bindings := by
  obtain ⟨hbuild, kept, hkept, hrules, -, houtbounds, -⟩ := materialize_shape h
  obtain ⟨hplaced, -, -⟩ := build_spec wellPlaced_nil hbuild
  have hcount : ∀ b ∈ bindings, b.server ≠ [] →
      ((outboundsOf m.payload).filter
        (hasTag reprText (xrayManagedEgressTag sha1 b.server))).length =
      (((egressByServer m.assignments).map Prod.snd).filter
        (hasTag reprText (xrayManagedEgressTag sha1 b.server))).length := by
    intro b _ _
    have hfixed : fixedOutbounds.filter (hasTag reprText (xrayManagedEgressTag sha1 b.server)) = [] :=
      List.filter_eq_nil_iff.mpr fun o ho => by rw [hasTag_fixed b.server o ho]; decide
    rw [houtbounds, filter_outbounds (isManagedTag_egress _), hfixed, List.nil_append]
  constructor
  · intro htags b hb hbinds
    rw [← filter_egress_length hbuild hb hbinds.2.2, ← hcount b hb hbinds.2.2]
    obtain ⟨rule, hrule, htag⟩ := @asDict_clientRule reprText b.email
      (xrayManagedEgressTag sha1 b.server)
    rw [← htag]
    refine htags rule ?_ (isManagedRule_of_tag (by rw [htag]; exact isManagedTag_egress _))
    rw [hrules, ← hrule]
    refine List.mem_append_left _ (List.mem_cons_of_mem _ (List.mem_append_right _ ?_))
    refine List.mem_filterMap.mpr ⟨b, hb, (bindingRule_eq_some hplaced).mpr ⟨hbinds.2.1, ?_, rfl⟩⟩
    exact (exists_assignment_iff hbuild).mpr ⟨hbinds.2.2, b, hb, rfl⟩
  · intro hdigests rule hrule hmanaged
    rw [hrules, List.mem_append, List.mem_cons, managedRules, List.mem_append] at hrule
    rcases hrule with (hrule | hrule | hrule) | hrule
    · -- the rule of the API
      obtain rfl : rule = _ := Value.dict.inj hrule
      rw [houtbounds, filter_outbounds rfl, filter_fixed hplaced rfl, List.append_nil]
      rfl
    · obtain ⟨c, -, hc⟩ := List.mem_filterMap.mp hrule
      obtain ⟨-, -, hdict⟩ := modeRule_eq_some hc
      rw [houtbounds, tagOf_clientRule hdict, filter_outbounds (isManagedTag_mode _), filter_fixed hplaced,
        List.append_nil]
      · exact filter_mode_length _
      · rw [modeOutboundTag]
        split_ifs
        · rfl
        · rfl
    · obtain ⟨b, hb, hbinds, hdict⟩ := of_mem_bindingRules hbuild hrule
      rw [tagOf_clientRule hdict, hcount b hb hbinds.2.2, filter_egress_length hbuild hb hbinds.2.2]
      exact hdigests b hb hbinds
    · -- a rule that stays is not managed
      obtain ⟨rule', hrule', hfalse⟩ := of_mem_preservedRules hkept _ hrule
      obtain rfl : rule = rule' := Option.some.inj hrule'
      rw [hmanaged] at hfalse
      exact absurd hfalse (by decide)

end Policy

section Decision

variable {U : Unicode} {reprText : Text → Text} {sha1 : Sha1} {payload : Dict}
  {bindings : List ClientBinding} {clientModes : List ClientMode} {email : Text} {m : Materialized}

/-- Modes are tried first, then bindings, then the rules that stayed. -/
lemma find_rules
    (h : materializeManagedEgress U reprText sha1 payload bindings clientModes none = some m) :
    ∃ kept, preservedRules reprText (rulesOf payload) = some kept ∧
      (rulesOf m.payload).find? (ruleMatches xrayInboundTag email) =
        (((directiveOf U clientModes email).map fun mode =>
            clientRule email (modeOutboundTag mode)).or
          ((managedRoutingRulesFromBindings bindings (egressTagsByServer m.assignments)).find?
            (ruleMatches xrayInboundTag email))).or
          (kept.find? (ruleMatches xrayInboundTag email)) := by
  obtain ⟨-, kept, hkept, hrules, -, -, -⟩ := materialize_shape h
  refine ⟨kept, hkept, ?_⟩
  rw [hrules, List.find?_append, List.find?_cons, ruleMatches_apiRule, managedRules,
    List.find?_append, find_modeRules]

/-- A connection that meets a client's rule goes to the outbound with the tag of the rule. -/
lemma route_of_clientRule {d : Dict} {tag : Text}
    (h : (rulesOf d).find? (ruleMatches xrayInboundTag email) = some (clientRule email tag)) :
    route reprText d xrayInboundTag email = (outboundsOf d).find? (hasTag reprText tag) := by
  obtain ⟨rule, hrule, htag⟩ := @asDict_clientRule reprText email tag
  rw [route, h, hrule]
  show (outboundsOf d).find? (hasTag reprText (tagOf reprText "outboundTag" rule)) = _
  rw [htag]

/-- A client with a directive meets the outbound of its mode. -/
lemma route_of_directive
    (h : materializeManagedEgress U reprText sha1 payload bindings clientModes none = some m)
    {mode : Text} (hmode : directiveOf U clientModes email = some mode) :
    route reprText m.payload xrayInboundTag email =
      some (if mode = "direct".toList then explicitDirectOutbound else fallbackBlackholeOutbound) := by
  obtain ⟨-, _, -, -, -, houtbounds, -⟩ := materialize_shape h
  obtain ⟨kept, -, hfind⟩ := @find_rules U reprText sha1 payload bindings clientModes email m h
  rw [hmode, Option.map_some, Option.some_or, Option.some_or] at hfind
  rw [route_of_clientRule hfind, houtbounds, List.append_assoc, List.find?_append, modeOutboundTag]
  split_ifs
  · rfl
  · rfl

/-- The tag of a server whose digest no other server has names its SOCKS outbound. -/
lemma find_socks
    (h : materializeManagedEgress U reprText sha1 payload bindings clientModes none = some m)
    {a : Assignment} (ha : a ∈ m.assignments)
    (hunique : ∀ x ∈ m.assignments, xrayHandoffDigest sha1 x.selectedServerId =
      xrayHandoffDigest sha1 a.selectedServerId → x.selectedServerId = a.selectedServerId) :
    (outboundsOf m.payload).find?
        (hasTag reprText (xrayManagedEgressTag sha1 a.selectedServerId)) =
      some (buildSocksHandoffOutbound a.tag a.port) := by
  obtain ⟨hbuild, _, -, -, -, houtbounds, -⟩ := materialize_shape h
  obtain ⟨hplaced, -, -⟩ := build_spec wellPlaced_nil hbuild
  have hfixed : fixedOutbounds.find?
      (hasTag reprText (xrayManagedEgressTag sha1 a.selectedServerId)) = none :=
    List.find?_eq_none.mpr fun o ho => by rw [hasTag_fixed a.selectedServerId o ho]; decide
  have hmem : buildSocksHandoffOutbound a.tag a.port ∈
      (egressByServer m.assignments).map Prod.snd := by
    rw [egress_values hplaced]
    exact List.mem_map_of_mem (f := fun a : Assignment => buildSocksHandoffOutbound a.tag a.port) ha
  rw [houtbounds, List.find?_append, List.find?_append, hfixed, Option.none_or]
  cases hfound : ((egressByServer m.assignments).map Prod.snd).find?
      (hasTag reprText (xrayManagedEgressTag sha1 a.selectedServerId)) with
  | none =>
      have := List.find?_eq_none.mp hfound _ hmem
      rw [hasTag_egress hplaced ha, decide_eq_true rfl] at this
      exact absurd rfl this
  | some o =>
      have ho := List.mem_of_find?_eq_some hfound
      rw [egress_values hplaced] at ho
      obtain ⟨x, hx, rfl⟩ := List.mem_map.mp ho
      have htag := List.find?_some hfound
      rw [hasTag_egress hplaced hx, decide_eq_true_eq, egressTag_inj] at htag
      rw [List.inj_on_of_nodup_map hplaced.servers hx ha (hunique x hx htag)]
      rfl

/-- A bound client meets the SOCKS outbound of its server. -/
lemma route_of_binding
    (h : materializeManagedEgress U reprText sha1 payload bindings clientModes none = some m)
    (hdistinct : DistinctEmails bindings) (hdigests : DistinctDigests sha1 bindings)
    (hfree : directiveOf U clientModes email = none) {b : ClientBinding} (hb : b ∈ bindings)
    (hbinds : b.Binds email) :
    ∃ socks, (egressByServer m.assignments).lookup b.server = some socks ∧
      route reprText m.payload xrayInboundTag email = some socks := by
  obtain ⟨hbuild, -⟩ := materialize_shape h
  obtain ⟨hplaced, -, -⟩ := build_spec wellPlaced_nil hbuild
  obtain ⟨kept, -, hfind⟩ := @find_rules U reprText sha1 payload bindings clientModes email m h
  rw [hfree, Option.map_none, Option.none_or, find_bindingRules hbuild hdistinct hb hbinds,
    Option.some_or] at hfind
  obtain ⟨a, ha, hab⟩ := (exists_assignment_iff hbuild).mpr ⟨hbinds.2.2, b, hb, rfl⟩
  refine ⟨buildSocksHandoffOutbound a.tag a.port, ?_, ?_⟩
  · rw [egressByServer_eq hplaced,
      KeyedTable.lookup_map_key (fun a : Assignment => a.selectedServerId),
      (KeyedTable.find?_key_iff hplaced.servers).mpr ⟨ha, hab⟩]
    rfl
  · rw [route_of_clientRule hfind, ← hab]
    refine find_socks h ha fun x hx hdigest => ?_
    obtain ⟨hxs, c, hc, hcx⟩ := (exists_assignment_iff hbuild).mp ⟨x, hx, rfl⟩
    rw [hab] at hdigest ⊢
    rw [← hcx] at hxs hdigest ⊢
    exact hdigests b hb ⟨rfl, hbinds.1 ▸ hbinds.2.1, hbinds.2.2⟩ c hc hxs hdigest

/-- A client nobody has decided about meets the first outbound, which is the one of the API. -/
lemma route_of_unlisted
    (h : materializeManagedEgress U reprText sha1 payload bindings clientModes none = some m)
    (hunlisted : ¬Listed U reprText payload bindings clientModes email) :
    route reprText m.payload xrayInboundTag email = some managedApiOutbound := by
  obtain ⟨hbuild, _, -, -, -, houtbounds, -⟩ := materialize_shape h
  obtain ⟨kept, hkept, hfind⟩ := @find_rules U reprText sha1 payload bindings clientModes email m h
  rw [Listed, not_or, not_or] at hunlisted
  obtain ⟨hdirective, hbound, hrule⟩ := hunlisted
  have hnone : directiveOf U clientModes email = none := by simpa using hdirective
  have hfree : ∀ b ∈ bindings, ¬b.Binds email := fun b hb hbinds => hbound ⟨b, hb, hbinds⟩
  have hkeptNone : kept.find? (ruleMatches xrayInboundTag email) = none :=
    List.find?_eq_none.mpr fun rule hmem hmatch => hrule ⟨kept, hkept, rule, hmem, hmatch⟩
  rw [hnone, find_bindingRules_none hbuild hfree, hkeptNone] at hfind
  rw [route, hfind, houtbounds]
  rfl

lemma apiOutbound_ne_fallback : managedApiOutbound ≠ fallbackBlackholeOutbound := by
  intro h
  have hprotocol := congrArg (fun o : Value => (o.dictOr.get "protocol").asText) h
  have hlit : (some "freedom".toList : Option Text) = some "blackhole".toList := hprotocol
  exact absurd hlit (by decide)

/-- **When the rendered routing is the client's policy.**  For a client that has no directive
besides a binding, the configuration of one run decides its policy (with unique tags, with what is
not managed kept, and stable under a second run) exactly when somebody has decided about it, by a
directive, a binding or a rule that stays, and no digest of a bound server is shared. -/
theorem client_policy_decided_iff
    (h : materializeManagedEgress U reprText sha1 payload bindings clientModes none = some m)
    (hdistinct : DistinctEmails bindings)
    (hexclusive : directiveOf U clientModes email = none ∨ ∀ b ∈ bindings, ¬b.Binds email) :
    DecidesPolicy U reprText sha1 payload bindings clientModes email m ↔
      Listed U reprText payload bindings clientModes email ∧ DistinctDigests sha1 bindings := by
  obtain ⟨hbuild, kept, hkept, -, hstay, houtbounds, hagain⟩ := materialize_shape h
  obtain ⟨hplaced, -, -⟩ := build_spec wellPlaced_nil hbuild
  constructor
  · intro hpolicy
    refine ⟨?_, (managed_tags_iff h).mp hpolicy.tags⟩
    by_contra hunlisted
    have hroute := route_of_unlisted h hunlisted
    rw [Listed, not_or, not_or] at hunlisted
    obtain ⟨hdirective, hbound, hrule⟩ := hunlisted
    have hfallback := hpolicy.unlisted (by simpa using hdirective)
      (fun b hb hbinds => hbound ⟨b, hb, hbinds⟩) fun preserved hpreserved rule hmem =>
        Bool.eq_false_iff.mpr fun hmatch => hrule ⟨preserved, hpreserved, rule, hmem, hmatch⟩
    rw [hroute] at hfallback
    exact apiOutbound_ne_fallback (Option.some.inj hfallback)
  · rintro ⟨hlisted, hdigests⟩
    refine ⟨?_, ?_, ?_, ?_, (managed_tags_iff h).mpr hdigests, ?_, ?_, hagain⟩
    · intro hmode
      rw [route_of_directive h hmode, if_pos rfl]
    · intro mode hmode hne
      rw [route_of_directive h hmode, if_neg hne]
    · intro b hb hbinds
      have hfree : directiveOf U clientModes email = none :=
        hexclusive.resolve_right fun hnone => hnone b hb hbinds
      exact route_of_binding h hdistinct hdigests hfree hb hbinds
    · -- the client is listed, so this case does not arise
      intro hnone hfree hrule
      exfalso
      rcases hlisted with hdirective | ⟨b, hb, hbinds⟩ | ⟨preserved, hpreserved, rule, hmem, hmatch⟩
      · rw [hnone] at hdirective
        exact absurd hdirective (by decide)
      · exact hfree b hb hbinds
      · rw [hrule preserved hpreserved rule hmem] at hmatch
        exact absurd hmatch (by decide)
    · rw [houtbounds, preservedOutbounds_section (egress_managed hplaced)]
    · rw [hstay, hkept]

end Decision

/-! ## Two clients -/

/-- A configuration with the managed inbound and nothing else. -/
def plainPayload : Dict :=
  [field "inbounds" (.list [.dict [field "tag" (.str xrayInboundTag),
    field "protocol" (literal "vless")]])]

/-- A client that is bound to a server. -/
def boundClient : ClientBinding where
  subjectId := "xray:alice".toList
  clientEmail := "alice@example.test".toList
  selectedServerId := "server-166".toList
  handoffProxyName := []

theorem bound_client_policy_decided : ∃ m,
    materializeManagedEgress Unicode.ascii id sampleSha1 plainPayload [boundClient] [] none =
        some m ∧
      DecidesPolicy Unicode.ascii id sampleSha1 plainPayload [boundClient] []
        "alice@example.test".toList m := by
  have hreturns : (materializeManagedEgress Unicode.ascii id sampleSha1 plainPayload [boundClient] []
      none).isSome = true := by decide +kernel
  obtain ⟨m, hm⟩ := Option.isSome_iff_exists.mp hreturns
  have hone : ∀ b ∈ [boundClient], b = boundClient := fun b hb => List.mem_singleton.mp hb
  refine ⟨m, hm, (client_policy_decided_iff hm ?_ (Or.inl rfl)).mpr ⟨?_, ?_⟩⟩
  · intro b hb c hc _ _
    rw [hone b hb, hone c hc]
  · refine Or.inr (Or.inl ⟨boundClient, List.mem_singleton_self _, ?_, ?_, ?_⟩)
    · show strip _ = _
      decide +kernel
    · decide
    · show strip _ ≠ _
      decide +kernel
  · intro b hb _ c hc _ _
    rw [hone b hb, hone c hc]

/-- A client that is in no list meets the outbound of the API, whose protocol is `freedom`. -/
theorem unlisted_client_meets_freedom : ∃ m,
    materializeManagedEgress Unicode.ascii id sampleSha1 plainPayload [] [] none = some m ∧
      route id m.payload xrayInboundTag "alice@example.test".toList = some managedApiOutbound ∧
      ¬DecidesPolicy Unicode.ascii id sampleSha1 plainPayload [] [] "alice@example.test".toList m := by
  have hreturns : (materializeManagedEgress Unicode.ascii id sampleSha1 plainPayload [] []
      none).isSome = true := by decide +kernel
  obtain ⟨m, hm⟩ := Option.isSome_iff_exists.mp hreturns
  have hnorules : preservedRules id (rulesOf plainPayload) = some [] := rfl
  have hunlisted : ¬Listed Unicode.ascii id plainPayload [] [] "alice@example.test".toList := by
    rintro (h | ⟨b, hb, -⟩ | ⟨kept, hkept, rule, hrule, -⟩)
    · exact absurd h (by decide)
    · simp at hb
    · rw [hnorules, Option.some.injEq] at hkept
      subst hkept
      simp at hrule
  have hroute := route_of_unlisted hm hunlisted
  refine ⟨m, hm, hroute, fun hpolicy => ?_⟩
  have hfallback := hpolicy.unlisted rfl (by simp) (by
    intro preserved hpreserved rule hrule
    rw [hnorules, Option.some.injEq] at hpreserved
    subst hpreserved
    simp at hrule)
  rw [hroute] at hfallback
  exact apiOutbound_ne_fallback (Option.some.inj hfallback)

end Xray
