import FwRouter.Python.Value
import FwRouter.Xray.Handoff

/-!
# The managed part of the Xray configuration

`_materialize_managed_egress` of `adapters/xray_real.py`, with what it calls.  It rewrites the
sections of a configuration that FWRouter owns: the statistics and the API, the outbounds (the API,
the blackhole, the direct one, the DNS one and a SOCKS outbound for every bound server), and the
routing rules (the API rule, one rule for each client with a mode, one for each bound client).
Outbounds and rules that are not recognised as its own stay behind these, in their order.

A configuration is the dict that `json.loads` gives.  Every section is written as an update of one
key by a function of what the key held, so that a second run can be compared key by key.
-/

namespace Xray

open Py

def xrayInboundTag : Text := "vless-ws".toList

def xrayFallbackOutboundTag : Text := "blocked-until-fwrouter-dataplane".toList

def xrayExplicitDirectOutboundTag : Text := "fwrouter-explicit-direct".toList

def xrayManagedDnsOutboundTag : Text := "fwrouter-dns-out".toList

def xrayApiTag : Text := "fwrouter-api".toList

def xrayApiPort : ℤ := 10085

/-- `key: value` in a dict display. -/
def field (key : String) (value : Value) : Text × Value := (key.toList, value)

/-- A text literal. -/
def literal (s : String) : Value := .str s.toList

/-! ## Outbounds and rules that FWRouter writes -/

def outbound (tag : Text) (protocol : String) (settings : Dict) : Value :=
  .dict [field "tag" (.str tag), field "protocol" (literal protocol), field "settings" (.dict settings)]

def fallbackBlackholeOutbound : Value := outbound xrayFallbackOutboundTag "blackhole" []

def explicitDirectOutbound : Value := outbound xrayExplicitDirectOutboundTag "freedom" []

def managedDnsOutbound : Value :=
  outbound xrayManagedDnsOutboundTag "dns"
    [field "rewriteNetwork" (literal "udp"), field "rewriteAddress" (literal "1.1.1.1"),
      field "rewritePort" (.int 53)]

def managedApiOutbound : Value := outbound xrayApiTag "freedom" []

def buildSocksHandoffOutbound (tag : Text) (port : ℕ) : Value :=
  outbound tag "socks"
    [field "servers"
      (.list [.dict [field "address" (.str xrayMihomoHandoffHost), field "port" (.int port)]])]

def managedApiInbound : Value :=
  .dict [field "tag" (.str xrayApiTag), field "listen" (literal "127.0.0.1"),
    field "port" (.int xrayApiPort), field "protocol" (literal "dokodemo-door"),
    field "settings" (.dict [field "address" (literal "127.0.0.1")])]

def managedApiRule : Value :=
  .dict [field "type" (literal "field"), field "inboundTag" (.list [.str xrayApiTag]),
    field "outboundTag" (.str xrayApiTag)]

/-- The rule of one client on the managed inbound. -/
def clientRule (email outboundTag : Text) : Value :=
  .dict [field "type" (literal "field"), field "inboundTag" (.list [.str xrayInboundTag]),
    field "user" (.list [.str email]), field "outboundTag" (.str outboundTag)]

/-! ## The clients -/

/-- What is read of an entry of `client_modes`, each field as `str(value or "")`. -/
structure ClientMode where
  clientEmail : Text
  effectiveMode : Text
deriving DecidableEq

/-- `str(binding.get("client_email") or "").strip()`. -/
def ClientBinding.email (b : ClientBinding) : Text := strip b.clientEmail

def ClientMode.email (m : ClientMode) : Text := strip m.clientEmail

/-- `str(directive.get("effective_mode") or "").strip().lower()`. -/
def ClientMode.mode (U : Unicode) (m : ClientMode) : Text := U.lower (strip m.effectiveMode)

/-- The modes that get a rule. -/
def explicitModes : List Text :=
  ["direct".toList, "disabled".toList, "unsupported_selective".toList]

/-- The outbound of a mode. -/
def modeOutboundTag (mode : Text) : Text :=
  if mode = "direct".toList then xrayExplicitDirectOutboundTag else xrayFallbackOutboundTag

def modeRule (U : Unicode) (m : ClientMode) : Option Value :=
  if m.email = [] ∨ m.mode U ∉ explicitModes then none
  else some (clientRule m.email (modeOutboundTag (m.mode U)))

def managedModeRules (U : Unicode) (clientModes : List ClientMode) : List Value :=
  clientModes.filterMap (modeRule U)

/-- The rule of a binding, if it has an email and its server an outbound. -/
def bindingRule (egressTagsByServer : List (Text × Text)) (b : ClientBinding) : Option Value :=
  let outboundTag := (egressTagsByServer.lookup b.server).getD []
  if b.email = [] ∨ outboundTag = [] then none else some (clientRule b.email outboundTag)

def managedRoutingRulesFromBindings (bindings : List ClientBinding)
    (egressTagsByServer : List (Text × Text)) : List Value :=
  bindings.filterMap (bindingRule egressTagsByServer)

/-- `egress_by_server`. -/
def egressByServer (assignments : List Assignment) : List (Text × Value) :=
  assignments.foldl (fun egress a =>
    KeyedTable.assign a.selectedServerId (buildSocksHandoffOutbound a.tag a.port) egress) []

/-- `egress_tags_by_server`. -/
def egressTagsByServer (assignments : List Assignment) : List (Text × Text) :=
  assignments.foldl (fun tags a => KeyedTable.assign a.selectedServerId a.tag tags) []

/-! ## What is recognised as managed -/

def isManagedTag (tag : Text) : Bool :=
  decide (tag = xrayApiTag ∨ tag = xrayFallbackOutboundTag ∨
    tag = xrayExplicitDirectOutboundTag ∨ tag = xrayManagedDnsOutboundTag) ||
      xrayManagedEgressPrefix.isPrefixOf tag

/-- `tag in (value or [])`, where a text stands for the list of itself; `none` is the `TypeError`
for a value that holds nothing. -/
def holds (tag : Text) (v : Value) : Option Bool :=
  if v.truthy then
    match v with
    | .str s => some (decide (s = tag))
    | .list values => some (values.any (Value.isText tag))
    | .dict fields => some (fields.lookup tag).isSome
    | _ => none
  else some false

section Sections

variable (U : Unicode) (reprText : Text → Text)

/-- `str(item.get(key) or "")`. -/
def tagOf (key : String) (item : Dict) : Text := (item.get key).textOr reprText

def isManagedOutbound (o : Dict) : Bool := isManagedTag (tagOf reprText "tag" o)

/-- `none` is the `TypeError` of an `inboundTag` that cannot be searched. -/
def isManagedRule (rule : Dict) : Option Bool :=
  if isManagedTag (tagOf reprText "outboundTag" rule) then some true
  else
    (holds xrayApiTag (rule.get "inboundTag")).bind fun api =>
      if api then some true
      else (holds xrayInboundTag (rule.get "inboundTag")).map fun managed =>
        managed && rule.has "user"

/-- The outbounds that stay: dicts that are not recognised. -/
def preservedOutbounds (outbounds : List Value) : List Value :=
  outbounds.filter fun o => o.asDict.any fun o => !isManagedOutbound reprText o

/-- The rules that stay. -/
def preservedRules : List Value → Option (List Value)
  | [] => some []
  | v :: rest =>
      match v.asDict with
      | none => preservedRules rest
      | some rule =>
          (isManagedRule reprText rule).bind fun managed =>
            (preservedRules rest).map fun kept => if managed then kept else v :: kept

/-! ## The sections of the configuration -/

def statsSection (v : Value) : Value := .dict v.dictOr

def apiSection (v : Value) : Value :=
  .dict ((v.dictOr.set "tag" (.str xrayApiTag)).set "services"
    (.list [literal "StatsService", literal "HandlerService"]))

def levelZero (v : Value) : Value :=
  .dict ((v.dictOr.set "statsUserUplink" (.bool true)).set "statsUserDownlink" (.bool true))

def levelsSection (v : Value) : Value := .dict (v.dictOr.update "0" levelZero)

def policySection (v : Value) : Value := .dict (v.dictOr.update "levels" levelsSection)

def inboundsSection (v : Value) : Value :=
  .list ((v.listOr.filter fun i => i.asDict.any fun i => decide (tagOf reprText "tag" i ≠ xrayApiTag))
    ++ [managedApiInbound])

def ensureRuntimeStats (payload : Dict) : Dict :=
  (((payload.update "stats" statsSection).update "api" apiSection).update "policy"
    policySection).update "inbounds" (inboundsSection reprText)

def dnsSection (v : Value) : Value :=
  .dict ((v.dictOr.set "servers"
    (.list [literal "172.17.0.1", literal "1.1.1.1", literal "8.8.8.8"])).set "queryStrategy"
      (literal "UseIPv4"))

/-- The outbounds that do not depend on the bindings, in the order in which they stand. -/
def fixedOutbounds : List Value :=
  [managedApiOutbound, fallbackBlackholeOutbound, explicitDirectOutbound, managedDnsOutbound]

def outboundsSection (egress : List Value) (v : Value) : Value :=
  .list (fixedOutbounds ++ egress ++ preservedOutbounds reprText v.listOr)

def routingSection (managedRules : List Value) (v : Value) : Option Value :=
  (preservedRules reprText (v.dictOr.get "rules").listOr).map fun preserved =>
    .dict ((v.dictOr.update "domainStrategy" fun strategy => strategy.or (literal "AsIs")).set "rules"
      (.list (managedApiRule :: managedRules ++ preserved)))

/-- What `_materialize_managed_egress` returns, with the payload it has changed. -/
structure Materialized where
  payload : Dict
  managedRulesCount : ℕ
  managedOutboundsCount : ℕ
  egressTags : List (Text × Text)
  assignments : List Assignment

/-- The rules of the clients: modes before bindings. -/
def managedRules (bindings : List ClientBinding) (clientModes : List ClientMode)
    (assignments : List Assignment) : List Value :=
  managedModeRules U clientModes ++
    managedRoutingRulesFromBindings bindings (egressTagsByServer assignments)

/-- The changed sections, once the assignments are known. -/
def materializeSections (payload : Dict) (bindings : List ClientBinding)
    (clientModes : List ClientMode) (assignments : List Assignment) : Option Dict :=
  let stats := ensureRuntimeStats reprText payload
  (routingSection reprText (managedRules U bindings clientModes assignments)
      (stats.get "routing")).map fun routing =>
    ((stats.update "dns" dnsSection).update "outbounds"
      (outboundsSection reprText ((egressByServer assignments).map Prod.snd))).set "routing" routing

variable (sha1 : Sha1)

/-- `none` is one of the two exceptions: no free handoff port, or an `inboundTag` of an existing
rule that cannot be searched. -/
def materializeManagedEgress (payload : Dict) (bindings : List ClientBinding)
    (clientModes : List ClientMode) (handoffAssignments : Option (List Assignment)) :
    Option Materialized :=
  (handoffAssignments.or (buildXrayHandoffAssignments sha1 bindings [])).bind fun assignments =>
    (materializeSections U reprText payload bindings clientModes assignments).map fun payload =>
      { payload := payload
        managedRulesCount := (managedRules U bindings clientModes assignments).length
        managedOutboundsCount := (egressByServer assignments).length
        egressTags := egressTagsByServer assignments
        assignments := assignments }

end Sections

/-! ## Reading a configuration -/

def outboundsOf (payload : Dict) : List Value := (payload.get "outbounds").listOr

def rulesOf (payload : Dict) : List Value := ((payload.get "routing").dictOr.get "rules").listOr

/-! ## A second run -/

section Again

variable {reprText : Text → Text}

lemma statsSection_again (v : Value) : statsSection (statsSection v) = statsSection v := rfl

lemma apiSection_again (v : Value) : apiSection (apiSection v) = apiSection v := by
  simp only [apiSection, Value.dictOr, Value.asDict, Option.getD_some]
  rw [Dict.set_eq_self (k := "tag"), Dict.set_eq_self]
  · simp
  · simp
  · simp [Dict.has_set_of_ne]
  · simp [Dict.get_set_of_ne]

lemma levelZero_again (v : Value) : levelZero (levelZero v) = levelZero v := by
  simp only [levelZero, Value.dictOr, Value.asDict, Option.getD_some]
  rw [Dict.set_eq_self (k := "statsUserUplink"), Dict.set_eq_self]
  · simp
  · simp
  · simp [Dict.has_set_of_ne]
  · simp [Dict.get_set_of_ne]

lemma policySection_again (v : Value) : policySection (policySection v) = policySection v := by
  have hlevels : ∀ w, levelsSection (levelsSection w) = levelsSection w := fun w =>
    congrArg Value.dict (Dict.settled_update levelZero_again).update_eq
  exact congrArg Value.dict (Dict.settled_update hlevels).update_eq

lemma inboundsSection_again (v : Value) :
    inboundsSection reprText (inboundsSection reprText v) = inboundsSection reprText v := by
  simp only [inboundsSection, Value.listOr, List.filter_append, List.filter_filter, Bool.and_self]
  have hapi : [managedApiInbound].filter (fun i => i.asDict.any fun i =>
      decide (tagOf reprText "tag" i ≠ xrayApiTag)) = [] := rfl
  rw [hapi, List.append_nil]

lemma dnsSection_again (v : Value) : dnsSection (dnsSection v) = dnsSection v := by
  simp only [dnsSection, Value.dictOr, Value.asDict, Option.getD_some]
  rw [Dict.set_eq_self (k := "servers"), Dict.set_eq_self]
  · simp
  · simp
  · simp [Dict.has_set_of_ne]
  · simp [Dict.get_set_of_ne]

lemma preservedOutbounds_of_managed {outbounds : List Value}
    (h : ∀ o ∈ outbounds, ∃ fields, o = .dict fields ∧ isManagedOutbound reprText fields = true) :
    preservedOutbounds reprText outbounds = [] := by
  rw [preservedOutbounds, List.filter_eq_nil_iff]
  intro o ho
  obtain ⟨fields, rfl, hmanaged⟩ := h o ho
  simp [Value.asDict, hmanaged]

lemma preservedOutbounds_again (outbounds : List Value) :
    preservedOutbounds reprText (preservedOutbounds reprText outbounds) =
      preservedOutbounds reprText outbounds := by
  simp only [preservedOutbounds, List.filter_filter, Bool.and_self]

lemma preservedOutbounds_section {egress : List Value}
    (h : ∀ o ∈ egress, ∃ fields, o = .dict fields ∧ isManagedOutbound reprText fields = true)
    (outbounds : List Value) :
    preservedOutbounds reprText (fixedOutbounds ++ egress ++ preservedOutbounds reprText outbounds) =
      preservedOutbounds reprText outbounds := by
  have hfixed : preservedOutbounds reprText fixedOutbounds = [] := rfl
  have hegress := preservedOutbounds_of_managed h
  have happend : ∀ xs ys : List Value, preservedOutbounds reprText (xs ++ ys) =
      preservedOutbounds reprText xs ++ preservedOutbounds reprText ys := fun _ _ =>
    List.filter_append _ _
  rw [happend, happend, hfixed, hegress, preservedOutbounds_again, List.nil_append, List.nil_append]

lemma preservedRules_append {ys kept : List Value} (h : preservedRules reprText ys = some kept)
    (xs : List Value) :
    preservedRules reprText (xs ++ ys) = (preservedRules reprText xs).map (· ++ kept) := by
  induction xs with
  | nil => simpa [preservedRules] using h
  | cons v xs ih =>
      rw [List.cons_append, preservedRules, preservedRules, ih]
      cases v.asDict with
      | none => rfl
      | some rule =>
          dsimp only
          cases isManagedRule reprText rule with
          | none => rfl
          | some managed =>
              cases preservedRules reprText xs with
              | none => rfl
              | some kept' => cases managed <;> rfl

lemma preservedRules_of_managed {rules : List Value}
    (h : ∀ v ∈ rules, ∃ rule, v.asDict = some rule ∧ isManagedRule reprText rule = some true) :
    preservedRules reprText rules = some [] := by
  induction rules with
  | nil => rfl
  | cons v rules ih =>
      obtain ⟨rule, hv, hmanaged⟩ := h v List.mem_cons_self
      rw [preservedRules, hv, ih fun w hw => h w (List.mem_cons_of_mem _ hw)]
      simp [hmanaged]

/-- What stays is a dict that is not managed, and stays again. -/
lemma of_mem_preservedRules : ∀ {rules kept : List Value},
    preservedRules reprText rules = some kept →
    ∀ v ∈ kept, ∃ rule, v.asDict = some rule ∧ isManagedRule reprText rule = some false := by
  intro rules
  induction rules with
  | nil =>
      intro kept h v hv
      obtain rfl : [] = kept := by simpa [preservedRules] using h
      simp at hv
  | cons w rules ih =>
      intro kept h v hv
      rw [preservedRules] at h
      cases hw : w.asDict with
      | none =>
          rw [hw] at h
          exact ih h v hv
      | some rule =>
          simp only [hw, Option.bind_eq_some_iff, Option.map_eq_some_iff] at h
          obtain ⟨managed, hmanaged, rest, hrest, rfl⟩ := h
          cases managed with
          | true => exact ih hrest v hv
          | false =>
              rcases List.mem_cons.mp hv with rfl | hv
              · exact ⟨rule, hw, hmanaged⟩
              · exact ih hrest v hv

lemma preservedRules_of_kept {rules : List Value}
    (h : ∀ v ∈ rules, ∃ rule, v.asDict = some rule ∧ isManagedRule reprText rule = some false) :
    preservedRules reprText rules = some rules := by
  induction rules with
  | nil => rfl
  | cons v rules ih =>
      obtain ⟨rule, hv, hmanaged⟩ := h v List.mem_cons_self
      rw [preservedRules, hv, ih fun w hw => h w (List.mem_cons_of_mem _ hw)]
      simp [hmanaged]

/-- A client's rule is recognised by its outbound. -/
lemma isManagedRule_of_tag {rule : Dict}
    (h : isManagedTag (tagOf reprText "outboundTag" rule) = true) :
    isManagedRule reprText rule = some true := by
  rw [isManagedRule, if_pos h]

lemma routingSection_again {managed : List Value}
    (hmanaged : ∀ v ∈ managed, ∃ rule, v.asDict = some rule ∧
      isManagedRule reprText rule = some true) {v routing : Value}
    (h : routingSection reprText managed v = some routing) :
    routingSection reprText managed routing = some routing ∧
      ∃ kept, preservedRules reprText (v.dictOr.get "rules").listOr = some kept ∧
        (routing.dictOr.get "rules").listOr = managedApiRule :: managed ++ kept ∧
        preservedRules reprText (routing.dictOr.get "rules").listOr = some kept := by
  rw [routingSection, Option.map_eq_some_iff] at h
  obtain ⟨kept, hkept, rfl⟩ := h
  have hrules : ∀ v ∈ managedApiRule :: managed, ∃ rule, v.asDict = some rule ∧
      isManagedRule reprText rule = some true := by
    intro v hv
    rcases List.mem_cons.mp hv with rfl | hv
    · exact ⟨_, rfl, isManagedRule_of_tag rfl⟩
    · exact hmanaged v hv
  have hstay : preservedRules reprText (managedApiRule :: managed ++ kept) = some kept := by
    rw [preservedRules_append (preservedRules_of_kept (of_mem_preservedRules hkept)),
      preservedRules_of_managed hrules]
    rfl
  set d := v.dictOr.update "domainStrategy" fun strategy => strategy.or (literal "AsIs") with hd
  have hget : ((Value.dict (d.set "rules" (.list (managedApiRule :: managed ++ kept)))).dictOr.get
      "rules").listOr = managedApiRule :: managed ++ kept := by
    simp only [Value.dictOr, Value.asDict, Option.getD_some, Dict.get_set_self, Value.listOr]
  refine ⟨?_, kept, hkept, hget, by rw [hget]; exact hstay⟩
  rw [routingSection, hget, hstay, Option.map_some]
  simp only [Value.dictOr, Value.asDict, Option.getD_some]
  have hstrategy : ∀ w : Value, (w.or (literal "AsIs")).or (literal "AsIs") =
      w.or (literal "AsIs") := by
    intro w
    by_cases hw : w.truthy = true
    · simp [Value.or, hw]
    · simp only [Value.or, if_neg hw, ite_self]
  have hsettled : d.Settled "domainStrategy" fun strategy => strategy.or (literal "AsIs") :=
    Dict.settled_update hstrategy
  rw [(hsettled.set (by decide)).update_eq, Dict.set_eq_self]
  · simp
  · simp

end Again

/-! ## The shape of the result -/

section Shape

variable {U : Unicode} {reprText : Text → Text} {sha1 : Sha1} {payload : Dict}
  {bindings : List ClientBinding} {clientModes : List ClientMode} {m : Materialized}

lemma egressByServer_eq {assignments : List Assignment} (h : WellPlaced sha1 assignments) :
    egressByServer assignments =
      assignments.map fun a => (a.selectedServerId, buildSocksHandoffOutbound a.tag a.port) :=
  KeyedTable.foldl_assign _ h.servers

lemma egressTagsByServer_eq {assignments : List Assignment} (h : WellPlaced sha1 assignments) :
    egressTagsByServer assignments = assignments.map fun a => (a.selectedServerId, a.tag) :=
  KeyedTable.foldl_assign _ h.servers

lemma isManagedTag_egress (s : Text) : isManagedTag (xrayManagedEgressTag sha1 s) = true := by
  have hpre : xrayManagedEgressPrefix.isPrefixOf (xrayManagedEgressTag sha1 s) = true := by
    rw [List.isPrefixOf_iff_prefix]
    exact List.prefix_append _ _
  rw [isManagedTag, hpre, Bool.or_true]

lemma tagOf_clientRule {email tag : Text} {rule : Dict}
    (h : Value.dict rule = clientRule email tag) : tagOf reprText "outboundTag" rule = tag := by
  obtain rfl : rule = _ := Value.dict.inj h
  exact Value.textOr_str reprText tag

lemma asDict_clientRule (email tag : Text) : ∃ rule, clientRule email tag = .dict rule ∧
    tagOf reprText "outboundTag" rule = tag := ⟨_, rfl, tagOf_clientRule rfl⟩

/-- Mode rules go to the direct outbound or to the blackhole. -/
lemma modeRule_eq_some {c : ClientMode} {v : Value} (h : modeRule U c = some v) :
    c.email ≠ [] ∧ c.mode U ∈ explicitModes ∧
      v = clientRule c.email (modeOutboundTag (c.mode U)) := by
  rw [modeRule] at h
  split_ifs at h with hc
  rw [not_or, not_not] at hc
  exact ⟨hc.1, hc.2, (Option.some.inj h).symm⟩

lemma isManagedTag_mode (mode : Text) : isManagedTag (modeOutboundTag mode) = true := by
  rw [modeOutboundTag]
  split_ifs
  · rfl
  · rfl

/-- The tag of a bound server is that of its assignment. -/
lemma lookup_egressTags {assignments : List Assignment} (h : WellPlaced sha1 assignments) {s tag : Text} :
    (egressTagsByServer assignments).lookup s = some tag ↔
      ∃ a ∈ assignments, a.selectedServerId = s ∧ tag = xrayManagedEgressTag sha1 s := by
  rw [egressTagsByServer_eq h, KeyedTable.lookup_map_key (fun a : Assignment => a.selectedServerId),
    Option.map_eq_some_iff]
  constructor
  · rintro ⟨a, ha, rfl⟩
    obtain ⟨hmem, rfl⟩ := (KeyedTable.find?_key_iff h.servers).mp ha
    exact ⟨a, hmem, rfl, (h.named a hmem).tag⟩
  · rintro ⟨a, hmem, rfl, rfl⟩
    exact ⟨a, (KeyedTable.find?_key_iff h.servers).mpr ⟨hmem, rfl⟩, (h.named a hmem).tag⟩

lemma egressTag_ne_nil (s : Text) : xrayManagedEgressTag sha1 s ≠ [] := by
  intro h
  have hinitial : xrayManagedEgressPrefix = [] := (List.append_eq_nil_iff.mp h).1
  exact absurd hinitial (by decide)

lemma bindingRule_eq_some {assignments : List Assignment} (h : WellPlaced sha1 assignments)
    {b : ClientBinding} {v : Value} :
    bindingRule (egressTagsByServer assignments) b = some v ↔
      b.email ≠ [] ∧ (∃ a ∈ assignments, a.selectedServerId = b.server) ∧
        v = clientRule b.email (xrayManagedEgressTag sha1 b.server) := by
  rw [bindingRule]
  cases htag : (egressTagsByServer assignments).lookup b.server with
  | none =>
      have hnone : ¬∃ a ∈ assignments, a.selectedServerId = b.server := by
        rintro ⟨a, ha, hs⟩
        have := (lookup_egressTags h).mpr ⟨a, ha, hs, rfl⟩
        rw [htag] at this
        simp at this
      simp [hnone]
  | some tag =>
      obtain ⟨a, ha, hs, rfl⟩ := (lookup_egressTags h).mp htag
      have hbound : ∃ a ∈ assignments, a.selectedServerId = b.server := ⟨a, ha, hs⟩
      by_cases hemail : b.email = []
      · simp [hemail]
      · rw [Option.getD_some, if_neg (not_or.mpr ⟨hemail, egressTag_ne_nil _⟩), Option.some.injEq]
        constructor
        · exact fun hv => ⟨hemail, hbound, hv.symm⟩
        · exact fun hv => hv.2.2.symm

lemma managedRules_managed {assignments : List Assignment} (h : WellPlaced sha1 assignments) :
    ∀ v ∈ managedRules U bindings clientModes assignments, ∃ rule, v.asDict = some rule ∧
      isManagedRule reprText rule = some true := by
  intro v hv
  rcases List.mem_append.mp hv with hv | hv
  · obtain ⟨c, -, hc⟩ := List.mem_filterMap.mp hv
    obtain ⟨-, -, rfl⟩ := modeRule_eq_some hc
    obtain ⟨rule, hrule, htag⟩ := @asDict_clientRule reprText c.email
      (modeOutboundTag (c.mode U))
    refine ⟨rule, by rw [hrule]; rfl, isManagedRule_of_tag ?_⟩
    rw [htag]
    exact isManagedTag_mode _
  · obtain ⟨b, -, hb⟩ := List.mem_filterMap.mp hv
    obtain ⟨-, -, rfl⟩ := (bindingRule_eq_some h).mp hb
    obtain ⟨rule, hrule, htag⟩ := @asDict_clientRule reprText b.email
      (xrayManagedEgressTag sha1 b.server)
    refine ⟨rule, by rw [hrule]; rfl, isManagedRule_of_tag ?_⟩
    rw [htag]
    exact isManagedTag_egress _

lemma egress_managed {assignments : List Assignment} (h : WellPlaced sha1 assignments) :
    ∀ o ∈ (egressByServer assignments).map Prod.snd, ∃ fields, o = .dict fields ∧
      isManagedOutbound reprText fields = true := by
  intro o ho
  rw [egressByServer_eq h, List.map_map] at ho
  obtain ⟨a, ha, rfl⟩ := List.mem_map.mp ho
  refine ⟨_, rfl, ?_⟩
  show isManagedTag ((Value.str a.tag).textOr reprText) = true
  rw [Value.textOr_str, (h.named a ha).tag]
  exact isManagedTag_egress _

/-- The sections of the statistics are in place. -/
structure StatsSettled (reprText : Text → Text) (d : Dict) : Prop where
  stats : d.Settled "stats" statsSection
  api : d.Settled "api" apiSection
  policy : d.Settled "policy" policySection
  inbounds : d.Settled "inbounds" (inboundsSection reprText)

lemma statsSettled_ensureRuntimeStats (d : Dict) :
    StatsSettled reprText (ensureRuntimeStats reprText d) where
  stats := (((Dict.settled_update statsSection_again).update (by decide)).update
    (by decide)).update (by decide)
  api := ((Dict.settled_update apiSection_again).update (by decide)).update (by decide)
  policy := (Dict.settled_update policySection_again).update (by decide)
  inbounds := Dict.settled_update inboundsSection_again

lemma StatsSettled.ensure_eq {d : Dict} (h : StatsSettled reprText d) :
    ensureRuntimeStats reprText d = d := by
  rw [ensureRuntimeStats, h.stats.update_eq, h.api.update_eq, h.policy.update_eq,
    h.inbounds.update_eq]

/-- Other sections may be written afterwards. -/
lemma StatsSettled.set {d : Dict} (h : StatsSettled reprText d) {k : String} {v : Value}
    (hk : k ∉ ["stats", "api", "policy", "inbounds"]) : StatsSettled reprText (d.set k v) := by
  simp only [List.mem_cons, List.not_mem_nil, or_false, not_or] at hk
  obtain ⟨hstats, hapi, hpolicy, hinbounds⟩ := hk
  exact ⟨h.stats.set (Ne.symm hstats), h.api.set (Ne.symm hapi), h.policy.set (Ne.symm hpolicy),
    h.inbounds.set (Ne.symm hinbounds)⟩

/-- **What one run writes**, and that a second run writes it again. -/
lemma materialize_shape
    (h : materializeManagedEgress U reprText sha1 payload bindings clientModes none = some m) :
    buildXrayHandoffAssignments sha1 bindings [] = some m.assignments ∧
      ∃ kept, preservedRules reprText (rulesOf payload) = some kept ∧
        rulesOf m.payload =
          managedApiRule :: managedRules U bindings clientModes m.assignments ++ kept ∧
        preservedRules reprText (rulesOf m.payload) = some kept ∧
        outboundsOf m.payload = fixedOutbounds ++ (egressByServer m.assignments).map Prod.snd ++
          preservedOutbounds reprText (outboundsOf payload) ∧
        materializeManagedEgress U reprText sha1 m.payload bindings clientModes none = some m := by
  rw [materializeManagedEgress, Option.none_or, Option.bind_eq_some_iff] at h
  obtain ⟨assignments, hbuild, h⟩ := h
  rw [Option.map_eq_some_iff] at h
  obtain ⟨result, hsections, rfl⟩ := h
  obtain ⟨hplaced, -, -⟩ := build_spec wellPlaced_nil hbuild
  rw [materializeSections, Option.map_eq_some_iff] at hsections
  obtain ⟨routing, hrouting, rfl⟩ := hsections
  obtain ⟨hagain, kept, hkept, hrules, hstay⟩ :=
    routingSection_again (managedRules_managed hplaced) hrouting
  set stats := ensureRuntimeStats reprText payload with hstats
  have hstatsRouting : stats.get "routing" = payload.get "routing" := by
    rw [hstats]
    simp only [ensureRuntimeStats, Dict.get_update_of_ne, ne_eq, String.reduceEq, not_false_eq_true]
  have hstatsOutbounds : stats.get "outbounds" = payload.get "outbounds" := by
    rw [hstats]
    simp only [ensureRuntimeStats, Dict.get_update_of_ne, ne_eq, String.reduceEq, not_false_eq_true]
  set egress := (egressByServer assignments).map Prod.snd with hegress
  set result := ((stats.update "dns" dnsSection).update "outbounds"
    (outboundsSection reprText egress)).set "routing" routing with hresult
  have houtbounds : result.get "outbounds" =
      .list (fixedOutbounds ++ egress ++ preservedOutbounds reprText (outboundsOf payload)) := by
    rw [hresult, Dict.get_set_of_ne (by decide), Dict.get_update_self,
      Dict.get_update_of_ne (by decide), hstatsOutbounds]
    rfl
  have hroutingKey : result.get "routing" = routing := by rw [hresult, Dict.get_set_self]
  refine ⟨hbuild, kept, ?_, ?_, ?_, ?_, ?_⟩
  · rw [rulesOf, ← hstatsRouting]
    exact hkept
  · rw [rulesOf, hroutingKey, hrules]
  · rw [rulesOf, hroutingKey, hstay]
  · rw [outboundsOf, houtbounds]
    rfl
  · have hsettled : StatsSettled reprText result :=
      (((statsSettled_ensureRuntimeStats payload).set (by decide)).set (by decide)).set (by decide)
    have hdns : result.Settled "dns" dnsSection :=
      ((Dict.settled_update dnsSection_again).update (by decide)).set (by decide)
    have hsection : result.Settled "outbounds" (outboundsSection reprText egress) := by
      refine ⟨?_, ?_⟩
      · rw [hresult, Dict.has_set_of_ne (by decide), Dict.has_update_self]
      · rw [houtbounds, outboundsSection]
        show Value.list (fixedOutbounds ++ egress ++ preservedOutbounds reprText _) = _
        rw [Value.listOr, preservedOutbounds_section (hegress ▸ egress_managed hplaced)]
    have hwritten : result.set "routing" routing = result :=
      Dict.set_eq_self (by rw [hresult, Dict.has_set_self]) hroutingKey
    have hsections : materializeSections U reprText result bindings clientModes assignments =
        some result := by
      show (routingSection reprText _ ((ensureRuntimeStats reprText result).get "routing")).map _ = _
      rw [hsettled.ensure_eq, hroutingKey, hagain, Option.map_some, hdns.update_eq,
        hsection.update_eq, hwritten]
    rw [materializeManagedEgress, Option.none_or, hbuild, Option.bind_some, hsections,
      Option.map_some]

end Shape

end Xray
