import FwRouter.Xray.Bindings

/-!
# The convergence check of Xray

After an apply the active configuration is read back and compared with the bindings and modes that
were applied; `_verify_active_config_bindings` and `_verify_active_config_client_modes` of
`services/xray_materialize.py`, against `materialize_client_bindings` of `adapters/xray_real.py`.
An apply whose check fails is rolled back.

The check knows the port of a binding from its handoff, which is allocated with the recorded
listeners preserved; the outbound it looks for was rendered without them.  `apply_verified_iff`
says when the two meet.
-/

namespace Xray

open Py

/-! ## The clients and their identities -/

/-- What the metadata of a client records besides the binding; the ids as `str(value or "")`. -/
structure Identity where
  clientId : Text
  clientUuid : Text
  selectedServerSource : Value
  matchKey : Value

/-- `str(item.get("client_uuid") or item.get("client_id") or "").strip()`. -/
def Identity.id (i : Identity) : Text := strip (textOrDefault i.clientUuid i.clientId)

/-- A client as the database binds it to a server. -/
structure Client extends ClientBinding, Identity

/-- A client with its handoff. -/
structure CollectedBinding extends Binding, Identity

/-- An entry of `client_modes`. -/
structure ModeDirective extends ClientMode where
  subjectId : Text
  clientId : Text
  clientUuid : Text

def ModeDirective.id (d : ModeDirective) : Text := strip (textOrDefault d.clientUuid d.clientId)

/-- A client with the handoff of its server. -/
def annotateClient (assignments : List Assignment) (c : Client) : CollectedBinding :=
  ⟨annotate assignments c.toClientBinding, c.toIdentity⟩

/-- `collect_xray_runtime_bindings`, with the identities of the clients. -/
def collectBindings (sha1 : Sha1) (file : BindingsFile) (clients : List Client) :
    Option (List CollectedBinding) :=
  (buildXrayHandoffAssignments sha1 (clients.map Client.toClientBinding) file.handoffListeners).map
    fun assignments => clients.map (annotateClient assignments)

/-- Without the identities it is what the bindings are collected to. -/
lemma collectBindings_forget (sha1 : Sha1) (file : BindingsFile) (clients : List Client) :
    (collectBindings sha1 file clients).map (List.map CollectedBinding.toBinding) =
      collectXrayRuntimeBindings sha1 ⟨file, clients.map Client.toClientBinding⟩ := by
  rw [collectBindings, collectXrayRuntimeBindings, annotateBindingsWithHandoff, Option.map_map]
  congr 1
  funext assignments
  rw [Function.comp_apply, List.map_map, List.map_map]
  rfl

/-! ## Rendering -/

section Render

variable (U : Unicode) (reprText : Text → Text) (sha1 : Sha1)

def BindingStatus.text : BindingStatus → Text
  | .pending => "pending".toList
  | .applied => "applied".toList

/-- The entry `fwrouterBinding` of a client. -/
def CollectedBinding.metadata (b : CollectedBinding) : Value :=
  .dict [field "subject_id" (.str b.subjectId), field "client_id" (.str b.clientId),
    field "client_uuid" (.str b.clientUuid), field "selected_server_id" (.str b.selectedServerId),
    field "selected_server_source" b.selectedServerSource, field "status" (.str b.status.text),
    field "match_key" b.matchKey]

/-- `if key: binding_map[key] = binding`. -/
def enterBinding (b : CollectedBinding) (key : Text) (known : List (Text × CollectedBinding)) :
    List (Text × CollectedBinding) := if key = [] then known else KeyedTable.assign key b known

/-- `binding_map`: the bindings by their UUID and by their id. -/
def bindingMap (bindings : List CollectedBinding) : List (Text × CollectedBinding) :=
  bindings.foldl (fun known b =>
    enterBinding b (strip b.clientId) (enterBinding b (strip b.clientUuid) known)) []

/-- `d.pop(key, None)`. -/
def popKey (d : Dict) (key : String) : Dict := d.filter fun r => decide (r.1 ≠ key.toList)

/-- `_materialize_client_binding_metadata` of one client. -/
def clientWithMetadata (bindings : List CollectedBinding) (client : Dict) : Dict :=
  match (bindingMap bindings).lookup (strip (tagOf reprText "id" client)) with
  | none => popKey client "fwrouterBinding"
  | some b => client.set "fwrouterBinding" b.metadata

/-- The settings of an inbound.  A value that is no dict raises, when it is read or when the clients
are written. -/
def settingsOf (inbound : Dict) : Option Dict :=
  match inbound.lookup "settings".toList with
  | none => some []
  | some v => v.asDict

/-- `list(value or [])`, of which only dicts are used; `none` is the `TypeError`. -/
def clientValues (v : Value) : Option (List Value) :=
  if v.truthy then
    match v with
    | .list values => some values
    | .dict _ => some []
    | .str _ => some []
    | _ => none
  else some []

/-- The managed inbound with its tag and with metadata for its clients. -/
def attachMetadata (bindings : List CollectedBinding) (inbound : Dict) : Option Dict :=
  (settingsOf inbound).bind fun settings =>
    (clientValues (settings.get "clients")).map fun clients =>
      (inbound.set "tag" (.str xrayInboundTag)).set "settings" (.dict (settings.set "clients"
        (.list ((clients.filterMap Value.asDict).map fun c =>
          .dict (clientWithMetadata reprText bindings c)))))

/-- `protocol == "vless" and network == "ws"`; `none` is the `AttributeError` of stream settings
that are no dict. -/
def isVlessWs (inbound : Dict) : Option Bool :=
  let stream := inbound.get "streamSettings"
  (if stream.truthy then stream.asDict else some []).map fun stream =>
    decide (U.lower (tagOf reprText "protocol" inbound) = "vless".toList ∧
      U.lower (tagOf reprText "network" stream) = "ws".toList)

/-- `_find_vless_ws_inbound`; `none` when there is none, or when one of the inbounds before it cannot
be read. -/
def findVlessWsInbound : List Value → Option Dict
  | [] => none
  | v :: rest =>
      match v.asDict with
      | none => findVlessWsInbound rest
      | some inbound =>
          (isVlessWs U reprText inbound).bind fun found =>
            if found then some inbound else findVlessWsInbound rest

/-- The first VLESS inbound over WebSocket is changed; `none` when there is none, or when one of the
inbounds before it cannot be read. -/
def updateVlessWs (f : Dict → Option Dict) : List Value → Option (List Value)
  | [] => none
  | v :: rest =>
      match v.asDict with
      | none => (updateVlessWs f rest).map (v :: ·)
      | some inbound =>
          (isVlessWs U reprText inbound).bind fun found =>
            if found then (f inbound).map fun changed => .dict changed :: rest
            else (updateVlessWs f rest).map (v :: ·)

/-- The configuration that `materialize_client_bindings` writes. -/
def materializeClientBindings (payload : Dict) (bindings : List CollectedBinding)
    (clientModes : List ModeDirective) : Option Dict :=
  (updateVlessWs U reprText (attachMetadata reprText bindings) (payload.get "inbounds").listOr).bind
    fun inbounds =>
      (materializeManagedEgress U reprText sha1 (payload.set "inbounds" (.list inbounds))
        (bindings.map fun b => b.toClientBinding) (clientModes.map ModeDirective.toClientMode)
        none).map Materialized.payload

end Render

/-! ## Reading back -/

section Check

variable (U : Unicode) (reprText : Text → Text) (intText : Text → Option ℤ)

/-- The dicts of a section. -/
def dictsOf (v : Value) : List Dict := v.listOr.filterMap Value.asDict

/-- The clients of an inbound, as the check reads them. -/
def clientsOf (inbound : Dict) : List Dict := dictsOf ((inbound.get "settings").dictOr.get "clients")

/-- A client has the wanted id and the wanted email, or the one of them that is wanted. -/
def clientHas (wantedId wantedEmail : Text) (client : Dict) : Bool :=
  let actualId := strip (tagOf reprText "id" client)
  let actualEmail := strip (tagOf reprText "email" client)
  if wantedId ≠ [] ∧ wantedEmail ≠ [] then decide (actualId = wantedId ∧ actualEmail = wantedEmail)
  else decide (wantedId ≠ [] ∧ actualId = wantedId ∨ wantedEmail ≠ [] ∧ actualEmail = wantedEmail)

def clientPresentInVlessInbound (inbounds : List Dict) (clientId email : Text) : Bool :=
  inbounds.any fun inbound => decide (tagOf reprText "tag" inbound = xrayInboundTag) &&
    (clientsOf inbound).any (clientHas reprText (strip clientId) (strip email))

/-- `{str(item) for item in value or []}`, where a text stands for the list of itself; `none` is the
`TypeError` of a value that holds nothing. -/
def tagTexts (v : Value) : Option (List Text) :=
  if v.truthy then
    match v with
    | .str s => some [s]
    | .list values => some (values.map (Value.text reprText))
    | .dict fields => some (fields.map Prod.fst)
    | _ => none
  else some []

/-- `not set(rule) - {"type", "inboundTag", "user", "outboundTag"}`. -/
def hasRouteKeysOnly (rule : Dict) : Bool :=
  rule.all fun r => decide (r.1 ∈ ["type".toList, "inboundTag".toList, "user".toList,
    "outboundTag".toList])

/-- The rule is for the managed inbound and the client; `none` is the `TypeError`. -/
def matchRule (email : Text) (rule : Dict) : Option Bool :=
  (tagTexts reprText (rule.get "inboundTag")).bind fun inbounds =>
    if inbounds ≠ [] ∧ xrayInboundTag ∉ inbounds then some false
    else (tagTexts reprText (rule.get "user")).map fun users =>
      decide (users = [] ∨ email ∈ users) && hasRouteKeysOnly rule

/-- `matching_rules`. -/
def matchingRules (email : Text) : List Dict → Option (List Dict)
  | [] => some []
  | rule :: rest =>
      (matchRule reprText email rule).bind fun matched =>
        (matchingRules email rest).map fun found => if matched then rule :: found else found

/-- `int(value or 0)`; `intText` is `int` of a text or of a float. -/
def intOrZero (v : Value) : Option ℤ :=
  if v.truthy then
    match v with
    | .bool _ => some 1
    | .int n => some n
    | .float text => intText text
    | .str s => intText s
    | _ => none
  else some 0

/-- Some server has the address and the port. -/
def anyServer (address : Text) (port : ℕ) : List Value → Option Bool
  | [] => some false
  | v :: rest =>
      match v.asDict with
      | none => anyServer address port rest
      | some server =>
          if tagOf reprText "address" server = address then
            (intOrZero intText (server.get "port")).bind fun n =>
              if n = port then some true else anyServer address port rest
          else anyServer address port rest

/-- The outbound of the handoff is a SOCKS outbound to its address and port. -/
def handoffValid (outbounds : List Dict) (handoff : Handoff) : Option Bool :=
  match outbounds.find? fun o => decide (tagOf reprText "tag" o = strip handoff.outboundTag) with
  | none => some false
  | some o =>
      if tagOf reprText "protocol" o = "socks".toList then
        anyServer reprText intText (strip handoff.listen) handoff.port
          ((o.get "settings").dictOr.get "servers").listOr
      else some false

/-- What is found out about one binding. -/
structure BindingCheck where
  email : Text
  clientId : Text
  handoff : Handoff
  clientPresent : Bool
  outboundPresent : Bool
  handoffValid : Bool
  matching : List Dict

def checkBinding (payload : Dict) (b : CollectedBinding) (handoff : Handoff) : Option BindingCheck :=
  (handoffValid reprText intText (dictsOf (payload.get "outbounds")) handoff).bind fun valid =>
    (matchingRules reprText b.email (dictsOf ((payload.get "routing").dictOr.get "rules"))).map
      fun matching =>
        { email := b.email
          clientId := b.id
          handoff := handoff
          clientPresent := clientPresentInVlessInbound reprText (dictsOf (payload.get "inbounds"))
            b.id b.email
          outboundPresent := (dictsOf (payload.get "outbounds")).any fun o =>
            decide (tagOf reprText "tag" o = strip handoff.outboundTag)
          handoffValid := valid
          matching := matching }

/-- A binding without an email or without an outbound is passed over. -/
def toVerify (b : CollectedBinding) : Option Handoff :=
  b.handoff.filter fun handoff => decide (b.email ≠ [] ∧ strip handoff.outboundTag ≠ [])

/-- The bindings that are checked, with what is found out about them. -/
def bindingChecks (payload : Dict) : List CollectedBinding → Option (List BindingCheck)
  | [] => some []
  | b :: rest =>
      match toVerify b with
      | none => bindingChecks payload rest
      | some handoff =>
          (checkBinding reprText intText payload b handoff).bind fun check =>
            (bindingChecks payload rest).map (check :: ·)

/-- `first_outbound`. -/
def BindingCheck.firstOutbound (c : BindingCheck) : Text :=
  (c.matching.head?.map (tagOf reprText "outboundTag")).getD []

/-- The report on the bindings. -/
structure BindingsReport where
  verifiedBindingsCount : ℕ
  missingClients : List (Text × Text)
  missingOutbounds : List (Text × Text)
  invalidHandoffs : List (Text × Handoff)
  missingRules : List (Text × Text)
  wrongApiRules : List (Text × Dict)
  wrongFirstMatchRules : List (Text × Text × Text)

def BindingsReport.ok (r : BindingsReport) : Bool :=
  r.missingClients.isEmpty && r.missingOutbounds.isEmpty && r.invalidHandoffs.isEmpty &&
    r.missingRules.isEmpty && r.wrongApiRules.isEmpty && r.wrongFirstMatchRules.isEmpty

def bindingsReport (checks : List BindingCheck) : BindingsReport :=
  let misrouted := checks.filter fun c =>
    decide (c.firstOutbound reprText ≠ strip c.handoff.outboundTag)
  { verifiedBindingsCount := checks.length
    missingClients := (checks.filter fun c => !c.clientPresent).map fun c => (c.email, c.clientId)
    missingOutbounds := (checks.filter fun c => !c.outboundPresent).map fun c =>
      (c.email, strip c.handoff.outboundTag)
    invalidHandoffs := (checks.filter fun c => !c.handoffValid).map fun c => (c.email, c.handoff)
    missingRules := misrouted.map fun c => (c.email, strip c.handoff.outboundTag)
    wrongApiRules := checks.flatMap fun c => (c.matching.filter fun rule =>
      decide (tagOf reprText "outboundTag" rule = xrayApiTag)).map fun rule => (c.email, rule)
    wrongFirstMatchRules := (misrouted.filter fun c => decide (c.firstOutbound reprText ≠ [])).map
      fun c => (c.email, strip c.handoff.outboundTag, c.firstOutbound reprText) }

/-- `none` when the check raises. -/
def verifyActiveConfigBindings (payload : Dict) (bindings : List CollectedBinding) :
    Option BindingsReport :=
  (bindingChecks reprText intText payload bindings).map (bindingsReport reprText)

/-! ## The modes -/

/-- `text in (value if isinstance(value, list) else [value])`. -/
def listed (text : Text) : Value → Bool
  | .list values => values.any (Value.isText text)
  | v => v.isText text

/-- The rule that a mode is to have. -/
def isExactRule (email outboundTag : Text) (rule : Dict) : Bool :=
  listed email (rule.get "user") && listed xrayInboundTag (rule.get "inboundTag") &&
    decide (tagOf reprText "outboundTag" rule = outboundTag) && hasRouteKeysOnly rule

/-- `may_match_client`. -/
def mayMatchClient (email : Text) (rule : Dict) : Bool :=
  hasRouteKeysOnly rule && admits xrayInboundTag (rule.get "inboundTag") &&
    admits email (rule.get "user")

inductive ModeFault
  | missingClient
  | missingOutbound
  | missingRule
  | misorderedRule
deriving DecidableEq

/-- What is wrong with one directive; a directive without an email or without a mode that gets a
rule is passed over. -/
def modeFault (payload : Dict) (d : ModeDirective) : Option ModeFault :=
  let rules := dictsOf ((payload.get "routing").dictOr.get "rules")
  let outboundTag := modeOutboundTag (d.mode U)
  if d.email = [] ∨ d.mode U ∉ explicitModes then none
  else if !clientPresentInVlessInbound reprText (dictsOf (payload.get "inbounds")) d.id d.email then
    some .missingClient
  else if !(dictsOf (payload.get "outbounds")).any fun o =>
      decide (tagOf reprText "tag" o = outboundTag) then
    some .missingOutbound
  else
    match rules.findIdx? (isExactRule reprText d.email outboundTag) with
    | none => some .missingRule
    | some i => if (rules.take i).any (mayMatchClient d.email) then some .misorderedRule else none

/-- The faults of the modes with their subjects; the check is ok if there are none. -/
def verifyActiveConfigClientModes (payload : Dict) (clientModes : List ModeDirective) :
    List (Text × ModeFault) :=
  clientModes.filterMap fun d => (modeFault U reprText payload d).map fun fault => (d.subjectId, fault)

end Check

/-! ## What is to be shown -/

section Claim

variable (U : Unicode) (reprText : Text → Text) (intText : Text → Option ℤ) (sha1 : Sha1)

/-- The check passes: nothing is missing or wrong. -/
def Verified (payload : Dict) (bindings : List CollectedBinding) (clientModes : List ModeDirective) :
    Prop :=
  (∃ report, verifyActiveConfigBindings reprText intText payload bindings = some report ∧
      report.ok = true) ∧
    verifyActiveConfigClientModes U reprText payload clientModes = []

/-- The managed inbound has a client with the id and the email. -/
def HasClient (payload : Dict) (clientId email : Text) : Prop :=
  ∃ inbound, findVlessWsInbound U reprText (payload.get "inbounds").listOr = some inbound ∧
    ∃ c ∈ clientsOf inbound, strip (tagOf reprText "id" c) = clientId ∧
      strip (tagOf reprText "email" c) = email

/-- The clients that are applied: every one has an email, no two the same, and every one is in the
managed inbound. -/
structure AppliedClients (payload : Dict) (clients : List Client) (clientModes : List ModeDirective) :
    Prop where
  distinct : (clients.map (fun c => c.email) ++ clientModes.map fun d => d.email).Nodup
  named : [] ∉ clients.map (fun c => c.email) ++ clientModes.map fun d => d.email
  bound : ∀ c ∈ clients, HasClient U reprText payload c.id c.email
  directed : ∀ d ∈ clientModes, HasClient U reprText payload d.id d.email

/-- First fit over the bound servers respects the recorded listeners: a server that has one gets its
port again, and no other server gets a recorded port. -/
def RespectsRecorded (listeners : List Assignment) (bindings : List ClientBinding) : Prop :=
  ∀ plan, handoffPlan sha1 bindings = some plan → ∀ s port, (s, port) ∈ plan →
    FirstFit.Respects (portOf listeners) (listeners.map Assignment.port) s port

/-- The inbounds and the users of a rule can be read: each is a text, a list or nothing. -/
def ReadableRule (rule : Dict) : Prop :=
  ∃ inbounds, tagTexts reprText (rule.get "inboundTag") = some inbounds ∧
    (inbounds = [] ∨ xrayInboundTag ∈ inbounds → (tagTexts reprText (rule.get "user")).isSome = true)

/-- The rules that stay can be read, unless no client is bound. -/
def ReadableRules (payload : Dict) (bindings : List ClientBinding) : Prop :=
  (∃ b ∈ bindings, b.server ≠ []) → ∀ preserved,
    preservedRules reprText (rulesOf payload) = some preserved →
      ∀ rule, Value.dict rule ∈ preserved → ReadableRule reprText rule

end Claim

/-! ## Reading what was rendered -/

section Rendered

variable {U : Unicode} {reprText : Text → Text} {intText : Text → Option ℤ} {sha1 : Sha1}

/-- What the update of the managed inbound does. -/
lemma updateVlessWs_spec {f : Dict → Option Dict} : ∀ {inbounds changed : List Value},
    updateVlessWs U reprText f inbounds = some changed →
    ∃ inbound updated, findVlessWsInbound U reprText inbounds = some inbound ∧
      f inbound = some updated ∧ Value.dict updated ∈ changed := by
  intro inbounds
  induction inbounds with
  | nil =>
      intro changed h
      cases h
  | cons v rest ih =>
      intro changed h
      rw [updateVlessWs] at h
      rw [findVlessWsInbound]
      cases hv : v.asDict with
      | none =>
          rw [hv] at h
          obtain ⟨kept, hkept, rfl⟩ := Option.map_eq_some_iff.mp h
          obtain ⟨inbound, updated, hfind, hf, hmem⟩ := ih hkept
          exact ⟨inbound, updated, hfind, hf, List.mem_cons_of_mem _ hmem⟩
      | some inbound =>
          rw [hv] at h
          obtain ⟨found, hfound, h⟩ := Option.bind_eq_some_iff.mp h
          simp only [hfound, Option.bind_some]
          cases found with
          | true =>
              obtain ⟨updated, hf, rfl⟩ := Option.map_eq_some_iff.mp h
              exact ⟨inbound, updated, rfl, hf, List.mem_cons_self⟩
          | false =>
              obtain ⟨kept, hkept, rfl⟩ := Option.map_eq_some_iff.mp h
              obtain ⟨found, updated, hfind, hf, hmem⟩ := ih hkept
              exact ⟨found, updated, hfind, hf, List.mem_cons_of_mem _ hmem⟩

lemma get_popKey {d : Dict} {k j : String} (h : j ≠ k) : (popKey d k).get j = d.get j := by
  have hkeep : decide (j.toList ≠ k.toList) = true :=
    decide_eq_true fun hkeys => h (String.toList_inj.mp hkeys)
  rw [Dict.get, Dict.get, popKey]
  congr 1
  exact KeyedTable.lookup_filter (p := fun key : Text => decide (key ≠ k.toList)) hkeep d

/-- Metadata leaves the id and the email alone. -/
lemma tagOf_clientWithMetadata (bindings : List CollectedBinding) (c : Dict) {key : String}
    (hkey : key ≠ "fwrouterBinding") :
    tagOf reprText key (clientWithMetadata reprText bindings c) = tagOf reprText key c := by
  rw [clientWithMetadata]
  cases (bindingMap bindings).lookup (strip (tagOf reprText "id" c)) with
  | none => rw [tagOf, tagOf, get_popKey hkey]
  | some b => rw [tagOf, tagOf, Dict.get_set_of_ne hkey]

/-- The clients that are written are those that the check reads. -/
lemma dictsOf_clientValues {v : Value} {values : List Value} (h : clientValues v = some values) :
    dictsOf v = values.filterMap Value.asDict := by
  cases v with
  | none =>
      obtain rfl : [] = values := Option.some.inj h
      rfl
  | list vs =>
      cases vs with
      | nil =>
          obtain rfl : [] = values := Option.some.inj h
          rfl
      | cons w ws =>
          obtain rfl : w :: ws = values := Option.some.inj h
          rfl
  | dict fields =>
      obtain rfl : [] = values := by cases fields <;> exact Option.some.inj h
      rfl
  | str t =>
      obtain rfl : [] = values := by cases t <;> exact Option.some.inj h
      rfl
  | bool b =>
      unfold clientValues at h
      split_ifs at h
      obtain rfl : [] = values := Option.some.inj h
      rfl
  | int n =>
      unfold clientValues at h
      split_ifs at h
      obtain rfl : [] = values := Option.some.inj h
      rfl
  | float t =>
      unfold clientValues at h
      split_ifs at h
      obtain rfl : [] = values := Option.some.inj h
      rfl

lemma clientsOf_attachMetadata {bindings : List CollectedBinding} {inbound updated : Dict}
    (h : attachMetadata reprText bindings inbound = some updated) :
    tagOf reprText "tag" updated = xrayInboundTag ∧
      ∀ c ∈ clientsOf inbound, clientWithMetadata reprText bindings c ∈ clientsOf updated := by
  rw [attachMetadata, Option.bind_eq_some_iff] at h
  obtain ⟨settings, hsettings, h⟩ := h
  obtain ⟨values, hvalues, rfl⟩ := Option.map_eq_some_iff.mp h
  constructor
  · rw [tagOf, Dict.get_set_of_ne (by decide), Dict.get_set_self, Value.textOr_str]
  · intro c hc
    have hdict : (inbound.get "settings").dictOr = settings := by
      rw [settingsOf] at hsettings
      rw [Dict.get]
      cases hlookup : inbound.lookup "settings".toList with
      | none =>
          rw [hlookup] at hsettings
          exact Option.some.inj hsettings
      | some v =>
          rw [hlookup] at hsettings
          have hdict : v.asDict = some settings := hsettings
          rw [Option.getD_some, Value.dictOr, hdict, Option.getD_some]
    have hlist : c ∈ values.filterMap Value.asDict := by
      rw [clientsOf, hdict, dictsOf_clientValues hvalues] at hc
      exact hc
    rw [clientsOf, Dict.get_set_self, dictsOf]
    simp only [Value.dictOr, Value.asDict, Option.getD_some, Dict.get_set_self, Value.listOr]
    refine List.mem_filterMap.mpr ⟨.dict (clientWithMetadata reprText bindings c), ?_, rfl⟩
    exact List.mem_map.mpr ⟨c, hlist, rfl⟩

/-- The inbounds of the result are those of the payload, and the one of the API. -/
lemma inbounds_materialize {payload : Dict} {bindings : List ClientBinding}
    {clientModes : List ClientMode} {m : Materialized}
    (h : materializeManagedEgress U reprText sha1 payload bindings clientModes none = some m) :
    m.payload.get "inbounds" = inboundsSection reprText (payload.get "inbounds") := by
  rw [materializeManagedEgress, Option.none_or, Option.bind_eq_some_iff] at h
  obtain ⟨assignments, -, h⟩ := h
  obtain ⟨result, hsections, rfl⟩ := Option.map_eq_some_iff.mp h
  rw [materializeSections] at hsections
  obtain ⟨routing, -, rfl⟩ := Option.map_eq_some_iff.mp hsections
  simp only [ensureRuntimeStats, Dict.get_set_of_ne, Dict.get_update_of_ne, Dict.get_update_self,
    ne_eq, String.reduceEq, not_false_eq_true]

/-- **A client of the managed inbound is found again.** -/
lemma clientPresent_written {payload written : Dict} {bindings : List CollectedBinding}
    {clientModes : List ModeDirective} {clientId email : Text}
    (h : materializeClientBindings U reprText sha1 payload bindings clientModes = some written)
    (hclient : HasClient U reprText payload clientId email) (hemail : email ≠ [])
    (hidStrip : strip clientId = clientId) (hemailStrip : strip email = email) :
    clientPresentInVlessInbound reprText (dictsOf (written.get "inbounds")) clientId email = true := by
  rw [materializeClientBindings, Option.bind_eq_some_iff] at h
  obtain ⟨inbounds, hinbounds, h⟩ := h
  obtain ⟨m, hm, rfl⟩ := Option.map_eq_some_iff.mp h
  obtain ⟨inbound, updated, hfind, hattach, hmem⟩ := updateVlessWs_spec hinbounds
  obtain ⟨inbound', hfind', c, hc, hid, hcemail⟩ := hclient
  obtain rfl : inbound = inbound' := Option.some.inj (hfind.symm.trans hfind')
  obtain ⟨htag, hclients⟩ := clientsOf_attachMetadata hattach
  rw [inbounds_materialize hm, Dict.get_set_self, clientPresentInVlessInbound, List.any_eq_true]
  refine ⟨updated, ?_, ?_⟩
  · rw [dictsOf, inboundsSection]
    refine List.mem_filterMap.mpr ⟨.dict updated, List.mem_append_left _ ?_, rfl⟩
    refine List.mem_filter.mpr ⟨hmem, ?_⟩
    have hne : xrayInboundTag ≠ xrayApiTag := by decide
    simp [Value.asDict, htag, hne]
  · rw [Bool.and_eq_true, htag, List.any_eq_true]
    refine ⟨decide_eq_true rfl, _, hclients c hc, ?_⟩
    rw [clientHas, tagOf_clientWithMetadata _ _ (by decide), tagOf_clientWithMetadata _ _ (by decide),
      hid, hcemail, hidStrip, hemailStrip]
    by_cases hempty : clientId = []
    · simp [hempty, hemail]
    · simp [hempty, hemail]

end Rendered

/-! ## The rules of a client -/

section Rules

variable {U : Unicode} {reprText : Text → Text} {sha1 : Sha1} {email : Text}

/-- The rule of a client, as the dict it is. -/
def clientRuleDict (r : Text × Text) : Dict :=
  [field "type" (literal "field"), field "inboundTag" (.list [.str xrayInboundTag]),
    field "user" (.list [.str r.1]), field "outboundTag" (.str r.2)]

lemma tagOf_clientRuleDict (r : Text × Text) :
    tagOf reprText "outboundTag" (clientRuleDict r) = r.2 := Value.textOr_str reprText r.2

lemma matchRule_clientRule (r : Text × Text) :
    matchRule reprText email (clientRuleDict r) = some (decide (r.1 = email)) := by
  show some (decide ([r.1] = [] ∨ email ∈ [r.1]) && true) = _
  rw [Bool.and_true]
  congr 2
  simp [eq_comm]

lemma matchRule_apiRule : matchRule reprText email managedApiRule.dictOr = some false := rfl

/-- A rule can be read for one client if it can be read for all. -/
lemma isSome_matchRule {rule : Dict} :
    (matchRule reprText email rule).isSome = true ↔ ReadableRule reprText rule := by
  rw [matchRule, ReadableRule]
  cases tagTexts reprText (rule.get "inboundTag") with
  | none => simp
  | some inbounds =>
      simp only [Option.bind_some, Option.some.injEq, exists_eq_left']
      by_cases hother : inbounds ≠ [] ∧ xrayInboundTag ∉ inbounds
      · simp [hother]
      · have hfor : inbounds = [] ∨ xrayInboundTag ∈ inbounds := by
          rwa [not_and_or, not_not, not_not] at hother
        simp [hother, hfor]

lemma matchingRules_append (xs ys : List Dict) :
    matchingRules reprText email (xs ++ ys) = (matchingRules reprText email xs).bind fun found =>
      (matchingRules reprText email ys).map fun found' => found ++ found' := by
  induction xs with
  | nil =>
      rw [matchingRules, List.nil_append, Option.bind_some]
      exact Option.map_id'.symm
  | cons rule xs ih =>
      rw [List.cons_append, matchingRules, matchingRules, ih]
      cases matchRule reprText email rule with
      | none => rfl
      | some matched =>
          cases matchingRules reprText email xs with
          | none => rfl
          | some found =>
              cases matchingRules reprText email ys with
              | none => rfl
              | some found' => cases matched <;> rfl

/-- Of the rules of clients those of the client match. -/
lemma matchingRules_clientRules (owners : List (Text × Text)) :
    matchingRules reprText email (owners.map clientRuleDict) =
      some ((owners.filter fun r => decide (r.1 = email)).map clientRuleDict) := by
  induction owners with
  | nil => rfl
  | cons r owners ih =>
      rw [List.map_cons, matchingRules, matchRule_clientRule, ih, Option.bind_some, Option.map_some,
        List.filter_cons]
      cases decide (r.1 = email) <;> rfl

/-- Rules can be searched if each of them can be read. -/
lemma isSome_matchingRules {rules : List Dict} : (matchingRules reprText email rules).isSome = true ↔
    ∀ rule ∈ rules, ReadableRule reprText rule := by
  induction rules with
  | nil => simp [matchingRules]
  | cons rule rules ih =>
      rw [List.forall_mem_cons, ← ih, ← isSome_matchRule, matchingRules]
      cases matchRule reprText email rule with
      | none => simp
      | some matched => simp

lemma mem_of_mem_matchingRules : ∀ {rules found : List Dict},
    matchingRules reprText email rules = some found → ∀ rule ∈ found, rule ∈ rules := by
  intro rules
  induction rules with
  | nil =>
      intro found h rule hrule
      obtain rfl : [] = found := Option.some.inj h
      simp at hrule
  | cons r rules ih =>
      intro found h rule hrule
      rw [matchingRules, Option.bind_eq_some_iff] at h
      obtain ⟨matched, -, h⟩ := h
      obtain ⟨rest, hrest, rfl⟩ := Option.map_eq_some_iff.mp h
      cases matched with
      | false => exact List.mem_cons_of_mem _ (ih hrest rule hrule)
      | true =>
          rcases List.mem_cons.mp hrule with rfl | hrule
          · exact List.mem_cons_self
          · exact List.mem_cons_of_mem _ (ih hrest rule hrule)

/-! ## Who has a rule -/

/-- The client and the outbound of a mode. -/
def modeOwner (U : Unicode) (d : ClientMode) : Option (Text × Text) :=
  if d.email = [] ∨ d.mode U ∉ explicitModes then none
  else some (d.email, modeOutboundTag (d.mode U))

/-- The client and the outbound of a binding. -/
def bindingOwner (sha1 : Sha1) (b : ClientBinding) : Option (Text × Text) :=
  if b.email = [] ∨ b.server = [] then none else some (b.email, xrayManagedEgressTag sha1 b.server)

/-- The clients with a rule, in the order of the rules. -/
def ruleOwners (U : Unicode) (sha1 : Sha1) (bindings : List ClientBinding)
    (clientModes : List ClientMode) : List (Text × Text) :=
  clientModes.filterMap (modeOwner U) ++ bindings.filterMap (bindingOwner sha1)

lemma managedRules_eq {bindings : List ClientBinding} {clientModes : List ClientMode}
    {assignments : List Assignment}
    (h : buildXrayHandoffAssignments sha1 bindings [] = some assignments) :
    managedRules U bindings clientModes assignments =
      (ruleOwners U sha1 bindings clientModes).map fun r => .dict (clientRuleDict r) := by
  obtain ⟨hplaced, -, -⟩ := build_spec wellPlaced_nil h
  rw [managedRules, ruleOwners, List.map_append]
  congr 1
  · rw [managedModeRules, List.map_filterMap]
    refine List.filterMap_congr fun d _ => ?_
    rw [modeRule, modeOwner]
    split_ifs
    · rfl
    · rfl
  · rw [managedRoutingRulesFromBindings, List.map_filterMap]
    refine List.filterMap_congr fun b hb => ?_
    rw [bindingOwner]
    split_ifs with hnone
    · rw [Option.map_none, Option.eq_none_iff_forall_ne_some]
      intro v hv
      obtain ⟨hemail, hbound, -⟩ := (bindingRule_eq_some hplaced).mp hv
      exact hnone.elim hemail ((exists_assignment_iff h).mp hbound).1
    · rw [not_or] at hnone
      exact (bindingRule_eq_some hplaced).mpr
        ⟨hnone.1, (exists_assignment_iff h).mpr ⟨hnone.2, b, hb, rfl⟩, rfl⟩

/-- The rules of the result: that of the API, those of the clients, and those that stay. -/
lemma rules_written {payload : Dict} {bindings : List ClientBinding} {clientModes : List ClientMode}
    {m : Materialized}
    (h : materializeManagedEgress U reprText sha1 payload bindings clientModes none = some m) :
    ∃ kept, preservedRules reprText (rulesOf payload) = some kept ∧
      dictsOf ((m.payload.get "routing").dictOr.get "rules") =
        managedApiRule.dictOr :: (ruleOwners U sha1 bindings clientModes).map clientRuleDict ++
          kept.filterMap Value.asDict := by
  obtain ⟨hbuild, kept, hkept, hrules, -⟩ := materialize_shape h
  refine ⟨kept, hkept, ?_⟩
  show (rulesOf m.payload).filterMap Value.asDict = _
  have hdicts : ((ruleOwners U sha1 bindings clientModes).map fun r =>
      Value.dict (clientRuleDict r)).filterMap Value.asDict =
      (ruleOwners U sha1 bindings clientModes).map clientRuleDict := by
    rw [List.filterMap_map]
    exact congrFun List.filterMap_eq_map _
  rw [hrules, managedRules_eq hbuild, List.filterMap_append, List.filterMap_cons]
  show managedApiRule.dictOr :: _ ++ _ = _
  rw [hdicts]

/-- A rule that stays does not go to the API. -/
lemma tagOf_preserved_ne {rules kept : List Value} (h : preservedRules reprText rules = some kept)
    {rule : Dict} (hrule : rule ∈ kept.filterMap Value.asDict) :
    tagOf reprText "outboundTag" rule ≠ xrayApiTag := by
  obtain ⟨v, hv, hdict⟩ := List.mem_filterMap.mp hrule
  obtain ⟨rule', hdict', hmanaged⟩ := of_mem_preservedRules h v hv
  obtain rfl : rule = rule' := Option.some.inj (hdict.symm.trans hdict')
  intro htag
  rw [isManagedRule_of_tag (by rw [htag]; rfl)] at hmanaged
  cases hmanaged

end Rules

/-! ## The rule and the outbound of a bound client -/

section Bound

variable {U : Unicode} {reprText : Text → Text} {intText : Text → Option ℤ} {sha1 : Sha1}

lemma fst_of_modeOwner {d : ClientMode} {r : Text × Text} (h : modeOwner U d = some r) :
    r.1 = d.email := by
  rw [modeOwner] at h
  split_ifs at h
  rw [← Option.some.inj h]

lemma fst_of_bindingOwner {b : ClientBinding} {r : Text × Text} (h : bindingOwner sha1 b = some r) :
    r.1 = b.email := by
  rw [bindingOwner] at h
  split_ifs at h
  rw [← Option.some.inj h]

lemma filter_owners {bindings : List ClientBinding} {clientModes : List ClientMode}
    (hdistinct : (bindings.map ClientBinding.email ++ clientModes.map ClientMode.email).Nodup)
    {b : ClientBinding} (hb : b ∈ bindings) (hemail : b.email ≠ []) (hserver : b.server ≠ []) :
    (ruleOwners U sha1 bindings clientModes).filter (fun r => decide (r.1 = b.email)) =
      [(b.email, xrayManagedEgressTag sha1 b.server)] := by
  obtain ⟨hbindings, -, hapart⟩ := List.nodup_append.mp hdistinct
  have hmodes : (clientModes.filterMap (modeOwner U)).filter (fun r => decide (r.1 = b.email)) =
      [] := by
    rw [List.filter_eq_nil_iff]
    intro r hr hown
    obtain ⟨d, hd, hr⟩ := List.mem_filterMap.mp hr
    refine hapart b.email (List.mem_map_of_mem hb) d.email (List.mem_map_of_mem hd) ?_
    rw [← fst_of_modeOwner hr, of_decide_eq_true hown]
  have hown : bindingOwner sha1 b = some (b.email, xrayManagedEgressTag sha1 b.server) := by
    rw [bindingOwner, if_neg (not_or.mpr ⟨hemail, hserver⟩)]
  have hselect : (bindings.filterMap (bindingOwner sha1)).filter (fun r => decide (r.1 = b.email)) =
      (bindings.filter fun c => decide (c.email = b.email)).filterMap (bindingOwner sha1) := by
    rw [List.filter_filterMap, List.filterMap_filter]
    refine List.filterMap_congr fun c _ => ?_
    cases hc : bindingOwner sha1 c with
    | none => simp
    | some r =>
        rw [Option.filter_some, fst_of_bindingOwner hc]
  rw [ruleOwners, List.filter_append, hmodes, List.nil_append, hselect,
    KeyedTable.filter_key_eq hbindings hb, List.filterMap_cons, hown]
  rfl

/-- The outbound that the tag of a server finds is that of the first server with its digest. -/
lemma find_outbound {payload : Dict} {bindings : List ClientBinding} {clientModes : List ClientMode}
    {m : Materialized}
    (h : materializeManagedEgress U reprText sha1 payload bindings clientModes none = some m)
    (s : Text) :
    (outboundsOf m.payload).find? (hasTag reprText (xrayManagedEgressTag sha1 s)) =
      (m.assignments.find? fun a => decide (xrayHandoffDigest sha1 a.selectedServerId =
        xrayHandoffDigest sha1 s)).map fun a => buildSocksHandoffOutbound a.tag a.port := by
  obtain ⟨hbuild, _, -, -, -, houtbounds, -⟩ := materialize_shape h
  obtain ⟨hplaced, -, -⟩ := build_spec wellPlaced_nil hbuild
  have hfixed : fixedOutbounds.find? (hasTag reprText (xrayManagedEgressTag sha1 s)) = none :=
    List.find?_eq_none.mpr fun o ho => by rw [hasTag_fixed s o ho]; decide
  have hkept : (preservedOutbounds reprText (outboundsOf payload)).find?
      (hasTag reprText (xrayManagedEgressTag sha1 s)) = none :=
    List.find?_eq_none.mpr fun o ho => by
      rw [hasTag_preserved (isManagedTag_egress s) o ho]
      decide
  have hegress : ((egressByServer m.assignments).map Prod.snd).find?
      (hasTag reprText (xrayManagedEgressTag sha1 s)) =
      (m.assignments.find? fun a => decide (xrayHandoffDigest sha1 a.selectedServerId =
        xrayHandoffDigest sha1 s)).map fun a => buildSocksHandoffOutbound a.tag a.port := by
    rw [← List.head?_filter, filter_egress hplaced, List.head?_map, List.head?_filter]
  rw [houtbounds, List.find?_append, List.find?_append, hfixed, hkept, hegress, Option.none_or,
    Option.or_none]

lemma find_dictsOf (v : Value) (tag : Text) :
    (dictsOf v).find? (fun o => decide (tagOf reprText "tag" o = tag)) =
      (v.listOr.find? (hasTag reprText tag)).bind Value.asDict := by
  rw [dictsOf]
  induction v.listOr with
  | nil => rfl
  | cons o outbounds ih =>
      rw [List.filterMap_cons, List.find?_cons, hasTag]
      cases ho : o.asDict with
      | none =>
          rw [Option.any_none]
          exact ih
      | some fields =>
          rw [List.find?_cons, Option.any_some]
          cases decide (tagOf reprText "tag" fields = tag) with
          | true => exact ho.symm
          | false => exact ih

/-- The SOCKS outbound of an assignment serves a handoff to the same port. -/
lemma anyServer_socks (port expected : ℕ) :
    anyServer reprText intText xrayMihomoHandoffHost expected
        [.dict [field "address" (.str xrayMihomoHandoffHost), field "port" (.int port)]] =
      some (decide (port = expected)) := by
  have haddress : tagOf reprText "address" [field "address" (.str xrayMihomoHandoffHost),
      field "port" (.int port)] = xrayMihomoHandoffHost := Value.textOr_str reprText _
  have hport : intOrZero intText (.int port) = some (port : ℤ) := by
    rw [intOrZero]
    split_ifs with htruthy
    · rfl
    · have hzero : (port : ℤ) = 0 := by simpa [Value.truthy] using htruthy
      rw [hzero]
  rw [anyServer]
  simp only [Value.asDict, haddress, if_pos]
  show (intOrZero intText (.int port)).bind _ = _
  rw [hport, Option.bind_some]
  by_cases hp : port = expected
  · simp [hp]
  · have hz : ¬(port : ℤ) = expected := fun hz => hp (by exact_mod_cast hz)
    simp [hp, hz, anyServer]

lemma solid_egressTag (s : Text) : Solid (xrayManagedEgressTag sha1 s) := by
  have hinitial : Solid xrayManagedEgressPrefix := by decide
  exact hinitial.append (solid_handoffDigest s)

/-- **The handoff of a binding is valid if its port is that of the outbound** that its tag finds. -/
lemma handoffValid_written {payload : Dict} {bindings : List ClientBinding}
    {clientModes : List ClientMode} {m : Materialized}
    (h : materializeManagedEgress U reprText sha1 payload bindings clientModes none = some m)
    {k : Assignment} (hk : k.toTarget.Named sha1) :
    handoffValid reprText intText (dictsOf (m.payload.get "outbounds")) k.handoff =
      some ((m.assignments.find? fun a => decide (xrayHandoffDigest sha1 a.selectedServerId =
        xrayHandoffDigest sha1 k.selectedServerId)).any fun a => decide (a.port = k.port)) := by
  have htag : strip k.handoff.outboundTag = xrayManagedEgressTag sha1 k.selectedServerId := by
    show strip k.tag = _
    rw [hk.tag, strip_solid (solid_egressTag _)]
  have hlisten : strip k.handoff.listen = xrayMihomoHandoffHost := by
    show strip k.listen = _
    rw [hk.listen]
    decide
  rw [handoffValid, htag, hlisten, find_dictsOf]
  show (match ((outboundsOf m.payload).find? (hasTag reprText
    (xrayManagedEgressTag sha1 k.selectedServerId))).bind Value.asDict with
    | none => some false
    | some o => _) = _
  rw [find_outbound h]
  cases m.assignments.find? fun a => decide (xrayHandoffDigest sha1 a.selectedServerId =
      xrayHandoffDigest sha1 k.selectedServerId) with
  | none => rfl
  | some a => exact anyServer_socks a.port k.port

end Bound

/-! ## The reports -/

section Reports

variable {U : Unicode} {reprText : Text → Text} {intText : Text → Option ℤ} {sha1 : Sha1}

/-- Nothing is wrong with a binding. -/
structure BindingCheck.Passes (reprText : Text → Text) (c : BindingCheck) : Prop where
  clientPresent : c.clientPresent = true
  outboundPresent : c.outboundPresent = true
  handoffValid : c.handoffValid = true
  firstOutbound : c.firstOutbound reprText = strip c.handoff.outboundTag
  noApiRule : ∀ rule ∈ c.matching, tagOf reprText "outboundTag" rule ≠ xrayApiTag

lemma bindingsReport_ok {checks : List BindingCheck} :
    (bindingsReport reprText checks).ok = true ↔ ∀ c ∈ checks, c.Passes reprText := by
  simp only [BindingsReport.ok, bindingsReport, Bool.and_eq_true, List.isEmpty_iff, List.flatMap_eq_nil_iff, List.map_eq_nil_iff, List.filter_eq_nil_iff,
    decide_eq_true_eq]
  constructor
  · rintro ⟨⟨⟨⟨⟨hclient, houtbound⟩, hhandoff⟩, hrule⟩, hapi⟩, -⟩ c hc
    refine ⟨?_, ?_, ?_, ?_, hapi c hc⟩
    · simpa using hclient c hc
    · simpa using houtbound c hc
    · simpa using hhandoff c hc
    · simpa using hrule c hc
  · intro h
    refine ⟨⟨⟨⟨⟨?_, ?_⟩, ?_⟩, ?_⟩, ?_⟩, ?_⟩
    · intro c hc
      simp [(h c hc).clientPresent]
    · intro c hc
      simp [(h c hc).outboundPresent]
    · intro c hc
      simp [(h c hc).handoffValid]
    · intro c hc
      simpa using (h c hc).firstOutbound
    · intro c hc
      exact (h c hc).noApiRule
    · intro c hc
      have hfirst := (h c (List.mem_of_mem_filter hc)).firstOutbound
      exact absurd hfirst (of_decide_eq_true (List.mem_filter.mp hc).2)

lemma checkBinding_eq_some {payload : Dict} {b : CollectedBinding} {handoff : Handoff}
    {check : BindingCheck} :
    checkBinding reprText intText payload b handoff = some check ↔ ∃ valid matching,
      handoffValid reprText intText (dictsOf (payload.get "outbounds")) handoff = some valid ∧
      matchingRules reprText b.email (dictsOf ((payload.get "routing").dictOr.get "rules")) =
        some matching ∧
      check = ⟨b.email, b.id, handoff,
        clientPresentInVlessInbound reprText (dictsOf (payload.get "inbounds")) b.id b.email,
        (dictsOf (payload.get "outbounds")).any fun o =>
          decide (tagOf reprText "tag" o = strip handoff.outboundTag), valid, matching⟩ := by
  rw [checkBinding, Option.bind_eq_some_iff]
  constructor
  · rintro ⟨valid, hvalid, h⟩
    obtain ⟨matching, hmatching, rfl⟩ := Option.map_eq_some_iff.mp h
    exact ⟨valid, matching, hvalid, hmatching, rfl⟩
  · rintro ⟨valid, matching, hvalid, hmatching, rfl⟩
    exact ⟨valid, hvalid, Option.map_eq_some_iff.mpr ⟨matching, hmatching, rfl⟩⟩

/-- **The check of the bindings is ok if every binding that it does not pass over passes.** -/
lemma verifyBindings_ok {payload : Dict} {bindings : List CollectedBinding} :
    (∃ report, verifyActiveConfigBindings reprText intText payload bindings = some report ∧
        report.ok = true) ↔
      ∀ b ∈ bindings, ∀ handoff, toVerify b = some handoff →
        ∃ check, checkBinding reprText intText payload b handoff = some check ∧
          check.Passes reprText := by
  have hchecks : (∃ checks, bindingChecks reprText intText payload bindings = some checks ∧
      ∀ c ∈ checks, c.Passes reprText) ↔ ∀ b ∈ bindings, ∀ handoff, toVerify b = some handoff →
        ∃ check, checkBinding reprText intText payload b handoff = some check ∧
          check.Passes reprText := by
    induction bindings with
    | nil => simp [bindingChecks]
    | cons b bindings ih =>
        rw [List.forall_mem_cons, ← ih, bindingChecks]
        cases htoVerify : toVerify b with
        | none => simp
        | some handoff =>
            simp only [Option.bind_eq_some_iff, Option.map_eq_some_iff, Option.some.injEq,
              forall_eq']
            constructor
            · rintro ⟨_, ⟨check, hcheck, checks, hchecks, rfl⟩, hpass⟩
              rw [List.forall_mem_cons] at hpass
              exact ⟨⟨check, hcheck, hpass.1⟩, checks, hchecks, hpass.2⟩
            · rintro ⟨⟨check, hcheck, hpass⟩, checks, hchecks, hrest⟩
              exact ⟨_, ⟨check, hcheck, checks, hchecks, rfl⟩,
                List.forall_mem_cons.mpr ⟨hpass, hrest⟩⟩
  rw [← hchecks]
  simp only [verifyActiveConfigBindings, Option.map_eq_some_iff]
  constructor
  · rintro ⟨_, ⟨checks, hsome, rfl⟩, hok⟩
    exact ⟨checks, hsome, bindingsReport_ok.mp hok⟩
  · rintro ⟨checks, hsome, hpass⟩
    exact ⟨_, ⟨checks, hsome, rfl⟩, bindingsReport_ok.mpr hpass⟩

end Reports

/-! ## The check of an apply -/

section Apply

variable {U : Unicode} {reprText : Text → Text} {intText : Text → Option ℤ} {sha1 : Sha1}
  {file : BindingsFile} {clients : List Client} {clientModes : List ModeDirective} {payload : Dict}
  {bindings : List CollectedBinding} {written : Dict}

/-- What one apply computes: the bindings carry the ports of the preserving allocation `kept`, and
the configuration is rendered with a plain one. -/
lemma apply_spec (hcollect : collectBindings sha1 file clients = some bindings)
    (hwritten : materializeClientBindings U reprText sha1 payload bindings clientModes =
      some written) :
    ∃ kept inbounds m, buildXrayHandoffAssignments sha1 (clients.map Client.toClientBinding)
        file.handoffListeners = some kept ∧
      bindings = clients.map (annotateClient kept) ∧
      materializeManagedEgress U reprText sha1 (payload.set "inbounds" inbounds)
        (clients.map Client.toClientBinding) (clientModes.map ModeDirective.toClientMode) none =
          some m ∧ written = m.payload := by
  obtain ⟨kept, hkept, rfl⟩ := Option.map_eq_some_iff.mp hcollect
  rw [materializeClientBindings, Option.bind_eq_some_iff] at hwritten
  obtain ⟨inbounds, -, hwritten⟩ := hwritten
  obtain ⟨m, hm, rfl⟩ := Option.map_eq_some_iff.mp hwritten
  rw [List.map_map] at hm
  exact ⟨kept, .list inbounds, m, hkept, rfl, hm, rfl⟩

lemma rulesOf_set_inbounds (v : Value) : rulesOf (payload.set "inbounds" v) = rulesOf payload := by
  rw [rulesOf, rulesOf, Dict.get_set_of_ne (by decide)]

/-- The dictionaries among the rules that stay can be read exactly if all these rules can. -/
lemma readable_preserved_iff {preserved : List Value}
    (hpreserved : preservedRules reprText (rulesOf payload) = some preserved) :
    (∀ rule ∈ preserved.filterMap Value.asDict, ReadableRule reprText rule) ↔
      ∀ preserved, preservedRules reprText (rulesOf payload) = some preserved →
        ∀ rule, Value.dict rule ∈ preserved → ReadableRule reprText rule := by
  constructor
  · intro h other hother rule hrule
    obtain rfl : preserved = other := Option.some.inj (hpreserved.symm.trans hother)
    exact h rule (List.mem_filterMap.mpr ⟨.dict rule, hrule, rfl⟩)
  · intro h rule hrule
    obtain ⟨v, hv, hdict⟩ := List.mem_filterMap.mp hrule
    have hv' : v = .dict rule := by
      cases v with
      | dict fields => rw [Option.some.inj hdict]
      | _ => cases hdict
    exact h preserved hpreserved rule (hv' ▸ hv)

/-- The written rules of a client: its own one, and those that stay. -/
lemma matchingRules_written (happlied : AppliedClients U reprText payload clients clientModes)
    {m : Materialized} {preserved : List Value}
    (hrules : dictsOf ((m.payload.get "routing").dictOr.get "rules") = managedApiRule.dictOr ::
      (ruleOwners U sha1 (clients.map Client.toClientBinding)
        (clientModes.map ModeDirective.toClientMode)).map clientRuleDict ++
        preserved.filterMap Value.asDict)
    {c : Client} (hc : c ∈ clients) (hemail : c.email ≠ []) (hbound : c.server ≠ []) :
    matchingRules reprText c.email
        (dictsOf ((m.payload.get "routing").dictOr.get "rules")) =
      (matchingRules reprText c.email (preserved.filterMap Value.asDict)).map fun found =>
        clientRuleDict (c.email, xrayManagedEgressTag sha1 c.server) :: found := by
  have hdistinct : ((clients.map Client.toClientBinding).map ClientBinding.email ++
      (clientModes.map ModeDirective.toClientMode).map ClientMode.email).Nodup := by
    rw [List.map_map, List.map_map]
    exact happlied.distinct
  have howners := @filter_owners U sha1 _ _ hdistinct _
    (List.mem_map_of_mem (f := Client.toClientBinding) hc) hemail hbound
  rw [hrules, List.cons_append, matchingRules, matchRule_apiRule, Option.bind_some,
    matchingRules_append, matchingRules_clientRules, howners]
  cases matchingRules reprText c.email (preserved.filterMap Value.asDict) <;> rfl

/-- The outbound of a server that has a port is there under its tag. -/
lemma egressOutbound_written {inbounds : Value} {m : Materialized}
    (hm : materializeManagedEgress U reprText sha1 (payload.set "inbounds" inbounds)
      (clients.map Client.toClientBinding) (clientModes.map ModeDirective.toClientMode) none =
        some m) {server : Text} {a : Assignment}
    (ha : (m.assignments.find? fun a => decide (xrayHandoffDigest sha1 a.selectedServerId =
      xrayHandoffDigest sha1 server)) = some a) :
    ((dictsOf (m.payload.get "outbounds")).any fun o =>
      decide (tagOf reprText "tag" o = xrayManagedEgressTag sha1 server)) = true := by
  have hfind := @find_dictsOf reprText (m.payload.get "outbounds") (xrayManagedEgressTag sha1 server)
  have houtbound := find_outbound hm server
  rw [ha, Option.map_some] at houtbound
  rw [show (m.payload.get "outbounds").listOr = outboundsOf m.payload from rfl, houtbound] at hfind
  have hsome : ((dictsOf (m.payload.get "outbounds")).find? fun o =>
      decide (tagOf reprText "tag" o = xrayManagedEgressTag sha1 server)).isSome = true := by
    rw [hfind]
    rfl
  exact List.any_eq_true.mpr (List.find?_isSome.mp hsome)

/-- **When a binding passes**: the outbound that its tag finds has its port, and the rules that stay
can be read. -/
lemma binding_passes_iff (intText : Text → Option ℤ) (kept : List Assignment)
    (happlied : AppliedClients U reprText payload clients clientModes)
    {inbounds : Value} {m : Materialized}
    (hwritten : materializeClientBindings U reprText sha1 payload bindings clientModes =
      some m.payload)
    (hm : materializeManagedEgress U reprText sha1 (payload.set "inbounds" inbounds)
      (clients.map Client.toClientBinding) (clientModes.map ModeDirective.toClientMode) none =
        some m)
    {c : Client} (hc : c ∈ clients) {k : Assignment} (hk : k.toTarget.Named sha1)
    (hserver : k.selectedServerId = c.server) :
    (∃ check, checkBinding reprText intText m.payload (annotateClient kept c) k.handoff =
        some check ∧ check.Passes reprText) ↔
      (m.assignments.find? fun a => decide (xrayHandoffDigest sha1 a.selectedServerId =
        xrayHandoffDigest sha1 c.server)).any (fun a => decide (a.port = k.port)) = true ∧
      ∀ preserved, preservedRules reprText (rulesOf payload) = some preserved →
        ∀ rule, Value.dict rule ∈ preserved → ReadableRule reprText rule := by
  obtain ⟨preserved, hpreserved, hrules⟩ := rules_written hm
  rw [rulesOf_set_inbounds] at hpreserved
  have hemail : c.email ≠ [] := fun h => happlied.named (h ▸ List.mem_append_left _
    (List.mem_map_of_mem (f := fun c : Client => c.email) hc))
  have hbound : c.server ≠ [] := hserver ▸ hk.nonempty
  have htag : strip k.handoff.outboundTag = xrayManagedEgressTag sha1 c.server := by
    show strip k.tag = _
    rw [hk.tag, strip_solid (solid_egressTag _), hserver]
  have hmatching := @matchingRules_written U reprText sha1 _ _ _ happlied m preserved hrules c hc hemail
    hbound
  have hvalid := @handoffValid_written U reprText intText sha1 _ _ _ m hm k hk
  rw [hserver] at hvalid
  rw [← readable_preserved_iff hpreserved, ← @isSome_matchingRules reprText c.email]
  constructor
  · rintro ⟨check, hcheck, hpass⟩
    obtain ⟨valid, matching, hvalid', hfound, rfl⟩ := checkBinding_eq_some.mp hcheck
    rw [hvalid, Option.some.injEq] at hvalid'
    refine ⟨hvalid'.trans hpass.handoffValid, ?_⟩
    have hfound' := hmatching.symm.trans hfound
    obtain ⟨found, hsome, -⟩ := Option.map_eq_some_iff.mp hfound'
    rw [hsome]
    rfl
  · rintro ⟨hport, hsome⟩
    obtain ⟨found, hfound⟩ := Option.isSome_iff_exists.mp hsome
    rw [hfound, Option.map_some] at hmatching
    rw [hport] at hvalid
    refine ⟨_, checkBinding_eq_some.mpr ⟨true, _, hvalid, hmatching, rfl⟩, ?_, ?_, rfl, htag.symm, ?_⟩
    · exact clientPresent_written hwritten (happlied.bound c hc) hemail (strip_strip _)
        (strip_strip _)
    · obtain ⟨a, ha, -⟩ := Option.any_eq_true _ _ |>.mp hport
      show ((dictsOf (m.payload.get "outbounds")).any fun o =>
        decide (tagOf reprText "tag" o = strip k.handoff.outboundTag)) = true
      rw [htag]
      exact egressOutbound_written hm ha
    · intro rule hrule
      rcases List.mem_cons.mp hrule with rfl | hrule
      · rw [tagOf_clientRuleDict]
        exact fun h => egressTag_ne (by decide) c.server h.symm
      · exact tagOf_preserved_ne hpreserved (mem_of_mem_matchingRules hfound rule hrule)

/-! ### The modes -/

lemma mayMatch_clientRule (email : Text) (r : Text × Text) :
    mayMatchClient email (clientRuleDict r) = decide (r.1 = email) := by
  show (true && admits xrayInboundTag (.list [.str xrayInboundTag]) &&
    admits email (.list [.str r.1])) = _
  rw [admits_singleton, admits_singleton, decide_eq_true rfl, Bool.and_true, Bool.true_and]

lemma mayMatch_apiRule (email : Text) : mayMatchClient email managedApiRule.dictOr = false := by
  show (true && admits xrayInboundTag (.list [.str xrayApiTag]) && admits email .none) = false
  have hne : ¬xrayApiTag = xrayInboundTag := by decide
  rw [admits_singleton, decide_eq_false hne, Bool.and_false, Bool.false_and]

lemma admits_of_listed {t : Text} {v : Value} (h : listed t v = true) : admits t v = true := by
  cases v with
  | list values =>
      have hany : (Value.list values).listOr.any (Value.isText t) = true := h
      rw [admits, hany, Bool.or_true]
  | str s =>
      have htext : (Value.str s).isText t = true := h
      rw [admits, htext, Bool.or_true, Bool.true_or]
  | _ => cases h

lemma mayMatch_of_exact {email tag : Text} {rule : Dict}
    (h : isExactRule reprText email tag rule = true) : mayMatchClient email rule = true := by
  rw [isExactRule, Bool.and_eq_true, Bool.and_eq_true, Bool.and_eq_true] at h
  obtain ⟨⟨⟨huser, hinbound⟩, -⟩, hkeys⟩ := h
  rw [mayMatchClient, hkeys, admits_of_listed huser, admits_of_listed hinbound]
  rfl

lemma exact_clientRule (r : Text × Text) :
    isExactRule reprText r.1 r.2 (clientRuleDict r) = true := by
  have htag := @tagOf_clientRuleDict reprText r
  rw [isExactRule, htag, decide_eq_true rfl]
  show (([Value.str r.1].any (Value.isText r.1) && true) && true && true) = true
  simp [Value.isText]

/-- The first rule that may match is the exact one. -/
lemma findIdx_exact {email tag : Text} {before after : List Dict} {rule : Dict}
    (hbefore : ∀ r ∈ before, mayMatchClient email r = false)
    (hrule : isExactRule reprText email tag rule = true) :
    (before ++ rule :: after).findIdx? (isExactRule reprText email tag) = some before.length := by
  have hnone : before.findIdx? (isExactRule reprText email tag) = none := by
    rw [List.findIdx?_eq_none_iff]
    intro r hr
    by_contra hexact
    have := mayMatch_of_exact (Bool.not_eq_false _ ▸ hexact)
    rw [hbefore r hr] at this
    cases this
  rw [List.findIdx?_append, hnone, List.findIdx?_cons, hrule]
  simp

/-- The outbounds of the explicit modes are always there. -/
lemma modeOutbound_written {inbounds : Value} {m : Materialized}
    (hm : materializeManagedEgress U reprText sha1 (payload.set "inbounds" inbounds)
      (clients.map Client.toClientBinding) (clientModes.map ModeDirective.toClientMode) none =
        some m) (mode : Text) :
    ((dictsOf (m.payload.get "outbounds")).any fun o =>
      decide (tagOf reprText "tag" o = modeOutboundTag mode)) = true := by
  obtain ⟨-, _, -, -, -, houtbounds, -⟩ := materialize_shape hm
  have hfixed : ∀ o ∈ [explicitDirectOutbound, fallbackBlackholeOutbound],
      o.dictOr ∈ dictsOf (m.payload.get "outbounds") := by
    intro o ho
    refine List.mem_filterMap.mpr ⟨o, ?_, ?_⟩
    · show o ∈ outboundsOf m.payload
      rw [houtbounds]
      refine List.mem_append_left _ (List.mem_append_left _ ?_)
      simp only [List.mem_cons, List.not_mem_nil, or_false] at ho
      rcases ho with rfl | rfl
      · simp [fixedOutbounds]
      · simp [fixedOutbounds]
    · simp only [List.mem_cons, List.not_mem_nil, or_false] at ho
      rcases ho with rfl | rfl <;> rfl
  rw [List.any_eq_true, modeOutboundTag]
  split_ifs
  · exact ⟨_, hfixed explicitDirectOutbound (by simp), decide_eq_true rfl⟩
  · exact ⟨_, hfixed fallbackBlackholeOutbound (by simp), decide_eq_true rfl⟩

/-- The rules of directives with other emails never match the client. -/
lemma mayMatch_otherModes {first : List ModeDirective} {email : Text}
    (hother : ∀ directive ∈ first, directive.email ≠ email) :
    ∀ r ∈ managedApiRule.dictOr :: ((first.map ModeDirective.toClientMode).filterMap
      (modeOwner U)).map clientRuleDict, mayMatchClient email r = false := by
  intro r hr
  rcases List.mem_cons.mp hr with rfl | hr
  · exact mayMatch_apiRule email
  · obtain ⟨owner, howner, rfl⟩ := List.mem_map.mp hr
    obtain ⟨e, he, hown⟩ := List.mem_filterMap.mp howner
    obtain ⟨directive, hfirst, rfl⟩ := List.mem_map.mp he
    rw [mayMatch_clientRule, fst_of_modeOwner hown]
    exact decide_eq_false (hother directive hfirst)

/-- **The check of the modes passes after every apply.** -/
lemma modes_verified (happlied : AppliedClients U reprText payload clients clientModes)
    {inbounds : Value} {m : Materialized}
    (hwritten : materializeClientBindings U reprText sha1 payload bindings clientModes =
      some m.payload)
    (hm : materializeManagedEgress U reprText sha1 (payload.set "inbounds" inbounds)
      (clients.map Client.toClientBinding) (clientModes.map ModeDirective.toClientMode) none =
        some m) :
    verifyActiveConfigClientModes U reprText m.payload clientModes = [] := by
  rw [verifyActiveConfigClientModes, List.filterMap_eq_nil_iff]
  intro d hd
  rw [Option.map_eq_none_iff, modeFault]
  by_cases hskip : d.email = [] ∨ d.mode U ∉ explicitModes
  · exact if_pos hskip
  · rw [if_neg hskip]
    have hpassed := not_or.mp hskip
    have hpresent := clientPresent_written hwritten (happlied.directed d hd) hpassed.1
      (strip_strip _) (strip_strip _)
    obtain ⟨preserved, -, hrules⟩ := rules_written hm
    obtain ⟨first, last, hsplit⟩ := List.append_of_mem hd
    have howner : modeOwner U d.toClientMode = some (d.email, modeOutboundTag (d.mode U)) := by
      rw [modeOwner, if_neg hskip]
    -- the rules before that of the directive belong to other clients
    have hbefore := @mayMatch_otherModes U first d.email fun directive hfirst hsame => by
      have hmodes := (List.nodup_append.mp happlied.distinct).2.1
      rw [hsplit, List.map_append, List.map_cons, List.nodup_append] at hmodes
      exact hmodes.2.2 directive.email
        (List.mem_map_of_mem (f := fun d : ModeDirective => d.email) hfirst) d.email
        List.mem_cons_self hsame
    have hall : dictsOf ((m.payload.get "routing").dictOr.get "rules") =
        (managedApiRule.dictOr :: ((first.map ModeDirective.toClientMode).filterMap
          (modeOwner U)).map clientRuleDict) ++
        clientRuleDict (d.email, modeOutboundTag (d.mode U)) ::
          (((last.map ModeDirective.toClientMode).filterMap (modeOwner U) ++
            (clients.map Client.toClientBinding).filterMap (bindingOwner sha1)).map clientRuleDict ++
            preserved.filterMap Value.asDict) := by
      rw [hrules, ruleOwners, hsplit]
      simp only [List.map_append, List.map_cons, List.filterMap_append, List.filterMap_cons, howner,
        List.append_assoc, List.cons_append]
    rw [hpresent, modeOutbound_written hm, hall, findIdx_exact hbefore
      (exact_clientRule (d.email, modeOutboundTag (d.mode U)))]
    simp only [Bool.not_true, Bool.false_eq_true, if_false, List.take_left]
    rw [if_neg]
    rw [Bool.not_eq_true, List.any_eq_false]
    intro r hr
    rw [hbefore r hr]
    decide

/-! ### The ports -/

lemma toVerify_annotateClient {kept : List Assignment} (hkept : WellPlaced sha1 kept) {c : Client}
    (hemail : c.email ≠ []) {handoff : Handoff} :
    toVerify (annotateClient kept c) = some handoff ↔
      ∃ k ∈ kept, k.selectedServerId = c.server ∧ handoff = k.handoff := by
  rw [toVerify, Option.filter_eq_some_iff]
  show (annotate kept c.toClientBinding).handoff = some handoff ∧ _ ↔ _
  rw [handoff_annotate hkept]
  refine ⟨fun h => h.1, fun h => ⟨h, ?_⟩⟩
  obtain ⟨k, hk, -, rfl⟩ := h
  refine decide_eq_true ⟨hemail, ?_⟩
  show strip k.tag ≠ []
  rw [(hkept.named k hk).tag, strip_solid (solid_egressTag _)]
  exact egressTag_ne_nil _

/-- The port that the tag of each bound server finds is the one of the preserving allocation. -/
def PortsFound (sha1 : Sha1) (bindings : List ClientBinding) (kept plain : List Assignment) : Prop :=
  ∀ b ∈ bindings, ∀ k ∈ kept, k.selectedServerId = b.server →
    (plain.find? fun a => decide (xrayHandoffDigest sha1 a.selectedServerId =
      xrayHandoffDigest sha1 b.server)).any (fun a => decide (a.port = k.port)) = true

/-- **The ports are found exactly if first fit respects the recorded listeners** and the digests
differ. -/
lemma portsFound_iff {bindings : List ClientBinding} {listeners kept plain : List Assignment}
    (hlisteners : WellPlaced sha1 listeners)
    (hkept : buildXrayHandoffAssignments sha1 bindings listeners = some kept)
    (hplain : buildXrayHandoffAssignments sha1 bindings [] = some plain) :
    PortsFound sha1 bindings kept plain ↔
      RespectsRecorded sha1 listeners bindings ∧ DistinctServers sha1 bindings := by
  obtain ⟨hkeptPlaced, -, -⟩ := build_spec hlisteners hkept
  obtain ⟨hplainPlaced, -, -⟩ := build_spec wellPlaced_nil hplain
  have hplan := handoffPlan_of_build hplain
  constructor
  · intro hports
    have hdistinct : DistinctServers sha1 bindings := by
      intro b hb c hc hbs hcs hdigest
      obtain ⟨k, hk, hkb, -⟩ := portOf_isSome hlisteners hkept hb hbs
      obtain ⟨l, hl, hlc, -⟩ := portOf_isSome hlisteners hkept hc hcs
      obtain ⟨a, ha, hak⟩ := (Option.any_eq_true _ _).mp (hports b hb k hk hkb)
      obtain ⟨a', ha', hal⟩ := (Option.any_eq_true _ _).mp (hports c hc l hl hlc)
      rw [hdigest, ha', Option.some.injEq] at ha
      rw [← ha] at hak
      have hport : k.port = l.port :=
        (of_decide_eq_true hak).symm.trans (of_decide_eq_true hal)
      rw [← hkb, ← hlc, List.inj_on_of_nodup_map hkeptPlaced.ports hk hl hport]
    refine ⟨fun plan hplan' s port hmem => ?_, hdistinct⟩
    obtain rfl : placements plain = plan := Option.some.inj (hplan.symm.trans hplan')
    refine respects_of_ports hlisteners hkept hplain ?_ s port hmem
    intro b hb hserver
    obtain ⟨k, hk, hkb, hkport⟩ := portOf_isSome hlisteners hkept hb hserver
    obtain ⟨l, hl, hlb, hlport⟩ := portOf_isSome wellPlaced_nil hplain hb hserver
    obtain ⟨a, ha, hak⟩ := (Option.any_eq_true _ _).mp (hports b hb k hk hkb)
    have hmem := List.mem_of_find?_eq_some ha
    obtain ⟨has, c, hc, hca⟩ := (exists_assignment_iff hplain).mp ⟨a, hmem, rfl⟩
    have hdigest : xrayHandoffDigest sha1 a.selectedServerId = xrayHandoffDigest sha1 b.server := by
      simpa using List.find?_some ha
    have hsame : a.selectedServerId = b.server := by
      rw [← hca]
      exact hdistinct c hc b hb (hca ▸ has) hserver (hca ▸ hdigest)
    obtain rfl : a = l := List.inj_on_of_nodup_map hplainPlaced.servers hmem hl
      (hsame.trans hlb.symm)
    rw [hkport, hlport, of_decide_eq_true hak]
  · rintro ⟨hrespects, hdistinct⟩ b hb k hk hkb
    have hsame := (build_keeping_iff hlisteners hplain).mpr (hrespects _ hplan)
    obtain rfl : plain = kept := Option.some.inj (hsame.symm.trans hkept)
    have hserver : b.server ≠ [] := hkb ▸ (hplainPlaced.named k hk).nonempty
    have hfound : (plain.find? fun a => decide (xrayHandoffDigest sha1 a.selectedServerId =
        xrayHandoffDigest sha1 b.server)).isSome = true :=
      List.find?_isSome.mpr ⟨k, hk, decide_eq_true (by rw [hkb])⟩
    obtain ⟨a, ha⟩ := Option.isSome_iff_exists.mp hfound
    have hmem := List.mem_of_find?_eq_some ha
    obtain ⟨has, c, hc, hca⟩ := (exists_assignment_iff hplain).mp ⟨a, hmem, rfl⟩
    have hdigest : xrayHandoffDigest sha1 a.selectedServerId = xrayHandoffDigest sha1 b.server := by
      simpa using List.find?_some ha
    have hab : a.selectedServerId = b.server := by
      rw [← hca]
      exact hdistinct c hc b hb (hca ▸ has) hserver (hca ▸ hdigest)
    obtain rfl : a = k := List.inj_on_of_nodup_map hplainPlaced.servers hmem hk
      (hab.trans hkb.symm)
    rw [ha, Option.any_some, decide_eq_true rfl]

/-- **When an apply passes its own check.**  For recorded listeners as every write leaves them
(`written_stateAfter`), the configuration that is rendered for the collected bindings and modes
passes exactly when first fit over the bound servers respects the recorded listeners, no two bound
servers share a digest, and the rules that stay can be read. -/
theorem apply_verified_iff (intText : Text → Option ℤ)
    (hfile : WellPlaced sha1 file.handoffListeners)
    (hcollect : collectBindings sha1 file clients = some bindings)
    (happlied : AppliedClients U reprText payload clients clientModes)
    (hwritten : materializeClientBindings U reprText sha1 payload bindings clientModes =
      some written) :
    Verified U reprText intText written bindings clientModes ↔
      RespectsRecorded sha1 file.handoffListeners (clients.map Client.toClientBinding) ∧
        DistinctServers sha1 (clients.map Client.toClientBinding) ∧
        ReadableRules reprText payload (clients.map Client.toClientBinding) := by
  obtain ⟨kept, inbounds, m, hkept, rfl, hm, rfl⟩ := apply_spec hcollect hwritten
  obtain ⟨hplain, -⟩ := materialize_shape hm
  obtain ⟨hkeptPlaced, -, -⟩ := build_spec hfile hkept
  have hemail : ∀ c ∈ clients, c.email ≠ [] := fun c hc h => happlied.named (h ▸
    List.mem_append_left _ (List.mem_map_of_mem (f := fun c : Client => c.email) hc))
  rw [Verified, modes_verified happlied hwritten hm, and_iff_left rfl, verifyBindings_ok,
    ← and_assoc, ← portsFound_iff hfile hkept hplain]
  have hpasses : ∀ c ∈ clients, ∀ k ∈ kept, k.selectedServerId = c.server → _ :=
    fun c hc k hk hserver => binding_passes_iff intText kept happlied hwritten hm hc
      (hkeptPlaced.named k hk) hserver
  constructor
  · intro h
    have hchecked : ∀ c ∈ clients, ∀ k ∈ kept, k.selectedServerId = c.server → _ :=
      fun c hc k hk hserver => (hpasses c hc k hk hserver).mp (h (annotateClient kept c)
        (List.mem_map_of_mem hc) k.handoff
        ((toVerify_annotateClient hkeptPlaced (hemail c hc)).mpr ⟨k, hk, hserver, rfl⟩))
    constructor
    · intro b hb k hk hserver
      obtain ⟨c, hc, rfl⟩ := List.mem_map.mp hb
      exact (hchecked c hc k hk hserver).1
    · rintro ⟨b, hb, hserver⟩
      obtain ⟨c, hc, rfl⟩ := List.mem_map.mp hb
      obtain ⟨k, hk, hkc, -⟩ := portOf_isSome hfile hkept hb hserver
      exact (hchecked c hc k hk hkc).2
  · rintro ⟨hports, hreadable⟩ b hb handoff hverify
    obtain ⟨c, hc, rfl⟩ := List.mem_map.mp hb
    obtain ⟨k, hk, hserver, rfl⟩ := (toVerify_annotateClient hkeptPlaced (hemail c hc)).mp hverify
    have hmem := List.mem_map_of_mem (f := Client.toClientBinding) hc
    refine (hpasses c hc k hk hserver).mpr ⟨hports _ hmem k hk hserver, hreadable ⟨_, hmem, ?_⟩⟩
    show c.server ≠ []
    exact hserver ▸ (hkeptPlaced.named k hk).nonempty

end Apply

/-! ## Two applies -/

/-- A client of the managed inbound, bound to a server. -/
def clientAt (name server : String) : Client where
  toClientBinding := clientOf name server
  clientId := name.toList
  clientUuid := name.toList
  selectedServerSource := .none
  matchKey := .none

def sharedInbound : Dict :=
  [field "protocol" (literal "vless"),
    field "streamSettings" (.dict [field "network" (literal "ws")]),
    field "settings" (.dict [field "clients" (.list
      [.dict [field "id" (literal "alice"), field "email" (literal "alice")],
        .dict [field "id" (literal "bob"), field "email" (literal "bob")]])])]

/-- A configuration with `alice` and `bob` in the managed inbound. -/
def sharedPayload : Dict := [field "inbounds" (.list [.dict sharedInbound])]

lemma hasClient_shared (name : String) (h : name ∈ ["alice", "bob"]) :
    HasClient Unicode.ascii id sharedPayload name.toList name.toList := by
  refine ⟨sharedInbound, rfl, ?_⟩
  simp only [List.mem_cons, List.not_mem_nil, or_false] at h
  rcases h with rfl | rfl
  · exact ⟨_, List.mem_cons_self, by decide, by decide⟩
  · exact ⟨_, List.mem_cons_of_mem _ List.mem_cons_self, by decide, by decide⟩

lemma appliedClients_shared : AppliedClients Unicode.ascii id sharedPayload
    [clientAt "alice" "server-166", clientAt "bob" "server-190"] [] where
  distinct := by decide +kernel
  named := by decide +kernel
  bound := by
    intro c hc
    simp only [List.mem_cons, List.not_mem_nil, or_false] at hc
    rcases hc with rfl | rfl
    · exact hasClient_shared "alice" (by simp)
    · exact hasClient_shared "bob" (by simp)
  directed := by simp

/-- The listeners that are recorded when `bob` alone is bound. -/
def bobsListeners : List Assignment :=
  (buildXrayHandoffAssignments sampleSha1 [clientOf "bob" "server-190"] []).getD []

lemma wellPlaced_bobsListeners : WellPlaced sampleSha1 bobsListeners := by
  rw [bobsListeners]
  cases h : buildXrayHandoffAssignments sampleSha1 [clientOf "bob" "server-190"] [] with
  | none => exact wellPlaced_nil
  | some assignments => exact (build_spec wellPlaced_nil h).1

/-- Without recorded listeners the two clients pass. -/
theorem first_apply_verified : ∃ bindings written,
    collectBindings sampleSha1 ⟨[], []⟩ [clientAt "alice" "server-166", clientAt "bob" "server-190"] =
        some bindings ∧
      materializeClientBindings Unicode.ascii id sampleSha1 sharedPayload bindings [] =
        some written ∧
      Verified Unicode.ascii id (fun _ => none) written bindings [] := by
  have hreturns : ((collectBindings sampleSha1 ⟨[], []⟩ [clientAt "alice" "server-166",
      clientAt "bob" "server-190"]).bind fun bindings => materializeClientBindings Unicode.ascii id
        sampleSha1 sharedPayload bindings []).isSome = true := by
    decide +kernel
  obtain ⟨written, hreturns⟩ := Option.isSome_iff_exists.mp hreturns
  obtain ⟨bindings, hbindings, hwritten⟩ := Option.bind_eq_some_iff.mp hreturns
  refine ⟨bindings, written, hbindings, hwritten, (apply_verified_iff (fun _ => none) wellPlaced_nil
    hbindings appliedClients_shared hwritten).mpr ⟨?_, ?_, ?_⟩⟩
  · intro plan _ s port _
    simp [FirstFit.Respects, portOf]
  · intro b hb c hc _ _ hdigest
    simp only [List.map_cons, List.map_nil, List.mem_cons, List.not_mem_nil, or_false] at hb hc
    rcases hb with rfl | rfl <;> rcases hc with rfl | rfl
    · rfl
    · exact absurd hdigest (by decide +kernel)
    · exact absurd hdigest (by decide +kernel)
    · rfl
  · rintro - preserved hpreserved rule hrule
    obtain rfl : [] = preserved := Option.some.inj hpreserved
    simp at hrule

/-- `bob` is recorded at the port that first fit now gives to the server of `alice`: the outbound of
his server is rendered for another port than the one that the check expects. -/
theorem second_apply_rolled_back : ∃ bindings written,
    collectBindings sampleSha1 ⟨[], bobsListeners⟩
        [clientAt "alice" "server-166", clientAt "bob" "server-190"] = some bindings ∧
      WellPlaced sampleSha1 bobsListeners ∧
      AppliedClients Unicode.ascii id sharedPayload
        [clientAt "alice" "server-166", clientAt "bob" "server-190"] [] ∧
      materializeClientBindings Unicode.ascii id sampleSha1 sharedPayload bindings [] =
        some written ∧
      ¬Verified Unicode.ascii id (fun _ => none) written bindings [] := by
  have hfails : ((collectBindings sampleSha1 ⟨[], bobsListeners⟩ [clientAt "alice" "server-166",
      clientAt "bob" "server-190"]).bind fun bindings => (materializeClientBindings Unicode.ascii id
        sampleSha1 sharedPayload bindings []).bind fun written =>
          (verifyActiveConfigBindings id (fun _ => none) written bindings).map
            BindingsReport.ok) = some false := by
    decide +kernel
  obtain ⟨bindings, hbindings, hfails⟩ := Option.bind_eq_some_iff.mp hfails
  obtain ⟨written, hwritten, hfails⟩ := Option.bind_eq_some_iff.mp hfails
  refine ⟨bindings, written, hbindings, wellPlaced_bobsListeners, appliedClients_shared, hwritten, ?_⟩
  rintro ⟨⟨report, hreport, hok⟩, -⟩
  rw [hreport, Option.map_some, hok] at hfails
  exact absurd hfails (by decide)

end Xray
