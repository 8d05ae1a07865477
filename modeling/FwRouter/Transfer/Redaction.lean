import FwRouter.Transfer.Export

/-!
# Exports without secrets

Two databases are twins if they differ only in the addresses of the subscription, in its column and in
the registry of its metadata, and in the credentials of the custom servers.  An export without secrets
blanks the column and the credentials, and copies the metadata.  So the exports of twins are the same
exactly if their metadata are.
-/

namespace FwRouter.Transfer

open Py Relational

/-! ## Twins -/

/-- A secret without its text: what is empty stays as it is. -/
def maskSecret (v : Value) : Value := if v.truthy then .bool true else v

/-- Changes the value under a key. -/
def changeField (key : String) (f : Value → Value) (d : Dict) : Dict :=
  d.map fun field => if field.1 = key.toList then (field.1, f field.2) else field

/-- Changes the value under a key of an object. -/
def changeObject (key : String) (f : Value → Value) : Value → Value
  | .dict d => .dict (changeField key f d)
  | v => v

def changeItems (f : Value → Value) : Value → Value
  | .list values => .list (values.map f)
  | v => v

/-- The metadata with the addresses of the registry masked: `metadata["subscriptions"]["items"][i]["url"]`. -/
def maskRegistry : Value → Value :=
  changeObject "subscriptions" (changeObject "items" (changeItems (changeObject "url" maskSecret)))

/-- Two cells that are equal, or that both hold something. -/
def SameSecret (c₁ c₂ : Cell) : Prop := c₁ = c₂ ∨ c₁.value.truthy = true ∧ c₂.value.truthy = true

/-- Rows of `subscription_state` that differ in addresses only. -/
structure SubscriptionTwins (env : Env) (r₁ r₂ : Row) : Prop where
  columns : ∀ c, c ≠ "url" → c ≠ "metadata_json" → r₁ c = r₂ c
  url : SameSecret (r₁ "url") (r₂ "url")
  metadata : r₁ "metadata_json" = r₂ "metadata_json" ∨
    ∃ v₁ v₂, jsonLoadsOrNone env (r₁ "metadata_json") = .ok v₁ ∧
      jsonLoadsOrNone env (r₂ "metadata_json") = .ok v₂ ∧ maskRegistry v₁ = maskRegistry v₂

/-- Rows of `server_custom_https_proxy` that differ in credentials only. -/
structure ProxyTwins (r₁ r₂ : Row) : Prop where
  columns : ∀ c, c ≠ "username" → c ≠ "password" → r₁ c = r₂ c
  username : SameSecret (r₁ "username") (r₂ "username")
  password : SameSecret (r₁ "password") (r₂ "password")

/-- Databases that differ in secrets only. -/
structure Twins (env : Env) (db₁ db₂ : Database) : Prop where
  tables : ∀ t, t ≠ .subscriptionState → t ≠ .serverCustomHttpsProxy → db₁ t = db₂ t
  subscription : List.Forall₂ (SubscriptionTwins env) (db₁ .subscriptionState) (db₂ .subscriptionState)
  proxies : List.Forall₂ ProxyTwins (db₁ .serverCustomHttpsProxy) (db₂ .serverCustomHttpsProxy)

/-- The metadata of the subscription, decoded. -/
def savedMetadata (env : Env) (db : Database) : Except Error Value :=
  match (db .subscriptionState).find? fun r => decide (r "id" = .int 1) with
  | none => .ok .none
  | some r => jsonObjectOrNone env (r "metadata_json")

/-! ## Credentials -/

variable {env : Env} {out : Outside} {db₁ db₂ : Database} {r₁ r₂ : Row}

lemma SameSecret.truthy {c₁ c₂ : Cell} (h : SameSecret c₁ c₂) : c₁.value.truthy = c₂.value.truthy := by
  rcases h with rfl | ⟨h₁, h₂⟩
  · rfl
  · rw [h₁, h₂]

lemma set_object {columns : List String} (hnodup : columns.Nodup) (f : String → Value) {key : String}
    (hkey : key ∈ columns) (v : Value) : (object (columns.map fun c => (c, f c))).set key v =
      object (columns.map fun c => (c, if c = key then v else f c)) := by
  induction columns with
  | nil => cases hkey
  | cons c columns ih =>
      rw [List.nodup_cons] at hnodup
      rw [List.map_cons, List.map_cons, object, List.map_cons, Dict.set, KeyedTable.assign,
        KeyedTable.upsert]
      by_cases hc : c = key
      · subst hc
        rw [if_pos rfl, if_pos rfl]
        refine congrArg _ ?_
        rw [List.map_map, List.map_map]
        refine List.map_congr_left fun d hd => ?_
        have hne : d ≠ c := fun h => hnodup.1 (h ▸ hd)
        simp [hne]
      · rw [if_neg fun h => hc (String.toList_inj.mp h), if_neg hc]
        exact congrArg _ (ih hnodup.2 ((List.mem_cons.mp hkey).resolve_left fun h => hc h.symm))

/-- A redacted row does not show the credentials. -/
lemma redactProxyRow_eq (h : ProxyTwins r₁ r₂) :
    redactProxyRow false (rowDict (selectedColumns .serverCustomHttpsProxy) r₁) =
      redactProxyRow false (rowDict (selectedColumns .serverCustomHttpsProxy) r₂) := by
  have hnodup : (selectedColumns .serverCustomHttpsProxy).Nodup := by decide
  have hrow : ∀ r : Row, ((rowDict (selectedColumns .serverCustomHttpsProxy) r).set "username" .none).set
      "password" .none = object ((selectedColumns .serverCustomHttpsProxy).map fun c =>
        (c, if c = "password" then .none else if c = "username" then .none else (r c).value)) := by
    intro r
    rw [rowDict, set_object hnodup _ (by decide), set_object hnodup _ (by decide)]
  simp only [redactProxyRow, Bool.false_eq_true, if_false]
  rw [hrow, hrow]
  refine congrArg (fun fields => (object fields).set _ _) (List.map_congr_left fun c _ => ?_)
  split_ifs with hpassword husername
  · rfl
  · rfl
  · rw [h.columns c husername hpassword]

/-- The order of the rows does not depend on the credentials. -/
lemma ordered_proxies {rows₁ rows₂ : List Row} (h : List.Forall₂ ProxyTwins rows₁ rows₂) :
    List.Forall₂ ProxyTwins (ordered out .serverCustomHttpsProxy rows₁)
      (ordered out .serverCustomHttpsProxy rows₂) := by
  obtain ⟨pairs, rfl, rfl, hpairs⟩ : ∃ pairs : List (Row × Row), pairs.map Prod.fst = rows₁ ∧
      pairs.map Prod.snd = rows₂ ∧ ∀ p ∈ pairs, ProxyTwins p.1 p.2 := by
    induction h with
    | nil => exact ⟨[], rfl, rfl, fun p hp => absurd hp List.not_mem_nil⟩
    | @cons r s rs ss hrs _ ih =>
        obtain ⟨pairs, hfst, hsnd, hpairs⟩ := ih
        refine ⟨(r, s) :: pairs, by rw [List.map_cons, hfst], by rw [List.map_cons, hsnd], ?_⟩
        intro p hp
        rcases List.mem_cons.mp hp with rfl | hp
        · exact hrs
        · exact hpairs p hp
  let le (p q : Row × Row) : Bool := rowLe out.cellLe (orderKeys .serverCustomHttpsProxy) p.1 q.1
  have hle : ∀ p ∈ pairs, ∀ q ∈ pairs,
      le p q = rowLe out.cellLe (orderKeys .serverCustomHttpsProxy) p.2 q.2 := by
    intro p hp q hq
    have hp' := (hpairs p hp).columns "server_id" (by decide) (by decide)
    have hq' := (hpairs q hq).columns "server_id" (by decide) (by decide)
    simp only [le, orderKeys, rowLe, hp', hq']
  have hfst := List.map_mergeSort (r := le) (s := rowLe out.cellLe (orderKeys .serverCustomHttpsProxy))
    (f := Prod.fst) (l := pairs) fun _ _ _ _ => rfl
  have hsnd := List.map_mergeSort (f := Prod.snd) hle
  rw [ordered, ordered, orderBy, orderBy, ← hfst, ← hsnd, List.forall₂_map_left_iff,
    List.forall₂_map_right_iff, List.forall₂_same]
  exact fun p hp => hpairs p (List.mem_mergeSort.mp hp)

/-- The credentials that are blanked, and the warning about them, are those of the twin. -/
lemma redact_proxies (h : Twins env db₁ db₂) :
    redactCustomHttpsProxyRows false (fetchRows out db₁ .serverCustomHttpsProxy) =
      redactCustomHttpsProxyRows false (fetchRows out db₂ .serverCustomHttpsProxy) := by
  have hordered : List.Forall₂ ProxyTwins (ordered out _ (db₁ .serverCustomHttpsProxy))
      (ordered out _ (db₂ .serverCustomHttpsProxy)) := ordered_proxies h.proxies
  have husername : "username" ∈ selectedColumns .serverCustomHttpsProxy := by decide
  have hpassword : "password" ∈ selectedColumns .serverCustomHttpsProxy := by decide
  simp only [redactCustomHttpsProxyRows, fetchRows]
  generalize ordered out .serverCustomHttpsProxy (db₁ .serverCustomHttpsProxy) = rows₁ at hordered
  generalize ordered out .serverCustomHttpsProxy (db₂ .serverCustomHttpsProxy) = rows₂ at hordered
  have hrows : (rows₁.map (rowDict (selectedColumns .serverCustomHttpsProxy))).map (redactProxyRow false) =
      (rows₂.map (rowDict (selectedColumns .serverCustomHttpsProxy))).map (redactProxyRow false) := by
    induction hordered with
    | nil => rfl
    | cons hrow _ ih => simp only [List.map_cons, redactProxyRow_eq hrow, ih]
  have hwarn : (rows₁.map (rowDict (selectedColumns .serverCustomHttpsProxy))).any (fun row =>
      (row.get "username").truthy || (row.get "password").truthy) =
      (rows₂.map (rowDict (selectedColumns .serverCustomHttpsProxy))).any (fun row =>
      (row.get "username").truthy || (row.get "password").truthy) := by
    clear hrows
    induction hordered with
    | nil => rfl
    | cons hrow _ ih =>
        simp only [List.map_cons, List.any_cons, ih, get_rowDict husername, get_rowDict hpassword,
          hrow.username.truthy, hrow.password.truthy]
  rw [hrows, hwarn]

/-! ## The subscription -/

/-- The row with the id of the subscription state. -/
lemma find?_subscription (h : Twins env db₁ db₂) :
    ((db₁ .subscriptionState).find? (fun r => decide (r "id" = .int 1)) = none ∧
      (db₂ .subscriptionState).find? (fun r => decide (r "id" = .int 1)) = none) ∨
    ∃ r₁ r₂, (db₁ .subscriptionState).find? (fun r => decide (r "id" = .int 1)) = some r₁ ∧
      (db₂ .subscriptionState).find? (fun r => decide (r "id" = .int 1)) = some r₂ ∧
      SubscriptionTwins env r₁ r₂ := by
  have hrows := h.subscription
  generalize db₁ .subscriptionState = rows₁ at hrows ⊢
  generalize db₂ .subscriptionState = rows₂ at hrows ⊢
  induction hrows with
  | nil => exact Or.inl ⟨rfl, rfl⟩
  | @cons r₁ r₂ rows₁ rows₂ hrow _ ih =>
      have hid := hrow.columns "id" (by decide) (by decide)
      by_cases hone : r₁ "id" = .int 1
      · refine Or.inr ⟨r₁, r₂, List.find?_cons_of_pos (decide_eq_true hone), ?_, hrow⟩
        exact List.find?_cons_of_pos (decide_eq_true (hid ▸ hone))
      · have hskip₁ := List.find?_cons_of_neg (l := rows₁) (p := fun r : Row => decide (r "id" = .int 1))
          (a := r₁) (by simpa using hone)
        have hskip₂ := List.find?_cons_of_neg (l := rows₂) (p := fun r : Row => decide (r "id" = .int 1))
          (a := r₂) (by simpa using hid ▸ hone)
        rw [hskip₁, hskip₂]
        exact ih

/-- A redacted state does not show the address. -/
lemma redact_url {rest : List (String × Value)} {c₁ c₂ : Cell} (h : SameSecret c₁ c₂) :
    redactSubscriptionState false (object (("url", c₁.value) :: rest)) =
      redactSubscriptionState false (object (("url", c₂.value) :: rest)) := by
  have hget : ∀ v, (object (("url", v) :: rest)).get "url" = v := by
    intro v
    rw [get_object, List.lookup_cons_self, Option.getD_some]
  have hset : ∀ v, (object (("url", v) :: rest)).set "url" .none = object (("url", .none) :: rest) := by
    intro v
    rw [object, List.map_cons, Dict.set, KeyedTable.assign, KeyedTable.upsert, if_pos rfl]
    rfl
  rcases h with rfl | ⟨h₁, h₂⟩
  · rfl
  · rw [redactSubscriptionState, redactSubscriptionState, hget, hget, if_pos ⟨rfl, h₁⟩, if_pos ⟨rfl, h₂⟩,
      hset, hset]

/-- The metadata go through the redaction as they are. -/
lemma get_metadata_redact (includeSecrets : Bool) (state : Dict) :
    (redactSubscriptionState includeSecrets state).1.get "metadata" = state.get "metadata" := by
  rw [redactSubscriptionState]
  split_ifs
  · rw [Dict.get_set_of_ne (by decide), Dict.get_set_of_ne (by decide)]
  · rw [Dict.get_set_of_ne (by decide)]

lemma exclusiveSourceRef_eq (h : Twins env db₁ db₂) : exclusiveSourceRef env db₁ = exclusiveSourceRef env db₂ := by
  rw [exclusiveSourceRef, settingRow, h.tables .settings (by decide) (by decide)]
  rfl

/-- The states of twins show the same metadata, and the same after the redaction where these are equal. -/
lemma subscription_states (h : Twins env db₁ db₂) {state₁ : Dict} (hstate₁ : getSubscriptionState env db₁ = .ok state₁) :
    ∃ state₂, getSubscriptionState env db₂ = .ok state₂ ∧
      savedMetadata env db₁ = .ok (state₁.get "metadata") ∧
      savedMetadata env db₂ = .ok (state₂.get "metadata") ∧
      (state₁.get "metadata" = state₂.get "metadata" →
        redactSubscriptionState false state₁ = redactSubscriptionState false state₂) := by
  have hexclusive := exclusiveSourceRef_eq h
  rcases find?_subscription h with ⟨hnone₁, hnone₂⟩ | ⟨r₁, r₂, hrow₁, hrow₂, htwins⟩
  · simp only [getSubscriptionState, savedMetadata, hnone₁, hnone₂, hexclusive] at hstate₁ ⊢
    obtain rfl := Except.ok.inj hstate₁
    refine ⟨_, rfl, ?_, ?_, fun _ => rfl⟩
    · simp [get_object, List.lookup]
    · simp [get_object, List.lookup]
  · simp only [getSubscriptionState, savedMetadata, hrow₁, hrow₂, hexclusive] at hstate₁ ⊢
    obtain ⟨metadata₁, hmetadata₁, hstate₁⟩ := Run.exists_of_bind_eq_ok hstate₁
    obtain rfl := Except.ok.inj hstate₁
    obtain ⟨metadata₂, hmetadata₂⟩ : ∃ v, jsonObjectOrNone env (r₂ "metadata_json") = .ok v := by
      rcases htwins.metadata with heq | ⟨v₁, v₂, hv₁, hv₂, -⟩
      · exact ⟨metadata₁, heq ▸ hmetadata₁⟩
      · rw [jsonObjectOrNone]
        split_ifs
        · exact ⟨_, rfl⟩
        · exact ⟨wrapObject v₂, by rw [hv₂]; rfl⟩
    rw [hmetadata₁, hmetadata₂]
    refine ⟨_, rfl, ?_, ?_, ?_⟩
    · simp [get_object, List.lookup]
    · simp [get_object, List.lookup]
    · intro hmetadata
      obtain rfl : metadata₁ = metadata₂ := by simpa [get_object, List.lookup] using hmetadata
      have hcolumn : ∀ c, c ≠ "url" → c ≠ "metadata_json" → (r₁ c).value = (r₂ c).value :=
        fun c hurl hmeta => by rw [htwins.columns c hurl hmeta]
      simp only [List.map_cons, List.map_nil, hcolumn "status" (by decide) (by decide),
        hcolumn "last_refresh_at" (by decide) (by decide), hcolumn "last_success_at" (by decide) (by decide),
        hcolumn "server_inventory_updated_at" (by decide) (by decide),
        hcolumn "error_code" (by decide) (by decide), hcolumn "error_message" (by decide) (by decide),
        hcolumn "updated_at" (by decide) (by decide)]
      exact redact_url htwins.url

/-! ## Everything else -/

lemma exportSettingsRows_eq (h : Twins env db₁ db₂) :
    exportSettingsRows env out db₁ = exportSettingsRows env out db₂ := by
  rw [exportSettingsRows, exportSettingsRows, h.tables .settings (by decide) (by decide)]

lemma exportSubjects_eq (h : Twins env db₁ db₂) : exportSubjects env out db₁ = exportSubjects env out db₂ := by
  have hsubjects := h.tables .subjects (by decide) (by decide)
  have hdetail : ∀ r subject, getSubjectDetail env db₁ r subject = getSubjectDetail env db₂ r subject := by
    intro r subject
    rw [getSubjectDetail, getSubjectDetail, hsubjects]
    cases htable : detailTable (shownSubjectType env (shownSubjectType env
        ((r "subject_type").value.text env.reprText))) with
    | none => rfl
    | some t =>
        have hmem := mem_detailTables htable
        dsimp only
        rw [h.tables t (by rintro rfl; revert hmem; decide) (by rintro rfl; revert hmem; decide)]
  have hsubject : exportSubject env db₁ = exportSubject env db₂ := by
    funext summary
    simp only [exportSubject, hsubjects, hdetail]
  rw [exportSubjects, exportSubjects, hsubject, listSubjects, listSubjects, hsubjects]

lemma exportRulesBundle_eq (h : Twins env db₁ db₂) :
    exportRulesBundle env out db₁ = exportRulesBundle env out db₂ := by
  have hstate : getRulesState env db₁ = getRulesState env db₂ := by
    simp only [getRulesState, h.tables .rulesState (by decide) (by decide)]
  rw [exportRulesBundle, exportRulesBundle, hstate, h.tables .rulesMetadata (by decide) (by decide)]

lemma plainSection_eq (h : Twins env db₁ db₂) {t : Table} (hstate : t ≠ .subscriptionState)
    (hproxy : t ≠ .serverCustomHttpsProxy) (name : String) :
    plainSection out db₁ name t = plainSection out db₂ name t := by
  rw [plainSection, plainSection, fetchRows, fetchRows, h.tables t hstate hproxy]

lemma exportedState_eq (h : Twins env db₁ db₂) (settings subjects : List Value) (proxies : List Dict)
    (subscription rules : Dict) : exportedState out db₁ settings subjects proxies subscription rules =
      exportedState out db₂ settings subjects proxies subscription rules := by
  have hrouting : routingRow db₁ = routingRow db₂ := by
    rw [routingRow, routingRow, h.tables .routingGlobalState (by decide) (by decide)]
  simp only [exportedState, hrouting, plainSection_eq h (show Table.modules ≠ _ by decide) (by decide),
    plainSection_eq h (show Table.subjectUserOverrides ≠ _ by decide) (by decide),
    plainSection_eq h (show Table.subjectServerOverrides ≠ _ by decide) (by decide),
    plainSection_eq h (show Table.servers ≠ _ by decide) (by decide),
    plainSection_eq h (show Table.serverPreferences ≠ _ by decide) (by decide),
    plainSection_eq h (show Table.serverPingState ≠ _ by decide) (by decide)]

/-- The metadata in a snapshot. -/
def shownMetadata (snapshot : Dict) : Value :=
  ((stateFromSnapshot snapshot).get "subscription_state").dictOr.get "metadata"

lemma shownMetadata_snapshotOf (includeSecrets : Bool) (db : Database) (state : Dict)
    (settings subjects : List Value) (rules : Dict) :
    shownMetadata (snapshotOf out includeSecrets db state settings subjects rules) = state.get "metadata" := by
  have hstate : stateFromSnapshot (snapshotOf out includeSecrets db state settings subjects rules) =
      exportedState out db settings subjects
        (redactCustomHttpsProxyRows includeSecrets (fetchRows out db .serverCustomHttpsProxy)).1
        (redactSubscriptionState includeSecrets state).1 rules := by
    simp [stateFromSnapshot, snapshotOf, get_object, List.lookup, Value.dictOr, Value.asDict]
  rw [shownMetadata, hstate]
  simp only [exportedState, get_object, plainSection]
  rw [← get_metadata_redact includeSecrets state]
  simp [List.lookup, Value.dictOr, Value.asDict]

/-- **What an export without secrets shows.**  The exports of two databases that differ only in the
addresses of the subscription and the credentials of the custom servers are the same exactly if the two
hold the same metadata: the column and the credentials are blanked, the registry is not. -/
theorem redacted_export_eq_iff (h : Twins env db₁ db₂) {snapshot : Dict}
    (hreturns : exportControlPlaneSnapshot env out false db₁ = .ok snapshot) :
    exportControlPlaneSnapshot env out false db₂ = .ok snapshot ↔
      savedMetadata env db₁ = savedMetadata env db₂ := by
  obtain ⟨state₁, settings, subjects, rules, hstate₁, hsettings, hsubjects, hrules, rfl⟩ :=
    exportControlPlaneSnapshot_ok.mp hreturns
  obtain ⟨state₂, hstate₂, hsaved₁, hsaved₂, hredacted⟩ := subscription_states h hstate₁
  rw [exportSettingsRows_eq h] at hsettings
  rw [exportSubjects_eq h] at hsubjects
  rw [exportRulesBundle_eq h] at hrules
  have hsecond : exportControlPlaneSnapshot env out false db₂ =
      .ok (snapshotOf out false db₂ state₂ settings subjects rules) :=
    exportControlPlaneSnapshot_ok.mpr ⟨state₂, settings, subjects, rules, hstate₂, hsettings, hsubjects,
      hrules, rfl⟩
  rw [hsecond, hsaved₁, hsaved₂]
  constructor
  · intro heq
    have hshown := congrArg shownMetadata (Except.ok.inj heq)
    rw [shownMetadata_snapshotOf, shownMetadata_snapshotOf] at hshown
    rw [hshown]
  · intro heq
    have hstate := hredacted (Except.ok.inj heq)
    simp only [snapshotOf, hstate, redact_proxies h, exportedState_eq h]

/-! ## Two states -/

section Example

def firstAddress : Text := "https://example.org/a".toList

def secondAddress : Text := "https://example.org/b".toList

/-- The metadata of a subscription with one source. -/
def registryValue (url : Text) : Value :=
  .dict (object [("subscriptions", .dict (object [("items", .list [.dict (object [("url", .str url)])])]))])

def registryText (url : Text) : Text :=
  "\x7b\"subscriptions\": \x7b\"items\": [\x7b\"url\": \"".toList ++ url ++ "\"\x7d]\x7d\x7d".toList

/-- `json.loads` on the two texts. -/
def registryLoads (t : Text) : Option Value :=
  if t = registryText firstAddress then some (registryValue firstAddress)
  else if t = registryText secondAddress then some (registryValue secondAddress)
  else none

/-- An environment that reads the two metadata. -/
def registryEnv : Env where
  unicode := .ascii
  reprText := id
  sqlite := {
    realText := fun repr => '0' :: repr
    integerOfText := .text
    integerOfReal := .real
    realBetween := fun _ _ _ => false
    realText_head := zero_numberHead }
  codec := {
    loads := registryLoads
    dumps := fun _ => []
    dumpsCompact := fun _ => [] }
  fingerprint := fun _ _ => none
  encodeReceipt := fun fingerprint _ => fingerprint
  decodeReceipt := fun _ => none
  poolSignature := fun _ => []
  autoEligible := fun _ _ => false
  generationMarker := fun _ => []
  rulesPath := fun column _ => column.toList

def quietOutside : Outside where
  exportedAt := "2026-01-01T00:00:00Z".toList
  appVersion := "1".toList
  content := []
  cellLe := fun _ _ => true

/-- A saved subscription, with one address in the column and one in the registry. -/
def savedRow (url registryUrl : Text) : Row := rowOfCells [("id", .int 1), ("url", .text url),
  ("status", textCell "idle"), ("metadata_json", .text (registryText registryUrl)),
  ("updated_at", textCell "2026-01-01 00:00:00")]

def savedSubscription (url registryUrl : Text) : Database
  | .subscriptionState => [savedRow url registryUrl]
  | _ => []

lemma loads_registryText {url : Text} (h : url = firstAddress ∨ url = secondAddress) :
    registryLoads (registryText url) = some (registryValue url) := by
  rcases h with rfl | rfl
  · rw [registryLoads, if_pos rfl]
  · rw [registryLoads, if_neg (by decide), if_pos rfl]

lemma find?_savedSubscription (url registryUrl : Text) :
    (savedSubscription url registryUrl .subscriptionState).find? (fun r => decide (r "id" = .int 1)) =
      some (savedRow url registryUrl) :=
  List.find?_cons_of_pos (decide_eq_true rfl)

lemma jsonLoads_savedRow {url registryUrl : Text} (h : registryUrl = firstAddress ∨ registryUrl = secondAddress) :
    jsonLoadsOrNone registryEnv (savedRow url registryUrl "metadata_json") =
      .ok (registryValue registryUrl) := by
  have hcell : savedRow url registryUrl "metadata_json" = .text (registryText registryUrl) := rfl
  have hloads : registryEnv.codec.loads (registryText registryUrl) = some (registryValue registryUrl) :=
    loads_registryText h
  unfold jsonLoadsOrNone
  rw [hcell]
  dsimp only
  rw [if_neg (by exact Bool.noConfusion), hloads]

lemma savedMetadata_savedSubscription {url registryUrl : Text}
    (h : registryUrl = firstAddress ∨ registryUrl = secondAddress) :
    jsonObjectOrNone registryEnv (savedRow url registryUrl "metadata_json") =
      .ok (registryValue registryUrl) := by
  have hcell : savedRow url registryUrl "metadata_json" = .text (registryText registryUrl) := rfl
  have hloads : jsonLoadsOrNone registryEnv (savedRow url registryUrl "metadata_json") = _ :=
    jsonLoads_savedRow h
  rw [jsonObjectOrNone, hloads, hcell, if_neg (by exact Bool.noConfusion)]
  rfl

/-- The export shows the address of the registry. -/
lemma export_savedSubscription {url registryUrl : Text}
    (h : registryUrl = firstAddress ∨ registryUrl = secondAddress) :
    ∃ snapshot, exportControlPlaneSnapshot registryEnv quietOutside false
      (savedSubscription url registryUrl) = .ok snapshot ∧ shownMetadata snapshot = registryValue registryUrl := by
  obtain ⟨state, hstate, hmetadata⟩ : ∃ state,
      getSubscriptionState registryEnv (savedSubscription url registryUrl) = .ok state ∧
        state.get "metadata" = registryValue registryUrl := by
    rw [getSubscriptionState, find?_savedSubscription]
    dsimp only
    rw [savedMetadata_savedSubscription h]
    refine ⟨_, rfl, ?_⟩
    simp [get_object, List.lookup]
  have hordered : ∀ t, ordered quietOutside t [] = [] := fun t => by rw [ordered, orderBy, List.mergeSort_nil]
  have hsettings : exportSettingsRows registryEnv quietOutside (savedSubscription url registryUrl) = .ok [] := by
    simp only [exportSettingsRows, savedSubscription, List.filter_nil, hordered]
    rfl
  have hsubjects : exportSubjects registryEnv quietOutside (savedSubscription url registryUrl) = .ok [] := by
    simp only [exportSubjects, listSubjects, savedSubscription, hordered, List.take_nil]
    rfl
  obtain ⟨rules, hrules⟩ : ∃ rules,
      exportRulesBundle registryEnv quietOutside (savedSubscription url registryUrl) = .ok rules := by
    simp only [exportRulesBundle, savedSubscription, hordered]
    exact ⟨_, rfl⟩
  refine ⟨_, exportControlPlaneSnapshot_ok.mpr
    ⟨state, [], [], rules, hstate, hsettings, hsubjects, hrules, rfl⟩, ?_⟩
  rw [shownMetadata_snapshotOf, hmetadata]

lemma registry_ne_nil {url : Text} (h : url = firstAddress ∨ url = secondAddress) : url ≠ [] := by
  rcases h with rfl | rfl <;> decide

lemma changeObject_object (key : String) (f : Value → Value) (v : Value) :
    changeObject key f (.dict (object [(key, v)])) = .dict (object [(key, f v)]) := by
  rw [changeObject, changeField, object, List.map_cons, List.map_nil, List.map_cons, if_pos rfl]
  rfl

lemma maskRegistry_registryValue {url : Text} (h : url ≠ []) :
    maskRegistry (registryValue url) = .dict (object [("subscriptions", .dict (object [("items",
      .list [.dict (object [("url", .bool true)])])]))]) := by
  have hmask : maskSecret (.str url) = .bool true := if_pos (by simpa [Value.truthy] using h)
  rw [maskRegistry, registryValue, changeObject_object, changeObject_object, changeItems, List.map_cons,
    changeObject_object, hmask]
  rfl

lemma registryValue_injective {url₁ url₂ : Text} (h : registryValue url₁ = registryValue url₂) : url₁ = url₂ := by
  have hobject : ∀ {key : String} {v w : Value}, Value.dict (object [(key, v)]) = .dict (object [(key, w)]) →
      v = w := by
    intro key v w heq
    exact (Prod.mk.inj (List.cons.inj (Value.dict.inj heq)).1).2
  have hitem := (List.cons.inj (Value.list.inj (hobject (hobject h)))).1
  exact Value.str.inj (hobject hitem)

lemma twins_savedSubscription {url₁ url₂ registryUrl₁ registryUrl₂ : Text}
    (hurl₁ : url₁ ≠ []) (hurl₂ : url₂ ≠ [])
    (h₁ : registryUrl₁ = firstAddress ∨ registryUrl₁ = secondAddress)
    (h₂ : registryUrl₂ = firstAddress ∨ registryUrl₂ = secondAddress) :
    Twins registryEnv (savedSubscription url₁ registryUrl₁) (savedSubscription url₂ registryUrl₂) := by
  have htruthy : ∀ {t : Text}, t ≠ [] → (Cell.text t).value.truthy = true := by
    intro t ht
    simpa [Cell.value, Value.truthy] using ht
  have hmask : maskRegistry (registryValue registryUrl₁) = maskRegistry (registryValue registryUrl₂) := by
    rw [maskRegistry_registryValue (registry_ne_nil h₁), maskRegistry_registryValue (registry_ne_nil h₂)]
  refine ⟨fun t hstate _ => ?_, .cons ⟨fun c hurl hmeta => ?_, Or.inr ⟨htruthy hurl₁, htruthy hurl₂⟩, ?_⟩ .nil,
    .nil⟩
  · cases t <;> first | rfl | exact absurd rfl hstate
  · simp only [savedRow, rowOfCells, List.lookup_cons, beq_false_of_ne hurl, beq_false_of_ne hmeta]
  · exact Or.inr ⟨_, _, jsonLoads_savedRow h₁, jsonLoads_savedRow h₂, hmask⟩

/-- Two databases with different addresses in the column and the same in the registry. -/
theorem redacted_export_other_address : ∃ snapshot,
    exportControlPlaneSnapshot registryEnv quietOutside false
      (savedSubscription firstAddress firstAddress) = .ok snapshot ∧
    exportControlPlaneSnapshot registryEnv quietOutside false
      (savedSubscription secondAddress firstAddress) = .ok snapshot := by
  have hfirst : firstAddress = firstAddress ∨ firstAddress = secondAddress := Or.inl rfl
  obtain ⟨snapshot, hreturns, -⟩ := @export_savedSubscription firstAddress firstAddress hfirst
  refine ⟨snapshot, hreturns, ?_⟩
  have htwins := @twins_savedSubscription firstAddress secondAddress firstAddress firstAddress (by decide)
    (by decide) hfirst hfirst
  refine (redacted_export_eq_iff htwins hreturns).mpr ?_
  rw [savedMetadata, savedMetadata, find?_savedSubscription, find?_savedSubscription]
  dsimp only
  rw [savedMetadata_savedSubscription hfirst, savedMetadata_savedSubscription hfirst]

/-- Two databases that differ in an address of the registry, and whose exports show it. -/
theorem registry_address_shown :
    Twins registryEnv (savedSubscription firstAddress firstAddress)
      (savedSubscription firstAddress secondAddress) ∧
    ∃ s₁ s₂, exportControlPlaneSnapshot registryEnv quietOutside false
        (savedSubscription firstAddress firstAddress) = .ok s₁ ∧
      exportControlPlaneSnapshot registryEnv quietOutside false
        (savedSubscription firstAddress secondAddress) = .ok s₂ ∧ s₁ ≠ s₂ := by
  have hne : firstAddress ≠ [] := by decide
  obtain ⟨s₁, hs₁, hshown₁⟩ := @export_savedSubscription firstAddress firstAddress (Or.inl rfl)
  obtain ⟨s₂, hs₂, hshown₂⟩ := @export_savedSubscription firstAddress secondAddress (Or.inr rfl)
  refine ⟨twins_savedSubscription hne hne (Or.inl rfl) (Or.inr rfl), s₁, s₂, hs₁, hs₂, ?_⟩
  rintro rfl
  exact absurd (registryValue_injective (hshown₁.symm.trans hshown₂)) (by decide)

end Example

end FwRouter.Transfer
