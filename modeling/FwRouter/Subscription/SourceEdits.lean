import FwRouter.Subscription.Registry

/-!
# Edits of the source registry

`save_subscription_url` and `delete_subscription_source_intent` run alone, over the document and the
tables of the inventory.

A save builds the new registry from the enabled addresses, and from the address that stands beside
the registry.  So it loses the sources that are disabled, or enables them, and brings in an address
that was not a source.  A deletion builds the new registry by the reference as it was given, and does
everything else by the stripped one: with white space around it, the call succeeds, the memberships
are gone and the source stays.  `source_edits_exact_iff` says that there is nothing else.
-/

namespace FwRouter.Subscription.Registry

open Py Inventory SqlTable

/-! ## The deletion with its tables -/

section Source

variable (U : Unicode) (reprText : Text → Text) (codec : Codec)

/-- The columns of `provider_bindings` that a deletion reads or writes. -/
structure ProviderBinding where
  sourceRef : Text
  logicalServerId : Text
  enabled : Bool
  bindingRevision : ℤ
  lastOutcome : Option Text

/-- The columns of `routing_global_state` that a deletion reads. -/
structure RoutingRow where
  serverMode : Option Text
  desiredFixedServerId : Option Text
  appliedFixedServerId : Option Text
  activeAutoServerId : Option Text

/-- What a deletion reads and writes.  Of the server overrides there is the selected server of those
that are live, of active Xray subjects. -/
structure Database where
  row : StateRow
  tables : Tables
  bindings : List ProviderBinding
  routing : Option RoutingRow
  liveOverrides : List Text

/-- The argument, with the answers of the other services: the recovery, the candidates that vpn-auto
may select, the checkpoint gate, the exclusive source and the advance of the selection revision. -/
structure DeletionCall where
  sourceRef : Text
  recovered : Bool
  autoSelectable : List Text
  checkpointOk : Bool
  exclusiveSourceRef : Option Text
  revisionConflict : Bool
  now : ℤ

/-- The active servers that the source lists. -/
def sourceServerIds (t : Tables) (source : Text) : List Text :=
  (t.servers.rows.filter fun r => decide (r.2.inventoryState = .active) &&
    t.memberships.exists? fun key m => decide (key = (source, r.1)) && m.isActive).map Prod.fst

/-- The servers that only the source lists, and that are not custom. -/
def orphanedServerIds (t : Tables) (source : Text) : List Text :=
  (sourceServerIds t source).filter fun id =>
    !(t.memberships.exists? fun key m => decide (key.1 ≠ source) && decide (key.2 = id) && m.isActive) &&
      decide (id ∉ t.customProxies)

/-- `_active_xray_server_override_count`. -/
def activeXrayServerOverrideCount (db : Database) (serverIds : List Text) : ℕ :=
  db.liveOverrides.countP fun id => decide (id ∈ (serverIds.map strip).filter fun id => id ≠ [])

/-- `str(first or second or "").strip()`. -/
def firstOf (first second : Option Text) : Text :=
  strip (if first.getD [] ≠ [] then first.getD [] else second.getD [])

/-- `str(routing.get("server_mode") or "auto").lower()`. -/
def serverMode (routing : Option RoutingRow) : Text :=
  let mode := (routing.bind RoutingRow.serverMode).getD []
  U.lower (if mode ≠ [] then mode else "auto".toList)

/-- Why the reads before the guard refuse: the current server belongs to the source alone. -/
def preflightRefusal (c : DeletionCall) (db : Database) (orphaned : List Text) : Option String :=
  let fixed := firstOf (db.routing.bind RoutingRow.desiredFixedServerId)
    (db.routing.bind RoutingRow.appliedFixedServerId)
  let auto := firstOf (db.routing.bind RoutingRow.activeAutoServerId) none
  if serverMode U db.routing = "fixed".toList ∧ fixed ∈ orphaned then
    some "SUBSCRIPTION_DELETE_CURRENT_FIXED_SERVER"
  else if serverMode U db.routing = "auto".toList ∧ auto ∈ orphaned ∧
      c.autoSelectable.all (fun id => decide (id ∈ orphaned)) then
    some "SUBSCRIPTION_DELETE_NO_AUTO_ALTERNATIVE"
  else if activeXrayServerOverrideCount db orphaned ≠ 0 then
    some "SUBSCRIPTION_DELETE_ACTIVE_XRAY_OVERRIDES"
  else none

/-- `UPDATE provider_bindings SET enabled=0, … WHERE source_ref=?`. -/
def disableBindings (source : Text) (bindings : List ProviderBinding) : List ProviderBinding :=
  bindings.map fun b =>
    if b.sourceRef = source then
      { b with
        enabled := false
        bindingRevision := b.bindingRevision + 1
        lastOutcome := some "source_deleted".toList }
    else b

/-- `UPDATE subscription_server_memberships SET is_active=0, … WHERE source_id=?`. -/
def deactivateSource (source : Text) (t : Tables) : Tables :=
  { t with memberships := t.memberships.update fun key m =>
      if key.1 = source then
        { m with isActive := false, sourceUrl := "deleted:".toList ++ source }
      else m }

/-- `UPDATE servers SET inventory_state='missing', … WHERE …`. -/
def missOrphans (source : Text) (now : ℤ) (bindings : List ProviderBinding) (t : Tables) : Tables :=
  { t with servers := t.servers.update fun id row =>
      if (t.memberships.exists? fun key _ => decide (key = (source, id))) = true ∧
          (row.providerName.getD [] = subscriptionProvider ∨
            bindings.any (fun b => decide (b.sourceRef = source ∧ b.logicalServerId = id)) = true) ∧
          row.inventoryState = .active ∧ hasActiveMembership t id = false ∧ id ∉ t.customProxies then
        { row with inventoryState := .missing, missingSince := row.missingSince.or (some now) }
      else row }

/-- `delete_subscription_source_intent`, run alone: the fence that it finds under the guard is the one
that it read. -/
def deleteSubscriptionSourceIntent (c : DeletionCall) (db : Database) : Except String Database :=
  match beginDeletion reprText codec c.sourceRef c.recovered db.row with
  | .error e => .error e
  | .ok url =>
      let source := sourceId codec url
      let orphaned := orphanedServerIds db.tables source
      match preflightRefusal U c db orphaned with
      | some e => .error e
      | none =>
          let fence : Fence := ⟨0, none, none, []⟩
          let checks : Checks :=
            { checkpointOk := c.checkpointOk
              exclusiveSourceRef := c.exclusiveSourceRef
              activeXrayOverrides := activeXrayServerOverrideCount db orphaned
              revisionConflict := c.revisionConflict
              fenceAfter := fence }
          match commitDeletion reprText codec c.sourceRef db.row fence checks db.row fence with
          | .error e => .error e
          | .ok row =>
              let bindings := disableBindings source db.bindings
              .ok { db with
                row := row
                bindings := bindings
                tables := missOrphans source c.now bindings (deactivateSource source db.tables) }

end Source

/-! ## Exact edits -/

section Exact

variable (reprText : Text → Text) (codec : Codec)

/-- The servers that the last good refresh of a source left. -/
def lastGoodServers (item : Dict) : List Value := (item.get "servers").listOr

/-- **A save is exact**: the address is a source, every source is as it was, and there is no other. -/
structure SaveExact (c : Save) (row row' : StateRow) : Prop where
  added : strip c.url ∈ (subscriptionSources reprText row'.metadata).map (itemUrl reprText)
  kept : ∀ item ∈ subscriptionSources reprText row.metadata,
    ∃ item' ∈ subscriptionSources reprText row'.metadata, itemUrl reprText item' = itemUrl reprText item ∧
      itemEnabled item' = itemEnabled item ∧ lastGoodServers item' = lastGoodServers item
  nothingElse : ∀ item' ∈ subscriptionSources reprText row'.metadata,
    itemUrl reprText item' = strip c.url ∨
      itemUrl reprText item' ∈ (subscriptionSources reprText row.metadata).map (itemUrl reprText)

/-- **A deletion is exact**: the sources are the others, the memberships of the others are as they
were, and only servers that nothing keeps became missing. -/
structure DeleteExact (c : DeletionCall) (db db' : Database) : Prop where
  registry : subscriptionSources reprText db'.row.metadata =
    (subscriptionSources reprText db.row.metadata).filter fun item =>
      sourceId codec (itemUrl reprText item) ≠ strip c.sourceRef
  memberships : ∀ source id, source ≠ strip c.sourceRef →
    db'.tables.memberships.get (source, id) = db.tables.memberships.get (source, id)
  missing : ∀ id row row', db.tables.servers.get id = some row → db'.tables.servers.get id = some row' →
    row.inventoryState ≠ .missing → row'.inventoryState = .missing →
      row.inventoryState = .active ∧ (db.tables.memberships.get (strip c.sourceRef, id)).isSome = true ∧
        hasActiveMembership db'.tables id = false ∧ id ∉ db'.tables.customProxies

/-- Every source is enabled, and the address beside the registry is one of them or the one saved. -/
def PlainRegistry (c : Save) (row : StateRow) : Prop :=
  (∀ item ∈ subscriptionSources reprText row.metadata, itemEnabled item = true) ∧
    ∀ url, row.url = some url → strip url = [] ∨ strip url = strip c.url ∨
      strip url ∈ (subscriptionSources reprText row.metadata).map (itemUrl reprText)

/-- The reference is stripped, or no source has it in either form. -/
def PlainReference (c : DeletionCall) (row : StateRow) : Prop :=
  strip c.sourceRef = c.sourceRef ∨ ∀ item ∈ subscriptionSources reprText row.metadata,
    sourceId codec (itemUrl reprText item) ≠ strip c.sourceRef ∧
      sourceId codec (itemUrl reprText item) ≠ c.sourceRef

end Exact

section Proof

variable {U : Unicode} {reprText : Text → Text} {codec : Codec}

/-! ### Saving -/

/-- What stays of the last good servers of an item that is built anew. -/
lemma lastGoodServers_sourceItem {label : Dict → Value} {previous : Dict} {url : Text} :
    lastGoodServers (normalizedItem reprText (sourceItem label previous url)) =
      lastGoodServers previous := by
  rw [lastGoodServers, normalizedItem, Dict.get_set_of_ne (by decide), Dict.get_set_of_ne (by decide)]
  rfl

lemma previousItem_of_mem {metadata : Option Dict} {item : Dict}
    (h : item ∈ subscriptionSources reprText metadata) :
    previousItem reprText metadata (itemUrl reprText item) = item := by
  have hsources := @subscriptionSources_sources reprText metadata
  cases hfound : (subscriptionSources reprText metadata).find? fun x =>
      itemUrl reprText x = itemUrl reprText item with
  | none =>
      have hnone := List.find?_eq_none.mp hfound item h
      exact absurd (decide_eq_true rfl) hnone
  | some found =>
      have hmem := List.mem_of_find?_eq_some hfound
      have htest := List.find?_some hfound
      have hurl : itemUrl reprText found = itemUrl reprText item := of_decide_eq_true htest
      rw [previousItem, hfound, Option.getD_some]
      exact List.inj_on_of_nodup_map hsources.nodup hmem h hurl

variable {c : Save} {row row' : StateRow}

/-- The sources that a save leaves, item by item. -/
lemma subscriptionSources_save (h : saveSubscriptionUrl reprText c row = some row') :
    subscriptionSources reprText row'.metadata =
      (normalizeUrls (savedUrls reprText row ++ [strip c.url])).map fun url =>
        normalizedItem reprText (sourceItem c.label (previousItem reprText
          (if row.metadata.isSome then row.metadata else c.metadata) url) url) := by
  rw [saveSubscriptionUrl] at h
  split_ifs at h
  obtain rfl := Option.some.inj h
  refine subscriptionSources_of_items ?_ (nodup_foldl_normalizeStep List.nodup_nil)
    subscriptions_savedMetadata rfl
  intro u hu
  obtain ⟨hne, u', -, rfl⟩ := mem_normalizeUrls.mp hu
  exact ⟨strip_strip u', hne⟩

lemma mem_urls_save (h : saveSubscriptionUrl reprText c row = some row') {url : Text} :
    url ∈ (subscriptionSources reprText row'.metadata).map (itemUrl reprText) ↔
      url ≠ [] ∧ (url = strip c.url ∨ url ∈ savedUrls reprText row) := by
  rw [(saveSubscriptionUrl_spec h).2.2.2, mem_normalizeUrls_save]

lemma enabled_save (h : saveSubscriptionUrl reprText c row = some row') :
    ∀ item ∈ subscriptionSources reprText row'.metadata, itemEnabled item = true := by
  intro item hitem
  rw [subscriptionSources_save h] at hitem
  obtain ⟨url, -, rfl⟩ := List.mem_map.mp hitem
  rw [itemEnabled_normalizedItem, itemEnabled_sourceItem]

/-- Saving over a plain registry is exact, and over no other. -/
lemma saveExact_iff (h : saveSubscriptionUrl reprText c row = some row') :
    SaveExact reprText c row row' ↔ PlainRegistry reprText c row := by
  have hnonempty := (saveSubscriptionUrl_spec h).1
  constructor
  · rintro ⟨-, hkept, hnothing⟩
    refine ⟨fun item hitem => ?_, fun url hurl => ?_⟩
    · rcases hkept item hitem with ⟨item', hitem', -, henabled, -⟩
      rw [← henabled]
      exact enabled_save h item' hitem'
    · by_cases hempty : strip url = []
      · exact Or.inl hempty
      · right
        have hsaved : strip url ∈ savedUrls reprText row :=
          mem_savedUrls.mpr (Or.inr ⟨hempty, url, hurl, rfl⟩)
        have hmem := (mem_urls_save h).mpr ⟨hempty, Or.inr hsaved⟩
        obtain ⟨item', hitem', heq⟩ := List.mem_map.mp hmem
        rw [← heq]
        exact hnothing item' hitem'
  · rintro ⟨henabled, hprimary⟩
    refine ⟨(mem_urls_save h).mpr ⟨hnonempty, Or.inl rfl⟩, fun item hitem => ?_, fun item' hitem' => ?_⟩
    · -- a source has metadata to be in, so the save starts from these
      have hmetadata : row.metadata.isSome = true := by
        cases hnone : row.metadata with
        | none =>
            rw [hnone] at hitem
            exact absurd hitem List.not_mem_nil
        | some _ => rfl
      have hregistry : itemUrl reprText item ∈ registryUrls reprText row.metadata :=
        List.mem_map.mpr ⟨item, List.mem_filter.mpr ⟨hitem, henabled item hitem⟩, rfl⟩
      have hurl : itemUrl reprText item ∈ normalizeUrls (savedUrls reprText row ++ [strip c.url]) :=
        mem_normalizeUrls_save.mpr ⟨(registryUrls_stripped hregistry).2,
          Or.inr (mem_savedUrls.mpr (Or.inl hregistry))⟩
      refine ⟨_, (subscriptionSources_save h).symm ▸ List.mem_map_of_mem hurl, ?_, ?_, ?_⟩
      · rw [itemUrl_normalizedItem, itemUrl_sourceItem, (registryUrls_stripped hregistry).1]
      · rw [itemEnabled_normalizedItem, itemEnabled_sourceItem, henabled item hitem]
      · rw [lastGoodServers_sourceItem, if_pos hmetadata, previousItem_of_mem hitem]
    · rcases (mem_urls_save h).mp (List.mem_map_of_mem hitem') with ⟨hne, hurl | hsaved⟩
      · exact Or.inl hurl
      · rcases mem_savedUrls.mp hsaved with hregistry | ⟨-, url, hurl, hsame⟩
        · obtain ⟨item, hitem, heq⟩ := List.mem_map.mp hregistry
          exact Or.inr (heq ▸ List.mem_map_of_mem (List.mem_of_mem_filter hitem))
        · rw [← hsame]
          rcases hprimary url hurl with hempty | hsame' | hmem
          · exact absurd (hsame ▸ hempty) hne
          · exact Or.inl hsame'
          · exact Or.inr hmem

/-! ### Deleting -/

variable {call : DeletionCall} {db db' : Database}

lemma deleteSubscriptionSourceIntent_ok
    (h : deleteSubscriptionSourceIntent U reprText codec call db = .ok db') :
    db'.row = withoutSource reprText codec call.sourceRef db.row ∧
      db'.tables = missOrphans (strip call.sourceRef) call.now db'.bindings
        (deactivateSource (strip call.sourceRef) db.tables) := by
  rw [deleteSubscriptionSourceIntent] at h
  cases hbegin : beginDeletion reprText codec call.sourceRef call.recovered db.row with
  | error e =>
      rw [hbegin] at h
      cases h
  | ok url =>
      rw [hbegin] at h
      dsimp only at h
      have hknown : KnownRow reprText Set.univ db.row :=
        ⟨fun _ _ => Set.mem_univ _, fun _ _ _ => Set.mem_univ _⟩
      have hsource := (matchedSource_some hknown (beginDeletion_ok hbegin)).1
      cases hpreflight : preflightRefusal U call db (orphanedServerIds db.tables (sourceId codec url)) with
      | some e =>
          rw [hpreflight] at h
          cases h
      | none =>
          rw [hpreflight] at h
          dsimp only [commitDeletion] at h
          split at h
          · cases h
          · rename_i row hcommit
            split at hcommit
            · cases hcommit
            · obtain rfl := Except.ok.inj hcommit
              obtain rfl := Except.ok.inj h
              exact ⟨rfl, by rw [← hsource]⟩

lemma memberships_missOrphans {source : Text} {now : ℤ} {bindings : List ProviderBinding} {t : Tables} :
    (missOrphans source now bindings t).memberships = t.memberships := rfl

/-- The reference of a deletion decides the registry alone: everything else is exact. -/
lemma deleteExact_iff (h : deleteSubscriptionSourceIntent U reprText codec call db = .ok db') :
    DeleteExact reprText codec call db db' ↔ PlainReference reprText codec call db.row := by
  obtain ⟨hrow, htables⟩ := deleteSubscriptionSourceIntent_ok h
  have hregistry : subscriptionSources reprText db'.row.metadata =
      (subscriptionSources reprText db.row.metadata).filter fun item =>
        sourceId codec (itemUrl reprText item) ≠ call.sourceRef := by
    rw [hrow]
    exact subscriptionSources_withoutSource call.sourceRef db.row
  constructor
  · rintro ⟨hexact, -, -⟩
    by_cases hstrip : strip call.sourceRef = call.sourceRef
    · exact Or.inl hstrip
    · right
      intro item hitem
      rw [hregistry] at hexact
      have hiff : item ∈ (subscriptionSources reprText db.row.metadata).filter (fun item =>
          sourceId codec (itemUrl reprText item) ≠ call.sourceRef) ↔
          item ∈ (subscriptionSources reprText db.row.metadata).filter fun item =>
            sourceId codec (itemUrl reprText item) ≠ strip call.sourceRef := by
        rw [hexact]
      rw [List.mem_filter, List.mem_filter, decide_eq_true_eq, decide_eq_true_eq] at hiff
      constructor
      · intro hsame
        have hraw : sourceId codec (itemUrl reprText item) ≠ call.sourceRef :=
          fun heq => hstrip (hsame.symm.trans heq)
        exact (hiff.mp ⟨hitem, hraw⟩).2 hsame
      · intro hsame
        have hraw : sourceId codec (itemUrl reprText item) ≠ strip call.sourceRef :=
          fun heq => hstrip (heq.symm.trans hsame)
        exact (hiff.mpr ⟨hitem, hraw⟩).2 hsame
  · intro hplain
    refine ⟨?_, fun source id hsource => ?_, fun id row row' hget hget' hbefore hafter => ?_⟩
    · rw [hregistry]
      refine List.filter_congr fun item hitem => ?_
      rcases hplain with hstrip | hnone
      · rw [hstrip]
      · rw [decide_eq_decide]
        exact iff_of_true (hnone item hitem).2 (hnone item hitem).1
    · rw [htables, memberships_missOrphans, deactivateSource, Table.get_update]
      cases db.tables.memberships.get (source, id) with
      | none => rfl
      | some m => rw [Option.map_some, if_neg hsource]
    · rw [htables, missOrphans, Table.get_update] at hget'
      have hget : (deactivateSource (strip call.sourceRef) db.tables).servers.get id = some row := hget
      rw [hget, Option.map_some] at hget'
      obtain rfl := Option.some.inj hget'
      split_ifs at hafter with horphan
      · obtain ⟨hlisted, -, hactive, hnone, hcustom⟩ := horphan
        refine ⟨hactive, ?_, ?_, ?_⟩
        · obtain ⟨key, m, hm, hkey⟩ := Table.exists?_iff.mp hlisted
          rw [decide_eq_true_eq] at hkey
          subst hkey
          rw [deactivateSource, Table.get_update] at hm
          obtain ⟨m₀, hm₀, -⟩ := Option.map_eq_some_iff.mp hm
          rw [hm₀]
          rfl
        · rw [htables]
          exact hnone
        · rw [htables]
          exact hcustom
      · exact absurd hafter hbefore

/-- **When edits of the registry are exact.**  For every state, every save that is accepted and every
deletion that returns. -/
theorem source_edits_exact_iff (hsave : saveSubscriptionUrl reprText c row = some row')
    (hdelete : deleteSubscriptionSourceIntent U reprText codec call db = .ok db') :
    (SaveExact reprText c row row' ↔ PlainRegistry reprText c row) ∧
      (DeleteExact reprText codec call db db' ↔ PlainReference reprText codec call db.row) :=
  ⟨saveExact_iff hsave, deleteExact_iff hdelete⟩

end Proof

namespace Example

/-! ## Two sources -/

/-- An enabled source and another one, with one server each. -/
def registryOf (enabled : Bool) : StateRow where
  url := some addressA
  metadata := some [("subscriptions".toList, .dict [("items".toList, .list
    [.dict [("url".toList, .str addressA), ("enabled".toList, .bool true),
        ("servers".toList, .list [.str "s1".toList])],
      .dict [("url".toList, .str addressB), ("enabled".toList, .bool enabled),
        ("servers".toList, .list [.str "s2".toList])]])])]

/-- A save of the first address again. -/
def saveAgain : Save where
  url := addressA
  metadata := none
  now := []
  hostAccepted _ := true
  label _ := .none

def database (enabled : Bool) : Database where
  row := registryOf enabled
  tables := ⟨Table.empty, Table.empty, []⟩
  bindings := []
  routing := none
  liveOverrides := []

/-- The deletion of the second source, under a reference with something in front of it. -/
def deleteB (before : Text) : DeletionCall where
  sourceRef := before ++ sourceId exampleCodec addressB
  recovered := true
  autoSelectable := []
  checkpointOk := true
  exclusiveSourceRef := none
  revisionConflict := false
  now := 1

/-- The document that the save leaves. -/
def savedAgain (enabled : Bool) : StateRow :=
  { url := some addressA
    metadata := some (savedMetadata id saveAgain (registryOf enabled)
      (normalizeUrls (savedUrls id (registryOf enabled) ++ [addressA]))) }

lemma saveSubscriptionUrl_again (enabled : Bool) :
    saveSubscriptionUrl id saveAgain (registryOf enabled) = some (savedAgain enabled) := by
  have hvalid : validUrl saveAgain.hostAccepted saveAgain.url = true := by decide +kernel
  have hstrip : strip saveAgain.url = addressA := by decide +kernel
  rw [saveSubscriptionUrl, if_neg (by rw [hvalid]; decide), hstrip]
  rfl

/-- What the deletion leaves. -/
def deletedB (before : Text) : Database :=
  { database true with
    row := withoutSource id exampleCodec (deleteB before).sourceRef (registryOf true)
    tables := missOrphans (sourceId exampleCodec addressB) 1 []
      (deactivateSource (sourceId exampleCodec addressB) ⟨Table.empty, Table.empty, []⟩) }

lemma deleteSubscriptionSourceIntent_B {before : Text}
    (hbegin : beginDeletion id exampleCodec (deleteB before).sourceRef true (registryOf true) =
      .ok addressB)
    (hrefusal : deletionRefusal id exampleCodec (deleteB before).sourceRef ⟨0, none, none, []⟩
      ⟨true, none, 0, false, ⟨0, none, none, []⟩⟩ (registryOf true) ⟨0, none, none, []⟩ = none) :
    deleteSubscriptionSourceIntent Unicode.ascii id exampleCodec (deleteB before) (database true) =
      .ok (deletedB before) := by
  rw [deleteSubscriptionSourceIntent]
  have hbegin' : beginDeletion id exampleCodec (deleteB before).sourceRef (deleteB before).recovered
      (database true).row = .ok addressB := hbegin
  rw [hbegin']
  dsimp only
  have hpreflight : preflightRefusal Unicode.ascii (deleteB before) (database true)
      (orphanedServerIds (database true).tables (sourceId exampleCodec addressB)) = none := rfl
  rw [hpreflight]
  dsimp only
  have hcommit : commitDeletion id exampleCodec (deleteB before).sourceRef (database true).row
      ⟨0, none, none, []⟩ ⟨true, none, 0, false, ⟨0, none, none, []⟩⟩ (database true).row
      ⟨0, none, none, []⟩ =
        .ok (withoutSource id exampleCodec (deleteB before).sourceRef (registryOf true)) := by
    rw [commitDeletion]
    have hrefusal' : deletionRefusal id exampleCodec (deleteB before).sourceRef ⟨0, none, none, []⟩
        ⟨true, none, 0, false, ⟨0, none, none, []⟩⟩ (database true).row ⟨0, none, none, []⟩ = none :=
      hrefusal
    rw [hrefusal']
    rfl
  exact hcommit ▸ rfl

/-- The reference names the second source, with or without a blank in front. -/
lemma deleteSubscriptionSourceIntent_found :
    deleteSubscriptionSourceIntent Unicode.ascii id exampleCodec (deleteB []) (database true) =
        .ok (deletedB []) ∧
      deleteSubscriptionSourceIntent Unicode.ascii id exampleCodec (deleteB " ".toList) (database true) =
        .ok (deletedB " ".toList) := by
  have hbegin : ∀ before ∈ [[], " ".toList],
      (beginDeletion id exampleCodec (deleteB before).sourceRef true (registryOf true)).toOption =
        some addressB := by decide +kernel
  have hok : ∀ before ∈ [[], " ".toList],
      beginDeletion id exampleCodec (deleteB before).sourceRef true (registryOf true) = .ok addressB := by
    intro before hbefore
    have hsome := hbegin before hbefore
    cases hresult : beginDeletion id exampleCodec (deleteB before).sourceRef true (registryOf true) with
    | error e =>
        rw [hresult] at hsome
        cases hsome
    | ok url =>
        rw [hresult] at hsome
        rw [Option.some.inj hsome]
  exact ⟨deleteSubscriptionSourceIntent_B (hok _ (by simp)) (by decide +kernel),
    deleteSubscriptionSourceIntent_B (hok _ (by simp)) (by decide +kernel)⟩

/-- Saving over enabled sources and deleting by a stripped reference are exact. -/
theorem plain_edits_exact :
    SaveExact id saveAgain (registryOf true) (savedAgain true) ∧
      DeleteExact id exampleCodec (deleteB []) (database true) (deletedB []) := by
  have h := source_edits_exact_iff (saveSubscriptionUrl_again true)
    deleteSubscriptionSourceIntent_found.1
  refine ⟨h.1.mpr ⟨by decide +kernel, fun url hurl => ?_⟩, h.2.mpr (Or.inl (by decide +kernel))⟩
  obtain rfl : addressA = url := Option.some.inj hurl
  exact Or.inr (Or.inl (by decide +kernel))

/-- **A disabled source is lost and a padded reference deletes nothing.**  Saving the first source
again loses the second one, which is disabled; and after its deletion by a reference with a blank in
front the second source is still there. -/
theorem disabled_lost_and_padded_kept :
    (saveSubscriptionUrl id saveAgain (registryOf false) = some (savedAgain false) ∧
      ¬ SaveExact id saveAgain (registryOf false) (savedAgain false)) ∧
    (deleteSubscriptionSourceIntent Unicode.ascii id exampleCodec (deleteB " ".toList)
        (database true) = .ok (deletedB " ".toList) ∧
      ¬ DeleteExact id exampleCodec (deleteB " ".toList) (database true) (deletedB " ".toList)) := by
  refine ⟨⟨saveSubscriptionUrl_again false, ?_⟩, deleteSubscriptionSourceIntent_found.2, ?_⟩
  · rintro ⟨-, hkept, -⟩
    have hbefore : addressB ∈ (subscriptionSources id (registryOf false).metadata).map (itemUrl id) := by
      decide +kernel
    have hafter : addressB ∉ (subscriptionSources id (savedAgain false).metadata).map (itemUrl id) := by
      decide +kernel
    obtain ⟨item, hitem, heq⟩ := List.mem_map.mp hbefore
    rcases hkept item hitem with ⟨item', hitem', hurl, -⟩
    exact hafter (heq ▸ hurl ▸ List.mem_map_of_mem hitem')
  · rintro ⟨hregistry, -, -⟩
    have hlengths := congrArg List.length hregistry
    exact absurd hlengths (by decide +kernel)

end Example

end FwRouter.Subscription.Registry
