import FwRouter.Subscription.Inventory

/-!
# The registry of subscription sources

`subscription_state` holds one document: the address that was saved last and, in its metadata, the
registry of the saved sources.  `save_subscription_url` reads and writes the document under the
writer guard.  `delete_subscription_source_intent` reads it before the guard, builds the whole next
document from what it read, and under the guard compares the selection fence, not the document.

The functions come first, over the document as the JSON value that is stored, with the addresses that
each leaves in the registry.  Then the interleavings of any number of such calls: no saved source is
lost and no deleted one comes back if every deletion that passes its checks finds the other sources as
it read them.
-/

namespace FwRouter.Subscription.Registry

open Py Inventory

variable (reprText : Text → Text)

/-! ## Documents -/

/-- The row of `subscription_state`: the address, and the metadata as `_json_loads` reads it. -/
structure StateRow where
  url : Option Text
  metadata : Option Dict

/-- `str(item.get("url") or "").strip()`. -/
def itemUrl (item : Dict) : Text := strip ((item.get "url").textOr reprText)

/-- `bool(item.get("enabled", True))`. -/
def itemEnabled (item : Dict) : Bool := if item.has "enabled" then (item.get "enabled").truthy else true

/-- One round of the loop over the items. -/
def sourceStep (sources : List Dict) (item : Value) : List Dict :=
  match item.asDict with
  | none => sources
  | some item =>
      let url := itemUrl reprText item
      if url = [] ∨ url ∈ sources.map (itemUrl reprText) then sources
      else sources ++ [(item.set "url" (.str url)).set "enabled" (.bool (itemEnabled item))]

/-- `_subscription_sources`. -/
def subscriptionSources (metadata : Option Dict) : List Dict :=
  (((metadata.getD []).get "subscriptions").dictOr.get "items").listOr.foldl (sourceStep reprText) []

/-- `_subscription_registry_urls_from_metadata`: the enabled source registry. -/
def registryUrls (metadata : Option Dict) : List Text :=
  ((subscriptionSources reprText metadata).filter itemEnabled).map (itemUrl reprText)

/-- One round of the loop of `normalize_subscription_urls`. -/
def normalizeStep (urls : List Text) (url : Text) : List Text :=
  if strip url = [] ∨ strip url ∈ urls then urls else urls ++ [strip url]

/-- `normalize_subscription_urls`, the addresses. -/
def normalizeUrls (urls : List Text) : List Text := urls.foldl normalizeStep []

/-- `_saved_subscription_urls`. -/
def savedUrls (row : StateRow) : List Text :=
  normalizeUrls (registryUrls reprText row.metadata ++ row.url.toList)

/-! ## Saving -/

/-- `_merge_source_metadata` without fetched sources: the item of one address.  `label` is
`_safe_source_label`. -/
def sourceItem (label : Dict → Value) (previous : Dict) (url : Text) : Dict :=
  let named := (previous.set "name"
    (((previous.get "name").or (previous.get "display_name")).or (previous.get "label"))).set
      "metadata" (previous.get "metadata")
  let named := if (previous.get "url").truthy then named else named.set "url" (.str url)
  let servers := (previous.get "servers").listOr
  [("url".toList, .str url), ("name".toList, label named), ("enabled".toList, .bool true),
    ("status".toList, (previous.get "status").or (.str "idle".toList)),
    ("last_refresh_at".toList, previous.get "last_refresh_at"),
    ("last_success_at".toList, previous.get "last_success_at"),
    ("last_error_code".toList, previous.get "last_error_code"),
    ("last_error_message".toList, previous.get "last_error_message"),
    ("servers_count".toList, .int servers.length), ("servers".toList, .list servers),
    ("metadata".toList, previous.get "metadata"), ("used_last_good".toList, .bool false),
    ("last_refresh_servers_count".toList,
      if previous.has "last_refresh_servers_count" then previous.get "last_refresh_servers_count"
      else .int 0)]

/-- `existing_by_url.get(url) or {}`. -/
def previousItem (metadata : Option Dict) (url : Text) : Dict :=
  ((subscriptionSources reprText metadata).find? fun item => itemUrl reprText item = url).getD []

/-- `_merge_source_metadata` without fetched sources. -/
def mergeSourceMetadata (label : Dict → Value) (base : Option Dict) (urls : List Text) (now : Text) :
    Dict :=
  let others : Dict := (base.getD []).filter fun field => field.1 ≠ "subscriptions".toList
  let batch : Dict := [("submitted_count".toList, .int urls.length), ("duplicate_urls".toList, .int 0),
    ("empty_urls".toList, .int 0), ("errors".toList, .int 0)]
  let items := urls.map fun url => Value.dict (sourceItem label (previousItem reprText base url) url)
  (others.set "batch" (.dict batch)).set "subscriptions"
    (.dict [("version".toList, .int 1), ("updated_at".toList, .str now),
      ("items".toList, .list items)])

/-- `validate_subscription_url`; `hostAccepted` stands for the checks of the host. -/
def validUrl (hostAccepted : Text → Bool) (url : Text) : Bool :=
  strip url ≠ [] && allowedSchemes.contains (urlScheme (strip url)) && hostAccepted (strip url)

/-- The arguments of `save_subscription_url`, with the answers of the host checks and the labels. -/
structure Save where
  url : Text
  metadata : Option Dict
  now : Text
  hostAccepted : Text → Bool
  label : Dict → Value

/-- The metadata that a save stores: the merged registry, then the fields of the request. -/
def savedMetadata (c : Save) (row : StateRow) (urls : List Text) : Dict :=
  let base := if row.metadata.isSome then row.metadata else c.metadata
  let fields := (c.metadata.getD []).filter fun field => field.1 ≠ "subscriptions".toList
  fields.foldl (fun d field => KeyedTable.assign field.1 field.2 d)
    (mergeSourceMetadata reprText c.label base urls c.now)

/-- `save_subscription_url`: the document it stores, `none` if the address is refused. -/
def saveSubscriptionUrl (c : Save) (row : StateRow) : Option StateRow :=
  if validUrl c.hostAccepted c.url = false then none
  else
    let urls := normalizeUrls (savedUrls reprText row ++ [strip c.url])
    some { url := some (strip c.url), metadata := some (savedMetadata reprText c row urls) }

/-! ## Deleting -/

/-- The parts of the selection fence that a deletion compares, with the pool signature. -/
structure Fence where
  revision : ℤ
  activeServerId : Option Text
  decisionId : Option Text
  poolSignature : Text
  deriving DecidableEq

/-- What the part under the guard reads besides: the checkpoint gate, the exclusive source and the
live overrides of the orphaned servers; whether the fence could be advanced, and the fence that the
changed pool leaves. -/
structure Checks where
  checkpointOk : Bool
  exclusiveSourceRef : Option Text
  activeXrayOverrides : ℕ
  revisionConflict : Bool
  fenceAfter : Fence

variable (codec : Codec)

/-- The source that a reference names: one of the registry, or the address alone. -/
def matchedSource (row : StateRow) (ref : Text) : Option Text :=
  let primary := strip (row.url.getD [])
  match (subscriptionSources reprText row.metadata).find?
      fun item => sourceId codec (itemUrl reprText item) = ref with
  | some item => some (itemUrl reprText item)
  | none => if primary ≠ [] ∧ sourceId codec primary = ref then some primary else none

/-- The first reads of `delete_subscription_source_intent`: the source to delete, or the error. -/
def beginDeletion (sourceRef : Text) (recovered : Bool) (row : StateRow) : Except String Text :=
  let ref := strip sourceRef
  if ref.take 4 ≠ "src:".toList ∨ ref.length ≠ 68 then .error "SUBSCRIPTION_SOURCE_REF_INVALID"
  else if recovered = false then .error "XRAY_GENERATION_RECOVERY_FAILED"
  else
    match matchedSource reprText codec row ref with
    | none => .error "SUBSCRIPTION_SOURCE_NOT_FOUND"
    | some url => .ok url

/-- The sources that are left.  The comparison is with the reference as it was given. -/
def remainingSources (sourceRef : Text) (row : StateRow) : List Dict :=
  (subscriptionSources reprText row.metadata).filter
    fun item => sourceId codec (itemUrl reprText item) ≠ sourceRef

/-- The document without the source, built from the document that was read. -/
def withoutSource (sourceRef : Text) (row : StateRow) : StateRow :=
  let remaining := remainingSources reprText codec sourceRef row
  let metadata := row.metadata.getD []
  let registry := (metadata.get "subscriptions").dictOr.set "items" (.list (remaining.map .dict))
  { url := ((remaining.find? itemEnabled).map (itemUrl reprText)).filter fun url => url ≠ []
    metadata := some (metadata.set "subscriptions" (.dict registry)) }

/-- Why the part of `delete_subscription_source_intent` under the guard refuses: the fence is not the
one that was read, the source is gone, or one of the other checks. -/
def deletionRefusal (sourceRef : Text) (expected : Fence) (checks : Checks) (row : StateRow)
    (fence : Fence) : Option String :=
  let ref := strip sourceRef
  if checks.checkpointOk = false then some "XRAY_GENERATION_CHECKPOINT_RECOVERY_REQUIRED"
  else if fence ≠ expected then some "VPN_AUTO_SELECTION_SNAPSHOT_STALE"
  else if checks.exclusiveSourceRef = some ref then some "SUBSCRIPTION_SOURCE_IS_VPN_AUTO_EXCLUSIVE"
  else if ¬(subscriptionSources reprText row.metadata).any
        (fun item => sourceId codec (itemUrl reprText item) = ref) ∧
      sourceId codec (row.url.getD []) ≠ ref then
    some "VPN_AUTO_SELECTION_SNAPSHOT_STALE"
  else if checks.activeXrayOverrides ≠ 0 then some "SUBSCRIPTION_DELETE_ACTIVE_XRAY_OVERRIDES"
  else if checks.revisionConflict then some "VPN_AUTO_SELECTION_REVISION_CONFLICT"
  else none

/-- The part of `delete_subscription_source_intent` under the guard.  It stores the document without
the source, built from the document that was read before the guard. -/
def commitDeletion (sourceRef : Text) (read : StateRow) (expected : Fence) (checks : Checks)
    (row : StateRow) (fence : Fence) : Except String StateRow :=
  match deletionRefusal reprText codec sourceRef expected checks row fence with
  | some error => .error error
  | none => .ok (withoutSource reprText codec sourceRef read)

/-! ## What a registry reads -/

section Sources

variable {reprText}

/-- The item as `_subscription_sources` returns it. -/
def normalizedItem (reprText : Text → Text) (item : Dict) : Dict :=
  (item.set "url" (.str (itemUrl reprText item))).set "enabled" (.bool (itemEnabled item))

lemma itemUrl_of_get {item : Dict} {url : Text} (h : item.get "url" = .str url) :
    itemUrl reprText item = strip url := by
  rw [itemUrl, h, Value.textOr_str]

lemma normalizedItem_url (item : Dict) :
    (normalizedItem reprText item).get "url" = .str (itemUrl reprText item) := by
  rw [normalizedItem, Dict.get_set_of_ne (by decide), Dict.get_set_self]

lemma normalizedItem_enabled (item : Dict) :
    (normalizedItem reprText item).get "enabled" = .bool (itemEnabled item) := Dict.get_set_self

@[simp] lemma itemUrl_normalizedItem (item : Dict) :
    itemUrl reprText (normalizedItem reprText item) = itemUrl reprText item := by
  rw [itemUrl_of_get (normalizedItem_url item), itemUrl, strip_strip]

@[simp] lemma itemEnabled_normalizedItem (item : Dict) :
    itemEnabled (normalizedItem reprText item) = itemEnabled item := by
  have hhas : (normalizedItem reprText item).has "enabled" = true := Dict.has_set_self
  rw [itemEnabled, hhas, if_pos rfl, normalizedItem_enabled]
  rfl

lemma normalizedItem_normalizedItem (item : Dict) :
    normalizedItem reprText (normalizedItem reprText item) = normalizedItem reprText item := by
  have hurl : (normalizedItem reprText item).has "url" = true := by
    rw [normalizedItem, Dict.has_set_of_ne (by decide), Dict.has_set_self]
  have henabled : (normalizedItem reprText item).has "enabled" = true := Dict.has_set_self
  rw [normalizedItem, itemUrl_normalizedItem, itemEnabled_normalizedItem,
    Dict.set_eq_self hurl (normalizedItem_url item),
    Dict.set_eq_self henabled (normalizedItem_enabled item)]

lemma sourceStep_dict (sources : List Dict) (item : Dict) :
    sourceStep reprText sources (.dict item) =
      if itemUrl reprText item = [] ∨ itemUrl reprText item ∈ sources.map (itemUrl reprText)
      then sources else sources ++ [normalizedItem reprText item] := rfl

/-- Sources as they are returned: normalized, under addresses that are different and not empty. -/
structure Sources (reprText : Text → Text) (sources : List Dict) : Prop where
  normalized : ∀ item ∈ sources, normalizedItem reprText item = item
  nonempty : ∀ item ∈ sources, itemUrl reprText item ≠ []
  nodup : (sources.map (itemUrl reprText)).Nodup

lemma sources_nil : Sources reprText [] := ⟨by simp, by simp, by simp⟩

lemma Sources.snoc {sources : List Dict} (h : Sources reprText sources) {item : Dict}
    (hurl : itemUrl reprText item ≠ []) (hnew : itemUrl reprText item ∉ sources.map (itemUrl reprText)) :
    Sources reprText (sources ++ [normalizedItem reprText item]) where
  normalized := by
    intro x hx
    rcases List.mem_append.mp hx with hx | hx
    · exact h.normalized x hx
    · rw [List.mem_singleton.mp hx, normalizedItem_normalizedItem]
  nonempty := by
    intro x hx
    rcases List.mem_append.mp hx with hx | hx
    · exact h.nonempty x hx
    · rw [List.mem_singleton.mp hx, itemUrl_normalizedItem]
      exact hurl
  nodup := by
    rw [List.map_append, List.nodup_append]
    refine ⟨h.nodup, List.nodup_singleton _, ?_⟩
    intro a ha b hb hab
    rw [List.map_singleton, List.mem_singleton, itemUrl_normalizedItem] at hb
    exact hnew (hb ▸ hab ▸ ha)

lemma Sources.sourceStep {sources : List Dict} (h : Sources reprText sources) (value : Value) :
    Sources reprText (sourceStep reprText sources value) := by
  cases value with
  | dict item =>
      rw [sourceStep_dict]
      split_ifs with hskip
      · exact h
      · rw [not_or] at hskip
        exact h.snoc hskip.1 hskip.2
  | _ => exact h

lemma foldl_sourceStep_sources {items : List Value} {sources : List Dict}
    (h : Sources reprText sources) : Sources reprText (items.foldl (sourceStep reprText) sources) := by
  induction items generalizing sources with
  | nil => exact h
  | cons item items ih => exact ih (h.sourceStep item)

lemma subscriptionSources_sources (metadata : Option Dict) :
    Sources reprText (subscriptionSources reprText metadata) :=
  foldl_sourceStep_sources sources_nil

/-- Items under different addresses are all read. -/
lemma foldl_sourceStep_items {items : List Dict} (hne : ∀ item ∈ items, itemUrl reprText item ≠ [])
    (hnodup : (items.map (itemUrl reprText)).Nodup) :
    (items.map Value.dict).foldl (sourceStep reprText) [] = items.map (normalizedItem reprText) := by
  induction items using List.reverseRecOn with
  | nil => rfl
  | append_singleton items item ih =>
      rw [List.map_append, List.nodup_append] at hnodup
      obtain ⟨hrest, -, hnew⟩ := hnodup
      have hurls : (items.map (normalizedItem reprText)).map (itemUrl reprText) =
          items.map (itemUrl reprText) := by
        rw [List.map_map]
        exact List.map_congr_left fun x _ => itemUrl_normalizedItem x
      have hfresh : ¬(itemUrl reprText item = [] ∨
          itemUrl reprText item ∈ (items.map (normalizedItem reprText)).map (itemUrl reprText)) := by
        rw [hurls]
        rintro (hempty | hseen)
        · exact hne item (by simp) hempty
        · exact hnew _ hseen _ (by simp) rfl
      rw [List.map_append, List.foldl_append, ih (fun x hx => hne x (List.mem_append_left _ hx)) hrest,
        List.map_singleton, List.foldl_cons, List.foldl_nil, sourceStep_dict, if_neg hfresh,
        List.map_append, List.map_singleton]

/-- A list of sources is read back as it is. -/
lemma foldl_sourceStep_of_sources {sources : List Dict} (h : Sources reprText sources) :
    (sources.map Value.dict).foldl (sourceStep reprText) [] = sources := by
  rw [foldl_sourceStep_items h.nonempty h.nodup]
  exact (List.map_congr_left h.normalized).trans (List.map_id _)

/-! ### After a deletion -/

lemma subscriptionSources_set_items {metadata registry : Dict} {items : List Value} :
    subscriptionSources reprText
        (some (metadata.set "subscriptions" (.dict (registry.set "items" (.list items))))) =
      items.foldl (sourceStep reprText) [] := by
  rw [subscriptionSources, Option.getD_some, Dict.get_set_self]
  have hitems : ((Value.dict (registry.set "items" (.list items))).dictOr.get "items").listOr = items := by
    have hdict : (Value.dict (registry.set "items" (.list items))).dictOr =
        registry.set "items" (.list items) := rfl
    rw [hdict, Dict.get_set_self]
    rfl
  rw [hitems]

lemma Sources.filter {sources : List Dict} (h : Sources reprText sources) (p : Dict → Bool) :
    Sources reprText (sources.filter p) :=
  ⟨fun x hx => h.normalized x (List.mem_filter.mp hx).1,
    fun x hx => h.nonempty x (List.mem_filter.mp hx).1,
    h.nodup.sublist (List.filter_sublist.map _)⟩

variable {codec}

lemma subscriptionSources_withoutSource (sourceRef : Text) (row : StateRow) :
    subscriptionSources reprText (withoutSource reprText codec sourceRef row).metadata =
      remainingSources reprText codec sourceRef row := by
  rw [withoutSource]
  exact subscriptionSources_set_items.trans (foldl_sourceStep_of_sources
    ((subscriptionSources_sources row.metadata).filter _))

/-- The registry after a deletion has the sources that were read, without the one with the
reference. -/
lemma mem_registryUrls_withoutSource {sourceRef url : Text} {row : StateRow} :
    url ∈ registryUrls reprText (withoutSource reprText codec sourceRef row).metadata ↔
      url ∈ registryUrls reprText row.metadata ∧ sourceId codec url ≠ sourceRef := by
  rw [registryUrls, registryUrls, subscriptionSources_withoutSource, remainingSources, List.mem_map,
    List.mem_map]
  constructor
  · rintro ⟨item, hitem, rfl⟩
    obtain ⟨hitem, henabled⟩ := List.mem_filter.mp hitem
    obtain ⟨hitem, hother⟩ := List.mem_filter.mp hitem
    exact ⟨⟨item, List.mem_filter.mpr ⟨hitem, henabled⟩, rfl⟩, of_decide_eq_true hother⟩
  · rintro ⟨⟨item, hitem, rfl⟩, hother⟩
    obtain ⟨hitem, henabled⟩ := List.mem_filter.mp hitem
    refine ⟨item, List.mem_filter.mpr ⟨List.mem_filter.mpr ⟨hitem, ?_⟩, henabled⟩, rfl⟩
    exact decide_eq_true hother

/-- The address after a deletion is one of the registry. -/
lemma url_withoutSource {sourceRef url : Text} {row : StateRow}
    (h : (withoutSource reprText codec sourceRef row).url = some url) :
    url ∈ registryUrls reprText (withoutSource reprText codec sourceRef row).metadata := by
  rw [withoutSource] at h
  obtain ⟨hfirst, -⟩ := Option.filter_eq_some_iff.mp h
  obtain ⟨item, hfound, rfl⟩ := Option.map_eq_some_iff.mp hfirst
  have hmem := List.mem_of_find?_eq_some hfound
  have henabled := List.find?_some hfound
  obtain ⟨hitem, hother⟩ := List.mem_filter.mp hmem
  rw [mem_registryUrls_withoutSource]
  refine ⟨?_, of_decide_eq_true hother⟩
  rw [registryUrls, List.mem_map]
  exact ⟨item, List.mem_filter.mpr ⟨hitem, henabled⟩, rfl⟩

/-! ### After a save -/

lemma mem_foldl_normalizeStep {urls acc : List Text} {url : Text} :
    url ∈ urls.foldl normalizeStep acc ↔
      url ∈ acc ∨ url ≠ [] ∧ ∃ u ∈ urls, strip u = url := by
  induction urls generalizing acc with
  | nil => simp
  | cons u urls ih =>
      rw [List.foldl_cons, ih, normalizeStep]
      split_ifs with hskip
      · constructor
        · rintro (hacc | ⟨hne, u', hu', rfl⟩)
          · exact Or.inl hacc
          · exact Or.inr ⟨hne, u', List.mem_cons_of_mem _ hu', rfl⟩
        · rintro (hacc | ⟨hne, u', hu', rfl⟩)
          · exact Or.inl hacc
          · rcases List.mem_cons.mp hu' with rfl | hu'
            · rcases hskip with hempty | hseen
              · exact absurd hempty hne
              · exact Or.inl hseen
            · exact Or.inr ⟨hne, u', hu', rfl⟩
      · rw [not_or] at hskip
        rw [List.mem_append, List.mem_singleton]
        constructor
        · rintro ((hacc | rfl) | ⟨hne, u', hu', rfl⟩)
          · exact Or.inl hacc
          · exact Or.inr ⟨hskip.1, u, List.mem_cons_self, rfl⟩
          · exact Or.inr ⟨hne, u', List.mem_cons_of_mem _ hu', rfl⟩
        · rintro (hacc | ⟨hne, u', hu', rfl⟩)
          · exact Or.inl (Or.inl hacc)
          · rcases List.mem_cons.mp hu' with rfl | hu'
            · exact Or.inl (Or.inr rfl)
            · exact Or.inr ⟨hne, u', hu', rfl⟩

lemma nodup_foldl_normalizeStep {urls acc : List Text} (h : acc.Nodup) :
    (urls.foldl normalizeStep acc).Nodup := by
  induction urls generalizing acc with
  | nil => exact h
  | cons u urls ih =>
      refine ih ?_
      rw [normalizeStep]
      split_ifs with hskip
      · exact h
      · rw [not_or] at hskip
        rw [List.nodup_append]
        refine ⟨h, List.nodup_singleton _, ?_⟩
        intro a ha b hb hab
        rw [List.mem_singleton] at hb
        exact hskip.2 (hb ▸ hab ▸ ha)

/-- The addresses are stripped and not empty. -/
lemma mem_normalizeUrls {urls : List Text} {url : Text} :
    url ∈ normalizeUrls urls ↔ url ≠ [] ∧ ∃ u ∈ urls, strip u = url := by
  rw [normalizeUrls, mem_foldl_normalizeStep]
  simp

lemma itemUrl_sourceItem {label : Dict → Value} {previous : Dict} {url : Text} :
    itemUrl reprText (sourceItem label previous url) = strip url := itemUrl_of_get rfl

lemma itemEnabled_sourceItem {label : Dict → Value} {previous : Dict} {url : Text} :
    itemEnabled (sourceItem label previous url) = true := rfl

section Items

variable {label : Dict → Value} {previous : Text → Dict} {urls : List Text} {metadata registry : Dict}

/-- The sources of a merged document are the items of its addresses. -/
lemma subscriptionSources_of_items (hstrip : ∀ url ∈ urls, strip url = url ∧ url ≠ [])
    (hnodup : urls.Nodup) (hsubscriptions : metadata.get "subscriptions" = .dict registry)
    (hitems : registry.get "items" = .list (urls.map fun url =>
      .dict (sourceItem label (previous url) url))) :
    subscriptionSources reprText (some metadata) =
      urls.map fun url => normalizedItem reprText (sourceItem label (previous url) url) := by
  have hurl : ∀ url ∈ urls, itemUrl reprText (sourceItem label (previous url) url) = url := by
    intro url h
    rw [itemUrl_sourceItem, (hstrip url h).1]
  have hurls : (urls.map fun url => sourceItem label (previous url) url).map (itemUrl reprText) = urls := by
    rw [List.map_map]
    exact (List.map_congr_left hurl).trans (List.map_id _)
  have hne : ∀ item ∈ urls.map (fun url => sourceItem label (previous url) url),
      itemUrl reprText item ≠ [] := by
    intro item hitem
    obtain ⟨url, h, rfl⟩ := List.mem_map.mp hitem
    rw [hurl url h]
    exact (hstrip url h).2
  have hread := foldl_sourceStep_items hne (hurls.symm ▸ hnodup)
  rw [List.map_map, List.map_map] at hread
  rw [subscriptionSources, Option.getD_some, hsubscriptions]
  change ((registry.get "items").listOr).foldl (sourceStep reprText) [] = _
  rw [hitems]
  exact hread

/-- The registry of a merged document is the list of its addresses. -/
lemma registryUrls_of_items (hstrip : ∀ url ∈ urls, strip url = url ∧ url ≠ []) (hnodup : urls.Nodup)
    (hsubscriptions : metadata.get "subscriptions" = .dict registry)
    (hitems : registry.get "items" = .list (urls.map fun url =>
      .dict (sourceItem label (previous url) url))) :
    registryUrls reprText (some metadata) = urls ∧
      (subscriptionSources reprText (some metadata)).map (itemUrl reprText) = urls := by
  have hread : subscriptionSources reprText (some metadata) = _ :=
    subscriptionSources_of_items hstrip hnodup hsubscriptions hitems
  have hall : (subscriptionSources reprText (some metadata)).map (itemUrl reprText) = urls := by
    rw [hread, List.map_map]
    refine (List.map_congr_left fun url hurl => ?_).trans (List.map_id _)
    exact (itemUrl_normalizedItem _).trans (itemUrl_sourceItem.trans (hstrip url hurl).1)
  refine ⟨?_, hall⟩
  rw [registryUrls, List.filter_eq_self.mpr, hall]
  intro normalized hmem
  rw [hread] at hmem
  obtain ⟨url, -, rfl⟩ := List.mem_map.mp hmem
  rw [itemEnabled_normalizedItem, itemEnabled_sourceItem]

end Items

lemma get_foldl_assign {fields : List (Text × Value)} {key : String} {d : Dict}
    (h : ∀ f ∈ fields, f.1 ≠ key.toList) :
    Dict.get (fields.foldl (fun d f => KeyedTable.assign f.1 f.2 d) d) key = d.get key := by
  induction fields generalizing d with
  | nil => rfl
  | cons f fields ih =>
      rw [List.foldl_cons, ih fun g hg => h g (List.mem_cons_of_mem _ hg), Dict.get, Dict.get,
        KeyedTable.lookup_assign_of_ne (h f List.mem_cons_self).symm]

lemma subscriptions_savedMetadata {c : Save} {row : StateRow} {urls : List Text} :
    Dict.get (savedMetadata reprText c row urls) "subscriptions" = .dict
      [("version".toList, .int 1), ("updated_at".toList, .str c.now),
        ("items".toList, .list (urls.map fun url => .dict (sourceItem c.label
          (previousItem reprText (if row.metadata.isSome then row.metadata else c.metadata) url)
          url)))] :=
  (get_foldl_assign fun _ hfield => of_decide_eq_true (List.mem_filter.mp hfield).2).trans
    Dict.get_set_self

lemma registryUrls_savedMetadata {c : Save} {row : StateRow} {urls : List Text}
    (hstrip : ∀ url ∈ urls, strip url = url ∧ url ≠ []) (hnodup : urls.Nodup) :
    registryUrls reprText (some (savedMetadata reprText c row urls)) = urls ∧
      (subscriptionSources reprText (some (savedMetadata reprText c row urls))).map
        (itemUrl reprText) = urls :=
  registryUrls_of_items hstrip hnodup subscriptions_savedMetadata rfl

lemma mem_normalizeUrls_save {c : Save} {row : StateRow} {url : Text} :
    url ∈ normalizeUrls (savedUrls reprText row ++ [strip c.url]) ↔
      url ≠ [] ∧ (url = strip c.url ∨ url ∈ savedUrls reprText row) := by
  rw [mem_normalizeUrls]
  refine and_congr_right fun hne => ?_
  constructor
  · rintro ⟨u, hu, rfl⟩
    rcases List.mem_append.mp hu with hu | hu
    · obtain ⟨-, u', -, rfl⟩ := mem_normalizeUrls.mp hu
      rw [strip_strip]
      exact Or.inr hu
    · rw [List.mem_singleton.mp hu, strip_strip]
      exact Or.inl rfl
  · rintro (rfl | hu)
    · exact ⟨strip c.url, by simp, strip_strip _⟩
    · refine ⟨url, List.mem_append_left _ hu, ?_⟩
      obtain ⟨-, u', -, rfl⟩ := mem_normalizeUrls.mp hu
      exact strip_strip u'

/-- **A save** keeps the sources that were saved and adds its own; all of them are enabled. -/
lemma saveSubscriptionUrl_spec {c : Save} {row row' : StateRow}
    (h : saveSubscriptionUrl reprText c row = some row') :
    strip c.url ≠ [] ∧ row'.url = some (strip c.url) ∧
    registryUrls reprText row'.metadata = normalizeUrls (savedUrls reprText row ++ [strip c.url]) ∧
    (subscriptionSources reprText row'.metadata).map (itemUrl reprText) =
      normalizeUrls (savedUrls reprText row ++ [strip c.url]) := by
  rw [saveSubscriptionUrl] at h
  split_ifs at h with hvalid
  obtain rfl := Option.some.inj h
  have hne : strip c.url ≠ [] := by
    rw [Bool.not_eq_false, validUrl, Bool.and_eq_true, Bool.and_eq_true, decide_eq_true_eq] at hvalid
    exact hvalid.1.1
  refine ⟨hne, rfl, registryUrls_savedMetadata ?_ (nodup_foldl_normalizeStep List.nodup_nil)⟩
  intro u hu
  obtain ⟨hne, u', -, rfl⟩ := mem_normalizeUrls.mp hu
  exact ⟨strip_strip u', hne⟩

/-- The registry has addresses that are stripped and not empty. -/
lemma registryUrls_stripped {metadata : Option Dict} {url : Text}
    (h : url ∈ registryUrls reprText metadata) : strip url = url ∧ url ≠ [] := by
  obtain ⟨item, hitem, rfl⟩ := List.mem_map.mp h
  have hsource := (List.mem_filter.mp hitem).1
  exact ⟨strip_strip _, (subscriptionSources_sources metadata).nonempty item hsource⟩

/-- What a save finds: the registry and the address. -/
lemma mem_savedUrls {row : StateRow} {url : Text} :
    url ∈ savedUrls reprText row ↔
      url ∈ registryUrls reprText row.metadata ∨ url ≠ [] ∧ ∃ u, row.url = some u ∧ strip u = url := by
  rw [savedUrls, mem_normalizeUrls]
  constructor
  · rintro ⟨hne, u, hu, rfl⟩
    rcases List.mem_append.mp hu with hu | hu
    · rw [(registryUrls_stripped hu).1]
      exact Or.inl hu
    · exact Or.inr ⟨hne, u, Option.mem_toList.mp hu, rfl⟩
  · rintro (hu | ⟨hne, u, hu, rfl⟩)
    · exact ⟨(registryUrls_stripped hu).2, url, List.mem_append_left _ hu, (registryUrls_stripped hu).1⟩
    · exact ⟨hne, u, List.mem_append_right _ (Option.mem_toList.mpr hu), rfl⟩

end Sources

/-! ## Interleavings -/

/-- A deletion between its reads and the guard: its argument, the source it found, the document it
read and, once it is read, the fence. -/
structure Deletion where
  sourceRef : Text
  url : Text
  read : StateRow
  expected : Option Fence

/-- A call that returned successfully. -/
inductive Done
  | saved (url : Text)
  | deleted (url : Text)
  deriving DecidableEq

def Done.url : Done → Text
  | .saved url => url
  | .deleted url => url

structure History where
  row : StateRow
  fence : Fence
  deletions : ℕ → Option Deletion
  done : List Done

/-- The atomic steps: a save, which is under the guard as a whole; the two reads of a deletion and its
part under the guard; and the other services, which may move the fence. -/
inductive Label
  | save (call : Save)
  | readState (id : ℕ) (sourceRef : Text) (recovered : Bool)
  | readFence (id : ℕ)
  | commit (id : ℕ) (checks : Checks)
  | moveFence (fence : Fence)

def step (h : History) : Label → History
  | .save c =>
      match saveSubscriptionUrl reprText c h.row with
      | some row => { h with row := row, done := h.done ++ [.saved (strip c.url)] }
      | none => h
  | .readState id sourceRef recovered =>
      let deletion := match beginDeletion reprText codec sourceRef recovered h.row with
        | .ok url => some ⟨sourceRef, url, h.row, none⟩
        | .error _ => none
      { h with deletions := Function.update h.deletions id deletion }
  | .readFence id =>
      let deletion := (h.deletions id).map fun d => { d with expected := some h.fence }
      { h with deletions := Function.update h.deletions id deletion }
  | .commit id checks =>
      match h.deletions id with
      | some ⟨sourceRef, url, read, some expected⟩ =>
          let h := { h with deletions := Function.update h.deletions id none }
          match commitDeletion reprText codec sourceRef read expected checks h.row h.fence with
          | .ok row =>
              { h with row := row, fence := checks.fenceAfter, done := h.done ++ [.deleted url] }
          | .error _ => h
      | _ => h
  | .moveFence fence => { h with fence := fence }

def start (row : StateRow) (fence : Fence) : History where
  row := row
  fence := fence
  deletions := fun _ => none
  done := []

/-- The last successful call on the address. -/
def lastOn (done : List Done) (url : Text) : Option Done := done.reverse.find? fun d => d.url = url

/-- The address was saved last, or was there and has not been touched. -/
def Wanted (initial : List Text) (done : List Done) (url : Text) : Prop :=
  lastOn done url = some (.saved url) ∨ lastOn done url = none ∧ url ∈ initial

lemma lastOn_snoc (done : List Done) (d : Done) (url : Text) :
    lastOn (done ++ [d]) url = if d.url = url then some d else lastOn done url := by
  rw [lastOn, List.reverse_append, List.reverse_singleton, List.singleton_append, List.find?_cons]
  by_cases h : d.url = url <;> simp [h, lastOn]

/-- The address that a label or a document brings in is one of the known ones. -/
def KnownLabel (addresses : Set Text) : Label → Prop
  | .save c => strip c.url ∈ addresses
  | _ => True

structure KnownRow (addresses : Set Text) (row : StateRow) : Prop where
  sources : ∀ item ∈ subscriptionSources reprText row.metadata, itemUrl reprText item ∈ addresses
  primary : ∀ url, row.url = some url → strip url ≠ [] → strip url ∈ addresses

/-- A deletion that passes its checks finds the other enabled sources as it read them, and was given
its reference without outer white space. -/
def Undisturbed (h : History) : Label → Prop
  | .commit id checks => ∀ sourceRef url read expected,
      h.deletions id = some ⟨sourceRef, url, read, some expected⟩ →
      deletionRefusal reprText codec sourceRef expected checks h.row h.fence = none →
      strip sourceRef = sourceRef ∧ ∀ u, u ≠ url →
        (u ∈ registryUrls reprText read.metadata ↔ u ∈ registryUrls reprText h.row.metadata)
  | _ => True

/-- No source is lost and none comes back. -/
structure Kept (initial : List Text) (h : History) : Prop where
  wanted : ∀ url, Wanted initial h.done url → url ∈ registryUrls reprText h.row.metadata
  gone : ∀ url, lastOn h.done url = some (.deleted url) → url ∉ registryUrls reprText h.row.metadata

/-- The reference of a deletion names the source that it found. -/
structure KnownDeletion (addresses : Set Text) (d : Deletion) : Prop where
  ref : sourceId codec d.url = strip d.sourceRef
  url : d.url ∈ addresses
  read : KnownRow reprText addresses d.read

/-- What holds of every state that is reached. -/
structure Inv (addresses : Set Text) (initial : List Text) (h : History) : Prop
    extends Kept reprText initial h where
  primary : ∀ url p, lastOn h.done url = some (.deleted url) → h.row.url = some p → strip p ≠ url
  known : KnownRow reprText addresses h.row
  deletions : ∀ id d, h.deletions id = some d → KnownDeletion reprText codec addresses d

section Interleavings

variable {reprText codec} {addresses : Set Text} {initial : List Text}

lemma start_inv {row : StateRow} {fence : Fence} (hrow : KnownRow reprText addresses row) :
    Inv reprText codec addresses (registryUrls reprText row.metadata) (start row fence) where
  wanted := by
    rintro url (hsaved | ⟨-, hurl⟩)
    · cases hsaved
    · exact hurl
  gone := by rintro url ⟨⟩
  primary := by rintro url p ⟨⟩
  known := hrow
  deletions := by rintro id d ⟨⟩

lemma KnownRow.registry {row : StateRow} (h : KnownRow reprText addresses row) {url : Text}
    (hurl : url ∈ registryUrls reprText row.metadata) : url ∈ addresses := by
  obtain ⟨item, hitem, rfl⟩ := List.mem_map.mp hurl
  exact h.sources item (List.mem_filter.mp hitem).1

lemma KnownRow.saved {row : StateRow} (h : KnownRow reprText addresses row) {url : Text}
    (hurl : url ∈ savedUrls reprText row) : url ∈ addresses := by
  rcases mem_savedUrls.mp hurl with hurl | ⟨hne, u, hu, rfl⟩
  · exact h.registry hurl
  · exact h.primary u hu hne

lemma save_inv {h : History} {c : Save} (hinv : Inv reprText codec addresses initial h)
    (hc : strip c.url ∈ addresses) :
    Inv reprText codec addresses initial (step reprText codec h (.save c)) := by
  rw [step]
  cases hsave : saveSubscriptionUrl reprText c h.row with
  | none => exact hinv
  | some row =>
      obtain ⟨hne, hprimary, hregistry, hsources⟩ := saveSubscriptionUrl_spec hsave
      have hlast := lastOn_snoc h.done (.saved (strip c.url))
      -- an address that was deleted last is not the new one, and was not to be found before
      have hgone : ∀ url, lastOn (h.done ++ [.saved (strip c.url)]) url = some (.deleted url) →
          strip c.url ≠ url ∧ url ∉ savedUrls reprText h.row := by
        intro url hdeleted
        rw [hlast, Done.url] at hdeleted
        split_ifs at hdeleted with hurl
        · cases hdeleted
        · refine ⟨hurl, ?_⟩
          rw [mem_savedUrls]
          rintro (hmem | ⟨-, p, hp, hsame⟩)
          · exact hinv.gone url hdeleted hmem
          · exact hinv.primary url p hdeleted hp hsame
      refine ⟨⟨?_, ?_⟩, ?_, ⟨?_, ?_⟩, hinv.deletions⟩
      · intro url hwanted
        change url ∈ registryUrls reprText row.metadata
        rw [hregistry, mem_normalizeUrls_save]
        by_cases hurl : strip c.url = url
        · exact ⟨hurl ▸ hne, Or.inl hurl.symm⟩
        · rw [Wanted, hlast, Done.url, if_neg hurl] at hwanted
          have hmem := hinv.wanted url hwanted
          exact ⟨(registryUrls_stripped hmem).2, Or.inr (mem_savedUrls.mpr (Or.inl hmem))⟩
      · intro url hdeleted
        change url ∉ registryUrls reprText row.metadata
        rw [hregistry, mem_normalizeUrls_save]
        rintro ⟨-, hurl | hmem⟩
        · exact (hgone url hdeleted).1 hurl.symm
        · exact (hgone url hdeleted).2 hmem
      · intro url p hdeleted hp
        have hp : row.url = some p := hp
        rw [hprimary] at hp
        rw [← Option.some.inj hp, strip_strip]
        exact (hgone url hdeleted).1
      · intro item hitem
        have hmem : itemUrl reprText item ∈ normalizeUrls (savedUrls reprText h.row ++ [strip c.url]) :=
          hsources ▸ List.mem_map_of_mem hitem
        rcases (mem_normalizeUrls_save.mp hmem).2 with hurl | hsaved
        · exact hurl ▸ hc
        · exact hinv.known.saved hsaved
      · intro url hurl _
        have hurl : row.url = some url := hurl
        rw [hprimary] at hurl
        rw [← Option.some.inj hurl, strip_strip]
        exact hc

/-- A source that a reference names is one of the document. -/
lemma matchedSource_some {row : StateRow} {ref url : Text} (hrow : KnownRow reprText addresses row)
    (h : matchedSource reprText codec row ref = some url) :
    sourceId codec url = ref ∧ url ∈ addresses := by
  rw [matchedSource] at h
  split at h
  · rename_i item hfound
    obtain rfl := Option.some.inj h
    have href := List.find?_some hfound
    exact ⟨of_decide_eq_true href, hrow.sources item (List.mem_of_find?_eq_some hfound)⟩
  · split_ifs at h with hprimary
    obtain rfl := Option.some.inj h
    refine ⟨hprimary.2, ?_⟩
    cases hurl : row.url with
    | none =>
        rw [hurl] at hprimary
        exact absurd rfl hprimary.1
    | some u =>
        rw [hurl] at hprimary
        exact hrow.primary u hurl hprimary.1

lemma update_deletions {h : History} {deletion : Option Deletion} {id : ℕ}
    (hinv : Inv reprText codec addresses initial h)
    (hnew : ∀ d, deletion = some d → KnownDeletion reprText codec addresses d) :
    ∀ id' d, Function.update h.deletions id deletion id' = some d →
      KnownDeletion reprText codec addresses d := by
  intro id' d hd
  by_cases hid : id' = id
  · rw [hid, Function.update_self] at hd
    exact hnew d hd
  · rw [Function.update_of_ne hid] at hd
    exact hinv.deletions id' d hd

lemma beginDeletion_ok {row : StateRow} {sourceRef url : Text} {recovered : Bool}
    (h : beginDeletion reprText codec sourceRef recovered row = .ok url) :
    matchedSource reprText codec row (strip sourceRef) = some url := by
  simp only [beginDeletion] at h
  split_ifs at h
  split at h
  · cases h
  · rename_i found hfound
    obtain rfl := Except.ok.inj h
    exact hfound

lemma readState_inv {h : History} {id : ℕ} {sourceRef : Text} {recovered : Bool}
    (hinv : Inv reprText codec addresses initial h) :
    Inv reprText codec addresses initial
      (step reprText codec h (.readState id sourceRef recovered)) := by
  refine ⟨⟨hinv.wanted, hinv.gone⟩, hinv.primary, hinv.known, update_deletions hinv ?_⟩
  intro d hd
  cases hbegin : beginDeletion reprText codec sourceRef recovered h.row with
  | error e =>
      rw [hbegin] at hd
      cases hd
  | ok url =>
      rw [hbegin] at hd
      obtain rfl := Option.some.inj hd
      obtain ⟨href, hmem⟩ := matchedSource_some hinv.known (beginDeletion_ok hbegin)
      exact ⟨href, hmem, hinv.known⟩

lemma readFence_inv {h : History} {id : ℕ} (hinv : Inv reprText codec addresses initial h) :
    Inv reprText codec addresses initial (step reprText codec h (.readFence id)) := by
  refine ⟨⟨hinv.wanted, hinv.gone⟩, hinv.primary, hinv.known, update_deletions hinv ?_⟩
  intro d hd
  obtain ⟨d₀, hd₀, rfl⟩ := Option.map_eq_some_iff.mp hd
  have hknown := hinv.deletions id d₀ hd₀
  exact ⟨hknown.ref, hknown.url, hknown.read⟩

/-- A deletion whose reads follow each other has read the document as it is. -/
lemma deletion_of_reads {h : History} {id : ℕ} {sourceRef : Text} {recovered : Bool} {d : Deletion}
    (hd : (step reprText codec (step reprText codec h (.readState id sourceRef recovered))
      (.readFence id)).deletions id = some d) : d.sourceRef = sourceRef ∧ d.read = h.row := by
  simp only [step, Function.update_self] at hd
  obtain ⟨d₀, hd₀, rfl⟩ := Option.map_eq_some_iff.mp hd
  split at hd₀
  · obtain rfl := Option.some.inj hd₀
    exact ⟨rfl, rfl⟩
  · cases hd₀

lemma withoutSource_known {row : StateRow} {sourceRef : Text} (h : KnownRow reprText addresses row) :
    KnownRow reprText addresses (withoutSource reprText codec sourceRef row) := by
  have hsources : ∀ item ∈ subscriptionSources reprText
      (withoutSource reprText codec sourceRef row).metadata, itemUrl reprText item ∈ addresses := by
    intro item hitem
    rw [subscriptionSources_withoutSource] at hitem
    exact h.sources item (List.mem_filter.mp hitem).1
  refine ⟨hsources, ?_⟩
  intro url hurl _
  have hmem := url_withoutSource hurl
  rw [(registryUrls_stripped hmem).1]
  obtain ⟨item, hitem, rfl⟩ := List.mem_map.mp hmem
  exact hsources item (List.mem_filter.mp hitem).1

variable (hdistinct : Set.InjOn codec.sha256Hex addresses)

include hdistinct in
lemma commit_inv {h : History} {id : ℕ} {checks : Checks}
    (hinv : Inv reprText codec addresses initial h)
    (hclean : Undisturbed reprText codec h (.commit id checks)) :
    Inv reprText codec addresses initial (step reprText codec h (.commit id checks)) := by
  rw [step]
  split
  · rename_i sourceRef url read expected hdeletion
    obtain ⟨href, hurl, hread⟩ := hinv.deletions id _ hdeletion
    have hended : ∀ id' d, Function.update h.deletions id none id' = some d →
        KnownDeletion reprText codec addresses d := update_deletions hinv (by rintro d ⟨⟩)
    simp only [commitDeletion]
    cases hrefusal : deletionRefusal reprText codec sourceRef expected checks h.row h.fence with
    | some e => exact ⟨⟨hinv.wanted, hinv.gone⟩, hinv.primary, hinv.known, hended⟩
    | none =>
        obtain ⟨hstrip, hothers⟩ := hclean sourceRef url read expected hdeletion hrefusal
        rw [hstrip] at href
        have hlast := lastOn_snoc h.done (.deleted url)
        have hregistry : ∀ u, u ∈ registryUrls reprText
            (withoutSource reprText codec sourceRef read).metadata ↔
              u ≠ url ∧ u ∈ registryUrls reprText h.row.metadata := by
          intro u
          rw [mem_registryUrls_withoutSource, ← href]
          constructor
          · rintro ⟨hmem, hne⟩
            have hu : u ≠ url := fun heq => hne (heq ▸ rfl)
            exact ⟨hu, (hothers u hu).mp hmem⟩
          · rintro ⟨hu, hmem⟩
            have hmem := (hothers u hu).mpr hmem
            refine ⟨hmem, ?_⟩
            intro hsame
            exact hu (hdistinct (hread.registry hmem) hurl (List.append_cancel_left hsame))
        have hgone : ∀ u, lastOn (h.done ++ [.deleted url]) u = some (.deleted u) →
            u ∉ registryUrls reprText (withoutSource reprText codec sourceRef read).metadata := by
          intro u hdeleted
          rw [hregistry]
          rintro ⟨hu, hmem⟩
          rw [hlast, Done.url, if_neg fun heq => hu heq.symm] at hdeleted
          exact hinv.gone u hdeleted hmem
        refine ⟨⟨?_, hgone⟩, ?_, withoutSource_known hread, hended⟩
        · intro u hwanted
          change u ∈ registryUrls reprText (withoutSource reprText codec sourceRef read).metadata
          rw [hregistry]
          by_cases hu : url = u
          · rw [Wanted, hlast, Done.url, if_pos hu] at hwanted
            rcases hwanted with hsaved | ⟨hnone, -⟩
            · cases hsaved
            · cases hnone
          · rw [Wanted, hlast, Done.url, if_neg hu] at hwanted
            exact ⟨fun heq => hu heq.symm, hinv.wanted u hwanted⟩
        · intro u p hdeleted hp hsame
          have hmem := url_withoutSource hp
          rw [(registryUrls_stripped hmem).1] at hsame
          exact hgone u hdeleted (hsame ▸ hmem)
  · exact hinv

include hdistinct in
/-- **One step.** -/
lemma step_inv {h : History} {label : Label} (hinv : Inv reprText codec addresses initial h)
    (hknown : KnownLabel addresses label) (hclean : Undisturbed reprText codec h label) :
    Inv reprText codec addresses initial (step reprText codec h label) := by
  cases label with
  | save c => exact save_inv hinv hknown
  | readState id sourceRef recovered => exact readState_inv hinv
  | readFence id => exact readFence_inv hinv
  | commit id checks => exact commit_inv hdistinct hinv hclean
  | moveFence fence =>
      exact ⟨⟨hinv.wanted, hinv.gone⟩, hinv.primary, hinv.known, hinv.deletions⟩

end Interleavings

/-- **No source is lost by concurrent edits** that leave the other sources of a deletion alone.  In
every interleaving of saves and deletions in which each deletion that passes its checks finds the other
enabled sources as it read them, and was given its reference without outer white space: the registry
has every address that was there or was saved and was not deleted since, and none whose last
successful call was its deletion. -/
theorem kept_of_undisturbed (reprText : Text → Text) (codec : Codec) {addresses : Set Text}
    (hdistinct : Set.InjOn codec.sha256Hex addresses) {row : StateRow}
    (hrow : KnownRow reprText addresses row) {fence : Fence} {labels : List Label}
    (hrun : Run.Along (step reprText codec)
      (fun h label => KnownLabel addresses label ∧ Undisturbed reprText codec h label)
      (start row fence) labels) :
    Kept reprText (registryUrls reprText row.metadata)
      (labels.foldl (step reprText codec) (start row fence)) := by
  have hinv : Inv reprText codec addresses (registryUrls reprText row.metadata)
      (labels.foldl (step reprText codec) (start row fence)) :=
    hrun.keeps (fun _ _ hinv hok => step_inv hdistinct hinv hok.1 hok.2) (start_inv hrow)
  exact hinv.toKept

/-! ### Two calls -/

/-- One saved source. -/
def exampleRow : StateRow where
  url := some addressA
  metadata := some [("subscriptions".toList, .dict [("items".toList, .list
    [.dict [("url".toList, .str addressA), ("enabled".toList, .bool true)]])])]

def exampleFence : Fence where
  revision := 7
  activeServerId := none
  decisionId := none
  poolSignature := []

def saveB : Save where
  url := addressB
  metadata := none
  now := []
  hostAccepted _ := true
  label _ := .none

def passingChecks : Checks where
  checkpointOk := true
  exclusiveSourceRef := none
  activeXrayOverrides := 0
  revisionConflict := false
  fenceAfter := exampleFence

/-- The deletion of the saved source, with a save of another one between its reads and the guard. -/
def deleteAroundSave : List Label :=
  [.readState 0 (sourceId exampleCodec addressA) true, .readFence 0, .save saveB,
    .commit 0 passingChecks]

/-- The save returned before the deletion. -/
def deleteAfterSave : List Label :=
  [.save saveB, .readState 0 (sourceId exampleCodec addressA) true, .readFence 0,
    .commit 0 passingChecks]

/-- Both calls return successfully, and the saved source is lost. -/
theorem saved_source_lost :
    let h := deleteAroundSave.foldl (step id exampleCodec) (start exampleRow exampleFence)
    h.done = [.saved addressB, .deleted addressA] ∧ lastOn h.done addressB = some (.saved addressB) ∧
    addressB ∉ registryUrls id h.row.metadata := by
  decide +kernel

/-- Here the deletion reads what the save left. -/
theorem kept_deleteAfterSave :
    Kept id [addressA] (deleteAfterSave.foldl (step id exampleCodec) (start exampleRow exampleFence)) := by
  have hdistinct : Set.InjOn exampleCodec.sha256Hex {addressA, addressB} := by
    intro url hurl url' hurl' hsame
    rcases hurl with rfl | rfl <;> rcases hurl' with rfl | rfl
    · rfl
    · exact absurd hsame (by decide)
    · exact absurd hsame (by decide)
    · rfl
  have hrow : KnownRow id {addressA, addressB} exampleRow := by
    refine ⟨?_, ?_⟩
    · have hurls : (subscriptionSources id exampleRow.metadata).map (itemUrl id) = [addressA] := by
        decide +kernel
      intro item hitem
      have hmem : itemUrl id item ∈ [addressA] := hurls ▸ List.mem_map_of_mem hitem
      exact Or.inl (List.mem_singleton.mp hmem)
    · intro url hurl _
      obtain rfl := Option.some.inj hurl
      exact Or.inl (by decide +kernel)
  have hsave : KnownLabel {addressA, addressB} (.save saveB) := Or.inr (by decide +kernel)
  have hrun : Run.Along (step id exampleCodec)
      (fun h label => KnownLabel {addressA, addressB} label ∧ Undisturbed id exampleCodec h label)
      (start exampleRow exampleFence) deleteAfterSave := by
    refine ⟨⟨hsave, trivial⟩, ⟨trivial, trivial⟩, ⟨trivial, trivial⟩, ⟨trivial, ?_⟩, trivial⟩
    intro sourceRef url read expected hdeletion _
    obtain ⟨href, hread⟩ := deletion_of_reads hdeletion
    have href : sourceRef = sourceId exampleCodec addressA := href
    have hread : read = (step id exampleCodec (start exampleRow exampleFence) (.save saveB)).row := hread
    refine ⟨?_, ?_⟩
    · rw [href]
      decide +kernel
    · intro u _
      rw [hread]
      rfl
  exact kept_of_undisturbed id exampleCodec hdistinct hrow hrun

end FwRouter.Subscription.Registry
