import FwRouter.Library.Run
import FwRouter.Library.SqlTable
import FwRouter.Python.Value

/-!
# The subscription inventory

`_upsert_subscription_servers` of `services/subscription.py` stores what a refresh fetched.  It
upserts the servers, then for each fetched source the memberships of its listing, deactivates the
source's other memberships, sweeps the servers that no active membership names, and re-activates the
servers it was given.

The statements come first, with what each leaves at a key; then a call, which is one transaction;
then the histories of calls from an empty inventory, over which the active memberships of a source
are its last listing and the active servers are the union of these.
-/

namespace FwRouter.Subscription.Inventory

open Py SqlTable

/-! ## Tables -/

/-- `servers.inventory_state`. -/
inductive InventoryState
  | active
  | missing
  | deleted
  deriving DecidableEq

structure ServerRow where
  serverName : Text
  providerName : Option Text
  countryCode : Option Text
  region : Option Text
  rawJson : Option Text
  inventoryState : InventoryState
  missingSince : Option ℤ

structure Membership where
  sourceUrl : Text
  entryIdentityHash : Text
  parserFormat : Option Text
  displayName : Text
  isActive : Bool

/-- `servers`, `subscription_server_memberships` by source id and server id, and the keys of
`server_custom_https_proxy`. -/
structure Tables where
  servers : Table Text ServerRow
  memberships : Table (Text × Text) Membership
  customProxies : List Text

/-- The provider name of the servers of the subscriptions. -/
def subscriptionProvider : Text := "subscription".toList

/-- The digest and the JSON text of the standard library: `hashlib.sha256(text).hexdigest()`, the
`_json_dumps` of a dict, and `_json_loads`, `none` for a text that it rejects. -/
structure Codec where
  sha256Hex : Text → Text
  dumps : Dict → Text
  loads : Text → Option Value

/-- A server as the adapter parsed it.  The entry hash is the answer of `_entry_identity_hash` for
the object. -/
structure ParsedServer where
  serverId : Text
  serverName : Text
  providerName : Option Text
  countryCode : Option Text
  region : Option Text
  raw : Dict
  entryIdentityHash : Text
  parserFormat : Option Text

inductive Raised
  | refused
  | foreignKey
  | tooManyVariables
  deriving DecidableEq

/-- The arguments of a call.  `admitted` is the answer of the checkpoint gate, the validations of the
provider handoffs and the two snapshot fences, which read other tables. -/
structure Call where
  servers : List ParsedServer
  serversByUrl : List (Text × List ParsedServer)
  urls_nodup : (serversByUrl.map Prod.fst).Nodup
  admitted : Bool
  now : ℤ

def Call.urls (c : Call) : List Text := c.serversByUrl.map Prod.fst

/-- `seen_ids`. -/
def Call.seenIds (c : Call) : List Text := (c.servers.map ParsedServer.serverId).dedup

structure Upserted where
  seenCount : ℕ
  activeCount : ℕ
  missingCount : ℕ
  removedMembershipCount : ℕ
  legacyMembershipDeactivatedCount : ℕ
  deriving DecidableEq

/-! ## Source addresses -/

/-- The white space and control characters that `urlsplit` strips at the start. -/
def isC0OrSpace (c : Char) : Bool := c.toNat ≤ 32

def isUnsafeUrlByte (c : Char) : Bool := c = '\t' || c = '\r' || c = '\n'

def isSchemeChar (c : Char) : Bool := c.isAlphanum || c = '+' || c = '-' || c = '.'

/-- `urlparse(url).scheme`. -/
def urlScheme (url : Text) : Text :=
  let cleaned := (url.dropWhile isC0OrSpace).filter fun c => !isUnsafeUrlByte c
  let scheme := cleaned.takeWhile fun c => c ≠ ':'
  if scheme.length < cleaned.length ∧ scheme.head?.any Char.isAlpha ∧ scheme.all isSchemeChar then
    scheme.map Char.toLower
  else []

/-- `ALLOWED_SCHEMES`, which `validate_subscription_url` asks of every address that is fetched. -/
def allowedSchemes : List Text := ["http".toList, "https".toList]

/-- `source_url LIKE 'legacy:%'`. -/
def likeLegacy (url : Text) : Bool := (url.take 7).map Char.toLower = "legacy:".toList

lemma alpha_kept {c : Char} (h : c.isAlpha = true) :
    isC0OrSpace c = false ∧ isUnsafeUrlByte c = false ∧ c ≠ ':' := by
  have hcode : 32 < c.toNat := by
    simp only [Char.isAlpha, Char.isUpper, Char.isLower, Bool.or_eq_true, Bool.and_eq_true,
      decide_eq_true_eq, ge_iff_le, UInt32.le_iff_toNat_le] at h
    rcases h with ⟨h, -⟩ | ⟨h, -⟩
    · exact lt_of_lt_of_le (by decide) h
    · exact lt_of_lt_of_le (by decide) h
  refine ⟨by simpa [isC0OrSpace] using hcode, ?_, ?_⟩
  · rw [isUnsafeUrlByte]
    simp only [Bool.or_eq_false_iff, decide_eq_false_iff_not]
    refine ⟨⟨?_, ?_⟩, ?_⟩ <;> rintro rfl <;> exact absurd hcode (by decide)
  · rintro rfl
    exact absurd h (by decide)

/-- The letters in front of the first colon are the scheme. -/
lemma urlScheme_of_alpha {letters rest : Text} (hne : letters ≠ [])
    (h : ∀ c ∈ letters, c.isAlpha = true) :
    urlScheme (letters ++ ':' :: rest) = letters.map Char.toLower := by
  obtain ⟨first, others, rfl⟩ := List.exists_cons_of_ne_nil hne
  have hfirst := h first List.mem_cons_self
  have hdrop : (first :: others ++ ':' :: rest).dropWhile isC0OrSpace =
      first :: others ++ ':' :: rest := by
    rw [List.cons_append, List.dropWhile_cons_of_neg (by simp [(alpha_kept hfirst).1])]
  have hfilter : (first :: others).filter (fun c => !isUnsafeUrlByte c) = first :: others := by
    rw [List.filter_eq_self]
    intro c hc
    simp [(alpha_kept (h c hc)).2.1]
  have hcolon : (':' :: rest).filter (fun c => !isUnsafeUrlByte c) =
      ':' :: rest.filter fun c => !isUnsafeUrlByte c := List.filter_cons_of_pos (by decide)
  have htake : (first :: others ++ ':' :: rest.filter fun c => !isUnsafeUrlByte c).takeWhile
      (fun c => c ≠ ':') = first :: others := by
    rw [List.takeWhile_append_of_pos]
    · simp
    · intro c hc
      simpa using (alpha_kept (h c hc)).2.2
  have hscheme : (first :: others).all isSchemeChar = true := by
    rw [List.all_eq_true]
    intro c hc
    simp [isSchemeChar, Char.isAlphanum, h c hc]
  simp only [urlScheme]
  rw [hdrop, List.filter_append, hfilter, hcolon, htake, if_pos]
  exact ⟨by simp, by simpa using hfirst, hscheme⟩

/-- A fetched address is not one of the addresses that stand for memberships without a source. -/
lemma not_likeLegacy {url : Text} (h : urlScheme url ∈ allowedSchemes) : likeLegacy url = false := by
  rw [← Bool.not_eq_true]
  intro hlegacy
  rw [likeLegacy, decide_eq_true_eq] at hlegacy
  obtain ⟨letters, colon, htake, hletters, hcolon⟩ :=
    List.map_eq_append_iff.mp (hlegacy.trans (show _ = "legacy".toList ++ ":".toList from rfl))
  have halpha : ∀ c ∈ letters, c.isAlpha = true := by
    intro c hc
    have hmem : c.toLower ∈ "legacy".toList := hletters ▸ List.mem_map_of_mem hc
    rw [← Char.isAlpha_toLower_eq_isAlpha]
    have hall : "legacy".toList.all Char.isAlpha = true := rfl
    exact List.all_eq_true.mp hall c.toLower hmem
  obtain ⟨c, rfl⟩ : ∃ c, colon = [c] := by
    have hlength := congrArg List.length hcolon
    rw [List.length_map] at hlength
    exact List.length_eq_one_iff.mp hlength
  have hc : c = ':' := by
    have hlow : c.toLower = ':' := (List.cons.inj hcolon).1
    have hupper : ¬c.isUpper = true := by
      intro hup
      have : c.toLower.isAlpha = true := by
        rw [Char.isAlpha_toLower_eq_isAlpha, Char.isAlpha, hup, Bool.true_or]
      rw [hlow] at this
      exact absurd this (by decide)
    rwa [Char.toLower_eq_of_not_isUpper hupper] at hlow
  have hurl : url = letters ++ ':' :: url.drop 7 := by
    conv_lhs => rw [← List.take_append_drop 7 url, htake, hc]
    simp
  have hne : letters ≠ [] := by
    rintro rfl
    exact absurd hletters (by decide)
  rw [hurl, urlScheme_of_alpha hne halpha, hletters] at h
  exact absurd h (by decide)

/-! ## Statements -/

section Statements

variable (codec : Codec) (variableLimit : ℕ)

/-- `_source_id`. -/
def sourceId (url : Text) : Text := "src:".toList ++ codec.sha256Hex url

/-- A statement with a placeholder for each id, and some more, raises if these are more than SQLite
binds.  Without ids the source executes a statement without placeholders for them, or none. -/
def bindIds (ids : List Text) (more : ℕ) : Except Raised Unit :=
  if ids ≠ [] ∧ variableLimit < ids.length + more then .error .tooManyVariables else .ok ()

/-- `prior_raw.get("_fwrouter_identity_migration_required") is True`. -/
def migrationRequired (row : ServerRow) : Bool :=
  match row.rawJson.bind codec.loads with
  | some prior => (prior.dictOr.get "_fwrouter_identity_migration_required").isTrue
  | none => false

/-- The definition that is stored: a pending identity migration is carried over. -/
def storedRaw (prior : Option ServerRow) (server : ParsedServer) : Dict :=
  if prior.any (migrationRequired codec) then
    server.raw.set "_fwrouter_identity_migration_required" (.bool true)
  else server.raw

def upsertServer (t : Tables) (server : ParsedServer) : Tables :=
  let raw := storedRaw codec (t.servers.get server.serverId) server
  let row : ServerRow :=
    { serverName := server.serverName, providerName := server.providerName
      countryCode := server.countryCode, region := server.region, rawJson := some (codec.dumps raw)
      inventoryState := .active, missingSince := none }
  { t with servers := t.servers.upsert server.serverId row fun _ => row }

def upsertMembership (url : Text) (t : Tables) (server : ParsedServer) : Except Raised Tables :=
  if (t.servers.get server.serverId).isNone then .error .foreignKey
  else
    let row : Membership :=
      { sourceUrl := url, entryIdentityHash := server.entryIdentityHash
        parserFormat := server.parserFormat, displayName := server.serverName, isActive := true }
    .ok { t with
      memberships := t.memberships.upsert (sourceId codec url, server.serverId) row fun _ => row }

/-- `UPDATE subscription_server_memberships SET is_active = 0 WHERE p AND is_active = 1`, with the
number of rows. -/
def deactivate (p : Text × Text → Membership → Bool) (t : Tables) : Tables × ℕ :=
  let matched key m := p key m && m.isActive
  let set key m := if matched key m then { m with isActive := false } else m
  ({ t with memberships := t.memberships.update set }, t.memberships.count matched)

/-- The memberships of a source that its listing does not name.  For an empty listing the source has
a statement without `NOT IN`, which is all of them. -/
def unlisted (url : Text) (listing : List ParsedServer) (key : Text × Text) (_ : Membership) : Bool :=
  key.1 = sourceId codec url && !(listing.map ParsedServer.serverId).contains key.2

/-- One round of the loop over `source_map`. -/
def applySource (acc : Tables × ℕ) (entry : Text × List ParsedServer) :
    Except Raised (Tables × ℕ) := do
  let t ← entry.2.foldlM (upsertMembership codec entry.1) acc.1
  bindIds variableLimit (entry.2.map ParsedServer.serverId).dedup 1
  let (t, removed) := deactivate (unlisted codec entry.1 entry.2) t
  return (t, acc.2 + removed)

/-- `UPDATE servers SET inventory_state = 'missing' WHERE …`, of the active subscription servers that
are not `kept` and not custom. -/
def sweepMissing (now : ℤ) (kept : Text → Bool) (t : Tables) : Tables :=
  let set serverId (row : ServerRow) :=
    if row.providerName.getD [] = subscriptionProvider ∧ row.inventoryState = .active ∧
        kept serverId = false ∧ serverId ∉ t.customProxies then
      { row with inventoryState := .missing, missingSince := row.missingSince.or (some now) }
    else row
  { t with servers := t.servers.update set }

/-- The server has an active membership. -/
def hasActiveMembership (t : Tables) (serverId : Text) : Bool :=
  t.memberships.exists? fun key m => key.2 = serverId && m.isActive

/-- The last pass: the servers of the call are active. -/
def reactivate (seenIds : List Text) (t : Tables) : Tables :=
  let set serverId (row : ServerRow) :=
    if serverId ∈ seenIds then { row with inventoryState := .active, missingSince := none } else row
  { t with servers := t.servers.update set }

/-- `_upsert_subscription_servers`. -/
def upsertSubscriptionServers (c : Call) (t : Tables) : Except Raised (Upserted × Tables) := do
  if c.admitted = false then
    throw .refused
  let t := c.servers.foldl (upsertServer codec) t
  let (t, removed, legacy) ←
    if c.serversByUrl = [] then do
      -- without a fetched source the servers of the call are the whole inventory
      bindIds variableLimit c.seenIds 0
      pure (sweepMissing c.now (c.seenIds.contains ·) t, 0, 0)
    else do
      let (t, removed) ← c.serversByUrl.foldlM (applySource codec variableLimit) (t, 0)
      let (t, legacy) := deactivate (fun _ m => likeLegacy m.sourceUrl) t
      let t := sweepMissing c.now (hasActiveMembership t) t
      bindIds variableLimit c.seenIds 0
      pure (reactivate c.seenIds t, removed, legacy)
  return ({ seenCount := c.seenIds.length
            activeCount := t.servers.count fun _ row => row.inventoryState = .active
            missingCount := t.servers.count fun _ row => row.inventoryState = .missing
            removedMembershipCount := removed
            legacyMembershipDeactivatedCount := legacy }, t)

end Statements

/-! ## What the statements leave -/

/-- The source has an active membership for the server. -/
def Tables.Listed (t : Tables) (source serverId : Text) : Prop :=
  ∃ m, t.memberships.get (source, serverId) = some m ∧ m.isActive = true

/-- The server is active in the inventory. -/
def Tables.Active (t : Tables) (serverId : Text) : Prop :=
  ∃ row, t.servers.get serverId = some row ∧ row.inventoryState = .active

/-- A server of the subscriptions, which is not custom. -/
def Tables.Plain (t : Tables) : Prop :=
  ∀ serverId row, t.servers.get serverId = some row →
    row.providerName = some subscriptionProvider ∧ serverId ∉ t.customProxies

section Specs

variable {codec : Codec} {variableLimit : ℕ} {t t' : Tables}

@[simp] lemma upsertServers_memberships (servers : List ParsedServer) (t : Tables) :
    (servers.foldl (upsertServer codec) t).memberships = t.memberships := by
  induction servers generalizing t with
  | nil => rfl
  | cons server servers ih => exact ih (upsertServer codec t server)

lemma upsertServers_get_of_not_mem {servers : List ParsedServer} {serverId : Text}
    (h : serverId ∉ servers.map ParsedServer.serverId) (t : Tables) :
    (servers.foldl (upsertServer codec) t).servers.get serverId = t.servers.get serverId := by
  induction servers generalizing t with
  | nil => rfl
  | cons server servers ih =>
      rw [List.map_cons, List.mem_cons, not_or] at h
      rw [List.foldl_cons, ih h.2, upsertServer]
      exact Table.get_upsert_of_ne h.1 _ _ _

lemma upsertServers_get_of_mem {servers : List ParsedServer} {serverId : Text}
    (h : serverId ∈ servers.map ParsedServer.serverId) (t : Tables) :
    ∃ row, (servers.foldl (upsertServer codec) t).servers.get serverId = some row := by
  induction servers using List.reverseRecOn with
  | nil => simp at h
  | append_singleton servers server ih =>
      rw [List.foldl_append, List.foldl_cons, List.foldl_nil, upsertServer, Table.get_upsert]
      by_cases hid : serverId = server.serverId
      · exact ⟨_, if_pos hid⟩
      · rw [if_neg hid]
        rw [List.map_append, List.mem_append] at h
        rcases h with h | h
        · exact ih h
        · exact absurd (List.mem_singleton.mp h) hid

lemma upsertServers_plain {servers : List ParsedServer}
    (hprovider : ∀ s ∈ servers, s.providerName = some subscriptionProvider)
    (hcustom : ∀ s ∈ servers, s.serverId ∉ t.customProxies) (ht : t.Plain) :
    (servers.foldl (upsertServer codec) t).Plain := by
  induction servers generalizing t with
  | nil => exact ht
  | cons server servers ih =>
      have hserver : server ∈ server :: servers := List.mem_cons_self
      refine ih (fun s hs => hprovider s (List.mem_cons_of_mem _ hs))
        (fun s hs => hcustom s (List.mem_cons_of_mem _ hs)) ?_
      intro serverId row hget
      rw [upsertServer, Table.get_upsert] at hget
      split_ifs at hget with hid
      · have hrow : row.providerName = server.providerName := by
          cases hprior : t.servers.get server.serverId with
          | none => rw [hprior] at hget; exact congrArg _ (Option.some.inj hget).symm
          | some _ => rw [hprior] at hget; exact congrArg _ (Option.some.inj hget).symm
        exact ⟨hrow.trans (hprovider server hserver), hid ▸ hcustom server hserver⟩
      · exact ht serverId row hget

/-! ### Memberships -/

/-- What a pass over the memberships may do: the servers stay. -/
structure SameServers (t t' : Tables) : Prop where
  servers : t'.servers = t.servers
  customProxies : t'.customProxies = t.customProxies

lemma SameServers.trans {t₀ t₁ t₂ : Tables} (h : SameServers t₀ t₁) (h' : SameServers t₁ t₂) :
    SameServers t₀ t₂ :=
  ⟨h'.servers.trans h.servers, h'.customProxies.trans h.customProxies⟩

lemma upsertMembership_cases {url : Text} {server : ParsedServer}
    (h : upsertMembership codec url t server = .ok t') :
    SameServers t t' ∧ ∃ row : Membership, row.sourceUrl = url ∧ row.isActive = true ∧
      t'.memberships =
        t.memberships.upsert (sourceId codec url, server.serverId) row fun _ => row := by
  rw [upsertMembership] at h
  split_ifs at h
  obtain rfl := Except.ok.inj h
  exact ⟨⟨rfl, rfl⟩, _, rfl, rfl, rfl⟩

/-- Every row belongs to one of the sources, under its address. -/
def Tables.Sourced (codec : Codec) (sources : Set Text) (t : Tables) : Prop :=
  ∀ source serverId m, t.memberships.get (source, serverId) = some m →
    m.sourceUrl ∈ sources ∧ source = sourceId codec m.sourceUrl

lemma elim_const {α β : Type} (o : Option α) (b : β) : o.elim b (fun _ => b) = b := by
  cases o <;> rfl

lemma upsertMembership_get {url : Text} {server : ParsedServer} {row : Membership}
    (h : t'.memberships =
      t.memberships.upsert (sourceId codec url, server.serverId) row fun _ => row)
    (key : Text × Text) :
    t'.memberships.get key =
      if key = (sourceId codec url, server.serverId) then some row
      else t.memberships.get key := by
  rw [h, Table.get_upsert, elim_const]

lemma foldlM_upsertMembership {url : Text} {listing : List ParsedServer}
    (h : listing.foldlM (upsertMembership codec url) t = .ok t') :
    SameServers t t' ∧
    (∀ sources, url ∈ sources → t.Sourced codec sources → t'.Sourced codec sources) ∧
    ∀ source serverId, t'.Listed source serverId ↔
      t.Listed source serverId ∨
        source = sourceId codec url ∧ serverId ∈ listing.map ParsedServer.serverId := by
  induction listing generalizing t with
  | nil =>
      obtain rfl := Except.ok.inj h
      exact ⟨⟨rfl, rfl⟩, fun _ _ hs => hs, by simp⟩
  | cons server listing ih =>
      obtain ⟨t₁, hfirst, hrest⟩ := Run.exists_of_bind_eq_ok h
      obtain ⟨hsame, row, hurl, hactive, hrows⟩ := upsertMembership_cases hfirst
      obtain ⟨hsame', hsourced, hlisted⟩ := ih hrest
      refine ⟨hsame.trans hsame', ?_, ?_⟩
      · intro sources hmem hs
        refine hsourced sources hmem ?_
        intro source serverId m hget
        rw [upsertMembership_get hrows] at hget
        split_ifs at hget with hkey
        · obtain rfl := Option.some.inj hget
          rw [hurl]
          exact ⟨hmem, (Prod.mk.inj hkey).1⟩
        · exact hs source serverId m hget
      · intro source serverId
        rw [hlisted, List.map_cons, List.mem_cons, Tables.Listed, upsertMembership_get hrows]
        by_cases hkey : (source, serverId) = (sourceId codec url, server.serverId)
        · obtain ⟨rfl, rfl⟩ := Prod.mk.inj hkey
          simp [hactive]
        · rw [if_neg hkey]
          rw [Prod.mk.injEq] at hkey
          constructor
          · rintro (hold | ⟨hsource, hlist⟩)
            · exact Or.inl hold
            · exact Or.inr ⟨hsource, Or.inr hlist⟩
          · rintro (hold | ⟨hsource, rfl | hlist⟩)
            · exact Or.inl hold
            · exact absurd ⟨hsource, rfl⟩ hkey
            · exact Or.inr ⟨hsource, hlist⟩

lemma deactivate_same (p : Text × Text → Membership → Bool) (t : Tables) :
    SameServers t (deactivate p t).1 := ⟨rfl, rfl⟩

lemma deactivate_get (p : Text × Text → Membership → Bool) (t : Tables) (key : Text × Text) :
    (deactivate p t).1.memberships.get key =
      (t.memberships.get key).map fun m =>
        if p key m && m.isActive then { m with isActive := false } else m := by
  rw [deactivate]
  exact Table.get_update _ _ _

lemma deactivate_sourced {p : Text × Text → Membership → Bool} {sources : Set Text}
    (h : t.Sourced codec sources) : (deactivate p t).1.Sourced codec sources := by
  intro source serverId m hget
  rw [deactivate_get] at hget
  obtain ⟨m₀, hm₀, rfl⟩ := Option.map_eq_some_iff.mp hget
  have hurl := h source serverId m₀ hm₀
  split_ifs <;> exact hurl

/-- A deactivation takes away what it matches. -/
lemma deactivate_listed {p : Text × Text → Membership → Bool} {source serverId : Text} :
    (deactivate p t).1.Listed source serverId ↔
      ∃ m, t.memberships.get (source, serverId) = some m ∧ m.isActive = true ∧
        p (source, serverId) m = false := by
  rw [Tables.Listed, deactivate_get]
  cases t.memberships.get (source, serverId) with
  | none => simp
  | some m => cases hactive : m.isActive <;> cases hp : p (source, serverId) m <;> simp [hactive, hp]

/-- **One source.**  Its active memberships are its listing, those of the other sources stay. -/
lemma applySource_spec {acc acc' : Tables × ℕ} {entry : Text × List ParsedServer}
    (h : applySource codec variableLimit acc entry = .ok acc') :
    SameServers acc.1 acc'.1 ∧
    (∀ sources, entry.1 ∈ sources → acc.1.Sourced codec sources →
      acc'.1.Sourced codec sources) ∧
    ∀ source serverId, acc'.1.Listed source serverId ↔
      if source = sourceId codec entry.1 then serverId ∈ entry.2.map ParsedServer.serverId
      else acc.1.Listed source serverId := by
  obtain ⟨t₁, hlisting, hrest⟩ := Run.exists_of_bind_eq_ok h
  obtain ⟨-, -, hrest⟩ := Run.exists_of_bind_eq_ok hrest
  have hacc : acc'.1 = (deactivate (unlisted codec entry.1 entry.2) t₁).1 :=
    (congrArg Prod.fst (Except.ok.inj hrest)).symm
  obtain ⟨hsame, hsourced, hlisted⟩ := foldlM_upsertMembership hlisting
  rw [hacc]
  refine ⟨hsame.trans (deactivate_same _ t₁), ?_, ?_⟩
  · intro sources hmem hs
    exact deactivate_sourced (hsourced sources hmem hs)
  · intro source serverId
    have hkept : (deactivate (unlisted codec entry.1 entry.2) t₁).1.Listed source serverId ↔
        t₁.Listed source serverId ∧ (source = sourceId codec entry.1 →
          serverId ∈ entry.2.map ParsedServer.serverId) := by
      rw [deactivate_listed, Tables.Listed]
      simp only [unlisted, Bool.and_eq_false_imp, decide_eq_true_eq, Bool.not_eq_false',
        List.contains_iff_mem, ← exists_and_right, and_assoc]
    rw [hkept, hlisted]
    split_ifs with hsource
    · simp only [hsource, true_and, forall_const]
      exact ⟨fun hboth => hboth.2, fun hmem => ⟨Or.inr hmem, hmem⟩⟩
    · simp [hsource]

/-- **All sources of a call.**  The active memberships of a source of the call are its listing, those
of the others stay. -/
lemma applySources_spec {sources : Set Text} (hdistinct : Set.InjOn codec.sha256Hex sources)
    {entries : List (Text × List ParsedServer)} {acc acc' : Tables × ℕ}
    (hnodup : (entries.map Prod.fst).Nodup) (hsources : ∀ e ∈ entries, e.1 ∈ sources)
    (h : entries.foldlM (applySource codec variableLimit) acc = .ok acc') :
    SameServers acc.1 acc'.1 ∧
    (acc.1.Sourced codec sources → acc'.1.Sourced codec sources) ∧
    ∀ url ∈ sources, ∀ serverId, acc'.1.Listed (sourceId codec url) serverId ↔
      match entries.lookup url with
      | some listing => serverId ∈ listing.map ParsedServer.serverId
      | none => acc.1.Listed (sourceId codec url) serverId := by
  induction entries generalizing acc with
  | nil =>
      obtain rfl := Except.ok.inj h
      exact ⟨⟨rfl, rfl⟩, id, fun _ _ _ => Iff.rfl⟩
  | cons entry entries ih =>
      obtain ⟨acc₁, hfirst, hrest⟩ := Run.exists_of_bind_eq_ok h
      obtain ⟨hnew, hnodup⟩ := List.nodup_cons.mp hnodup
      have hmem : entry.1 ∈ sources := hsources entry List.mem_cons_self
      obtain ⟨hsame, hsourced, hlisted⟩ := applySource_spec hfirst
      obtain ⟨hsame', hsourced', hlisted'⟩ :=
        ih hnodup (fun e he => hsources e (List.mem_cons_of_mem _ he)) hrest
      refine ⟨hsame.trans hsame', fun hs => hsourced' (hsourced sources hmem hs), ?_⟩
      intro url hurl serverId
      obtain ⟨first, listing⟩ := entry
      rw [hlisted' url hurl, KeyedTable.lookup_cons_if]
      by_cases hfirsturl : url = first
      · subst hfirsturl
        have hnone : entries.lookup url = none := by
          rw [List.lookup_eq_none_iff]
          intro e he
          have hne : ¬url = e.1 := fun heq => hnew (List.mem_map.mpr ⟨e, he, heq.symm⟩)
          simpa using hne
        rw [hnone, if_pos rfl]
        simpa using hlisted (sourceId codec url) serverId
      · have hid : ¬sourceId codec url = sourceId codec first := by
          intro heq
          exact hfirsturl (hdistinct hurl hmem (List.append_cancel_left heq))
        rw [if_neg hfirsturl]
        cases entries.lookup url with
        | some _ => exact Iff.rfl
        | none =>
            have := hlisted (sourceId codec url) serverId
            rwa [if_neg hid] at this

/-! ### Calls that return -/

/-- The memberships of a listing can be stored if its servers are. -/
lemma upsertMembership_returns {url : Text} {server : ParsedServer}
    (h : ∃ row, t.servers.get server.serverId = some row) :
    ∃ t', upsertMembership codec url t server = .ok t' ∧ t'.servers = t.servers := by
  obtain ⟨row, hrow⟩ := h
  rw [upsertMembership, hrow]
  exact ⟨_, rfl, rfl⟩

lemma bindIds_eq_ok {ids : List Text} {more : ℕ} (h : ids.length + more ≤ variableLimit) :
    bindIds variableLimit ids more = .ok () := by
  rw [bindIds, if_neg]
  rintro ⟨-, hlimit⟩
  omega

lemma applySource_returns {acc : Tables × ℕ} {entry : Text × List ParsedServer}
    (hrows : ∀ s ∈ entry.2, ∃ row, acc.1.servers.get s.serverId = some row)
    (hlimit : (entry.2.map ParsedServer.serverId).dedup.length + 1 ≤ variableLimit) :
    ∃ acc', applySource codec variableLimit acc entry = .ok acc' ∧
      acc'.1.servers = acc.1.servers := by
  have hround : ∀ s ∈ entry.2, ∀ t : Tables, t.servers = acc.1.servers →
      ∃ t', upsertMembership codec entry.1 t s = .ok t' ∧ t'.servers = acc.1.servers := by
    intro s hs t ht
    obtain ⟨t', hround, hservers⟩ := upsertMembership_returns (ht ▸ hrows s hs)
    exact ⟨t', hround, hservers.trans ht⟩
  obtain ⟨t₁, hlisting, hsame⟩ := Run.foldlM_eq_ok (I := fun t : Tables => t.servers = acc.1.servers) rfl hround
  refine ⟨(deactivate (unlisted codec entry.1 entry.2) t₁).map id (acc.2 + ·), ?_, hsame⟩
  rw [applySource, hlisting]
  change bindIds variableLimit _ 1 >>= _ = _
  rw [bindIds_eq_ok hlimit]
  rfl

/-! ### Servers -/

/-- The server has an active membership with some source. -/
lemma hasActiveMembership_iff {serverId : Text} :
    hasActiveMembership t serverId = true ↔ ∃ source, t.Listed source serverId := by
  rw [hasActiveMembership, Table.exists?_iff]
  constructor
  · rintro ⟨⟨source, listed⟩, m, hget, hp⟩
    rw [Bool.and_eq_true, decide_eq_true_eq] at hp
    obtain ⟨rfl, hactive⟩ := hp
    exact ⟨source, m, hget, hactive⟩
  · rintro ⟨source, m, hget, hactive⟩
    exact ⟨(source, serverId), m, hget, by simp [hactive]⟩

/-- The sweep keeps the servers that it is told to keep, and no other of the subscriptions. -/
lemma sweepMissing_active {now : ℤ} {kept : Text → Bool} (ht : t.Plain) {serverId : Text} :
    (sweepMissing now kept t).Active serverId ↔ t.Active serverId ∧ kept serverId = true := by
  simp only [Tables.Active, sweepMissing, Table.get_update]
  cases hget : t.servers.get serverId with
  | none => simp
  | some row =>
      obtain ⟨hprovider, hcustom⟩ := ht serverId row hget
      simp only [Option.map_some, Option.some.injEq, exists_eq_left', hprovider, Option.getD_some,
        hcustom, not_false_eq_true, and_true, true_and]
      split_ifs with hswept
      · simp [hswept.2]
      · rw [not_and, Bool.not_eq_false] at hswept
        exact ⟨fun hactive => ⟨hactive, hswept hactive⟩, fun h => h.1⟩

lemma sweepMissing_row {now : ℤ} {kept : Text → Bool} {serverId : Text} :
    (∃ row, (sweepMissing now kept t).servers.get serverId = some row) ↔
      ∃ row, t.servers.get serverId = some row := by
  simp only [sweepMissing, Table.get_update]
  cases t.servers.get serverId <;> simp

lemma sweepMissing_plain {now : ℤ} {kept : Text → Bool} (ht : t.Plain) :
    (sweepMissing now kept t).Plain := by
  intro serverId row hget
  simp only [sweepMissing, Table.get_update] at hget
  obtain ⟨row₀, hrow₀, rfl⟩ := Option.map_eq_some_iff.mp hget
  have hplain := ht serverId row₀ hrow₀
  split_ifs <;> exact hplain

lemma reactivate_plain {seenIds : List Text} (ht : t.Plain) : (reactivate seenIds t).Plain := by
  intro serverId row hget
  simp only [reactivate, Table.get_update] at hget
  obtain ⟨row₀, hrow₀, rfl⟩ := Option.map_eq_some_iff.mp hget
  have hplain := ht serverId row₀ hrow₀
  split_ifs <;> exact hplain

lemma reactivate_active {seenIds : List Text} {serverId : Text} :
    (reactivate seenIds t).Active serverId ↔
      if serverId ∈ seenIds then ∃ row, t.servers.get serverId = some row
      else t.Active serverId := by
  simp only [Tables.Active, reactivate, Table.get_update]
  cases t.servers.get serverId with
  | none => simp
  | some row => split_ifs <;> simp

end Specs

/-! ## Histories -/

/-- The server ids that the call fetched from the source. -/
def Call.listing (c : Call) (url : Text) : Option (List Text) :=
  (c.serversByUrl.lookup url).map (List.map ParsedServer.serverId)

/-- The tables with the last listing of every source: that of the last call that fetched it and
returned. -/
structure History where
  tables : Tables
  last : Text → List Text

/-- The last listing after a call that returned. -/
def relisted (h : History) (c : Call) (url : Text) : List Text := (c.listing url).getD (h.last url)

/-- A call that raises is rolled back, and fetched nothing. -/
def step (codec : Codec) (variableLimit : ℕ) (h : History) (c : Call) : History :=
  match upsertSubscriptionServers codec variableLimit c h.tables with
  | .ok (_, tables) => { tables := tables, last := relisted h c }
  | .error _ => h

/-- No server is known; some ids are those of custom proxies. -/
def start (customProxies : List Text) : History where
  tables := { servers := Table.empty, memberships := Table.empty, customProxies := customProxies }
  last := fun _ => []

/-- What a refresh passes: the listings of the sources it fetched, whose addresses were validated, and
as servers the union of these with servers of the last listings of other sources. -/
structure Fetched (sources : Set Text) (h : History) (c : Call) : Prop where
  nonempty : c.serversByUrl ≠ []
  sources : ∀ url ∈ c.urls, url ∈ sources
  listed : ∀ url ids, c.listing url = some ids → ∀ serverId ∈ ids, serverId ∈ c.seenIds
  known : ∀ serverId ∈ c.seenIds, (∃ url ids, c.listing url = some ids ∧ serverId ∈ ids) ∨
    ∃ url, c.listing url = none ∧ serverId ∈ h.last url
  provider : ∀ s ∈ c.servers, s.providerName = some subscriptionProvider
  plain : ∀ s ∈ c.servers, s.serverId ∉ h.tables.customProxies

/-- **The inventory is the union of the last listings.** -/
structure Settled (codec : Codec) (sources : Set Text) (h : History) : Prop where
  memberships : ∀ url ∈ sources, ∀ serverId,
    h.tables.Listed (sourceId codec url) serverId ↔ serverId ∈ h.last url
  servers : ∀ serverId, h.tables.Active serverId ↔ ∃ url ∈ sources, serverId ∈ h.last url

/-- What the calls keep besides. -/
structure Consistent (codec : Codec) (sources : Set Text) (h : History) : Prop
    extends Settled codec sources h where
  sourced : h.tables.Sourced codec sources
  rows : h.tables.Plain
  unknown : ∀ url, url ∉ sources → h.last url = []

section Histories

variable {codec : Codec} {variableLimit : ℕ} {sources : Set Text}

lemma start_consistent (customProxies : List Text) :
    Consistent codec sources (start customProxies) where
  memberships := by
    intro url _ serverId
    simp [Tables.Listed, start]
  servers := by
    intro serverId
    simp [Tables.Active, start]
  sourced := by
    intro source serverId m hget
    simp [start] at hget
  rows := by
    intro serverId row hget
    simp [start] at hget
  unknown := fun _ _ => rfl

variable (hdistinct : Set.InjOn codec.sha256Hex sources)
  (hvalid : ∀ url ∈ sources, urlScheme url ∈ allowedSchemes)

include hvalid in
lemma legacy_listed {t : Tables} (ht : t.Sourced codec sources) {source serverId : Text} :
    (deactivate (fun _ m => likeLegacy m.sourceUrl) t).1.Listed source serverId ↔
      t.Listed source serverId := by
  rw [deactivate_listed, Tables.Listed]
  constructor
  · rintro ⟨m, hget, hactive, -⟩
    exact ⟨m, hget, hactive⟩
  · rintro ⟨m, hget, hactive⟩
    exact ⟨m, hget, hactive, not_likeLegacy (hvalid _ (ht source serverId m hget).1)⟩

/-- The tables after the pass over the sources and the legacy pass. -/
def withMemberships (t₁ : Tables) : Tables := (deactivate (fun _ m => likeLegacy m.sourceUrl) t₁).1

/-- What a call with fetched sources does, in its order. -/
lemma upsertSubscriptionServers_cases {c : Call} {t t' : Tables} {summary : Upserted}
    (hne : c.serversByUrl ≠ [])
    (h : upsertSubscriptionServers codec variableLimit c t = .ok (summary, t')) :
    ∃ t₁ removed,
      c.serversByUrl.foldlM (applySource codec variableLimit)
        (c.servers.foldl (upsertServer codec) t, 0) = .ok (t₁, removed) ∧
      t' = reactivate c.seenIds
        (sweepMissing c.now (hasActiveMembership (withMemberships t₁)) (withMemberships t₁)) := by
  rw [upsertSubscriptionServers] at h
  cases hadmitted : c.admitted with
  | false => simp only [hadmitted, if_true] at h; cases h
  | true =>
      simp only [hadmitted, Bool.true_eq_false, if_false, if_neg hne] at h
      obtain ⟨⟨t₁, removed⟩, hsources, hrest⟩ := Run.exists_of_bind_eq_ok h
      obtain ⟨-, -, hrest⟩ := Run.exists_of_bind_eq_ok hrest
      exact ⟨t₁, removed, hsources, (Prod.mk.inj (Except.ok.inj hrest)).2.symm⟩

lemma mem_seenIds {c : Call} {serverId : Text} :
    serverId ∈ c.seenIds ↔ serverId ∈ c.servers.map ParsedServer.serverId := List.mem_dedup

lemma relisted_of_none {h : History} {c : Call} {url : Text} (hnone : c.listing url = none) :
    relisted h c url = h.last url := by
  rw [relisted, hnone]
  rfl

lemma Fetched.relisted {h : History} {c : Call} (hc : Fetched sources h c) {serverId : Text}
    (hseen : serverId ∈ c.seenIds) : ∃ url, serverId ∈ relisted h c url := by
  rcases hc.known serverId hseen with ⟨url, ids, hids, hmem⟩ | ⟨url, hnone, hmem⟩
  · refine ⟨url, ?_⟩
    rw [Inventory.relisted, hids]
    exact hmem
  · exact ⟨url, by rwa [relisted_of_none hnone]⟩

/-- A listing of the call would have the server among those of the call. -/
lemma Fetched.last_of_not_seen {h : History} {c : Call} (hc : Fetched sources h c) {url serverId : Text}
    (hmem : serverId ∈ Inventory.relisted h c url) (hseen : serverId ∉ c.seenIds) :
    serverId ∈ h.last url := by
  cases hlisting : c.listing url with
  | none => rwa [relisted_of_none hlisting] at hmem
  | some ids =>
      rw [Inventory.relisted, hlisting] at hmem
      exact absurd (hc.listed url ids hlisting serverId hmem) hseen

include hdistinct hvalid in
/-- **One call that returns.** -/
lemma upserted_consistent {h : History} {c : Call} {summary : Upserted} {t' : Tables}
    (hinv : Consistent codec sources h) (hc : Fetched sources h c)
    (hcall : upsertSubscriptionServers codec variableLimit c h.tables = .ok (summary, t')) :
    Consistent codec sources ⟨t', relisted h c⟩ := by
  obtain ⟨t₁, removed, hsources, rfl⟩ := upsertSubscriptionServers_cases hc.nonempty hcall
  have hurls : ∀ e ∈ c.serversByUrl, e.1 ∈ sources :=
    fun e he => hc.sources e.1 (List.mem_map_of_mem he)
  obtain ⟨hsame, hsourced, hlisted⟩ := applySources_spec hdistinct c.urls_nodup hurls hsources
  have ht₁ : t₁.Sourced codec sources := by
    refine hsourced ?_
    intro source serverId m hget
    rw [upsertServers_memberships] at hget
    exact hinv.sourced source serverId m hget
  have ht₂ : (withMemberships t₁).Plain := by
    have hplain : (c.servers.foldl (upsertServer codec) h.tables).Plain :=
      upsertServers_plain hc.provider hc.plain hinv.rows
    intro serverId row hget
    rw [show (withMemberships t₁).customProxies = t₁.customProxies from rfl, hsame.customProxies]
    rw [show (withMemberships t₁).servers = t₁.servers from rfl, hsame.servers] at hget
    exact hplain serverId row hget
  -- the active memberships are those of the listings, and of the sources that were not fetched
  have hmemberships : ∀ url ∈ sources, ∀ serverId,
      (withMemberships t₁).Listed (sourceId codec url) serverId ↔ serverId ∈ relisted h c url := by
    intro url hurl serverId
    rw [withMemberships, legacy_listed hvalid ht₁, hlisted url hurl, relisted, Call.listing]
    cases c.serversByUrl.lookup url with
    | some listing => exact Iff.rfl
    | none =>
        rw [Tables.Listed, upsertServers_memberships]
        exact hinv.memberships url hurl serverId
  have hunknown : ∀ url, url ∉ sources → relisted h c url = [] := by
    intro url hurl
    have hnone : c.listing url = none := by
      rw [Call.listing, Option.map_eq_none_iff, List.lookup_eq_none_iff]
      intro e he
      have hne : ¬url = e.1 := fun heq => hurl (heq ▸ hurls e he)
      simpa using hne
    rw [relisted_of_none hnone, hinv.unknown url hurl]
  have hkept : ∀ serverId, hasActiveMembership (withMemberships t₁) serverId = true ↔
      ∃ url ∈ sources, serverId ∈ relisted h c url := by
    intro serverId
    rw [hasActiveMembership_iff]
    constructor
    · rintro ⟨source, hlist⟩
      obtain ⟨m, hget, -⟩ := id hlist
      obtain ⟨hurl, rfl⟩ := deactivate_sourced ht₁ source serverId m hget
      exact ⟨m.sourceUrl, hurl, (hmemberships _ hurl serverId).mp hlist⟩
    · rintro ⟨url, hurl, hmem⟩
      exact ⟨_, (hmemberships url hurl serverId).mpr hmem⟩
  refine ⟨⟨hmemberships, ?_⟩, deactivate_sourced ht₁, reactivate_plain (sweepMissing_plain ht₂), hunknown⟩
  intro serverId
  change _ ↔ ∃ url ∈ sources, serverId ∈ relisted h c url
  have hrows : (withMemberships t₁).servers = (c.servers.foldl (upsertServer codec) h.tables).servers :=
    hsame.servers
  rw [reactivate_active, sweepMissing_active ht₂, hkept, sweepMissing_row, Tables.Active, hrows]
  split_ifs with hseen
  · refine iff_of_true (upsertServers_get_of_mem (mem_seenIds.mp hseen) h.tables) ?_
    obtain ⟨url, hmem⟩ := hc.relisted hseen
    refine ⟨url, ?_, hmem⟩
    by_contra hurl
    rw [hunknown url hurl] at hmem
    exact List.not_mem_nil hmem
  · rw [upsertServers_get_of_not_mem (fun hmem => hseen (mem_seenIds.mpr hmem))]
    constructor
    · exact fun hboth => hboth.2
    · rintro ⟨url, hurl, hmem⟩
      have hlast : serverId ∈ h.last url := hc.last_of_not_seen hmem hseen
      exact ⟨(hinv.servers serverId).mpr ⟨url, hurl, hlast⟩, url, hurl, hmem⟩

lemma listing_of_mem {c : Call} {entry : Text × List ParsedServer} (h : entry ∈ c.serversByUrl) :
    c.listing entry.1 = some (entry.2.map ParsedServer.serverId) := by
  rw [Call.listing, (KeyedTable.mem_iff_lookup c.urls_nodup).mp h]
  rfl

/-- **A refresh that is admitted returns**, unless it has more servers than SQLite binds. -/
lemma upsertSubscriptionServers_returns {h : History} {c : Call} (hc : Fetched sources h c)
    (hadmitted : c.admitted = true) (hlimit : c.seenIds.length < variableLimit) :
    ∃ summary t', upsertSubscriptionServers codec variableLimit c h.tables = .ok (summary, t') := by
  have hround : ∀ entry ∈ c.serversByUrl, ∀ acc : Tables × ℕ,
      acc.1.servers = (c.servers.foldl (upsertServer codec) h.tables).servers →
      ∃ acc', applySource codec variableLimit acc entry = .ok acc' ∧
        acc'.1.servers = (c.servers.foldl (upsertServer codec) h.tables).servers := by
    intro entry hentry acc hacc
    have hseen : ∀ serverId ∈ entry.2.map ParsedServer.serverId, serverId ∈ c.seenIds :=
      hc.listed entry.1 _ (listing_of_mem hentry)
    have hrows : ∀ s ∈ entry.2, ∃ row, acc.1.servers.get s.serverId = some row := by
      intro s hs
      rw [hacc]
      exact upsertServers_get_of_mem (mem_seenIds.mp (hseen _ (List.mem_map_of_mem hs))) h.tables
    have hlength : (entry.2.map ParsedServer.serverId).dedup.length ≤ c.seenIds.length := by
      refine ((List.nodup_dedup _).subperm ?_).length_le
      intro serverId hmem
      exact hseen serverId (List.mem_dedup.mp hmem)
    have hbound : (entry.2.map ParsedServer.serverId).dedup.length + 1 ≤ variableLimit := by omega
    obtain ⟨acc', hdone, hservers⟩ := applySource_returns hrows hbound
    exact ⟨acc', hdone, hservers.trans hacc⟩
  obtain ⟨⟨t₁, removed⟩, hsources, -⟩ :=
    Run.foldlM_eq_ok (I := fun acc : Tables × ℕ =>
      acc.1.servers = (c.servers.foldl (upsertServer codec) h.tables).servers)
      (s := (c.servers.foldl (upsertServer codec) h.tables, 0)) rfl hround
  rw [upsertSubscriptionServers]
  simp only [hadmitted, Bool.true_eq_false, if_false, if_neg hc.nonempty, hsources]
  change ∃ summary t', (bindIds variableLimit c.seenIds 0 >>= _) = .ok (summary, t')
  rw [bindIds_eq_ok (by omega)]
  exact ⟨_, _, rfl⟩

include hdistinct hvalid in
/-- **One call.** -/
lemma step_consistent {h : History} {c : Call} (hinv : Consistent codec sources h)
    (hc : Fetched sources h c) : Consistent codec sources (step codec variableLimit h c) := by
  rw [step]
  cases hcall : upsertSubscriptionServers codec variableLimit c h.tables with
  | error e => exact hinv
  | ok done => exact upserted_consistent hdistinct hvalid hinv hc hcall

include hdistinct hvalid in
lemma run_consistent {customProxies : List Text} {calls : List Call}
    (hrun : Run.Along (step codec variableLimit) (Fetched sources) (start customProxies) calls) :
    Consistent codec sources (calls.foldl (step codec variableLimit) (start customProxies)) :=
  hrun.keeps (fun _ _ hinv hc => step_consistent hdistinct hvalid hinv hc)
    (start_consistent customProxies)

end Histories

/-- A call keeps the last listing of a source that it does not fetch. -/
lemma step_last_of_none (codec : Codec) (variableLimit : ℕ) {h : History} {c : Call}
    {url : Text} (hnone : c.listing url = none) :
    (step codec variableLimit h c).last url = h.last url := by
  rw [step]
  split
  · exact relisted_of_none hnone
  · rfl

def exampleServer (serverId : String) : ParsedServer where
  serverId := serverId.toList
  serverName := serverId.toList
  providerName := some subscriptionProvider
  countryCode := none
  region := none
  raw := []
  entryIdentityHash := []
  parserFormat := none

def addressA : Text := "https://a.example/s".toList

def addressB : Text := "https://b.example/s".toList

/-- The digests of the two addresses, and the text of an empty definition. -/
def exampleCodec : Codec where
  sha256Hex url :=
    if url = addressA then
      "75c0bc9ad9c1b21c9988f06faa90864d0f706a16d56817e6e6ca8906ebfd9cf2".toList
    else if url = addressB then
      "889e865a3e399c09910a5725038d964cdf1c51c1f4c4f6b4d2580c407f09557b".toList
    else []
  dumps _ := ['\x7b', '\x7d']
  loads _ := some (.dict [])

/-- Both sources are fetched and list the server. -/
def fetchBoth : Call where
  servers := [exampleServer "s1"]
  serversByUrl := [(addressA, [exampleServer "s1"]), (addressB, [exampleServer "s1"])]
  urls_nodup := by decide
  admitted := true
  now := 1

/-- The second source is fetched alone and lists nothing. -/
def fetchEmpty : Call where
  servers := []
  serversByUrl := [(addressB, [])]
  urls_nodup := by decide
  admitted := true
  now := 2

lemma entry_of_listing {c : Call} {url : Text} {ids : List Text} (h : c.listing url = some ids) :
    ∃ e ∈ c.serversByUrl, e.1 = url ∧ e.2.map ParsedServer.serverId = ids := by
  obtain ⟨listing, hlookup, rfl⟩ := Option.map_eq_some_iff.mp h
  exact ⟨(url, listing), (KeyedTable.mem_iff_lookup c.urls_nodup).mpr hlookup, rfl, rfl⟩

/-- A refresh whose servers are those of its listings. -/
lemma fetched_of_entries {sources : Set Text} {h : History} {c : Call} (hne : c.serversByUrl ≠ [])
    (hsources : ∀ url ∈ c.urls, url ∈ sources)
    (hlisted : ∀ e ∈ c.serversByUrl, ∀ s ∈ e.2, s.serverId ∈ c.seenIds)
    (hknown : ∀ serverId ∈ c.seenIds, ∃ e ∈ c.serversByUrl, ∃ s ∈ e.2, s.serverId = serverId)
    (hprovider : ∀ s ∈ c.servers, s.providerName = some subscriptionProvider)
    (hplain : ∀ s ∈ c.servers, s.serverId ∉ h.tables.customProxies) : Fetched sources h c where
  nonempty := hne
  sources := hsources
  listed := by
    intro url ids hids serverId hmem
    obtain ⟨e, he, -, rfl⟩ := entry_of_listing hids
    obtain ⟨s, hs, rfl⟩ := List.mem_map.mp hmem
    exact hlisted e he s hs
  known := by
    intro serverId hseen
    obtain ⟨e, he, s, hs, rfl⟩ := hknown serverId hseen
    exact Or.inl ⟨e.1, _, listing_of_mem he, List.mem_map_of_mem hs⟩
  provider := hprovider
  plain := hplain

lemma fetchBoth_fetched : Fetched {addressA, addressB} (start []) fetchBoth :=
  fetched_of_entries (by decide) (by simp [Call.urls, fetchBoth]) (by decide) (by decide) (by decide)
    (by simp [start])

lemma fetchEmpty_fetched :
    Fetched {addressA, addressB} (step exampleCodec 32766 (start []) fetchBoth) fetchEmpty :=
  fetched_of_entries (by decide) (by simp [Call.urls, fetchEmpty]) (by decide) (by decide) (by decide)
    (by simp [fetchEmpty])

end FwRouter.Subscription.Inventory
