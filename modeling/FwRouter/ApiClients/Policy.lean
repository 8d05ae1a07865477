import FwRouter.Python.JsonDocument

/-!
# The policy of API clients

The document that `services/api_client_registry.py` keeps in a protected file: its shape, the checks
of `validate_policy`, and the bytes in which it is stored.  A dict is given with its fields in the
order of their keys, so that a document of the right shape is the image of a `Policy`.

`valid_origin` and the tables of the Unicode database are parameters.
-/

namespace FwRouter.ApiClients

open Py Py.Json

/-! ## Texts and bytes -/

/-- `text.encode("utf-8")`. -/
def encodeUtf8 (t : Text) : ByteArray := (t.flatMap String.utf8EncodeChar).toByteArray

lemma encodeUtf8_eq (t : Text) : encodeUtf8 t = t.utf8Encode := rfl

/-- `raw.decode("utf-8")`. -/
def decodeUtf8 (raw : ByteArray) : Option Text := raw.utf8Decode?.map (·.toList)

lemma decodeUtf8_encodeUtf8 (t : Text) : decodeUtf8 (encodeUtf8 t) = some t := by
  rw [decodeUtf8, encodeUtf8_eq, List.utf8Decode?_utf8Encode, Option.map_some, List.toList_toArray]

/-- `_json_bytes`. -/
def jsonBytes (document : Value) : ByteArray := encodeUtf8 (dumps compact document ++ ['\n'])

/-- `json.loads(raw.decode("utf-8"), object_pairs_hook=_strict_object)`. -/
def readJson (raw : ByteArray) : Option Value := (decodeUtf8 raw).bind loads

lemma readJson_jsonBytes {document : Value} (h : Plain document) :
    readJson (jsonBytes document) = some document := by
  rw [readJson, jsonBytes, decodeUtf8_encodeUtf8, Option.bind_some]
  refine loads_dumps h rfl ?_
  intro c hc
  obtain rfl := Option.some.inj hc
  decide

/-! ## Documents -/

structure Credential where
  credentialId : Text
  scopes : List Text
  status : Text
  tokenSha256 : Text

structure Client where
  clientId : Text
  credentials : List Credential
  displayTag : Text
  kind : Text
  status : Text

structure Policy where
  canonicalOrigin : Text
  clients : List Client
  policyRevision : ℤ

def Credential.toValue (c : Credential) : Value :=
  .dict [("credential_id".toList, .str c.credentialId),
    ("scopes".toList, .list (c.scopes.map .str)),
    ("status".toList, .str c.status),
    ("token_sha256".toList, .str c.tokenSha256)]

def Client.toValue (c : Client) : Value :=
  .dict [("client_id".toList, .str c.clientId),
    ("credentials".toList, .list (c.credentials.map Credential.toValue)),
    ("display_tag".toList, .str c.displayTag),
    ("kind".toList, .str c.kind),
    ("status".toList, .str c.status)]

def Policy.toValue (p : Policy) : Value :=
  .dict [("canonical_origin".toList, .str p.canonicalOrigin),
    ("clients".toList, .list (p.clients.map Client.toValue)),
    ("policy_revision".toList, .int p.policyRevision),
    ("schema_version".toList, .int 1)]

/-- `isinstance(credential, dict) and set(credential) == CREDENTIAL_KEYS`, and the types of the
fields. -/
def readCredential : Value → Option Credential
  | .dict [(k₁, .str credentialId), (k₂, .list scopes), (k₃, .str status), (k₄, .str tokenSha256)] =>
      if [k₁, k₂, k₃, k₄] =
          ["credential_id".toList, "scopes".toList, "status".toList, "token_sha256".toList] then
        (scopes.mapM Value.asText).map fun scopes => ⟨credentialId, scopes, status, tokenSha256⟩
      else none
  | _ => none

def readClient : Value → Option Client
  | .dict [(k₁, .str clientId), (k₂, .list credentials), (k₃, .str displayTag), (k₄, .str kind),
      (k₅, .str status)] =>
      if [k₁, k₂, k₃, k₄, k₅] = ["client_id".toList, "credentials".toList, "display_tag".toList,
          "kind".toList, "status".toList] then
        (credentials.mapM readCredential).map fun credentials =>
          ⟨clientId, credentials, displayTag, kind, status⟩
      else none
  | _ => none

def readPolicy : Value → Option Policy
  | .dict [(k₁, .str canonicalOrigin), (k₂, .list clients), (k₃, .int policyRevision),
      (k₄, .int schemaVersion)] =>
      if [k₁, k₂, k₃, k₄] = ["canonical_origin".toList, "clients".toList,
          "policy_revision".toList, "schema_version".toList] ∧ schemaVersion = 1 then
        (clients.mapM readClient).map fun clients => ⟨canonicalOrigin, clients, policyRevision⟩
      else none
  | _ => none

/-! ## `validate_policy` -/

/-- `valid_origin`, `unicodedata.normalize("NFC", ·)`, the categories `Cc`, `Cs` and `Cn`, and
`str.casefold`. -/
structure Tables where
  validOrigin : Text → Bool
  nfc : Text → Text
  forbidden : Char → Bool
  casefold : Text → Text

def maxRegistryBytes : ℕ := 128 * 1024
def maxClients : ℕ := 128
def maxCredentials : ℕ := 128

def bidiControls : List ℕ :=
  [0x061c, 0x200e, 0x200f, 0x202a, 0x202b, 0x202c, 0x202d, 0x202e, 0x2066, 0x2067, 0x2068, 0x2069]

/-- `^[0-9a-f]{n}$`. -/
def isLowerHex (n : ℕ) (t : Text) : Bool :=
  decide (t.length = n) && t.all fun c => c.isDigit || (decide ('a' ≤ c) && decide (c ≤ 'f'))

/-- `TOKEN_RE`. -/
def tokenRe (t : Text) : Bool := isLowerHex 64 t

/-- `ID_RE`. -/
def idRe (t : Text) : Bool := isLowerHex 32 t

section Validate

variable (tables : Tables)

/-- `_tag`. -/
def tag (value : Text) : Option Text :=
  let normalized := tables.nfc value
  if 1 ≤ normalized.length ∧ normalized.length ≤ 64 ∧
      normalized.all (fun c => !tables.forbidden c && decide (c.toNat ∉ bidiControls)) then
    some normalized
  else none

/-- `all_ids`, `digests` and `integration_tags`. -/
structure Seen where
  allIds : List Text
  digests : List Text
  integrationTags : List Text

def checkCredential (seen : Seen) (c : Credential) : Option Seen :=
  if idRe c.credentialId ∧ c.credentialId ∉ seen.allIds ∧
      c.status ∈ ["active".toList, "revoked".toList] ∧ tokenRe c.tokenSha256 ∧
      (∀ scope ∈ c.scopes, scope ∈ ["ui.client-list.write".toList, "events.read".toList]) ∧
      c.scopes.Nodup ∧ c.tokenSha256 ∉ seen.digests then
    some { seen with
      allIds := c.credentialId :: seen.allIds
      digests := c.tokenSha256 :: seen.digests }
  else none

def checkClient (seen : Seen) (c : Client) : Option Seen :=
  if idRe c.clientId ∧ c.clientId ∉ seen.allIds ∧
      c.kind ∈ ["web_ui".toList, "cli".toList, "integration".toList] ∧
      c.status ∈ ["active".toList, "revoked".toList] ∧ c.credentials.length ≤ maxCredentials ∧
      (c.credentials.filter fun credential => decide (credential.status = "active".toList)).length ≤ 2
  then do
    let seen := { seen with allIds := c.clientId :: seen.allIds }
    let normalized ← tag tables c.displayTag
    let folded := tables.casefold normalized
    let seen ←
      if c.kind = "integration".toList ∧ c.status = "active".toList then
        if folded ∈ seen.integrationTags then none
        else some { seen with integrationTags := folded :: seen.integrationTags }
      else some seen
    c.credentials.foldlM checkCredential seen
  else none

/-- `validate_policy`.  The length of a client's text does not depend on the order of its fields; an
integer with too many digits has no text. -/
def validatePolicy (document : Value) : Option Policy :=
  (readPolicy document).bind fun p =>
    if 1 ≤ p.policyRevision ∧ tables.validOrigin p.canonicalOrigin ∧ p.clients.length ≤ maxClients ∧
        (p.clients.foldlM (checkClient tables) ⟨[], [], []⟩).isSome ∧
        (dec p.policyRevision.natAbs).length ≤ maxStrDigits ∧
        (p.clients.map fun c => (encodeUtf8 (dumps spaced c.toValue)).size).sum ≤ maxRegistryBytes ∧
        (encodeUtf8 (dumps compact document)).size ≤ maxRegistryBytes then
      some p
    else none

/-- `_decode_policy`. -/
def decodePolicy (raw : ByteArray) : Option Policy := (readJson raw).bind (validatePolicy tables)

end Validate

/-! ## Reading back -/

lemma eq_of_mapM {α β : Type} {f : α → Option β} {g : β → α}
    (h : ∀ a b, f a = some b → a = g b) {as : List α} {bs : List β} (hmap : as.mapM f = some bs) :
    as = bs.map g := by
  rw [← List.forall₂_eq_eq_eq, List.forall₂_map_right_iff]
  exact (Run.mapM_eq_some.mp hmap).imp h

lemma toValue_of_readCredential {v : Value} {c : Credential} (h : readCredential v = some c) :
    v = c.toValue := by
  unfold readCredential at h
  split at h
  · split_ifs at h with hkeys
    rcases Option.map_eq_some_iff.mp h with ⟨scopes, hscopes, rfl⟩
    have hlist : _ = scopes.map Value.str := eq_of_mapM (g := Value.str) (fun a b hab => by
      cases a <;> simp_all [Value.asText]) hscopes
    simp only [List.cons.injEq, and_true] at hkeys
    rcases hkeys with ⟨rfl, rfl, rfl, rfl⟩
    rw [hlist, Credential.toValue]
  · exact absurd h (by simp)

lemma toValue_of_readClient {v : Value} {c : Client} (h : readClient v = some c) :
    v = c.toValue := by
  unfold readClient at h
  split at h
  · split_ifs at h with hkeys
    rcases Option.map_eq_some_iff.mp h with ⟨credentials, hcredentials, rfl⟩
    have hlist := eq_of_mapM (fun _ _ => toValue_of_readCredential) hcredentials
    simp only [List.cons.injEq, and_true] at hkeys
    rcases hkeys with ⟨rfl, rfl, rfl, rfl, rfl⟩
    rw [hlist, Client.toValue]
  · exact absurd h (by simp)

lemma toValue_of_readPolicy {v : Value} {p : Policy} (h : readPolicy v = some p) :
    v = p.toValue := by
  unfold readPolicy at h
  split at h
  · split_ifs at h with hkeys
    rcases Option.map_eq_some_iff.mp h with ⟨clients, hclients, rfl⟩
    have hlist := eq_of_mapM (fun _ _ => toValue_of_readClient) hclients
    simp only [List.cons.injEq, and_true] at hkeys
    rcases hkeys with ⟨⟨rfl, rfl, rfl, rfl⟩, rfl⟩
    rw [hlist, Policy.toValue]
  · exact absurd h (by simp)

lemma plainItems_of_forall {values : List Value} (h : ∀ v ∈ values, Plain v) :
    PlainItems values := by
  induction values with
  | nil => unfold PlainItems; trivial
  | cons v values ih =>
      unfold PlainItems
      exact ⟨h v List.mem_cons_self, ih fun w hw => h w (List.mem_cons_of_mem v hw)⟩

lemma plain_credential (c : Credential) : Plain c.toValue := by
  have hscopes : PlainItems (c.scopes.map Value.str) := plainItems_of_forall fun v hv => by
    rcases List.mem_map.mp hv with ⟨scope, -, rfl⟩
    unfold Plain
    trivial
  simp only [Credential.toValue, Plain, PlainFields, hscopes, and_true, List.map_cons, List.map_nil]
  decide +kernel

lemma plain_client (c : Client) : Plain c.toValue := by
  have hcredentials : PlainItems (c.credentials.map Credential.toValue) :=
    plainItems_of_forall fun v hv => by
      rcases List.mem_map.mp hv with ⟨credential, -, rfl⟩
      exact plain_credential credential
  simp only [Client.toValue, Plain, PlainFields, hcredentials, and_true, List.map_cons, List.map_nil]
  decide +kernel

lemma plain_policy {p : Policy} (h : (dec p.policyRevision.natAbs).length ≤ maxStrDigits) :
    Plain p.toValue := by
  have hclients : PlainItems (p.clients.map Client.toValue) := plainItems_of_forall fun v hv => by
    rcases List.mem_map.mp hv with ⟨client, -, rfl⟩
    exact plain_client client
  have hschema : (dec (1 : ℤ).natAbs).length ≤ maxStrDigits := by decide +kernel
  simp only [Policy.toValue, Plain, PlainFields, hclients, h, hschema, and_true, List.map_cons, List.map_nil]
  decide +kernel

/-- What `validate_policy` guarantees of the document. -/
lemma validatePolicy_spec {tables : Tables} {document : Value} {p : Policy}
    (h : validatePolicy tables document = some p) :
    document = p.toValue ∧ Plain document ∧ 1 ≤ p.policyRevision := by
  unfold validatePolicy at h
  rcases Option.bind_eq_some_iff.mp h with ⟨q, hq, h⟩
  split_ifs at h with hvalid
  obtain rfl := Option.some.inj h
  obtain rfl := toValue_of_readPolicy hq
  exact ⟨rfl, plain_policy hvalid.2.2.2.2.1, hvalid.1⟩

/-- **A document that `validate_policy` accepts is read back from its bytes.** -/
theorem decodePolicy_jsonBytes {tables : Tables} {document : Value} {p : Policy}
    (h : validatePolicy tables document = some p) :
    decodePolicy tables (jsonBytes document) = some p := by
  rw [decodePolicy, readJson_jsonBytes (validatePolicy_spec h).2.1, Option.bind_some, h]

lemma one_le_of_decodePolicy {tables : Tables} {raw : ByteArray} {p : Policy}
    (h : decodePolicy tables raw = some p) : 1 ≤ p.policyRevision := by
  rcases Option.bind_eq_some_iff.mp h with ⟨document, -, h⟩
  exact (validatePolicy_spec h).2.2

lemma size_jsonBytes (document : Value) :
    (jsonBytes document).size = (encodeUtf8 (dumps compact document)).size + 1 := by
  rw [jsonBytes, encodeUtf8_eq, encodeUtf8_eq, List.utf8Encode_append, ByteArray.size_append]
  rfl

end FwRouter.ApiClients
