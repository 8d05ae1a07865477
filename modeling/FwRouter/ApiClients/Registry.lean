import FwRouter.ApiClients.Policy
import FwRouter.Library.Interruptible
import FwRouter.Python.Base64

/-!
# Publication of the policy

`publish_target` writes its intent to a file of its own, publishes the prepared bytes and removes the
intent; `recover_pending` finishes a publication that was cut off.  All of it runs under the exclusive
policy lock, so that calls come one after the other.  A program is given by its file operations: the
write of a temporary file, `link`, `unlink` and `rename`, each atomic and durable.

The names of temporary files are fresh.  Owner and mode of the files are the expected ones; what is
kept of a file is its bytes, and whether the link under which it was written still stands beside it.
Reads under the lock see one file throughout.
-/

namespace FwRouter.ApiClients

open Py Py.Json Py.Base64 Interruptible

/-! ## Files -/

structure HostFile where
  bytes : ByteArray
  /-- The temporary name of the file still stands. -/
  linked : Bool

structure Files where
  registry : Option HostFile
  selector : Option HostFile
  pending : Option HostFile
  /-- The temporary files, the last one first. -/
  temporary : List ByteArray

/-- What the calls find on the host and do not change: the tables, the digest and the cutover
fence. -/
structure Host where
  tables : Tables
  sha256 : ByteArray → Text
  fence : Option HostFile

def maxPendingBytes : ℕ := (maxRegistryBytes + 2) / 3 * 4 + 2048

/-- `_read_fixed`; the outer `none` is an exception, the inner one an absent file. -/
def readFixed (maximum : ℕ) : Option HostFile → Option (Option ByteArray)
  | none => some none
  | some file =>
      if file.linked ∨ file.bytes.size < 1 ∨ maximum < file.bytes.size then none
      else some (some file.bytes)

/-- `_read_fixed` of a file that is required. -/
def readRequired (maximum : ℕ) (file : Option HostFile) : Option ByteArray :=
  (readFixed maximum file).bind id

section Host

variable (host : Host)

/-- `load_policy`. -/
def loadPolicy (files : Files) : Option Policy :=
  (readRequired maxRegistryBytes files.registry).bind (decodePolicy host.tables)

/-- `_fence_state`: the digest that the fence holds, if there is one. -/
def fenceState : Option (Option Text) :=
  match readFixed 256 host.fence with
  | none => none
  | some none => some none
  | some (some raw) =>
      match readJson raw with
      | some (.dict [(k₁, .str prepared), (k₂, .bool true), (k₃, .int 1)]) =>
          if [k₁, k₂, k₃] =
              ["prepared_sha256".toList, "registry_required".toList, "schema_version".toList] ∧
              tokenRe prepared then
            some (some prepared)
          else none
      | _ => none

/-! ## The intent -/

inductive Target
  | registry
  | registryOrigin
  | selector
  deriving DecidableEq

def Target.text : Target → Text
  | .registry => "registry".toList
  | .registryOrigin => "registry_origin".toList
  | .selector => "selector".toList

def Target.ofText (t : Text) : Option Target :=
  if t = "registry".toList then some .registry
  else if t = "registry_origin".toList then some .registryOrigin
  else if t = "selector".toList then some .selector
  else none

structure Intent where
  target : Target
  previousSha256 : Option Text
  preparedSha256 : Text
  prepared : ByteArray
  policyRevision : ℤ

def optionalText : Option Text → Value
  | none => .none
  | some t => .str t

def Intent.toValue (i : Intent) : Value :=
  .dict [("policy_revision".toList, .int i.policyRevision),
    ("prepared_b64".toList, .str (b64encode i.prepared.data.toList)),
    ("prepared_sha256".toList, .str i.preparedSha256),
    ("previous_sha256".toList, optionalText i.previousSha256),
    ("schema_version".toList, .int 1),
    ("target".toList, .str i.target.text)]

/-- A digest or `None`. -/
def readDigest : Value → Option (Option Text)
  | .none => some none
  | .str digest => if tokenRe digest then some (some digest) else none
  | _ => none

/-- `b64decode` with the check that encoding gives the text back. -/
def readPrepared (text : Text) : Option ByteArray :=
  (b64decode text).bind fun bytes =>
    if b64encode bytes = text then some ⟨bytes.toArray⟩ else none

/-- The shape of the document in `_pending_state`. -/
def readIntent : Value → Option Intent
  | .dict [(k₁, .int policyRevision), (k₂, .str prepared), (k₃, .str preparedSha256), (k₄, previous),
      (k₅, .int 1), (k₆, .str target)] =>
      if [k₁, k₂, k₃, k₄, k₅, k₆] = ["policy_revision".toList, "prepared_b64".toList,
          "prepared_sha256".toList, "previous_sha256".toList, "schema_version".toList,
          "target".toList] ∧ tokenRe preparedSha256 ∧ 1 ≤ policyRevision then do
        let target ← Target.ofText target
        let previousSha256 ← readDigest previous
        let prepared ← readPrepared prepared
        return ⟨target, previousSha256, preparedSha256, prepared, policyRevision⟩
      else none
  | _ => none

/-- `value == {"schema_version": 2, "provider": "client_registry_v1"}`; the float `2.0`, which equals
the number, is left out. -/
def isRegistrySelector : Value → Bool
  | .dict [(k₁, .str provider), (k₂, .int 2)] =>
      decide ([k₁, k₂] = ["provider".toList, "schema_version".toList] ∧
        provider = "client_registry_v1".toList)
  | _ => false

/-- The prepared bytes are what their target may hold. -/
def Intent.accepted (i : Intent) : Bool :=
  decide (host.sha256 i.prepared = i.preparedSha256 ∧ i.prepared.size ≤ maxRegistryBytes) &&
    match i.target with
    | .selector => (readJson i.prepared).any isRegistrySelector
    | .registry =>
        (decodePolicy host.tables i.prepared).any fun policy =>
          decide (policy.policyRevision = i.policyRevision)
    | .registryOrigin =>
        ((decodePolicy host.tables i.prepared).any fun policy =>
          decide (policy.policyRevision = i.policyRevision)) &&
          decide (i.previousSha256 ≠ none ∧ 2 ≤ i.policyRevision)

/-- `_pending_state`; the outer `none` is an exception. -/
def pendingState (files : Files) : Option (Option Intent) :=
  match readFixed maxPendingBytes files.pending with
  | none => none
  | some none => some none
  | some (some raw) =>
      ((readJson raw).bind readIntent).bind fun i => if i.accepted host then some (some i) else none

/-- `_ensure_no_pending` raises nothing. -/
def noPending (files : Files) : Bool :=
  match pendingState host files with
  | some none => true
  | _ => false

/-! ## `selector_mode` -/

/-- `validate_legacy_selector`. -/
def isLegacySelector : Value → Bool
  | .dict [(k₁, .str canonicalOrigin), (k₂, .str principal), (k₃, .int 1), (k₄, .list scopes),
      (k₅, .str tokenSha256)] =>
      decide ([k₁, k₂, k₃, k₄, k₅] = ["canonical_origin".toList, "principal".toList,
        "schema_version".toList, "scopes".toList, "token_sha256".toList] ∧
        principal = "presentation-operator".toList ∧ tokenRe tokenSha256 ∧
        host.tables.validOrigin canonicalOrigin) &&
      match scopes.mapM Value.asText with
      | none => false
      | some scopes =>
          decide (1 ≤ scopes.length ∧ scopes.length ≤ 16 ∧ scopes.Nodup) &&
            scopes.all fun scope =>
              decide (1 ≤ scope.length ∧ scope.length ≤ 64) &&
                (scope.head?.any fun c => decide ('a' ≤ c) && decide (c ≤ 'z')) &&
                scope.all fun c => (decide ('a' ≤ c) && decide (c ≤ 'z')) || c.isDigit ||
                  decide (c = '.') || decide (c = '-')
  | _ => false

inductive Mode
  | legacy
  | registry (policy : Policy)

/-- `selector_mode`. -/
def selectorMode (files : Files) : Option Mode :=
  if noPending host files then do
    let fenced ← fenceState host
    let raw ← readRequired 4096 files.selector
    let selector ← readJson raw
    if isLegacySelector host selector then
      if fenced = none then some .legacy else none
    else if isRegistrySelector selector then
      if fenced = none then none else (loadPolicy host files).map .registry
    else none
  else none

/-! ## `publish_target` and `recover_pending` -/

def Target.isSelector : Target → Bool
  | .selector => true
  | _ => false

/-- The file of `_target_path`. -/
def Files.at (files : Files) (target : Target) : Option HostFile :=
  if target.isSelector then files.selector else files.registry

def Files.put (files : Files) (target : Target) (file : HostFile) : Files :=
  if target.isSelector then { files with selector := some file }
  else { files with registry := some file }

/-- `_require_unselected_origin_state` raises nothing. -/
def unselected (files : Files) : Bool :=
  (fenceState host).any (·.isNone) && (readFixed 4096 files.selector).any (·.isNone)

/-- `_validate_origin_transition` raises nothing. -/
def originTransition (previous prepared : ByteArray) : Bool :=
  match decodePolicy host.tables previous, decodePolicy host.tables prepared with
  | some old, some new =>
      decide (old.policyRevision < 2 ^ 63 - 1 ∧ new.policyRevision = old.policyRevision + 1 ∧
        new.canonicalOrigin ≠ old.canonicalOrigin) &&
      decide (dumps compact { old with canonicalOrigin := [], policyRevision := 1 }.toValue =
        dumps compact { new with canonicalOrigin := [], policyRevision := 1 }.toValue)
  | _, _ => false

/-- The revision of the registry's bytes, 0 if there are none; `none` is an exception. -/
def revisionOf : Option ByteArray → Option ℤ
  | none => some 0
  | some raw => (decodePolicy host.tables raw).map (·.policyRevision)

/-- The write of a temporary file. -/
def writeTemporary (data : ByteArray) : Prog Files Unit :=
  .effect fun files => { files with temporary := data :: files.temporary }

/-- `_atomic_publish` with `no_clobber`, for the intent. -/
def publishPending (data : ByteArray) : Prog Files Unit := do
  writeTemporary data
  -- the link refuses a name that exists; the checks before exclude it
  .require ((← Prog.get).pending.isNone)
  .effect fun files => { files with pending := some ⟨data, true⟩ }
  .effect fun files =>
    { files with pending := some ⟨data, false⟩, temporary := files.temporary.tail }

/-- `_atomic_publish`. -/
def publishAt (target : Target) (data : ByteArray) : Prog Files Unit := do
  writeTemporary data
  .effect fun files => { files.put target ⟨data, false⟩ with temporary := files.temporary.tail }

/-- `_durable_readback`. -/
def readsBack (file : Option HostFile) (expected : ByteArray) : Bool :=
  file.any fun file => !file.linked && decide (file.bytes = expected)

/-- `_clear_pending`. -/
def clearPending : Prog Files Unit := .effect fun files => { files with pending := none }

/-- The checks of `publish_target` before it writes; what it returns are the bytes to be replaced. -/
def publishable (files : Files) (target : Target) (prepared : ByteArray) (policyRevision : ℤ) :
    Option (Option ByteArray) :=
  if noPending host files ∧ (target = .registryOrigin → unselected host files) then
    if target.isSelector then
      if (readJson prepared).any isRegistrySelector then
        readFixed maxRegistryBytes files.selector
      else none
    else do
      let policy ← decodePolicy host.tables prepared
      let previous ← readFixed maxRegistryBytes files.registry
      let revision ← revisionOf host previous
      if policy.policyRevision = policyRevision ∧ policyRevision = revision + 1 ∧
          (target = .registryOrigin →
            previous.any fun previous => originTransition host previous prepared) then
        return previous
      else none
  else none

def intentFor (target : Target) (previous : Option ByteArray) (prepared : ByteArray)
    (policyRevision : ℤ) : Intent :=
  ⟨target, previous.map host.sha256, host.sha256 prepared, prepared, policyRevision⟩

/-- `publish_target`. -/
def publishTarget (target : Target) (prepared : ByteArray) (policyRevision : ℤ) :
    Prog Files Unit := do
  let previous ← .ofOption (publishable host (← Prog.get) target prepared policyRevision)
  let pendingBytes := jsonBytes (intentFor host target previous prepared policyRevision).toValue
  publishPending pendingBytes
  .require (readsBack (← Prog.get).pending pendingBytes)
  publishAt target prepared
  .require (readsBack ((← Prog.get).at target) prepared)
  clearPending

/-- `publish_policy`. -/
def publishPolicy (document : Value) : Prog Files Unit := do
  let policy ← .ofOption (validatePolicy host.tables document)
  publishTarget host .registry (jsonBytes document) policy.policyRevision

/-- The checks of `recover_pending`. -/
def recoverable (files : Files) (expectedRevision : ℤ) : Option Intent := do
  let i ← (← pendingState host files)
  let current ← readFixed maxRegistryBytes (files.at i.target)
  let digest := current.map host.sha256
  let atPrevious := digest = i.previousSha256
  if i.policyRevision = expectedRevision ∧
      (i.target = .registryOrigin → unselected host files) ∧
      (i.target = .selector →
        (loadPolicy host files).any (fun policy => decide (policy.policyRevision = expectedRevision)) ∧
          ∃ prepared ∈ (fenceState host).join,
            (readRequired maxRegistryBytes files.registry).map host.sha256 = some prepared) ∧
      (atPrevious ∨ digest = some i.preparedSha256) ∧
      (atPrevious ∧ i.target = .registryOrigin →
        current.any fun current => originTransition host current i.prepared) ∧
      (atPrevious ∧ ¬ i.target.isSelector →
        revisionOf host current = some (expectedRevision - 1)) then
    return i
  else none

/-- `recover_pending`. -/
def recoverPending (expectedRevision : ℤ) : Prog Files Unit := do
  let files ← Prog.get
  let i ← .ofOption (recoverable host files expectedRevision)
  .runIf ((files.at i.target).map (fun file => host.sha256 file.bytes) ≠ some i.preparedSha256)
    (publishAt i.target i.prepared)
  .require (readsBack ((← Prog.get).at i.target) i.prepared)
  clearPending

end Host

end FwRouter.ApiClients
