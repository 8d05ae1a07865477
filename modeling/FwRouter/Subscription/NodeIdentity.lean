import FwRouter.Python.Text
import FwRouter.Library.Run
import FwRouter.Library.KeyedTable
import FwRouter.Library.SharedIterator

/-!
# Node identities and their credentials

`services/subscription_node_identity.py`: a subscription server keeps its logical identity when its
content, and with it its server id, changes.  Five tables hold the identities, the server ids they
have had, the transitions between these, the credentials of an identity in each scope, and the
credentials that were retired.

The callers own the transaction, so that an operation that raises leaves the tables as they were.
The operations here are the bodies: from the tables before to the tables after, or an exception.
-/

namespace FwRouter.Subscription

open Py

/-! ## Tables -/

structure Identity where
  identityId : Text
  originServerId : Text
  currentServerId : Text
  revision : ℤ
  provenanceSha256 : Text
  deriving DecidableEq

structure Credential where
  scope : Text
  identityId : Text
  clientUuid : Text
  clientEmail : Text
  epoch : ℤ
  revoked : Bool
  deriving DecidableEq

structure Transition where
  identityId : Text
  fromServerId : Text
  toServerId : Text
  fromRevision : ℤ
  toRevision : ℤ
  beforeProvenanceSha256 : Text
  afterProvenanceSha256 : Text
  sourceOwnershipSha256 : Text
  operatorPlanSha256 : Option Text
  checkpointSha256 : Option Text
  deriving DecidableEq

structure RetiredCredential where
  clientUuid : Text
  scope : Text
  identityId : Text
  epoch : ℤ
  operationIdSha256 : Text
  deriving DecidableEq

/-- The rows of the five tables; an alias is a server id and its identity. -/
structure Rows where
  identities : List Identity
  aliases : List (Text × Text)
  credentials : List Credential
  transitions : List Transition
  history : List RetiredCredential
  deriving DecidableEq

/-- The primary keys and unique columns of the schema. -/
def Rows.Valid (r : Rows) : Prop :=
  (r.identities.map Identity.identityId).Nodup ∧
    (r.identities.map Identity.originServerId).Nodup ∧
    (r.identities.map Identity.currentServerId).Nodup ∧
    (r.aliases.map Prod.fst).Nodup ∧
    (r.credentials.map fun c => (c.scope, c.identityId)).Nodup ∧
    (r.credentials.map Credential.clientUuid).Nodup ∧
    (r.credentials.map Credential.clientEmail).Nodup ∧
    (r.transitions.map fun t => (t.identityId, t.fromRevision)).Nodup ∧
    (r.transitions.map fun t => (t.fromServerId, t.toServerId, t.fromRevision)).Nodup ∧
    (r.history.map RetiredCredential.clientUuid).Nodup

instance (r : Rows) : Decidable r.Valid := inferInstanceAs (Decidable (_ ∧ _))

structure IdentityTables extends Rows where
  valid : toRows.Valid

def IdentityTables.empty : IdentityTables where
  identities := []
  aliases := []
  credentials := []
  transitions := []
  history := []
  valid := by decide

/-- The codes of `IdentityConflict`, and `sqlite3.IntegrityError`. -/
inductive IdentityError
  | credentialInvalid
  | credentialConflict
  | credentialRevoked
  | credentialOwnershipConflict
  | credentialUnavailable
  | migrationWitnessMismatch
  | migrationRevisionStale
  | migrationServerUnavailable
  | migrationSourceConflict
  | migrationActiveAliasConflict
  | migrationTargetConflict
  | rotationOperationInvalid
  | rotationEpochStale
  | rotationUuidRetired
  | integrityError
  deriving DecidableEq

/-- The tables after a write. -/
def store (r : Rows) : Except IdentityError IdentityTables :=
  if h : r.Valid then .ok ⟨r, h⟩ else .error .integrityError

/-! ## What the operations are given -/

/-- The values that `canonical_digest` is taken of. -/
inductive Digested
  | legacyServer (serverId : Text)
  | provenance (json : Text)
  | sources (sourceIds : List Text)
  | proof (beforeSha afterSha ownershipSha : Text)
  | operation (text : Text)

/-- `uuid5(NAMESPACE_DNS, ·)`, SHA-256 of a canonical JSON text or of a plain text, and the texts
that `UUID` accepts. -/
structure Hashing where
  uuid5 : Text → Text
  digest : Digested → Text
  isUuid : Text → Bool

/-- What is read of a profile's provenance; `json` is the whole of it, as it is digested.
`outbounds` is `none` if it is no list. -/
structure Provenance where
  version : ℤ
  root : Text
  outbounds : Option (List Text)
  content : Text
  json : Text

/-- `compatible_profile_growth`. -/
def compatibleProfileGrowth (before after : Provenance) : Bool :=
  if before.version ≠ 1 ∨ after.version ≠ 1 then false
  else
    match before.outbounds, after.outbounds with
    | some old, some new =>
        decide (before.root = after.root) && !old.isEmpty && decide (old.length < new.length) &&
          SharedIterator.foundInTurn old new
    | _, _ => false

/-- The rows of `servers` and `subscription_server_memberships`: the inventory state of a server,
and its sources with whether the membership is active. -/
structure Inventory where
  state : Text → Option Text
  memberships : Text → List (Text × Bool)

/-- A set of sources, as `sorted` lists it. -/
def sourceSet (rows : List (Text × Bool)) : List Text :=
  (rows.map Prod.fst).dedup.insertionSort (· ≤ ·)

structure Migration where
  oldServerId : Text
  newServerId : Text
  before : Provenance
  after : Provenance
  expectedRevision : ℤ
  allowProfileChange : Bool
  operatorPlanSha256 : Option Text
  checkpointSha256 : Option Text
  inventory : Inventory

variable (H : Hashing)

/-! ## Identities -/

def registerNode (serverId : Text) (t : IdentityTables) :
    Except IdentityError (Text × IdentityTables) :=
  match t.aliases.lookup serverId with
  | some identityId => .ok (identityId, t)
  | none => do
      let identityId := H.uuid5 ("fwrouter-logical-node:".toList ++ serverId)
      let t ← store { t.toRows with
        identities := t.identities ++
          [⟨identityId, serverId, serverId, 1, H.digest (.legacyServer serverId)⟩] }
      let t ← store { t.toRows with aliases := t.aliases ++ [(serverId, identityId)] }
      return (identityId, t)

/-- The checks of `migrate_profile_provenance` on the inventory.  Replies the digest of the source
ownership. -/
def admitInventory (m : Migration) : Except IdentityError Text :=
  if m.inventory.state m.oldServerId = none ∨
      m.inventory.state m.oldServerId = some "deleted".toList ∨
      m.inventory.state m.newServerId = none ∨
      m.inventory.state m.newServerId = some "deleted".toList then
    .error .migrationServerUnavailable
  else
    let oldSources := sourceSet (m.inventory.memberships m.oldServerId)
    let newSources := sourceSet (m.inventory.memberships m.newServerId)
    if oldSources = [] ∨ oldSources ≠ newSources then .error .migrationSourceConflict
    else
      let activeOld := sourceSet ((m.inventory.memberships m.oldServerId).filter Prod.snd)
      let activeNew := sourceSet ((m.inventory.memberships m.newServerId).filter Prod.snd)
      if activeNew = [] ∨ ∃ s ∈ activeOld, s ∈ activeNew then
        .error .migrationActiveAliasConflict
      else .ok (H.digest (.sources oldSources))

/-- The witness check that opens `migrate_profile_provenance`. -/
def Migration.witnessed (m : Migration) : Bool :=
  decide (m.oldServerId = "sub:".toList ++ m.before.content) &&
    decide (m.newServerId = "sub:".toList ++ m.after.content) &&
    (m.allowProfileChange || compatibleProfileGrowth m.before m.after)

/-- The branch for a transition that is recorded already. -/
def replayMigration (m : Migration) (replay : Transition) (t : IdentityTables) :
    Except IdentityError (Text × IdentityTables) :=
  let proof := H.digest (.proof (H.digest (.provenance m.before.json))
    (H.digest (.provenance m.after.json)) replay.sourceOwnershipSha256)
  match t.identities.find? fun i => decide (i.identityId = replay.identityId) with
  | some current =>
      if current.currentServerId = m.newServerId ∧ current.revision = replay.toRevision ∧
          current.provenanceSha256 = proof ∧
          t.aliases.lookup m.newServerId = some replay.identityId then
        .ok (replay.identityId, t)
      else .error .migrationRevisionStale
  | none => .error .migrationRevisionStale

/-- The row of an identity at its next server id. -/
def Identity.moved (i : Identity) (serverId proof : Text) : Identity :=
  { i with currentServerId := serverId, revision := i.revision + 1, provenanceSha256 := proof }

def Migration.transition (m : Migration) (identityId ownershipSha : Text) : Transition where
  identityId := identityId
  fromServerId := m.oldServerId
  toServerId := m.newServerId
  fromRevision := m.expectedRevision
  toRevision := m.expectedRevision + 1
  beforeProvenanceSha256 := H.digest (.provenance m.before.json)
  afterProvenanceSha256 := H.digest (.provenance m.after.json)
  sourceOwnershipSha256 := ownershipSha
  operatorPlanSha256 := m.operatorPlanSha256
  checkpointSha256 := m.checkpointSha256

/-- The compare-and-swap on the identity, with the new alias and the transition. -/
def advanceIdentity (m : Migration) (identityId ownershipSha proof : Text) (t : IdentityTables) :
    Except IdentityError (Text × IdentityTables) := do
  let wh := fun i : Identity => decide (i.identityId = identityId ∧
    i.revision = m.expectedRevision ∧ i.currentServerId = m.oldServerId)
  if t.identities.countP wh ≠ 1 then .error .migrationRevisionStale
  else do
    let t ← store { t.toRows with
      identities := t.identities.map fun i => if wh i then i.moved m.newServerId proof else i }
    let t ← store { t.toRows with aliases := t.aliases ++ [(m.newServerId, identityId)] }
    let t ← store { t.toRows with
      transitions := t.transitions ++ [m.transition H identityId ownershipSha] }
    return (identityId, t)

def migrateProfileProvenance (m : Migration) (t : IdentityTables) :
    Except IdentityError (Text × IdentityTables) :=
  if !m.witnessed then .error .migrationWitnessMismatch
  else
    let beforeSha := H.digest (.provenance m.before.json)
    let afterSha := H.digest (.provenance m.after.json)
    match t.transitions.find? fun r => decide (r.fromServerId = m.oldServerId ∧
        r.toServerId = m.newServerId ∧ r.fromRevision = m.expectedRevision ∧
        r.beforeProvenanceSha256 = beforeSha ∧ r.afterProvenanceSha256 = afterSha) with
    | some replay => replayMigration H m replay t
    | none => do
        let ownershipSha ← admitInventory H m
        let proof := H.digest (.proof beforeSha afterSha ownershipSha)
        let (identityId, t) ← registerNode H m.oldServerId t
        match t.identities.find? fun i => decide (i.identityId = identityId) with
        | none => .error .integrityError
        | some identity =>
            match t.aliases.lookup m.newServerId with
            | some target =>
                if target = identityId ∧ identity.currentServerId = m.newServerId ∧
                    identity.provenanceSha256 = proof then .ok (identityId, t)
                else .error .migrationTargetConflict
            | none =>
                if identity.revision ≠ m.expectedRevision ∨
                    identity.currentServerId ≠ m.oldServerId then .error .migrationRevisionStale
                else advanceIdentity H m identityId ownershipSha proof t

/-! ## Credentials -/

def findCredential (scope identityId : Text) (t : IdentityTables) : Option Credential :=
  t.credentials.find? fun c => decide (c.scope = scope ∧ c.identityId = identityId)

structure Retention where
  scope : Text
  serverId : Text
  clientUuid : Text
  clientEmail : Text

def retainCredentials (a : Retention) (t : IdentityTables) :
    Except IdentityError (Credential × IdentityTables) :=
  if !H.isUuid a.clientUuid ∨ a.clientEmail = [] ∨ a.clientEmail ≠ strip a.clientEmail then
    .error .credentialInvalid
  else do
    let (identityId, t) ← registerNode H a.serverId t
    match findCredential a.scope identityId t with
    | some row =>
        if (row.clientUuid, row.clientEmail) ≠ (a.clientUuid, a.clientEmail) then
          .error .credentialConflict
        else if row.revoked then .error .credentialRevoked
        else .ok (row, t)
    | none =>
        if (∃ c ∈ t.credentials, c.clientUuid = a.clientUuid ∨ c.clientEmail = a.clientEmail) ∨
            ∃ r ∈ t.history, r.clientUuid = a.clientUuid then
          .error .credentialOwnershipConflict
        else do
          let row : Credential := ⟨a.scope, identityId, a.clientUuid, a.clientEmail, 1, false⟩
          return (row, ← store { t.toRows with credentials := t.credentials ++ [row] })

/-- Retire the client UUID of a row and write the row's next epoch, in both of the operations that
end a credential. -/
def supersede (row : Credential) (operationIdSha256 : Text) (next : Credential → Credential)
    (t : IdentityTables) : Except IdentityError (Credential × IdentityTables) := do
  let t ← store { t.toRows with history := t.history ++
    [⟨row.clientUuid, row.scope, row.identityId, row.epoch, operationIdSha256⟩] }
  let wh := fun c : Credential => decide (c.scope = row.scope ∧ c.identityId = row.identityId ∧
    c.epoch = row.epoch ∧ c.revoked = false)
  if t.credentials.countP wh ≠ 1 then .error .rotationEpochStale
  else
    let t ← store { t.toRows with
      credentials := t.credentials.map fun c => if wh c then next c else c }
    return (next row, t)

structure Rotation where
  scope : Text
  identityId : Text
  expectedEpoch : ℤ
  operationId : Text

/-- The client UUID that a rotation gives: a function of identity, scope and operation. -/
def Rotation.newUuid (a : Rotation) : Text :=
  H.uuid5 ("fwrouter-rotation:".toList ++ a.identityId ++ ":".toList ++ a.scope ++ ":".toList ++
    a.operationId)

def rotateCredentials (a : Rotation) (t : IdentityTables) :
    Except IdentityError (Credential × IdentityTables) :=
  if a.operationId = [] ∨ 256 < a.operationId.length then .error .rotationOperationInvalid
  else
    let newUuid := a.newUuid H
    match findCredential a.scope a.identityId t with
    | none => .error .credentialRevoked
    | some row =>
        if row.revoked then .error .credentialRevoked
        else if row.epoch = a.expectedEpoch + 1 ∧ row.clientUuid = newUuid then .ok (row, t)
        else if row.epoch ≠ a.expectedEpoch then .error .rotationEpochStale
        else if ∃ c ∈ t.credentials, c.clientUuid = newUuid ∧ c.identityId ≠ a.identityId then
          .error .credentialOwnershipConflict
        else if ∃ r ∈ t.history, r.clientUuid = newUuid then .error .rotationUuidRetired
        else supersede row (H.digest (.operation a.operationId))
          (fun c => { c with clientUuid := newUuid, epoch := c.epoch + 1 }) t

structure Revocation where
  scope : Text
  identityId : Text
  expectedEpoch : ℤ

def revokeCredentials (a : Revocation) (t : IdentityTables) :
    Except IdentityError (Credential × IdentityTables) :=
  match findCredential a.scope a.identityId t with
  | none => .error .credentialUnavailable
  | some row =>
      if row.revoked ∧ row.epoch = a.expectedEpoch + 1 then .ok (row, t)
      else if row.revoked then .error .credentialRevoked
      else if row.epoch ≠ a.expectedEpoch then .error .rotationEpochStale
      else supersede row (H.digest (.operation ("revoke:".toList ++ a.scope ++ ":".toList ++
          a.identityId ++ ":".toList ++ (toString a.expectedEpoch).toList)))
        (fun c => { c with revoked := true, epoch := c.epoch + 1 }) t

/-! ## What the operations write

One inversion lemma for each operation: the guards that a successful call has passed and the rows it
leaves.  What follows about the tables is derived from these.
-/

lemma toRows_of_store {r : Rows} {t : IdentityTables} (h : store r = .ok t) : t.toRows = r := by
  rw [store] at h
  split at h
  · cases h
    rfl
  · cases h

variable {H} {t t' : IdentityTables}

/-- A call of `register_node` that succeeds finds the alias, or writes a first row and its alias. -/
lemma registerNode_cases {serverId identityId : Text}
    (h : registerNode H serverId t = .ok (identityId, t')) :
    (t.aliases.lookup serverId = some identityId ∧ t' = t) ∨
      (t.aliases.lookup serverId = none ∧
        t'.toRows = { t.toRows with
          identities := t.identities ++
            [⟨identityId, serverId, serverId, 1, H.digest (.legacyServer serverId)⟩]
          aliases := t.aliases ++ [(serverId, identityId)] }) := by
  rw [registerNode] at h
  split at h
  · rename_i found hfound
    cases h
    exact Or.inl ⟨hfound, rfl⟩
  · rename_i hnone
    obtain ⟨t₁, h₁, h⟩ := Run.exists_of_bind_eq_ok h
    obtain ⟨t₂, h₂, h⟩ := Run.exists_of_bind_eq_ok h
    cases h
    rw [toRows_of_store h₂, toRows_of_store h₁]
    exact Or.inr ⟨hnone, rfl⟩

lemma advanceIdentity_rows {m : Migration} {identityId reply ownershipSha proof : Text}
    (h : advanceIdentity H m identityId ownershipSha proof t = .ok (reply, t')) :
    reply = identityId ∧
      t'.toRows = { t.toRows with
        identities := t.identities.map fun i =>
          if i.identityId = identityId ∧ i.revision = m.expectedRevision ∧
              i.currentServerId = m.oldServerId then i.moved m.newServerId proof else i
        aliases := t.aliases ++ [(m.newServerId, identityId)]
        transitions := t.transitions ++ [m.transition H identityId ownershipSha] } := by
  rw [advanceIdentity] at h
  obtain ⟨-, h⟩ := Run.guard_eq_ok.mp h
  obtain ⟨t₁, h₁, h⟩ := Run.exists_of_bind_eq_ok h
  obtain ⟨t₂, h₂, h⟩ := Run.exists_of_bind_eq_ok h
  obtain ⟨t₃, h₃, h⟩ := Run.exists_of_bind_eq_ok h
  cases h
  refine ⟨rfl, ?_⟩
  rw [toRows_of_store h₃, toRows_of_store h₂, toRows_of_store h₁]
  simp only [decide_eq_true_eq]

/-- A recorded transition is answered from the tables as they are. -/
lemma replayMigration_tables {m : Migration} {replay : Transition} {reply : Text}
    (h : replayMigration H m replay t = .ok (reply, t')) : t' = t := by
  rw [replayMigration] at h
  split at h
  · split at h
    · cases h
      rfl
    · cases h
  · cases h

/-- A migration that succeeds leaves the tables, or registers the old server and stops there, or
then advances the identity to a server id that nobody has had. -/
lemma migrateProfileProvenance_cases {m : Migration} {identityId : Text}
    (h : migrateProfileProvenance H m t = .ok (identityId, t')) :
    t' = t ∨ ∃ t₁, registerNode H m.oldServerId t = .ok (identityId, t₁) ∧
      (t' = t₁ ∨ ∃ identity ownershipSha proof,
        t₁.identities.find? (fun i => decide (i.identityId = identityId)) = some identity ∧
        t₁.aliases.lookup m.newServerId = none ∧
        identity.revision = m.expectedRevision ∧ identity.currentServerId = m.oldServerId ∧
        advanceIdentity H m identityId ownershipSha proof t₁ = .ok (identityId, t')) := by
  rw [migrateProfileProvenance] at h
  obtain ⟨-, h⟩ := Run.guard_eq_ok.mp h
  dsimp only at h
  split at h
  · exact Or.inl (replayMigration_tables h)
  · obtain ⟨ownershipSha, -, h⟩ := Run.exists_of_bind_eq_ok h
    obtain ⟨⟨identityId₁, t₁⟩, hregister, h⟩ := Run.exists_of_bind_eq_ok h
    dsimp only at h
    split at h
    · cases h
    · rename_i identity hidentity
      split at h
      · -- the new server id is the identity's own already, or the call fails
        split at h
        · cases h
          exact Or.inr ⟨_, hregister, Or.inl rfl⟩
        · cases h
      · rename_i hfree
        obtain ⟨hguard, h⟩ := Run.guard_eq_ok.mp h
        rw [not_or, not_not, not_not] at hguard
        obtain ⟨rfl, -⟩ := advanceIdentity_rows h
        exact Or.inr ⟨t₁, hregister, Or.inr
          ⟨identity, _, _, hidentity, hfree, hguard.1, hguard.2, h⟩⟩

lemma supersede_rows {row reply : Credential} {operationIdSha256 : Text}
    {next : Credential → Credential}
    (h : supersede row operationIdSha256 next t = .ok (reply, t')) :
    reply = next row ∧
      t'.toRows = { t.toRows with
        credentials := t.credentials.map fun c =>
          if c.scope = row.scope ∧ c.identityId = row.identityId ∧ c.epoch = row.epoch ∧
            c.revoked = false then next c else c
        history := t.history ++
          [⟨row.clientUuid, row.scope, row.identityId, row.epoch, operationIdSha256⟩] } := by
  rw [supersede] at h
  obtain ⟨t₁, h₁, h⟩ := Run.exists_of_bind_eq_ok h
  obtain ⟨-, h⟩ := Run.guard_eq_ok.mp h
  obtain ⟨t₂, h₂, h⟩ := Run.exists_of_bind_eq_ok h
  cases h
  rw [toRows_of_store h₂, toRows_of_store h₁]
  simp only [decide_eq_true_eq, and_self]

/-- A call of `retain_credentials` that succeeds registers the server, and then writes nothing or a
row whose UUID is not in use and was not retired. -/
lemma retainCredentials_cases {a : Retention} {reply : Credential}
    (h : retainCredentials H a t = .ok (reply, t')) :
    ∃ identityId t₁, registerNode H a.serverId t = .ok (identityId, t₁) ∧
      (t' = t₁ ∨ (∀ r ∈ t₁.history, r.clientUuid ≠ a.clientUuid) ∧
        t'.toRows = { t₁.toRows with credentials := t₁.credentials ++
          [⟨a.scope, identityId, a.clientUuid, a.clientEmail, 1, false⟩] }) := by
  rw [retainCredentials] at h
  obtain ⟨-, h⟩ := Run.guard_eq_ok.mp h
  obtain ⟨⟨identityId, t₁⟩, hregister, h⟩ := Run.exists_of_bind_eq_ok h
  refine ⟨identityId, t₁, hregister, ?_⟩
  dsimp only at h
  split at h
  · obtain ⟨-, h⟩ := Run.guard_eq_ok.mp h
    obtain ⟨-, h⟩ := Run.guard_eq_ok.mp h
    cases h
    exact Or.inl rfl
  · obtain ⟨hfree, h⟩ := Run.guard_eq_ok.mp h
    obtain ⟨t₂, h₂, h⟩ := Run.exists_of_bind_eq_ok h
    cases h
    refine Or.inr ⟨?_, toRows_of_store h₂⟩
    intro r hr hsame
    exact hfree (Or.inr ⟨r, hr, hsame⟩)

/-- The row that a rotation or a revocation is about. -/
lemma findCredential_some {scope identityId : Text} {row : Credential}
    (h : findCredential scope identityId t = some row) :
    row ∈ t.credentials ∧ row.scope = scope ∧ row.identityId = identityId := by
  have hkey := List.find?_some h
  simp only [decide_eq_true_eq] at hkey
  exact ⟨List.mem_of_find?_eq_some h, hkey⟩

/-- A rotation that succeeds is a replay, or supersedes a row of the expected epoch by a UUID that
was not retired before. -/
lemma rotateCredentials_cases {a : Rotation} {reply : Credential}
    (h : rotateCredentials H a t = .ok (reply, t')) :
    a.operationId ≠ [] ∧ a.operationId.length ≤ 256 ∧
      ∃ row, findCredential a.scope a.identityId t = some row ∧ row.revoked = false ∧
        ((t' = t ∧ row.epoch = a.expectedEpoch + 1 ∧ row.clientUuid = a.newUuid H ∧ reply = row) ∨
          row.epoch = a.expectedEpoch ∧ (∀ r ∈ t.history, r.clientUuid ≠ a.newUuid H) ∧
          supersede row (H.digest (.operation a.operationId))
            (fun c => { c with clientUuid := a.newUuid H, epoch := c.epoch + 1 }) t =
              .ok (reply, t')) := by
  rw [rotateCredentials] at h
  obtain ⟨hoperation, h⟩ := Run.guard_eq_ok.mp h
  rw [not_or, not_lt] at hoperation
  refine ⟨hoperation.1, hoperation.2, ?_⟩
  dsimp only at h
  split at h
  · cases h
  · rename_i row hrow
    obtain ⟨hlive, h⟩ := Run.guard_eq_ok.mp h
    refine ⟨row, hrow, by simpa using hlive, ?_⟩
    split at h
    · rename_i hreplay
      cases h
      exact Or.inl ⟨rfl, hreplay.1, hreplay.2, rfl⟩
    · obtain ⟨hepoch, h⟩ := Run.guard_eq_ok.mp h
      obtain ⟨-, h⟩ := Run.guard_eq_ok.mp h
      obtain ⟨hfresh, h⟩ := Run.guard_eq_ok.mp h
      refine Or.inr ⟨not_not.mp hepoch, ?_, h⟩
      intro r hr hsame
      exact hfresh ⟨r, hr, hsame⟩

/-- A revocation that succeeds is a replay, or supersedes a row by its tombstone. -/
lemma revokeCredentials_cases {a : Revocation} {reply : Credential}
    (h : revokeCredentials H a t = .ok (reply, t')) :
    ∃ row, findCredential a.scope a.identityId t = some row ∧
      ((t' = t ∧ row.revoked = true ∧ row.epoch = a.expectedEpoch + 1 ∧ reply = row) ∨
        row.revoked = false ∧ row.epoch = a.expectedEpoch ∧ ∃ operationIdSha256,
          supersede row operationIdSha256
            (fun c => { c with revoked := true, epoch := c.epoch + 1 }) t = .ok (reply, t')) := by
  rw [revokeCredentials] at h
  split at h
  · cases h
  · rename_i row hrow
    refine ⟨row, hrow, ?_⟩
    split at h
    · rename_i hreplay
      cases h
      exact Or.inl ⟨rfl, hreplay.1, hreplay.2, rfl⟩
    · obtain ⟨hlive, h⟩ := Run.guard_eq_ok.mp h
      obtain ⟨hepoch, h⟩ := Run.guard_eq_ok.mp h
      exact Or.inr ⟨by simpa using hlive, not_not.mp hepoch, _, h⟩

variable (H)

/-! ## Runs -/

inductive Op
  | registerNode (serverId : Text)
  | retainCredentials (a : Retention)
  | rotateCredentials (a : Rotation)
  | revokeCredentials (a : Revocation)
  | migrateProfileProvenance (m : Migration)

/-- One operation in a transaction of its own. -/
def step (t : IdentityTables) : Op → IdentityTables
  | .registerNode serverId => Run.orRollback (registerNode H serverId) t
  | .retainCredentials a => Run.orRollback (retainCredentials H a) t
  | .rotateCredentials a => Run.orRollback (rotateCredentials H a) t
  | .revokeCredentials a => Run.orRollback (revokeCredentials H a) t
  | .migrateProfileProvenance m => Run.orRollback (migrateProfileProvenance H m) t

end FwRouter.Subscription
