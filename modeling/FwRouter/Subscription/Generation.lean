import FwRouter.Python.Json
import FwRouter.Subscription.Inventory

/-!
# The generation fence of the subscription inventory

A marker in the settings says which inventory was written last, in which revision, and which one was
last proven by a publication.  Four operations of `services/subscription.py` read and write it:
`_write_subscription_inventory_candidate` after an inventory change,
`_claim_subscription_inventory_admission`, `_promote_subscription_inventory_generation`, and the gate
that admits native work.

**The bottom layer** keeps the marker as the JSON object that is stored, so that the validation, which
looks at every field, is the source's.  A stored text that is JSON is kept as its value.

**Markers by their fields.**  All markers that are ever written come from one constructor
(`markerDict`); for these the validation is a condition on the fields (`Valid`), and every operation
has one lemma in terms of the fields.

**Histories.**  The revision is the number of candidate writes so far, and a proven digest is the
digest of an inventory whose promotion succeeded.
-/

namespace FwRouter.Subscription.Generation

open Py Inventory

/-! ## The inventory digest -/

def stateText : InventoryState → Text
  | .active => "active".toList
  | .missing => "missing".toList
  | .deleted => "deleted".toList

def serverCells (serverId : Text) (row : ServerRow) : List Json.Cell :=
  [.text serverId, .text row.serverName, .ofOption row.providerName, .ofOption row.countryCode,
    .ofOption row.region, .ofOption row.rawJson, .text (stateText row.inventoryState)]

def membershipCells (key : Text × Text) (m : Membership) : List Json.Cell :=
  [.text key.1, .text key.2, .text m.entryIdentityHash, .ofOption m.parserFormat, .flag m.isActive]

/-- The rows that the digest covers, in its order. -/
structure InventoryRows where
  servers : List (List Json.Cell)
  memberships : List (List Json.Cell)

/-- The servers of the subscriptions and of the active memberships. -/
def isOwned (t : Tables) (serverId : Text) (row : ServerRow) : Bool :=
  decide (row.providerName.getD [] = subscriptionProvider) || hasActiveMembership t serverId

/-- `ORDER BY source_id, server_id`. -/
def keyLe (a b : Text × Text) : Prop := a.1 < b.1 ∨ a.1 = b.1 ∧ a.2 ≤ b.2

instance (a b : Text × Text) : Decidable (keyLe a b) := inferInstanceAs (Decidable (_ ∨ _))

/-- The two queries of `_subscription_inventory_digest`. -/
def inventoryRows (t : Tables) : InventoryRows where
  servers := ((t.servers.rows.filter fun r => isOwned t r.1 r.2).insertionSort
    fun a b => a.1 ≤ b.1).map fun r => serverCells r.1 r.2
  memberships := (t.memberships.rows.insertionSort fun a b => keyLe a.1 b.1).map
    fun r => membershipCells r.1 r.2

/-- The JSON text that is hashed. -/
def payload (rows : InventoryRows) : Text :=
  "\x7b\"memberships\":".toList ++ (Json.rowsText rows.memberships ++ ",\"servers\":".toList ++
    (Json.rowsText rows.servers ++ "\x7d".toList))

lemma payload_injective : Function.Injective payload := by
  intro a b h
  have hpair : PrefixCode.IsPrefixCode fun p : List (List Json.Cell) × List (List Json.Cell) =>
      Json.rowsText p.1 ++ ",\"servers\":".toList ++ (Json.rowsText p.2 ++ "\x7d".toList) :=
    (Json.rowsText_isPrefixCode.append_const _).prod (Json.rowsText_isPrefixCode.append_const _)
  have hrows : (a.memberships, a.servers) = (b.memberships, b.servers) :=
    (hpair.const_append "\x7b\"memberships\":".toList).injective h
  obtain ⟨hm, hs⟩ := Prod.mk.inj hrows
  cases a
  cases b
  simp_all

variable (codec : Codec)

/-- `_subscription_inventory_digest`, the digest. -/
def inventoryDigest (t : Tables) : Text := codec.sha256Hex (payload (inventoryRows t))

/-- `_subscription_inventory_digest`, the count. -/
def inventoryCount (t : Tables) : ℕ := (inventoryRows t).servers.length

/-! ## Markers -/

/-- `re.fullmatch("[0-9a-f]\x7b64\x7d", text)`. -/
def isDigest (t : Text) : Bool :=
  t.length = 64 && t.all fun c => ('0' ≤ c && c ≤ '9') || ('a' ≤ c && c ≤ 'f')

/-- The value as an integer, if `type(value) is int`. -/
def asInt : Value → Option ℤ
  | .int n => some n
  | _ => none

def isNone : Value → Bool
  | .none => true
  | _ => false

/-- A verified tuple, if the two values are a digest and a revision. -/
def proofTuple (digest revision : Value) : Option (Text × ℤ) :=
  match digest.asText, asInt revision with
  | some d, some r => if isDigest d ∧ 1 ≤ r then some (d, r) else none
  | _, _ => none

/-- `_validated_subscription_generation_marker`, on the value of the text. -/
def validatedMarker (value : Option Value) : Except String Dict :=
  match value.bind Value.asDict with
  | none => .error "generation_marker_invalid"
  | some marker =>
      let status := (marker.get "status").asText
      if asInt (marker.get "schema") ≠ some 1 ∨
          (status ≠ some "pending".toList ∧ status ≠ some "verified".toList) then
        .error "generation_marker_invalid"
      else
        match (marker.get "candidate_digest").asText.filter isDigest with
        | none => .error "generation_digest_invalid"
        | some candidateDigest =>
            match (asInt (marker.get "candidate_revision")).filter (1 ≤ ·) with
            | none => .error "generation_revision_invalid"
            | some candidateRevision =>
                if isNone (marker.get "verified_digest") ∧ isNone (marker.get "verified_revision") then
                  if status = some "verified".toList then .error "verified_generation_proof_mismatch"
                  else .ok marker
                else
                  match proofTuple (marker.get "verified_digest") (marker.get "verified_revision") with
                  | none => .error "verified_generation_proof_mismatch"
                  | some (digest, revision) =>
                      if status = some "verified".toList then
                        if digest ≠ candidateDigest ∨ revision ≠ candidateRevision then
                          .error "verified_generation_proof_mismatch"
                        else .ok marker
                      else if digest = candidateDigest ∨ candidateRevision ≤ revision then
                        .error "verified_generation_proof_mismatch"
                      else .ok marker

/-- The fields of the markers that are written. -/
structure MarkerFields where
  status : Text
  candidateDigest : Text
  candidateRevision : Option ℤ
  verified : Option (Text × ℤ)
  reason : Option Text
  inventoryCount : ℕ
  nativeProof : Option Dict

def ofOption {α : Type} (f : α → Value) : Option α → Value
  | none => .none
  | some a => f a

/-- The marker as the dict that is stored. -/
def markerDict (m : MarkerFields) : Dict :=
  [("schema".toList, .int 1), ("status".toList, .str m.status),
    ("candidate_digest".toList, .str m.candidateDigest),
    ("candidate_revision".toList, ofOption .int m.candidateRevision),
    ("verified_digest".toList, ofOption (fun v => .str v.1) m.verified),
    ("verified_revision".toList, ofOption (fun v => .int v.2) m.verified),
    ("reason".toList, ofOption .str m.reason), ("inventory_count".toList, .int m.inventoryCount)] ++
  (m.nativeProof.map fun proof => ("native_proof".toList, Value.dict proof)).toList

/-- The column `value_json` of the marker's row: its value, `none` for a text that is not JSON. -/
abbrev Stored := Option Value

/-! ## Reading the generation -/

inductive Status
  | empty
  | pending
  | verified
  | unknown
  deriving DecidableEq

def Status.text : Status → Text
  | .empty => "empty".toList
  | .pending => "pending".toList
  | .verified => "verified".toList
  | .unknown => "unknown".toList

structure GenerationState where
  status : Status
  candidateDigest : Option Text
  candidateRevision : Option ℤ
  verifiedDigest : Option Text
  verifiedRevision : Option ℤ
  nativeProof : Option Dict
  reason : Option Text
  inventoryDigest : Text
  inventoryCount : ℕ

/-- `str(marker.get("reason") or "") or None`. -/
def markerReason (reprText : Text → Text) (marker : Dict) : Option Text :=
  match (marker.get "reason").textOr reprText with
  | [] => none
  | reason => some reason

/-- `_read_subscription_native_generation`. -/
def readGeneration (reprText : Text → Text) (t : Tables) (row : Option Stored) : GenerationState :=
  let current := inventoryDigest codec t
  let count := inventoryCount t
  match row with
  | none =>
      { status := if count = 0 then .empty else .unknown
        candidateDigest := none, candidateRevision := none, verifiedDigest := none
        verifiedRevision := none, nativeProof := none
        reason := if count = 0 then none else some "verified_generation_missing".toList
        inventoryDigest := current, inventoryCount := count }
  | some stored =>
      match validatedMarker stored with
      | .error reason =>
          { status := .unknown, candidateDigest := none, candidateRevision := none
            verifiedDigest := none, verifiedRevision := none, nativeProof := none
            reason := some reason.toList, inventoryDigest := current, inventoryCount := count }
      | .ok marker =>
          let matching := (marker.get "candidate_digest").asText = some current
          { status :=
              if ¬matching then .unknown
              else if (marker.get "status").isText "verified".toList then .verified
              else .pending
            candidateDigest := (marker.get "candidate_digest").asText
            candidateRevision := asInt (marker.get "candidate_revision")
            verifiedDigest := (marker.get "verified_digest").asText
            verifiedRevision := asInt (marker.get "verified_revision")
            nativeProof := (marker.get "native_proof").asDict
            reason :=
              if matching then markerReason reprText marker
              else some "inventory_digest_mismatch".toList
            inventoryDigest := current, inventoryCount := count }

/-! ## Writing a candidate -/

/-- The counter of a stored value, also if its proof tuple is malformed. -/
def highWater (stored : Stored) : Option ℤ :=
  match stored.bind Value.asDict with
  | none => none
  | some marker =>
      if asInt (marker.get "schema") = some 1 then
        (asInt (marker.get "candidate_revision")).filter (0 < ·)
      else none

/-- The verified tuple of the prior marker, if the marker is valid. -/
def priorProof (stored : Stored) : Option (Text × ℤ) :=
  match validatedMarker stored with
  | .ok marker => proofTuple (marker.get "verified_digest") (marker.get "verified_revision")
  | .error _ => none

/-- `_write_subscription_inventory_candidate`: the row that is written. -/
def writeCandidate (forcePending : Bool) (t : Tables) (row : Option Stored) : MarkerFields :=
  let current := inventoryDigest codec t
  let count := inventoryCount t
  let high := row.bind highWater
  if row.isSome ∧ high.isNone then
    { status := "unknown".toList, candidateDigest := current, candidateRevision := none
      verified := none, reason := some "generation_revision_high_water_unavailable".toList
      inventoryCount := count, nativeProof := none }
  else
    let next := high.getD 0 + 1
    let prior := row.bind priorProof
    if forcePending = false ∧ prior.any (fun v => v.1 = current) then
      -- returning exactly to a proven inventory
      { status := "verified".toList, candidateDigest := current, candidateRevision := some next
        verified := some (current, next), reason := none, inventoryCount := count
        nativeProof := none }
    else
      { status := "pending".toList, candidateDigest := current, candidateRevision := some next
        verified := prior.filter fun v => !(forcePending && decide (v.1 = current))
        reason := some "inventory_changed_requires_native_publication".toList
        inventoryCount := count, nativeProof := none }

/-! ## Admissions and the gate -/

/-- `_SubscriptionInventoryAdmission`.  `issued` says that the object is one, with the issuer of the
process; `proofOnly` that it has a source fingerprint. -/
structure Admission where
  digest : Text
  revision : ℤ
  issued : Bool
  requiresNativeProofRefresh : Bool
  optionalVerifiedPublication : Bool
  proofOnly : Bool
  deriving DecidableEq

structure Gate where
  ok : Bool
  status : Text
  reason : Option Text
  candidateDigest : Option Text
  candidateRevision : Option ℤ
  lastGoodRetained : Bool

/-- The admission is for the candidate of the state. -/
def Admission.owns (a : Admission) (requireWriterGuard guardHeld : Bool) (s : GenerationState) : Bool :=
  a.issued && (!requireWriterGuard || guardHeld) && decide (s.candidateDigest = some a.digest) &&
    decide (s.candidateRevision = some a.revision)

/-- `_subscription_inventory_generation_gate`. -/
def generationGate (s : GenerationState) (admission : Option Admission)
    (requireWriterGuard guardHeld : Bool) : Gate :=
  let answer (ok : Bool) (status : Text) (reason : Option Text) : Gate :=
    { ok := ok, status := status, reason := reason, candidateDigest := s.candidateDigest
      candidateRevision := s.candidateRevision, lastGoodRetained := !ok }
  let owned := admission.any fun a => a.owns requireWriterGuard guardHeld s
  match s.status with
  | .empty => answer true "empty".toList none
  | .verified =>
      if admission.isNone then answer true "verified".toList none
      else if owned then answer true "verified_admitted".toList none
      else answer false "verified".toList (some "inventory_generation_stale".toList)
  | status =>
      if status = .pending ∧ owned then answer true "pending_admitted".toList none
      else answer false status.text (some
        (if admission.isSome ∧ status = .pending then "inventory_generation_stale".toList
        else s.reason.getD "verified_generation_missing".toList))

inductive Raised
  | modeAmbiguous
  | requiresWriterGuard
  | generationBlocked (reason : Text)
  | receipt
  deriving DecidableEq

/-- `_claim_subscription_inventory_admission`. -/
def claimAdmission (allowVerifiedProofRefresh allowVerifiedPublication guardHeld : Bool)
    (expectedDigest : Option Text) (expectedRevision : Option ℤ) (s : GenerationState) :
    Except Raised (Option Admission) :=
  if allowVerifiedProofRefresh ∧ allowVerifiedPublication then .error .modeAmbiguous
  else if guardHeld = false then .error .requiresWriterGuard
  else if s.status = .verified ∧ (allowVerifiedProofRefresh ∨ allowVerifiedPublication) then
    match s.candidateDigest, s.candidateRevision with
    | some digest, some revision =>
        if s.verifiedDigest ≠ some digest ∨ s.verifiedRevision ≠ some revision ∨
            expectedDigest.any (· ≠ digest) ∨ expectedRevision.any (· ≠ revision) then .ok none
        else
          .ok (some
            { digest := digest, revision := revision, issued := true
              requiresNativeProofRefresh := allowVerifiedProofRefresh
              optionalVerifiedPublication := allowVerifiedPublication, proofOnly := false })
    | _, _ => .ok none
  else if s.status = .verified ∨ s.status = .empty then .ok none
  else
    match s.status, s.candidateDigest, s.candidateRevision with
    | .pending, some digest, some revision =>
        .ok (some
          { digest := digest, revision := revision, issued := true
            requiresNativeProofRefresh := false, optionalVerifiedPublication := false
            proofOnly := false })
    | _, _, _ =>
        .error (.generationBlocked (s.reason.getD "verified_generation_missing".toList))

/-! ## Promotion -/

/-- What a promotion reads outside the marker and the inventory: whether the guard is held, whether the
fingerprint of the inputs is available, the two checks of the receipt (`none` if they raise), whether
the read of the optional form raises, the fences of a proof-only admission before and inside the
transaction, the proof that was captured, whether the core, the selection and the last apply are still
those of the proof, and Python's `==` of two proofs. -/
structure Readings where
  guardHeld : Bool
  fingerprintAvailable : Bool
  receipt : Option (Bool × Bool)
  noopRaises : Bool
  runtimeFencesMatch : Bool
  capturedProof : Option Dict
  capturedReason : Option Text
  coreUnavailable : Option Text
  durableFencesMatch : Bool
  proofStands : Bool
  sameProof : Option Dict → Option Dict → Bool

inductive Promotion
  | promoted (digest : Text) (revision : ℤ)
  | alreadyPromoted (digest : Text) (revision : ℤ) (nativeProofWritten : Option Bool)
  | refused (reason : Text) (lastGoodRetained : Bool) (nativeProofReason : Option Text)

def Promotion.ok : Promotion → Bool
  | .promoted _ _ => true
  | .alreadyPromoted _ _ _ => true
  | .refused _ _ _ => false

def refuse (reason : String) : Promotion := .refused reason.toList false none

/-- The state is the verified tuple of the admission. -/
def Admission.isVerifiedIn (a : Admission) (s : GenerationState) : Bool :=
  decide (s.status = .verified) && decide (s.candidateDigest = some a.digest) &&
    decide (s.candidateRevision = some a.revision) && decide (s.verifiedDigest = some a.digest) &&
    decide (s.verifiedRevision = some a.revision)

/-- The answer without a write of an admission whose proof is optional. -/
def optionalAnswer (a : Admission) (s : GenerationState) : Promotion :=
  if a.isVerifiedIn s ∧ s.inventoryDigest = a.digest then
    .alreadyPromoted a.digest a.revision (some false)
  else .refused "inventory_generation_stale".toList true none

/-- `optional_verified_noop`, for an optional admission; others are refused with the reason. -/
def optionalVerifiedNoop (a : Admission) (r : Readings) (s : GenerationState) (reason : String) :
    Promotion :=
  if a.optionalVerifiedPublication = false then refuse reason
  else if r.noopRaises then .refused "inventory_generation_stale".toList true none
  else optionalAnswer a s

/-- The verified marker of an admission. -/
def verifiedMarker (a : Admission) (s : GenerationState) (proof : Option Dict) : MarkerFields :=
  { status := "verified".toList, candidateDigest := a.digest, candidateRevision := some a.revision
    verified := some (a.digest, a.revision), reason := none, inventoryCount := s.inventoryCount
    nativeProof := proof }

/-- The transaction of a promotion: the answer, and the marker if one is written. -/
def commitPromotion (a : Admission) (r : Readings) (s : GenerationState) :
    Promotion × Option MarkerFields :=
  if a.proofOnly ∧ r.coreUnavailable.isSome then
    (.refused (r.coreUnavailable.getD []) false none, none)
  else if a.proofOnly ∧ r.durableFencesMatch = false then
    (refuse "legacy_admission_fence_changed", none)
  else
    let proof := if r.proofStands then r.capturedProof else none
    if a.requiresNativeProofRefresh ∧ proof.isNone then
      (refuse "native_generation_receipt_stale", none)
    else if a.optionalVerifiedPublication ∧ proof.isNone then (optionalAnswer a s, none)
    else if a.isVerifiedIn s then
      (.alreadyPromoted a.digest a.revision none,
        if r.sameProof s.nativeProof proof then none else some (verifiedMarker a s proof))
    else if s.status ≠ .pending ∨ s.candidateDigest ≠ some a.digest ∨
        s.candidateRevision ≠ some a.revision ∨ s.inventoryDigest ≠ a.digest then
      (refuse "inventory_generation_stale", none)
    else (.promoted a.digest a.revision, some (verifiedMarker a s proof))

/-- `_promote_subscription_inventory_generation`. -/
def promoteGeneration (a : Admission) (r : Readings) (s : GenerationState) :
    Except Raised (Promotion × Option MarkerFields) :=
  if a.issued = false ∨ r.guardHeld = false then
    .ok (refuse "inventory_generation_admission_missing", none)
  else if r.fingerprintAvailable = false then
    .ok (optionalVerifiedNoop a r s "native_input_fingerprint_unavailable", none)
  else if r.receipt.isNone ∧ a.optionalVerifiedPublication = false then .error .receipt
  else if r.receipt ≠ some (true, true) then
    .ok (optionalVerifiedNoop a r s "native_receipt_unverified", none)
  else if a.proofOnly ∧ r.runtimeFencesMatch = false then
    .ok (refuse "legacy_admission_fence_changed", none)
  else if a.requiresNativeProofRefresh ∧ r.capturedProof.isNone then
    .ok (.refused "native_generation_receipt_incomplete".toList false r.capturedReason, none)
  else if a.optionalVerifiedPublication ∧ r.capturedProof.isNone then
    .ok (optionalVerifiedNoop a r s "native_receipt_unverified", none)
  else .ok (commitPromotion a r s)

/-! ## Markers by their fields -/

section Fields

variable (m : MarkerFields)

lemma get_schema : (markerDict m).get "schema" = .int 1 := rfl

lemma get_status : (markerDict m).get "status" = .str m.status := rfl

lemma get_candidateDigest : (markerDict m).get "candidate_digest" = .str m.candidateDigest := rfl

lemma get_candidateRevision :
    (markerDict m).get "candidate_revision" = ofOption .int m.candidateRevision := rfl

lemma get_verifiedDigest :
    (markerDict m).get "verified_digest" = ofOption (fun v => .str v.1) m.verified := rfl

lemma get_verifiedRevision :
    (markerDict m).get "verified_revision" = ofOption (fun v => .int v.2) m.verified := rfl

end Fields

/-- A marker that the validation accepts, with its revision. -/
structure MarkerFields.Valid (m : MarkerFields) (revision : ℤ) : Prop where
  digest : isDigest m.candidateDigest = true
  candidateRevision : m.candidateRevision = some revision
  positive : 1 ≤ revision
  proof : (m.status = "verified".toList ∧ m.verified = some (m.candidateDigest, revision)) ∨
    (m.status = "pending".toList ∧ ∀ v, m.verified = some v →
      isDigest v.1 = true ∧ 1 ≤ v.2 ∧ v.1 ≠ m.candidateDigest ∧ v.2 < revision)

lemma pending_ne_verified : "pending".toList ≠ "verified".toList := by decide

/-- The proof tuple of a marker is read back. -/
lemma proofTuple_of_some {v : Text × ℤ} (hdigest : isDigest v.1 = true) (hpos : 1 ≤ v.2) :
    proofTuple (.str v.1) (.int v.2) = some v := by
  rw [proofTuple]
  exact if_pos ⟨hdigest, hpos⟩

lemma MarkerFields.Valid.verified {m : MarkerFields} {revision : ℤ} (h : m.Valid revision)
    {v : Text × ℤ} (hv : m.verified = some v) : isDigest v.1 = true ∧ 1 ≤ v.2 := by
  rcases h.proof with ⟨-, hproof⟩ | ⟨-, hproof⟩
  · rw [hproof] at hv
    obtain rfl := Option.some.inj hv
    exact ⟨h.digest, h.positive⟩
  · exact ⟨(hproof v hv).1, (hproof v hv).2.1⟩

/-- **The validation accepts the valid markers.** -/
lemma validatedMarker_of_valid {m : MarkerFields} {revision : ℤ} (h : m.Valid revision) :
    validatedMarker (some (.dict (markerDict m))) = .ok (markerDict m) := by
  have hrevision : asInt (ofOption .int m.candidateRevision) = some revision := by
    rw [h.candidateRevision]
    rfl
  have hfilter : (some revision).filter (fun n => decide (1 ≤ n)) = some revision := by
    simp [h.positive]
  have hdigest : (some m.candidateDigest).filter isDigest = some m.candidateDigest := by
    simp [h.digest]
  simp only [validatedMarker, Option.bind_some, Value.asDict, get_schema, get_status, get_candidateDigest,
    get_candidateRevision, get_verifiedDigest, get_verifiedRevision, hrevision, hfilter, Value.asText,
    hdigest]
  have hstatus : ¬(asInt (.int 1) ≠ some 1 ∨ (some m.status ≠ some "pending".toList ∧
      some m.status ≠ some "verified".toList)) := by
    rintro (hschema | ⟨hpending, hverified⟩)
    · exact hschema rfl
    · rcases h.proof with ⟨hs, -⟩ | ⟨hs, -⟩
      · exact hverified (congrArg some hs)
      · exact hpending (congrArg some hs)
  rw [if_neg hstatus]
  rcases h.proof with ⟨hs, hproof⟩ | ⟨hs, hproof⟩
  · have heq : some m.status = some "verified".toList := congrArg some hs
    have htuple : proofTuple (.str m.candidateDigest) (.int revision) = _ :=
      proofTuple_of_some (v := (m.candidateDigest, revision)) h.digest h.positive
    simp only [hproof, ofOption, isNone, Bool.false_eq_true, and_self, if_false, htuple, if_pos heq,
      ne_eq, not_true_eq_false, or_self]
  · have hne : ¬some m.status = some "verified".toList := by
      rw [hs, Option.some.injEq]
      exact pending_ne_verified
    rcases Option.eq_none_or_eq_some m.verified with hverified | ⟨v, hverified⟩
    · simp only [hverified, ofOption, isNone, and_self, if_true]
      exact if_neg hne
    · obtain ⟨hd, hpos, hdiffers, holder⟩ := hproof v hverified
      have hstale : ¬(v.1 = m.candidateDigest ∨ revision ≤ v.2) := by
        rintro (hsame | hle)
        · exact hdiffers hsame
        · omega
      simp only [hverified, ofOption, isNone, Bool.false_eq_true, and_self, if_false,
        proofTuple_of_some hd hpos]
      exact (if_neg hne).trans (if_neg hstale)

/-- The state that is read from a valid marker. -/
lemma readGeneration_of_valid (reprText : Text → Text) (t : Tables) {m : MarkerFields} {revision : ℤ}
    (h : m.Valid revision) :
    let s := readGeneration codec reprText t (some (some (.dict (markerDict m))))
    s.candidateDigest = some m.candidateDigest ∧ s.candidateRevision = some revision ∧
    s.inventoryDigest = inventoryDigest codec t ∧
    s.status = if m.candidateDigest = inventoryDigest codec t then
      if m.status = "verified".toList then .verified else .pending else .unknown := by
  intro s
  have hs : s = readGeneration codec reprText t (some (some (.dict (markerDict m)))) := rfl
  simp only [readGeneration, validatedMarker_of_valid h, get_candidateDigest, get_candidateRevision,
    get_status, h.candidateRevision] at hs
  refine ⟨by rw [hs]; rfl, by rw [hs]; rfl, by rw [hs], ?_⟩
  rw [hs]
  simp only [Value.asText, Option.some.injEq, Value.isText, decide_eq_true_eq]
  by_cases hmatch : m.candidateDigest = inventoryDigest codec t
  · simp only [hmatch, not_true_eq_false, if_false, if_true]
  · simp only [hmatch, not_false_eq_true, if_true, if_false]

/-- A written candidate continues the counter of a valid marker and keeps its proof. -/
lemma highWater_of_valid {m : MarkerFields} {revision : ℤ} (h : m.Valid revision) :
    highWater (some (.dict (markerDict m))) = some revision := by
  have hpos : 0 < revision := h.positive
  simp only [highWater, Option.bind_some, Value.asDict, get_schema, get_candidateRevision,
    h.candidateRevision]
  simp [asInt, ofOption, hpos]

lemma priorProof_of_valid {m : MarkerFields} {revision : ℤ} (h : m.Valid revision) :
    priorProof (some (.dict (markerDict m))) = m.verified := by
  simp only [priorProof, validatedMarker_of_valid h, get_verifiedDigest, get_verifiedRevision]
  rcases Option.eq_none_or_eq_some m.verified with hverified | ⟨v, hverified⟩
  · rw [hverified]
    rfl
  · obtain ⟨hd, hpos⟩ := h.verified hverified
    rw [hverified]
    exact proofTuple_of_some hd hpos

/-! ## What the operations do -/

/-- The row of the marker: absent before the first candidate, afterwards a valid marker. -/
inductive Row : Option Stored → ℤ → Option (Text × ℤ) → Prop
  | absent : Row none 0 none
  | marker {m : MarkerFields} {revision : ℤ} (h : m.Valid revision) :
      Row (some (some (.dict (markerDict m)))) revision m.verified

section Operations

variable {codec} {reprText : Text → Text} {t : Tables} {row : Option Stored} {revision : ℤ}
  {proof : Option (Text × ℤ)}

/-- **A candidate is written** in the next revision, and its proof is that of the marker before. -/
lemma writeCandidate_spec (force : Bool) (h : Row row revision proof)
    (hdigest : isDigest (inventoryDigest codec t) = true) :
    (writeCandidate codec force t row).Valid (revision + 1) ∧
    ∀ v, (writeCandidate codec force t row).verified = some v → ∃ v', proof = some v' ∧ v'.1 = v.1 := by
  cases h with
  | absent =>
      have hwritten : writeCandidate codec force t none =
          { status := "pending".toList, candidateDigest := inventoryDigest codec t
            candidateRevision := some 1, verified := none
            reason := some "inventory_changed_requires_native_publication".toList
            inventoryCount := inventoryCount t, nativeProof := none } := by
        simp [writeCandidate]
      rw [hwritten]
      exact ⟨⟨hdigest, rfl, le_refl _, Or.inr ⟨rfl, by rintro v ⟨⟩⟩⟩, by rintro v ⟨⟩⟩
  | @marker m revision h =>
      have hpos := h.positive
      simp only [writeCandidate, Option.isSome_some, Option.bind_some, highWater_of_valid h,
        Option.isNone_some, Bool.false_eq_true, and_false, if_false, Option.getD_some,
        priorProof_of_valid h]
      split_ifs with hreturn
      · obtain ⟨-, hsame⟩ := hreturn
        obtain ⟨v', hv', hdig⟩ := (Option.any_eq_true _ _).mp hsame
        refine ⟨⟨hdigest, rfl, by omega, Or.inl ⟨rfl, rfl⟩⟩, ?_⟩
        intro v hv
        rw [← Option.some.inj hv]
        exact ⟨v', hv', of_decide_eq_true hdig⟩
      · have hkept : ∀ v, (m.verified.filter fun v =>
            !(force && decide (v.1 = inventoryDigest codec t))) = some v →
            m.verified = some v ∧ v.1 ≠ inventoryDigest codec t := by
          intro v hv
          obtain ⟨hprior, hfilter⟩ := Option.filter_eq_some_iff.mp hv
          refine ⟨hprior, ?_⟩
          intro hsame
          cases force with
          | true => simp [hsame] at hfilter
          | false =>
              refine hreturn ⟨rfl, ?_⟩
              rw [hprior, Option.any_some]
              exact decide_eq_true hsame
        refine ⟨⟨hdigest, rfl, by omega, Or.inr ⟨rfl, ?_⟩⟩, fun v hv => ⟨v, (hkept v hv).1, rfl⟩⟩
        intro v hv
        obtain ⟨hv, hdiffers⟩ := hkept v hv
        obtain ⟨hdig, hpos'⟩ := h.verified hv
        have holder : v.2 ≤ revision := by
          rcases h.proof with ⟨-, hproof⟩ | ⟨-, hproof⟩
          · rw [hproof] at hv
            rw [← Option.some.inj hv]
          · exact (hproof v hv).2.2.2.le
        exact ⟨hdig, hpos', hdiffers, by omega⟩

/-- The state says that the inventory is the candidate's. -/
def GenerationState.Current (s : GenerationState) : Prop := s.status = .pending ∨ s.status = .verified

/-- **What the state says of the inventory.** -/
lemma readGeneration_current (h : Row row revision proof)
    (hcurrent : (readGeneration codec reprText t row).Current) :
    row ≠ none ∧
    (readGeneration codec reprText t row).candidateDigest = some (inventoryDigest codec t) ∧
    (readGeneration codec reprText t row).candidateRevision = some revision ∧
    ((readGeneration codec reprText t row).status = .verified →
      proof = some (inventoryDigest codec t, revision)) := by
  cases h with
  | absent =>
      simp only [GenerationState.Current, readGeneration] at hcurrent
      split_ifs at hcurrent <;> simp at hcurrent
  | @marker m revision h =>
      obtain ⟨hdigest, hrevision, -, hstatus⟩ :=
        readGeneration_of_valid codec reprText t h
      have hmatch : m.candidateDigest = inventoryDigest codec t := by
        by_contra hne
        rw [if_neg hne] at hstatus
        rcases hcurrent with hs | hs <;> rw [hstatus] at hs <;> cases hs
      refine ⟨by simp, hmatch ▸ hdigest, hrevision, ?_⟩
      intro hverified
      rw [hstatus, if_pos hmatch] at hverified
      rcases h.proof with ⟨-, hproof⟩ | ⟨hpending, -⟩
      · rw [hproof, hmatch]
      · rw [hpending, if_neg pending_ne_verified] at hverified
        cases hverified

/-- An empty state: no candidate was written and no server is owned. -/
lemma readGeneration_empty (h : Row row revision proof)
    (hempty : (readGeneration codec reprText t row).status = .empty) :
    row = none ∧ inventoryCount t = 0 := by
  cases h with
  | absent =>
      simp only [readGeneration] at hempty
      split_ifs at hempty with hcount
      exact ⟨rfl, hcount⟩
  | @marker m revision h =>
      obtain ⟨-, -, -, hstatus⟩ :=
        readGeneration_of_valid codec reprText t h
      rw [hstatus] at hempty
      split_ifs at hempty

lemma generationGate_none {s : GenerationState} {requireGuard guardHeld : Bool}
    (h : (generationGate s none requireGuard guardHeld).ok = true) :
    s.status = .empty ∨ s.status = .verified := by
  rw [generationGate] at h
  cases hs : s.status with
  | empty => exact Or.inl rfl
  | verified => exact Or.inr rfl
  | pending => simp [hs] at h
  | unknown => simp [hs] at h

lemma generationGate_some {s : GenerationState} {a : Admission} {requireGuard guardHeld : Bool}
    (h : (generationGate s (some a) requireGuard guardHeld).ok = true) :
    s.status = .empty ∨ s.Current ∧ s.candidateDigest = some a.digest ∧
      s.candidateRevision = some a.revision := by
  have howns : a.owns requireGuard guardHeld s = true →
      s.candidateDigest = some a.digest ∧ s.candidateRevision = some a.revision := by
    intro howns
    simp only [Admission.owns, Bool.and_eq_true, decide_eq_true_eq] at howns
    exact ⟨howns.1.2, howns.2⟩
  rw [generationGate] at h
  cases hs : s.status with
  | empty => exact Or.inl rfl
  | verified =>
      simp only [hs, Option.isNone_some, Bool.false_eq_true, if_false, Option.any_some] at h
      split_ifs at h with hown
      exact Or.inr ⟨Or.inr hs, howns hown⟩
  | pending =>
      simp only [hs, Option.any_some, true_and] at h
      split_ifs at h with hown
      exact Or.inr ⟨Or.inl hs, howns hown⟩
  | unknown => simp [hs] at h

lemma claimAdmission_some {refresh publication guardHeld : Bool} {expectedDigest : Option Text}
    {expectedRevision : Option ℤ} {s : GenerationState} {a : Admission}
    (h : claimAdmission refresh publication guardHeld expectedDigest expectedRevision s = .ok (some a)) :
    s.Current ∧ s.candidateDigest = some a.digest ∧ s.candidateRevision = some a.revision := by
  rw [claimAdmission] at h
  split_ifs at h with hmode hguard hverified hnone
  · cases hd : s.candidateDigest with
    | none => simp [hd] at h
    | some digest =>
        cases hr : s.candidateRevision with
        | none => simp [hd, hr] at h
        | some rev =>
            simp only [hd, hr] at h
            split_ifs at h
            · cases h
            · obtain rfl := Option.some.inj (Except.ok.inj h)
              exact ⟨Or.inr hverified.1, rfl, rfl⟩
  · cases h
  · split at h
    · rename_i digest rev hs hd hr
      obtain rfl := Option.some.inj (Except.ok.inj h)
      exact ⟨Or.inl hs, hd, hr⟩
    · cases h

lemma Admission.isVerifiedIn_iff {a : Admission} {s : GenerationState}
    (h : a.isVerifiedIn s = true) :
    s.Current ∧ s.candidateDigest = some a.digest ∧ s.candidateRevision = some a.revision := by
  simp only [Admission.isVerifiedIn, Bool.and_eq_true, decide_eq_true_eq] at h
  exact ⟨Or.inr h.1.1.1.1, h.1.1.1.2, h.1.1.2⟩

lemma optionalAnswer_ok {a : Admission} {s : GenerationState} (h : (optionalAnswer a s).ok = true) :
    a.isVerifiedIn s = true := by
  rw [optionalAnswer] at h
  split_ifs at h with hverified
  · exact hverified.1
  · cases h

lemma optionalVerifiedNoop_ok {a : Admission} {r : Readings} {s : GenerationState} {reason : String}
    (h : (optionalVerifiedNoop a r s reason).ok = true) : a.isVerifiedIn s = true := by
  rw [optionalVerifiedNoop] at h
  split_ifs at h
  · cases h
  · cases h
  · exact optionalAnswer_ok h

/-- What a promotion may write, and when it may answer ok. -/
structure Promotes (a : Admission) (s : GenerationState) (done : Promotion × Option MarkerFields) :
    Prop where
  current : done.1.ok = true → s.Current ∧ s.candidateDigest = some a.digest ∧
    s.candidateRevision = some a.revision
  marker : ∀ m, done.2 = some m → done.1.ok = true ∧ ∃ proof, m = verifiedMarker a s proof

lemma Promotes.answer {a : Admission} {s : GenerationState} {p : Promotion}
    (h : p.ok = true → a.isVerifiedIn s = true) : Promotes a s (p, none) where
  current hok := Admission.isVerifiedIn_iff (h hok)
  marker _ hm := by cases hm

lemma Promotes.refuse {a : Admission} {s : GenerationState} {reason : Text} {retained : Bool}
    {proofReason : Option Text} : Promotes a s (.refused reason retained proofReason, none) :=
  .answer (by rintro ⟨⟩)

lemma commitPromotion_promotes (a : Admission) (r : Readings) (s : GenerationState) :
    Promotes a s (commitPromotion a r s) := by
  simp only [commitPromotion]
  generalize (if r.proofStands = true then r.capturedProof else none) = proof
  split_ifs with hcore hfence hrefresh hoptional hverified hsame hstale
  · exact Promotes.refuse
  · exact Promotes.refuse
  · exact Promotes.refuse
  · exact .answer optionalAnswer_ok
  · exact .answer fun _ => hverified
  · refine ⟨fun _ => Admission.isVerifiedIn_iff hverified, ?_⟩
    intro m hm
    exact ⟨rfl, proof, (Option.some.inj hm).symm⟩
  · exact Promotes.refuse
  · simp only [not_or, not_not] at hstale
    refine ⟨fun _ => ⟨Or.inl hstale.1, hstale.2.1, hstale.2.2.1⟩, ?_⟩
    intro m hm
    exact ⟨rfl, proof, (Option.some.inj hm).symm⟩

/-- **A promotion** answers ok, or writes, only for the candidate of the current inventory. -/
lemma promoteGeneration_promotes {a : Admission} {r : Readings} {s : GenerationState}
    {done : Promotion × Option MarkerFields} (h : promoteGeneration a r s = .ok done) :
    Promotes a s done := by
  rw [promoteGeneration] at h
  split_ifs at h
  all_goals obtain rfl := Except.ok.inj h
  · exact Promotes.refuse
  · exact .answer optionalVerifiedNoop_ok
  · exact .answer optionalVerifiedNoop_ok
  · exact Promotes.refuse
  · exact Promotes.refuse
  · exact .answer optionalVerifiedNoop_ok
  · exact commitPromotion_promotes a r s

end Operations

/-! ## Histories -/

/-- An admission that was issued, with the inventory it was claimed for and the number of candidates
that had been written. -/
structure Issue where
  admission : Admission
  rows : InventoryRows
  written : ℕ

/-- The tables, the row of the marker, and what has happened: the number of candidates written, the
admissions issued and the inventories whose promotion succeeded. -/
structure History where
  tables : Tables
  row : Option Stored
  written : ℕ
  issued : List Issue
  promoted : List InventoryRows

inductive Op
  | change (tables : Tables) (candidate : Option Bool)
  | claim (allowVerifiedProofRefresh allowVerifiedPublication guardHeld : Bool)
      (expectedDigest : Option Text) (expectedRevision : Option ℤ)
  | promote (admission : Admission) (readings : Readings)

def store (m : MarkerFields) : Option Stored := some (some (.dict (markerDict m)))

/-- An inventory change, with or without the candidate that follows it in its transaction; a claim; a
promotion, of any admission. -/
def step (reprText : Text → Text) (h : History) : Op → History
  | .change tables none => { h with tables := tables }
  | .change tables (some force) =>
      { h with
        tables := tables, row := store (writeCandidate codec force tables h.row)
        written := h.written + 1 }
  | .claim refresh publication guardHeld expectedDigest expectedRevision =>
      match claimAdmission refresh publication guardHeld expectedDigest expectedRevision
          (readGeneration codec reprText h.tables h.row) with
      | .ok (some a) => { h with issued := ⟨a, inventoryRows h.tables, h.written⟩ :: h.issued }
      | _ => h
  | .promote a r =>
      match promoteGeneration a r (readGeneration codec reprText h.tables h.row) with
      | .ok (answer, marker) =>
          { h with
            row := match marker with
              | some m => store m
              | none => h.row
            promoted := if answer.ok then inventoryRows h.tables :: h.promoted else h.promoted }
      | .error _ => h

/-- A database without a marker. -/
def start (t : Tables) : History where
  tables := t
  row := none
  written := 0
  issued := []
  promoted := []

/-- The inventories of a run. -/
def Known (inventories : Set InventoryRows) : Op → Prop
  | .change tables _ => inventoryRows tables ∈ inventories
  | _ => True

/-- `candidate_revision` of the stored marker, 0 without one. -/
def revisionOf (row : Option Stored) : ℤ := (row.bind highWater).getD 0

/-- What holds of every state that is reached. -/
structure Sound (inventories : Set InventoryRows) (h : History) : Prop where
  known : inventoryRows h.tables ∈ inventories
  row : ∃ proof, Row h.row h.written proof ∧
    ∀ v, proof = some v → ∃ rows ∈ h.promoted, codec.sha256Hex (payload rows) = v.1
  issued : ∀ i ∈ h.issued, i.rows ∈ inventories ∧
    i.admission.digest = codec.sha256Hex (payload i.rows) ∧ i.admission.revision = i.written ∧
    h.row ≠ none
  promoted : ∀ rows ∈ h.promoted, rows ∈ inventories

section Histories

variable {codec} {reprText : Text → Text} {inventories : Set InventoryRows}

lemma start_sound {t : Tables} (ht : inventoryRows t ∈ inventories) :
    Sound codec inventories (start t) where
  known := ht
  row := ⟨none, Row.absent, by rintro v ⟨⟩⟩
  issued := by rintro i ⟨⟩
  promoted := by rintro i ⟨⟩

lemma Row.revisionOf {row : Option Stored} {revision : ℤ} {proof : Option (Text × ℤ)}
    (h : Row row revision proof) : revisionOf row = revision := by
  cases h with
  | absent => rfl
  | marker h => rw [Generation.revisionOf, Option.bind_some, highWater_of_valid h, Option.getD_some]

lemma Row.positive {row : Option Stored} {revision : ℤ} {proof : Option (Text × ℤ)}
    (h : Row row revision proof) (hne : row ≠ none) : 1 ≤ revision := by
  cases h with
  | absent => exact absurd rfl hne
  | marker h => exact h.positive

variable (hhex : ∀ rows ∈ inventories, isDigest (codec.sha256Hex (payload rows)) = true)

include hhex in
lemma candidate_sound {h : History} {tables : Tables} (force : Bool) (hinv : Sound codec inventories h)
    (hknown : inventoryRows tables ∈ inventories) :
    Sound codec inventories (step codec reprText h (.change tables (some force))) := by
  obtain ⟨proof, hrow, hproof⟩ := hinv.row
  obtain ⟨hvalid, hkept⟩ := writeCandidate_spec force hrow (hhex _ hknown)
  have hwritten : ((h.written + 1 : ℕ) : ℤ) = h.written + 1 := by push_cast; rfl
  refine ⟨hknown, ⟨(writeCandidate codec force tables h.row).verified, ?_, ?_⟩, ?_, hinv.promoted⟩
  · rw [step, hwritten]
    exact Row.marker hvalid
  · intro v hv
    obtain ⟨v', hv', hsame⟩ := hkept v hv
    obtain ⟨rows, hrows, hdigest⟩ := hproof v' hv'
    exact ⟨rows, hrows, hdigest.trans hsame⟩
  · intro i hi
    obtain ⟨hrows, hdigest, hrevision, -⟩ := hinv.issued i hi
    exact ⟨hrows, hdigest, hrevision, by simp [step, store]⟩

lemma claim_sound {h : History} {refresh publication guardHeld : Bool} {expectedDigest : Option Text}
    {expectedRevision : Option ℤ} (hinv : Sound codec inventories h) :
    Sound codec inventories (step codec reprText h
      (.claim refresh publication guardHeld expectedDigest expectedRevision)) := by
  obtain ⟨proof, hrow, -⟩ := hinv.row
  rw [step]
  split
  · rename_i a hclaim
    obtain ⟨hcurrent, hdigest, hrevision⟩ := claimAdmission_some hclaim
    obtain ⟨hne, hdigest', hrevision', -⟩ := readGeneration_current hrow hcurrent
    refine ⟨hinv.known, hinv.row, ?_, hinv.promoted⟩
    intro i hi
    rcases List.mem_cons.mp hi with rfl | hi
    · exact ⟨hinv.known, Option.some.inj (hdigest.symm.trans hdigest'),
        Option.some.inj (hrevision.symm.trans hrevision'), hne⟩
    · exact hinv.issued i hi
  · exact hinv

/-- The inventories promoted after a promotion. -/
def promotedAfter (h : History) (answer : Promotion) : List InventoryRows :=
  if answer.ok then inventoryRows h.tables :: h.promoted else h.promoted

lemma mem_promotedAfter {h : History} {answer : Promotion} {rows : InventoryRows}
    (hrows : rows ∈ h.promoted) : rows ∈ promotedAfter h answer := by
  rw [promotedAfter]
  split_ifs
  · exact List.mem_cons_of_mem _ hrows
  · exact hrows

lemma promotedAfter_known {h : History} {answer : Promotion} (hinv : Sound codec inventories h) :
    ∀ rows ∈ promotedAfter h answer, rows ∈ inventories := by
  intro rows hrows
  rw [promotedAfter] at hrows
  split_ifs at hrows
  · rcases List.mem_cons.mp hrows with rfl | hrows
    · exact hinv.known
    · exact hinv.promoted rows hrows
  · exact hinv.promoted rows hrows

include hhex in
lemma promote_sound {h : History} {a : Admission} {r : Readings} (hinv : Sound codec inventories h) :
    Sound codec inventories (step codec reprText h (.promote a r)) := by
  obtain ⟨proof, hrow, hproof⟩ := hinv.row
  rw [step]
  split
  · rename_i answer marker hdone
    have hpromotes := promoteGeneration_promotes hdone
    cases marker with
    | none =>
        refine ⟨hinv.known, ⟨proof, hrow, ?_⟩, hinv.issued, promotedAfter_known hinv⟩
        intro v hv
        obtain ⟨rows, hrows, hdigest⟩ := hproof v hv
        exact ⟨rows, mem_promotedAfter hrows, hdigest⟩
    | some m =>
        obtain ⟨hok, native, rfl⟩ := hpromotes.marker m rfl
        obtain ⟨hcurrent, hdigest, hrevision⟩ := hpromotes.current hok
        obtain ⟨hne, hdigest', hrevision', -⟩ := readGeneration_current hrow hcurrent
        have hd : a.digest = inventoryDigest codec h.tables :=
          Option.some.inj (hdigest.symm.trans hdigest')
        have hr : a.revision = h.written := Option.some.inj (hrevision.symm.trans hrevision')
        have hpos := hrow.positive hne
        have hhash : isDigest a.digest = true := by
          rw [hd]
          exact hhex _ hinv.known
        refine ⟨hinv.known, ⟨some (a.digest, a.revision), ?_, ?_⟩, ?_, promotedAfter_known hinv⟩
        · rw [← hr] at hpos ⊢
          exact Row.marker ⟨hhash, rfl, hpos, Or.inl ⟨rfl, rfl⟩⟩
        · intro v hv
          obtain rfl := Option.some.inj hv
          refine ⟨inventoryRows h.tables, ?_, hd.symm⟩
          simp [hok]
        · intro i hi
          obtain ⟨hrows, hdig, hrev, -⟩ := hinv.issued i hi
          exact ⟨hrows, hdig, hrev, by simp [store]⟩
  · exact hinv

include hhex in
/-- **One step.** -/
lemma step_sound {h : History} {op : Op} (hinv : Sound codec inventories h)
    (hop : Known inventories op) : Sound codec inventories (step codec reprText h op) := by
  cases op with
  | change tables candidate =>
      cases candidate with
      | none => exact ⟨hop, hinv.row, hinv.issued, hinv.promoted⟩
      | some force => exact candidate_sound hhex force hinv hop
  | claim refresh publication guardHeld expectedDigest expectedRevision => exact claim_sound hinv
  | promote a r => exact promote_sound hhex hinv

lemma Row.validated {row : Option Stored} {revision : ℤ} {proof : Option (Text × ℤ)}
    (h : Row row revision proof) {stored : Stored} (hstored : row = some stored) :
    ∃ marker, validatedMarker stored = .ok marker := by
  cases h with
  | absent => cases hstored
  | marker h =>
      obtain rfl := Option.some.inj hstored
      exact ⟨_, validatedMarker_of_valid h⟩

lemma Sound.revisionOf {h : History} (hinv : Sound codec inventories h) :
    revisionOf h.row = h.written := by
  obtain ⟨proof, hrow, -⟩ := hinv.row
  exact hrow.revisionOf

/-- The number of candidates goes up with a candidate, and with nothing else. -/
lemma step_written (h : History) (op : Op) :
    (step codec reprText h op).written =
      match op with
      | .change _ (some _) => h.written + 1
      | _ => h.written := by
  cases op with
  | change tables candidate => cases candidate <;> rfl
  | claim refresh publication guardHeld expectedDigest expectedRevision => rw [step]; split <;> rfl
  | promote a r => rw [step]; split <;> rfl

variable (hsha : Set.InjOn codec.sha256Hex (Set.image payload inventories))

include hsha in
lemma rows_eq {rows rows' : InventoryRows} (h : rows ∈ inventories) (h' : rows' ∈ inventories)
    (hdigest : codec.sha256Hex (payload rows) = codec.sha256Hex (payload rows')) : rows = rows' :=
  payload_injective (hsha (Set.mem_image_of_mem payload h) (Set.mem_image_of_mem payload h') hdigest)

end Histories

/-- **The generation fence is sound.**  In every state that is reached from a database without a
marker: the stored marker is accepted; a candidate raises the revision and nothing else changes it;
the gate without an admission is open only if no candidate was ever written and no server is owned,
or for an inventory whose promotion succeeded; with an admission it is open only while no candidate
has been written since the claim, for the inventory of the claim. -/
theorem generation_fence_sound (codec : Codec) (reprText : Text → Text)
    {inventories : Set InventoryRows}
    (hsha : Set.InjOn codec.sha256Hex (Set.image payload inventories))
    (hhex : ∀ rows ∈ inventories, isDigest (codec.sha256Hex (payload rows)) = true)
    {t : Tables} (ht : inventoryRows t ∈ inventories) {ops : List Op}
    (hrun : Run.Along (step codec reprText) (fun _ => Known inventories) (start t) ops) :
    let h := ops.foldl (step codec reprText) (start t)
    let state := readGeneration codec reprText h.tables h.row
    (∀ stored, h.row = some stored → ∃ marker, validatedMarker stored = .ok marker) ∧
    (∀ op, Known inventories op → match op with
      | .change _ (some _) => revisionOf h.row < revisionOf (step codec reprText h op).row
      | _ => revisionOf (step codec reprText h op).row = revisionOf h.row) ∧
    (∀ requireGuard guardHeld, (generationGate state none requireGuard guardHeld).ok = true →
      (h.written = 0 ∧ h.row = none ∧ (inventoryRows h.tables).servers = []) ∨
        inventoryRows h.tables ∈ h.promoted) ∧
    (∀ i ∈ h.issued, ∀ requireGuard guardHeld,
      (generationGate state (some i.admission) requireGuard guardHeld).ok = true →
      h.written = i.written ∧ inventoryRows h.tables = i.rows) := by
  intro h state
  have hinv : Sound codec inventories h :=
    hrun.keeps (fun _ _ hinv hop => step_sound hhex hinv hop) (start_sound ht)
  obtain ⟨proof, hrow, hproof⟩ := hinv.row
  refine ⟨fun stored hstored => hrow.validated hstored, ?_, ?_, ?_⟩
  · intro op hop
    have hnext : Sound codec inventories (step codec reprText h op) := step_sound hhex hinv hop
    rw [hinv.revisionOf, hnext.revisionOf, step_written]
    cases op with
    | change tables candidate =>
        cases candidate with
        | none => rfl
        | some force => exact Int.ofNat_lt.mpr (Nat.lt_succ_self _)
    | claim refresh publication guardHeld expectedDigest expectedRevision => rfl
    | promote a r => rfl
  · intro requireGuard guardHeld hgate
    rcases generationGate_none hgate with hempty | hverified
    · obtain ⟨hnone, hcount⟩ := readGeneration_empty hrow hempty
      refine Or.inl ⟨?_, hnone, List.length_eq_zero_iff.mp hcount⟩
      have hzero := hinv.revisionOf
      rw [hnone] at hzero
      exact (Int.natCast_eq_zero.mp hzero.symm)
    · obtain ⟨-, -, -, hproven⟩ := readGeneration_current hrow (Or.inr hverified)
      obtain ⟨rows, hrows, hdigest⟩ := hproof _ (hproven hverified)
      rw [← rows_eq hsha (hinv.promoted rows hrows) hinv.known hdigest]
      exact Or.inr hrows
  · intro i hi requireGuard guardHeld hgate
    obtain ⟨hrows, hdigest, hrevision, hne⟩ := hinv.issued i hi
    rcases generationGate_some hgate with hempty | ⟨hcurrent, hdigest', hrevision'⟩
    · exact absurd (readGeneration_empty hrow hempty).1 hne
    · obtain ⟨-, hcandidate, hcounter, -⟩ := readGeneration_current hrow hcurrent
      constructor
      · have hsame : (h.written : ℤ) = i.written := by
          rw [← hrevision]
          exact Option.some.inj (hcounter.symm.trans hrevision')
        exact_mod_cast hsame
      · refine rows_eq hsha hinv.known hrows ?_
        rw [← hdigest]
        exact Option.some.inj (hcandidate.symm.trans hdigest')

/-! ### A first inventory that is published -/

def oneServer : Tables where
  servers := ⟨[("s1".toList,
    { serverName := "One".toList, providerName := some subscriptionProvider, countryCode := none
      region := none, rawJson := some ['\x7b', '\x7d'], inventoryState := .active
      missingSince := none })], by decide⟩
  memberships := SqlTable.Table.empty
  customProxies := []

def noServers : Tables where
  servers := SqlTable.Table.empty
  memberships := SqlTable.Table.empty
  customProxies := []

/-- The digests of the two inventories. -/
def exampleCodec : Codec where
  sha256Hex text :=
    if text = payload (inventoryRows oneServer) then
      "f5cf5a1f89616a8d270408bd847dbd6d7b8364ba890fb3d5a010ece9c14fe825".toList
    else "af728a1ed312383e05e955f5248fe8d429aac373361233edb0e405299598e97f".toList
  dumps _ := ['\x7b', '\x7d']
  loads _ := some (.dict [])

def exampleReadings : Readings where
  guardHeld := true
  fingerprintAvailable := true
  receipt := some (true, true)
  noopRaises := false
  runtimeFencesMatch := true
  capturedProof := none
  capturedReason := none
  coreUnavailable := none
  durableFencesMatch := true
  proofStands := true
  sameProof _ _ := true

/-- The inventory changes, the candidate is claimed and promoted. -/
def publish : List Op :=
  [.change oneServer (some false), .claim false false true none none,
    .promote { digest := exampleCodec.sha256Hex (payload (inventoryRows oneServer)), revision := 1
               issued := true, requiresNativeProofRefresh := false
               optionalVerifiedPublication := false, proofOnly := false } exampleReadings]

/-- The gate is open afterwards, for the inventory that was promoted. -/
theorem published_inventory_admitted :
    let h := publish.foldl (step exampleCodec id) (start noServers)
    (generationGate (readGeneration exampleCodec id h.tables h.row) none false false).ok = true ∧
    inventoryRows h.tables ∈ h.promoted := by
  have hgate : (generationGate (readGeneration exampleCodec id
      (publish.foldl (step exampleCodec id) (start noServers)).tables
      (publish.foldl (step exampleCodec id) (start noServers)).row) none false false).ok = true := by
    decide +kernel
  have hwritten : (publish.foldl (step exampleCodec id) (start noServers)).written ≠ 0 := by
    decide +kernel
  have hsha : Set.InjOn exampleCodec.sha256Hex
      (Set.image payload {inventoryRows noServers, inventoryRows oneServer}) := by
    rintro text ⟨rows, rfl | rfl, rfl⟩ text' ⟨rows', rfl | rfl, rfl⟩ hsame
    · rfl
    · exact absurd hsame (by decide +kernel)
    · exact absurd hsame (by decide +kernel)
    · rfl
  have hhex : ∀ rows ∈ ({inventoryRows noServers, inventoryRows oneServer} : Set InventoryRows),
      isDigest (exampleCodec.sha256Hex (payload rows)) = true := by
    rintro rows (rfl | rfl)
    · decide +kernel
    · decide +kernel
  have hrun : Run.Along (step exampleCodec id)
      (fun _ => Known {inventoryRows noServers, inventoryRows oneServer}) (start noServers) publish :=
    ⟨Or.inr rfl, trivial, trivial, trivial⟩
  obtain ⟨-, -, hopen, -⟩ := generation_fence_sound exampleCodec id hsha hhex (Or.inl rfl) hrun
  refine ⟨hgate, ?_⟩
  rcases hopen false false hgate with ⟨hzero, -⟩ | hpromoted
  · exact absurd hzero hwritten
  · exact hpromoted

end FwRouter.Subscription.Generation
