import FwRouter.Subscription.NodeIdentity

/-!
# Retired credentials stay retired

A client UUID that was rotated out or revoked is kept in the history, and the operations refuse to
give it out again.  The history is read before the old UUID is moved into it, so that one rotation
escapes: the one whose derived UUID is the UUID that the row has at that moment.  Along the runs
without such a rotation no live credential is in the history, and each rotation gives a new UUID.
-/

namespace FwRouter.Subscription

open Py

/-- No live credential has a client UUID of the history. -/
def LiveNotRetired (t : IdentityTables) : Prop :=
  ∀ c ∈ t.credentials, c.revoked = false → ∀ r ∈ t.history, r.clientUuid ≠ c.clientUuid

instance (t : IdentityTables) : Decidable (LiveNotRetired t) :=
  inferInstanceAs (Decidable (∀ c ∈ t.credentials, c.revoked = false →
    ∀ r ∈ t.history, r.clientUuid ≠ c.clientUuid))

/-- A rotation that is not a replay leaves a client UUID other than the one it found. -/
def Rotation.Renews (H : Hashing) (a : Rotation) (t : IdentityTables) : Prop :=
  ∀ row reply t', findCredential a.scope a.identityId t = some row → row.epoch = a.expectedEpoch →
    rotateCredentials H a t = .ok (reply, t') →
      ∃ row', findCredential a.scope a.identityId t' = some row' ∧
        row'.clientUuid ≠ row.clientUuid

/-- The rotation is admitted at the epoch of a live row, and the UUID it derives is the row's. -/
def Rotation.Repeats (H : Hashing) (a : Rotation) (t : IdentityTables) : Prop :=
  a.operationId ≠ [] ∧ a.operationId.length ≤ 256 ∧
    ∃ row ∈ t.credentials, row.scope = a.scope ∧ row.identityId = a.identityId ∧
      row.revoked = false ∧ row.epoch = a.expectedEpoch ∧ row.clientUuid = a.newUuid H

def Op.Repeats (H : Hashing) (t : IdentityTables) : Op → Prop
  | .rotateCredentials a => a.Repeats H t
  | _ => False

variable {H : Hashing} {t t' : IdentityTables}

/-! ## Rows and their keys -/

lemma credential_eq_of_key {c d : Credential} (hc : c ∈ t.credentials) (hd : d ∈ t.credentials)
    (hscope : c.scope = d.scope) (hidentity : c.identityId = d.identityId) : c = d := by
  obtain ⟨-, -, -, -, hkeys, -⟩ := t.valid
  exact List.inj_on_of_nodup_map hkeys hc hd (Prod.ext hscope hidentity)

lemma credential_eq_of_uuid {c d : Credential} (hc : c ∈ t.credentials) (hd : d ∈ t.credentials)
    (huuid : c.clientUuid = d.clientUuid) : c = d := by
  obtain ⟨-, -, -, -, -, huuids, -⟩ := t.valid
  exact List.inj_on_of_nodup_map huuids hc hd huuid

lemma findCredential_iff {scope identityId : Text} {row : Credential} :
    findCredential scope identityId t = some row ↔
      row ∈ t.credentials ∧ row.scope = scope ∧ row.identityId = identityId := by
  constructor
  · exact findCredential_some
  · rintro ⟨hmem, rfl, rfl⟩
    -- a row with the key is found, and it is this one
    have hsome : (findCredential row.scope row.identityId t).isSome := by
      rw [findCredential, List.find?_isSome]
      exact ⟨row, hmem, by simp⟩
    obtain ⟨found, hfound⟩ := Option.isSome_iff_exists.mp hsome
    obtain ⟨hfmem, hscope, hidentity⟩ := findCredential_some hfound
    rw [hfound, credential_eq_of_key hfmem hmem hscope hidentity]

/-! ## One operation -/

/-- `register_node` does not touch the credentials. -/
lemma registerNode_credentials {serverId identityId : Text}
    (h : registerNode H serverId t = .ok (identityId, t')) :
    t'.credentials = t.credentials ∧ t'.history = t.history := by
  rcases registerNode_cases h with ⟨-, rfl⟩ | ⟨-, hrows⟩
  · exact ⟨rfl, rfl⟩
  · rw [hrows]
    exact ⟨rfl, rfl⟩

/-- Neither does a migration: an identity keeps its credentials. -/
lemma migrateProfileProvenance_credentials {m : Migration} {identityId : Text}
    (h : migrateProfileProvenance H m t = .ok (identityId, t')) :
    t'.credentials = t.credentials ∧ t'.history = t.history := by
  rcases migrateProfileProvenance_cases h with
    rfl | ⟨t₁, hregister, rfl | ⟨_, _, _, _, _, _, _, hadvance⟩⟩
  · exact ⟨rfl, rfl⟩
  · exact registerNode_credentials hregister
  · rw [(advanceIdentity_rows hadvance).2]
    exact registerNode_credentials hregister

lemma LiveNotRetired.of_frame (hinv : LiveNotRetired t)
    (hframe : t'.credentials = t.credentials ∧ t'.history = t.history) : LiveNotRetired t' := by
  rw [LiveNotRetired, hframe.1, hframe.2]
  exact hinv

lemma LiveNotRetired.retainCredentials {a : Retention} {reply : Credential}
    (hinv : LiveNotRetired t) (h : retainCredentials H a t = .ok (reply, t')) :
    LiveNotRetired t' := by
  obtain ⟨identityId, t₁, hregister, hwrite⟩ := retainCredentials_cases h
  have hinv₁ := hinv.of_frame (registerNode_credentials hregister)
  rcases hwrite with rfl | ⟨hfresh, hrows⟩
  · exact hinv₁
  · rw [LiveNotRetired, hrows]
    intro c hc hlive r hr
    rcases List.mem_append.mp hc with hc | hc
    · exact hinv₁ c hc hlive r hr
    · obtain rfl := List.mem_singleton.mp hc
      exact hfresh r hr

/-- A live row is superseded by a row that is a tombstone or has a fresh UUID. -/
lemma LiveNotRetired.supersede {row reply : Credential} {sha : Text}
    {next : Credential → Credential} (hinv : LiveNotRetired t) (hrow : row ∈ t.credentials)
    (hlive : row.revoked = false)
    (hnext : (next row).revoked = false → (next row).clientUuid ≠ row.clientUuid ∧
      ∀ r ∈ t.history, r.clientUuid ≠ (next row).clientUuid)
    (h : supersede row sha next t = .ok (reply, t')) : LiveNotRetired t' := by
  rw [LiveNotRetired, (supersede_rows h).2]
  intro c hc hclive r hr
  obtain ⟨d, hd, rfl⟩ := List.mem_map.mp hc
  split at hclive
  · rename_i hkey
    rw [if_pos hkey]
    obtain rfl := credential_eq_of_key hd hrow hkey.1 hkey.2.1
    obtain ⟨hother, hfresh⟩ := hnext hclive
    rcases List.mem_append.mp hr with hr | hr
    · exact hfresh r hr
    · obtain rfl := List.mem_singleton.mp hr
      exact hother.symm
  · rename_i hkey
    rw [if_neg hkey]
    rcases List.mem_append.mp hr with hr | hr
    · exact hinv d hd hclive r hr
    · obtain rfl := List.mem_singleton.mp hr
      intro hsame
      obtain rfl := credential_eq_of_uuid hrow hd hsame
      exact hkey ⟨rfl, rfl, rfl, hlive⟩

lemma LiveNotRetired.rotateCredentials {a : Rotation} {reply : Credential}
    (hinv : LiveNotRetired t) (hok : ¬a.Repeats H t)
    (h : rotateCredentials H a t = .ok (reply, t')) : LiveNotRetired t' := by
  obtain ⟨hne, hlen, row, hfound, hlive, ⟨rfl, -⟩ | ⟨hepoch, hfresh, hwrite⟩⟩ :=
    rotateCredentials_cases h
  · exact hinv
  · obtain ⟨hrow, hscope, hidentity⟩ := findCredential_some hfound
    refine hinv.supersede hrow hlive ?_ hwrite
    intro _
    refine ⟨?_, hfresh⟩
    intro hsame
    exact hok ⟨hne, hlen, row, hrow, hscope, hidentity, hlive, hepoch, hsame.symm⟩

lemma LiveNotRetired.revokeCredentials {a : Revocation} {reply : Credential}
    (hinv : LiveNotRetired t) (h : revokeCredentials H a t = .ok (reply, t')) :
    LiveNotRetired t' := by
  obtain ⟨row, hfound, ⟨rfl, -⟩ | ⟨hlive, -, sha, hwrite⟩⟩ := revokeCredentials_cases h
  · exact hinv
  · refine hinv.supersede (findCredential_some hfound).1 hlive ?_ hwrite
    intro hcontra
    cases hcontra

/-- **One transaction keeps the live credentials out of the history.** -/
lemma LiveNotRetired.step {op : Op} (hinv : LiveNotRetired t) (hok : ¬op.Repeats H t) :
    LiveNotRetired (step H t op) := by
  cases op with
  | registerNode serverId =>
      exact Run.orRollback_keeps hinv fun _ _ h => hinv.of_frame (registerNode_credentials h)
  | retainCredentials a =>
      exact Run.orRollback_keeps hinv fun _ _ h => hinv.retainCredentials h
  | rotateCredentials a =>
      exact Run.orRollback_keeps hinv fun _ _ h => hinv.rotateCredentials hok h
  | revokeCredentials a =>
      exact Run.orRollback_keeps hinv fun _ _ h => hinv.revokeCredentials h
  | migrateProfileProvenance m =>
      exact Run.orRollback_keeps hinv fun _ _ h =>
        hinv.of_frame (migrateProfileProvenance_credentials h)

/-- A rotation that does not repeat the row's UUID renews it. -/
lemma Rotation.renews {a : Rotation} (hok : ¬a.Repeats H t) : a.Renews H t := by
  intro row reply t' hfound hepoch h
  obtain ⟨hne, hlen, row₁, hfound₁, hlive, hcase⟩ := rotateCredentials_cases h
  obtain rfl : row₁ = row := Option.some.inj (hfound₁.symm.trans hfound)
  obtain ⟨hrow, hscope, hidentity⟩ := findCredential_some hfound
  rcases hcase with ⟨-, hreplay, -⟩ | ⟨-, -, hwrite⟩
  · omega
  · refine ⟨{ row₁ with clientUuid := a.newUuid H, epoch := row₁.epoch + 1 }, ?_, ?_⟩
    · rw [findCredential_iff, (supersede_rows hwrite).2]
      refine ⟨List.mem_map.mpr ⟨row₁, hrow, ?_⟩, hscope, hidentity⟩
      rw [if_pos ⟨rfl, rfl, rfl, hlive⟩]
    · intro hsame
      exact hok ⟨hne, hlen, row₁, hrow, hscope, hidentity, hlive, hepoch, hsame.symm⟩

/-! ## The rotation that repeats -/

lemma store_of_valid {r : Rows} (h : r.Valid) : store r = .ok ⟨r, h⟩ := by
  rw [store, dif_pos h]

/-- A row with the key and the epoch of a live row is that row. -/
lemma countP_live {row : Credential} (hrow : row ∈ t.credentials) (hlive : row.revoked = false) :
    t.credentials.countP (fun c => decide (c.scope = row.scope ∧ c.identityId = row.identityId ∧
      c.epoch = row.epoch ∧ c.revoked = false)) = 1 := by
  have hnodup : t.credentials.Nodup := by
    obtain ⟨-, -, -, -, -, huuids, -⟩ := t.valid
    exact huuids.of_map _
  rw [← List.count_eq_one_of_mem hnodup hrow, List.count_eq_countP]
  refine List.countP_congr ?_
  intro c hc
  simp only [decide_eq_true_eq, beq_iff_eq]
  constructor
  · rintro ⟨hscope, hidentity, -⟩
    exact credential_eq_of_key hc hrow hscope hidentity
  · rintro rfl
    exact ⟨rfl, rfl, rfl, hlive⟩

/-- With the row's own UUID the supersession leaves every column but the epoch. -/
lemma map_superseded {row : Credential} {κ : Type} (hrow : row ∈ t.credentials)
    (key : Credential → κ) (hkey : ∀ c e, key { c with epoch := e } = key c) :
    (t.credentials.map fun c =>
      if c.scope = row.scope ∧ c.identityId = row.identityId ∧ c.epoch = row.epoch ∧
        c.revoked = false then { c with clientUuid := row.clientUuid, epoch := c.epoch + 1 }
      else c).map key = t.credentials.map key := by
  rw [List.map_map]
  refine List.map_congr_left ?_
  intro c hc
  rw [Function.comp_apply]
  split
  · rename_i hmatch
    obtain rfl := credential_eq_of_key hc hrow hmatch.1 hmatch.2.1
    exact hkey c _
  · rfl

/-- The UUID of a live row can be retired: it is not in the history yet. -/
lemma valid_retired {row : Credential} (sha : Text) (hinv : LiveNotRetired t)
    (hrow : row ∈ t.credentials) (hlive : row.revoked = false) :
    Rows.Valid { t.toRows with history := t.history ++
      [⟨row.clientUuid, row.scope, row.identityId, row.epoch, sha⟩] } := by
  obtain ⟨h₁, h₂, h₃, h₄, h₅, h₆, h₇, h₈, h₉, hhistory⟩ := t.valid
  refine ⟨h₁, h₂, h₃, h₄, h₅, h₆, h₇, h₈, h₉, ?_⟩
  rw [List.map_append, List.nodup_append]
  refine ⟨hhistory, by simp, ?_⟩
  rintro u hu v hv rfl
  obtain ⟨r, hr, rfl⟩ := List.mem_map.mp hu
  exact hinv row hrow hlive r hr (by simpa using hv)

lemma supersede_same {row : Credential} (sha : Text) (hinv : LiveNotRetired t)
    (hrow : row ∈ t.credentials) (hlive : row.revoked = false) :
    ∃ t', supersede row sha
      (fun c => { c with clientUuid := row.clientUuid, epoch := c.epoch + 1 }) t =
        .ok ({ row with epoch := row.epoch + 1 }, t') := by
  have hretired := valid_retired sha hinv hrow hlive
  have hvalid : Rows.Valid { t.toRows with
      credentials := t.credentials.map fun c =>
        if c.scope = row.scope ∧ c.identityId = row.identityId ∧ c.epoch = row.epoch ∧
          c.revoked = false then { c with clientUuid := row.clientUuid, epoch := c.epoch + 1 }
        else c
      history := t.history ++ [⟨row.clientUuid, row.scope, row.identityId, row.epoch, sha⟩] } := by
    obtain ⟨h₁, h₂, h₃, h₄, hkeys, huuids, hemails, h₈, h₉, h₁₀⟩ := hretired
    refine ⟨h₁, h₂, h₃, h₄, ?_, ?_, ?_, h₈, h₉, h₁₀⟩
    · rw [map_superseded hrow (fun c => (c.scope, c.identityId)) fun _ _ => rfl]
      exact hkeys
    · rw [map_superseded hrow Credential.clientUuid fun _ _ => rfl]
      exact huuids
    · rw [map_superseded hrow Credential.clientEmail fun _ _ => rfl]
      exact hemails
  refine ⟨⟨_, hvalid⟩, ?_⟩
  simp only [supersede, store_of_valid hretired, bind, Except.bind, countP_live hrow hlive,
    decide_eq_true_eq, ne_eq, not_true_eq_false, if_false]
  rw [store_of_valid hvalid]
  rfl

/-- **The repeated rotation retires the UUID of a live row.** -/
lemma Rotation.Repeats.not_liveNotRetired {a : Rotation} (hinv : LiveNotRetired t)
    (hrepeat : a.Repeats H t) : ¬LiveNotRetired (step H t (.rotateCredentials a)) := by
  obtain ⟨hne, hlen, row, hrow, hscope, hidentity, hlive, hepoch, huuid⟩ := hrepeat
  obtain ⟨t', hwrite⟩ := supersede_same (H.digest (.operation a.operationId)) hinv hrow hlive
  have hdone : rotateCredentials H a t = .ok ({ row with epoch := row.epoch + 1 }, t') := by
    have hfound := findCredential_iff.mpr ⟨hrow, hscope, hidentity⟩
    rw [rotateCredentials, if_neg (by simp [hne, hlen]), hfound]
    dsimp only
    rw [if_neg (by simp [hlive]), if_neg (by omega), if_neg (not_not.mpr hepoch), if_neg, if_neg,
      ← huuid]
    · exact hwrite
    · rintro ⟨r, hr, hsame⟩
      exact hinv row hrow hlive r hr (hsame.trans huuid.symm)
    · rintro ⟨c, hc, hsame, hother⟩
      obtain rfl := credential_eq_of_uuid hc hrow (hsame.trans huuid.symm)
      exact hother hidentity
  intro hafter
  have hstep : step H t (.rotateCredentials a) = t' := by
    simp only [step, Run.orRollback, hdone]
  rw [hstep, LiveNotRetired, (supersede_rows hwrite).2] at hafter
  refine hafter { row with epoch := row.epoch + 1 } (List.mem_map.mpr ⟨row, hrow, ?_⟩) hlive
    ⟨row.clientUuid, row.scope, row.identityId, row.epoch, _⟩
    (List.mem_append_right _ (List.mem_singleton_self _)) rfl
  rw [if_pos ⟨rfl, rfl, rfl, hlive⟩]

/-! ## Runs -/

/-- **Retired credentials stay retired, exactly along the runs without a repeated rotation.** -/
theorem retired_stay_retired (H : Hashing) (ops : List Op) :
    (∀ done, done <+: ops →
      LiveNotRetired (done.foldl (step H) .empty) ∧
      ∀ a, done ++ [.rotateCredentials a] <+: ops → a.Renews H (done.foldl (step H) .empty)) ↔
    Run.Along (step H) (fun t op => ¬op.Repeats H t) .empty ops := by
  constructor
  · intro hall
    rw [Run.along_iff_prefix]
    intro done op hdone hrepeat
    cases op with
    | rotateCredentials a =>
        have hbefore := (hall done ((List.prefix_append _ _).trans hdone)).1
        have hafter := (hall (done ++ [.rotateCredentials a]) hdone).1
        rw [List.foldl_append] at hafter
        exact Rotation.Repeats.not_liveNotRetired hbefore hrepeat hafter
    | _ => exact hrepeat
  · rintro hrun done ⟨rest, rfl⟩
    constructor
    · refine Run.Along.keeps (I := LiveNotRetired) (fun t op hinv hok => hinv.step hok) ?_
        (Run.along_append.mp hrun).1
      intro c hc
      cases hc
    · intro a ha
      exact Rotation.renews (Run.along_iff_prefix.mp hrun done _ ha)

/-- `uuid5` at the two names of the run below; elsewhere it keeps different names apart. -/
def sampleHashing : Hashing where
  uuid5 name :=
    if name = "fwrouter-logical-node:sub:a".toList then
      "1c1b8226-8a83-5d7a-946b-a0d0db6211c2".toList
    else if name = ("fwrouter-rotation:1c1b8226-8a83-5d7a-946b-a0d0db6211c2:xray:op-1").toList then
      "4964156c-fc36-518a-bdad-5a348de0727e".toList
    else 'x' :: name
  digest
    | .legacyServer serverId => 'l' :: serverId
    | .provenance json => 'p' :: json
    | .sources sourceIds => 's' :: sourceIds.flatten
    | .proof beforeSha afterSha ownershipSha => 'f' :: beforeSha ++ afterSha ++ ownershipSha
    | .operation text => 'o' :: text
  isUuid text := decide (text.length = 36)

lemma sampleHashing_injective : Function.Injective sampleHashing.uuid5 := by
  intro a b hab
  simp only [sampleHashing] at hab
  -- the two UUIDs differ, and neither starts as the names elsewhere do
  split_ifs at hab <;> simp_all

/-- The credential of `sub:a` is rotated twice, with one operation id. -/
def sampleOps : List Op :=
  let identityId := "1c1b8226-8a83-5d7a-946b-a0d0db6211c2".toList
  [.retainCredentials ⟨"xray".toList, "sub:a".toList,
      "00000000-0000-4000-8000-000000000001".toList, "a@example".toList⟩,
    .rotateCredentials ⟨"xray".toList, identityId, 1, "op-1".toList⟩,
    .rotateCredentials ⟨"xray".toList, identityId, 2, "op-1".toList⟩]

theorem rotation_retires_live_uuid :
    Function.Injective sampleHashing.uuid5 ∧
      ¬LiveNotRetired (sampleOps.foldl (step sampleHashing) .empty) ∧
      ((sampleOps.take 2).foldl (step sampleHashing) .empty).credentials.map
          (fun c => (c.clientUuid, c.epoch)) =
        [("4964156c-fc36-518a-bdad-5a348de0727e".toList, 2)] ∧
      (sampleOps.foldl (step sampleHashing) .empty).credentials.map
          (fun c => (c.clientUuid, c.epoch)) =
        [("4964156c-fc36-518a-bdad-5a348de0727e".toList, 3)] := by
  refine ⟨sampleHashing_injective, ?_, ?_, ?_⟩
  · decide +kernel
  · decide +kernel
  · decide +kernel

end FwRouter.Subscription
