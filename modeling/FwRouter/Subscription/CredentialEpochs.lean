import FwRouter.Subscription.Credentials

/-!
# Credential epochs

The epoch of a credential counts its retirements: it starts at 1, and every rotation and every
revocation moves the row on by one and leaves one row in the history.  The two operations that move it
expect the epoch they start from, so that a repeated call finds its own result and answers it without
a write.
-/

namespace FwRouter.Subscription

open Py

/-- How often the credential of an identity in a scope was retired. -/
def retirements (t : IdentityTables) (scope identityId : Text) : ℕ :=
  t.history.countP fun r => decide (r.scope = scope ∧ r.identityId = identityId)

/-- Every epoch counts the retirements of its row, and what was retired belongs to a row. -/
structure EpochsCount (t : IdentityTables) : Prop where
  counts : ∀ c ∈ t.credentials, c.epoch = 1 + retirements t c.scope c.identityId
  owned : ∀ r ∈ t.history, ∃ c ∈ t.credentials, c.scope = r.scope ∧ c.identityId = r.identityId

variable {H : Hashing} {t t' : IdentityTables}

/-! ## The count -/

lemma EpochsCount.of_empty (hcredentials : t.credentials = []) (hhistory : t.history = []) :
    EpochsCount t := by
  refine ⟨fun c hc => ?_, fun r hr => ?_⟩
  · rw [hcredentials] at hc
    cases hc
  · rw [hhistory] at hr
    cases hr

lemma EpochsCount.of_frame (hinv : EpochsCount t)
    (hframe : t'.credentials = t.credentials ∧ t'.history = t.history) : EpochsCount t' := by
  refine ⟨fun c hc => ?_, fun r hr => ?_⟩
  · rw [hframe.1] at hc
    rw [retirements, hframe.2]
    exact hinv.counts c hc
  · rw [hframe.2] at hr
    rw [hframe.1]
    exact hinv.owned r hr

/-- A first row has no history: the history belongs to rows, and no row had its key. -/
lemma EpochsCount.retainCredentials {a : Retention} {reply : Credential} (hinv : EpochsCount t)
    (h : retainCredentials H a t = .ok (reply, t')) : EpochsCount t' := by
  obtain ⟨identityId, t₁, hregister, hwrite⟩ := retainCredentials_cases h
  have hinv₁ := hinv.of_frame (registerNode_credentials hregister)
  rcases hwrite with rfl | ⟨-, hrows⟩
  · exact hinv₁
  have hcredentials := congrArg Rows.credentials hrows
  have hhistory := congrArg Rows.history hrows
  dsimp only at hcredentials hhistory
  set first : Credential := ⟨a.scope, identityId, a.clientUuid, a.clientEmail, 1, false⟩ with hfirst
  refine ⟨fun c hc => ?_, fun r hr => ?_⟩
  · rw [retirements, hhistory]
    rw [hcredentials] at hc
    rcases List.mem_append.mp hc with hc | hc
    · exact hinv₁.counts c hc
    · obtain rfl := List.mem_singleton.mp hc
      have hnone : t₁.history.countP (fun r =>
          decide (r.scope = first.scope ∧ r.identityId = first.identityId)) = 0 := by
        rw [List.countP_eq_zero]
        intro r hr hkey
        rw [decide_eq_true_eq] at hkey
        obtain ⟨d, hd, hscope, hidentity⟩ := hinv₁.owned r hr
        -- the two rows of one key would be one row
        have hnodup : (t'.credentials.map fun c => (c.scope, c.identityId)).Nodup := by
          obtain ⟨-, -, -, -, hkeys, -⟩ := t'.valid
          exact hkeys
        rw [hcredentials, List.map_append, List.nodup_append] at hnodup
        refine hnodup.2.2 _ (List.mem_map_of_mem hd) (first.scope, first.identityId) (by simp) ?_
        exact Prod.ext (hscope.trans hkey.1) (hidentity.trans hkey.2)
      rw [hnone]
      rfl
  · rw [hhistory] at hr
    obtain ⟨c, hc, hkey⟩ := hinv₁.owned r hr
    rw [hcredentials]
    exact ⟨c, List.mem_append_left _ hc, hkey⟩

/-- A row is moved on by one epoch and leaves one row in the history. -/
lemma EpochsCount.supersede {row reply : Credential} {sha : Text} {next : Credential → Credential}
    (hinv : EpochsCount t) (hrow : row ∈ t.credentials) (hlive : row.revoked = false)
    (hscope : (next row).scope = row.scope) (hidentity : (next row).identityId = row.identityId)
    (hepoch : (next row).epoch = row.epoch + 1)
    (h : supersede row sha next t = .ok (reply, t')) : EpochsCount t' := by
  obtain ⟨-, hrows⟩ := supersede_rows h
  have hcredentials := congrArg Rows.credentials hrows
  have hhistory := congrArg Rows.history hrows
  dsimp only at hcredentials hhistory
  -- a row keeps its key, and only `row` itself is moved on
  have hmoved : ∀ c ∈ t.credentials, (if c.scope = row.scope ∧ c.identityId = row.identityId ∧
      c.epoch = row.epoch ∧ c.revoked = false then next c else c) = if c = row then next row else c := by
    intro c hc
    by_cases hsame : c = row
    · subst hsame
      rw [if_pos ⟨rfl, rfl, rfl, hlive⟩, if_pos rfl]
    · rw [if_neg hsame, if_neg]
      rintro ⟨hcscope, hcidentity, -⟩
      exact hsame (credential_eq_of_key hc hrow hcscope hcidentity)
  have hcount : ∀ scope identityId, retirements t' scope identityId =
      retirements t scope identityId +
        if row.scope = scope ∧ row.identityId = identityId then 1 else 0 := by
    intro scope identityId
    rw [retirements, hhistory, List.countP_append, List.countP_singleton]
    simp only [decide_eq_true_eq]
    rfl
  rw [List.map_congr_left hmoved] at hcredentials
  refine ⟨fun c hc => ?_, fun r hr => ?_⟩
  · rw [hcredentials] at hc
    obtain ⟨d, hd, rfl⟩ := List.mem_map.mp hc
    by_cases hsame : d = row
    · rw [if_pos hsame, hscope, hidentity, hepoch, hcount, if_pos ⟨rfl, rfl⟩,
        hinv.counts row hrow]
      push_cast
      ring
    · rw [if_neg hsame, hcount, if_neg, hinv.counts d hd, Nat.add_zero]
      rintro ⟨hdscope, hdidentity⟩
      exact hsame (credential_eq_of_key hd hrow hdscope.symm hdidentity.symm)
  · have howned : ∀ d ∈ t.credentials, ∃ c ∈ t'.credentials, c.scope = d.scope ∧
        c.identityId = d.identityId := by
      intro d hd
      rw [hcredentials]
      refine ⟨_, List.mem_map_of_mem hd, ?_⟩
      split_ifs with hsame
      · rw [hsame]
        exact ⟨hscope, hidentity⟩
      · exact ⟨rfl, rfl⟩
    rw [hhistory] at hr
    rcases List.mem_append.mp hr with hr | hr
    · obtain ⟨d, hd, hdscope, hdidentity⟩ := hinv.owned r hr
      obtain ⟨c, hc, hcscope, hcidentity⟩ := howned d hd
      exact ⟨c, hc, hcscope.trans hdscope, hcidentity.trans hdidentity⟩
    · obtain rfl := List.mem_singleton.mp hr
      exact howned row hrow

/-- **One transaction keeps the count.** -/
lemma EpochsCount.step {op : Op} (hinv : EpochsCount t) : EpochsCount (step H t op) := by
  cases op with
  | registerNode serverId =>
      exact Run.orRollback_keeps hinv fun _ _ h => hinv.of_frame (registerNode_credentials h)
  | retainCredentials a =>
      exact Run.orRollback_keeps hinv fun _ _ h => hinv.retainCredentials h
  | rotateCredentials a =>
      refine Run.orRollback_keeps hinv ?_
      intro reply t' h
      obtain ⟨-, -, row, hfound, hlive, ⟨rfl, -⟩ | ⟨-, -, hwrite⟩⟩ := rotateCredentials_cases h
      · exact hinv
      · exact hinv.supersede (findCredential_some hfound).1 hlive rfl rfl rfl hwrite
  | revokeCredentials a =>
      refine Run.orRollback_keeps hinv ?_
      intro reply t' h
      obtain ⟨row, hfound, ⟨rfl, -⟩ | ⟨hlive, -, sha, hwrite⟩⟩ := revokeCredentials_cases h
      · exact hinv
      · exact hinv.supersede (findCredential_some hfound).1 hlive rfl rfl rfl hwrite
  | migrateProfileProvenance m =>
      exact Run.orRollback_keeps hinv fun _ _ h =>
        hinv.of_frame (migrateProfileProvenance_credentials h)

/-! ## Replays -/

/-- The superseding row is found under the key of the row it supersedes. -/
lemma findCredential_supersede {scope identityId sha : Text} {row reply : Credential}
    {next : Credential → Credential} (hfound : findCredential scope identityId t = some row)
    (hlive : row.revoked = false) (hscope : (next row).scope = row.scope)
    (hidentity : (next row).identityId = row.identityId)
    (h : supersede row sha next t = .ok (reply, t')) :
    findCredential scope identityId t' = some (next row) := by
  obtain ⟨hrow, rfl, rfl⟩ := findCredential_some hfound
  rw [findCredential_iff, (supersede_rows h).2]
  refine ⟨List.mem_map.mpr ⟨row, hrow, ?_⟩, hscope, hidentity⟩
  rw [if_pos ⟨rfl, rfl, rfl, hlive⟩]

/-- A rotation that finds its own result answers it. -/
lemma rotateCredentials_replay {a : Rotation} {row : Credential} (hne : a.operationId ≠ [])
    (hlen : a.operationId.length ≤ 256) (hfound : findCredential a.scope a.identityId t = some row)
    (hlive : row.revoked = false) (hepoch : row.epoch = a.expectedEpoch + 1)
    (huuid : row.clientUuid = a.newUuid H) : rotateCredentials H a t = .ok (row, t) := by
  rw [rotateCredentials, if_neg (by simp [hne, hlen]), hfound]
  dsimp only
  rw [if_neg (by simp [hlive]), if_pos ⟨hepoch, huuid⟩]

lemma revokeCredentials_replay {a : Revocation} {row : Credential}
    (hfound : findCredential a.scope a.identityId t = some row) (hrevoked : row.revoked = true)
    (hepoch : row.epoch = a.expectedEpoch + 1) : revokeCredentials H a t = .ok (row, t) := by
  rw [revokeCredentials, hfound]
  dsimp only
  rw [if_pos ⟨hrevoked, hepoch⟩]

/-- **A rotation can be repeated.** -/
lemma rotateCredentials_again {a : Rotation} {reply : Credential}
    (h : rotateCredentials H a t = .ok (reply, t')) :
    rotateCredentials H a t' = .ok (reply, t') := by
  obtain ⟨hne, hlen, row, hfound, hlive, ⟨rfl, hepoch, huuid, rfl⟩ | ⟨hepoch, -, hwrite⟩⟩ :=
    rotateCredentials_cases h
  · exact h
  · have hnext := findCredential_supersede hfound hlive rfl rfl hwrite
    rw [(supersede_rows hwrite).1]
    refine rotateCredentials_replay hne hlen hnext hlive ?_ rfl
    show row.epoch + 1 = a.expectedEpoch + 1
    rw [hepoch]

/-- **A revocation can be repeated.** -/
lemma revokeCredentials_again {a : Revocation} {reply : Credential}
    (h : revokeCredentials H a t = .ok (reply, t')) :
    revokeCredentials H a t' = .ok (reply, t') := by
  obtain ⟨row, hfound, ⟨rfl, -, -, rfl⟩ | ⟨hlive, hepoch, sha, hwrite⟩⟩ := revokeCredentials_cases h
  · exact h
  · have hnext := findCredential_supersede hfound hlive rfl rfl hwrite
    rw [(supersede_rows hwrite).1]
    refine revokeCredentials_replay hnext rfl ?_
    show row.epoch + 1 = a.expectedEpoch + 1
    rw [hepoch]

/-! ## Runs -/

/-- **Epochs count retirements, and replays are harmless.**  In every state that is reached from
tables without credentials, the epoch of a credential is 1 plus the rows of the history with its scope
and identity; and a rotation or a revocation that has succeeded there, repeated, answers the same
credential from the same tables. -/
theorem credential_epochs (H : Hashing) (t₀ : IdentityTables) (hcredentials : t₀.credentials = [])
    (hhistory : t₀.history = []) (ops : List Op) :
    let t := ops.foldl (step H) t₀
    (∀ c ∈ t.credentials, c.epoch = 1 + (t.history.filter fun r =>
      decide (r.scope = c.scope ∧ r.identityId = c.identityId)).length) ∧
    (∀ a reply t', rotateCredentials H a t = .ok (reply, t') →
      rotateCredentials H a t' = .ok (reply, t')) ∧
    ∀ a reply t', revokeCredentials H a t = .ok (reply, t') →
      revokeCredentials H a t' = .ok (reply, t') := by
  intro t
  have hinv : EpochsCount t := List.foldlRecOn ops (step H)
    (EpochsCount.of_empty hcredentials hhistory) fun _ hinv _ _ => hinv.step
  refine ⟨fun c hc => ?_, fun _ _ _ => rotateCredentials_again, fun _ _ _ => revokeCredentials_again⟩
  rw [hinv.counts c hc, retirements, List.countP_eq_length_filter]

/-- The credential that is rotated twice is at epoch 3. -/
theorem epoch_after_rotations :
    (sampleOps.foldl (step sampleHashing) .empty).credentials.map (fun c => c.epoch) = [3] ∧
      ∀ c ∈ (sampleOps.foldl (step sampleHashing) .empty).credentials,
        c.epoch = 1 + ((sampleOps.foldl (step sampleHashing) .empty).history.filter fun r =>
          decide (r.scope = c.scope ∧ r.identityId = c.identityId)).length :=
  ⟨by decide +kernel, (credential_epochs sampleHashing .empty rfl rfl sampleOps).1⟩

end FwRouter.Subscription
