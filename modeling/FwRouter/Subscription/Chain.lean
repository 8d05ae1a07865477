import FwRouter.Subscription.NodeIdentity

/-!
# The history of an identity is a simple chain

The transitions of an identity, in the order of their revisions, lead from the server id it was
registered with to the one it has now, without coming back to a server id, and the aliases are the
server ids on these chains.  The invariant speaks of the transitions in the order in which they were
written; that this is the order of their revisions is read off the chain itself.
-/

namespace FwRouter.Subscription

open Py

/-! ## Chains of transitions -/

/-- The rows lead from one server id and revision to another, each from where the last one ended. -/
def Leads : Text → ℤ → List Transition → Text → ℤ → Prop
  | serverId, revision, [], serverId', revision' => serverId' = serverId ∧ revision' = revision
  | serverId, revision, r :: rows, serverId', revision' =>
      r.fromServerId = serverId ∧ r.fromRevision = revision ∧
        Leads r.toServerId r.toRevision rows serverId' revision'

lemma Leads.snoc : ∀ {rows : List Transition} {serverId serverId' : Text} {revision revision' : ℤ}
    {r : Transition}, Leads serverId revision rows serverId' revision' →
    r.fromServerId = serverId' → r.fromRevision = revision' →
    Leads serverId revision (rows ++ [r]) r.toServerId r.toRevision
  | [], _, _, _, _, _, h, hserver, hrevision =>
      ⟨hserver.trans h.1, hrevision.trans h.2, rfl, rfl⟩
  | _ :: _, _, _, _, _, _, h, hserver, hrevision => ⟨h.1, h.2.1, h.2.2.snoc hserver hrevision⟩

lemma Leads.revision_eq {rows : List Transition}
    (hup : ∀ r ∈ rows, r.toRevision = r.fromRevision + 1) :
    ∀ {serverId serverId' : Text} {revision revision' : ℤ},
      Leads serverId revision rows serverId' revision' → revision' = revision + rows.length := by
  induction rows with
  | nil =>
      intro _ _ _ _ h
      simpa using h.2
  | cons r rows ih =>
      intro _ _ _ _ h
      have hrest := ih (fun q hq => hup q (List.mem_cons_of_mem r hq)) h.2.2
      have hr := hup r List.mem_cons_self
      rw [List.length_cons]
      push_cast
      rw [← h.2.1]
      omega

lemma Leads.pairwise {rows : List Transition}
    (hup : ∀ r ∈ rows, r.toRevision = r.fromRevision + 1) :
    ∀ {serverId serverId' : Text} {revision revision' : ℤ},
      Leads serverId revision rows serverId' revision' →
      (∀ r ∈ rows, revision ≤ r.fromRevision) ∧
        rows.Pairwise fun a b => a.fromRevision ≤ b.fromRevision := by
  induction rows with
  | nil =>
      intro _ _ _ _ _
      exact ⟨by simp, List.Pairwise.nil⟩
  | cons r rows ih =>
      intro _ _ _ _ h
      obtain ⟨hlater, hsorted⟩ := ih (fun q hq => hup q (List.mem_cons_of_mem r hq)) h.2.2
      have hr := hup r List.mem_cons_self
      have hall : ∀ q ∈ rows, r.fromRevision ≤ q.fromRevision := by
        intro q hq
        have := hlater q hq
        omega
      refine ⟨?_, List.pairwise_cons.mpr ⟨hall, hsorted⟩⟩
      intro q hq
      rw [← h.2.1]
      rcases List.mem_cons.mp hq with rfl | hq
      · exact le_rfl
      · exact hall q hq

/-! ## The tables -/

/-- The transitions of an identity, as they were written. -/
def writtenTransitions (identityId : Text) (t : IdentityTables) : List Transition :=
  t.transitions.filter fun r => decide (r.identityId = identityId)

/-- The transitions of an identity, ordered by `from_revision`. -/
def transitionsOf (identityId : Text) (t : IdentityTables) : List Transition :=
  (writtenTransitions identityId t).insertionSort fun a b => a.fromRevision ≤ b.fromRevision

/-- The server ids of an identity with these transitions, the first one first. -/
def Identity.chain (i : Identity) (rows : List Transition) : List Text :=
  i.originServerId :: rows.map Transition.toServerId

structure Chained (t : IdentityTables) : Prop where
  advances : ∀ r ∈ t.transitions, r.toRevision = r.fromRevision + 1
  owned : ∀ r ∈ t.transitions, ∃ i ∈ t.identities, i.identityId = r.identityId
  leads : ∀ i ∈ t.identities, Leads i.originServerId 1 (writtenTransitions i.identityId t)
    i.currentServerId i.revision
  simple : ∀ i ∈ t.identities, (i.chain (writtenTransitions i.identityId t)).Nodup
  aliases : ∀ serverId identityId, (serverId, identityId) ∈ t.aliases ↔
    ∃ i ∈ t.identities, i.identityId = identityId ∧
      serverId ∈ i.chain (writtenTransitions i.identityId t)

variable {H : Hashing} {t t' : IdentityTables}

lemma identity_eq_of_key {i j : Identity} (hi : i ∈ t.identities) (hj : j ∈ t.identities)
    (hkey : i.identityId = j.identityId) : i = j :=
  List.inj_on_of_nodup_map t.valid.1 hi hj hkey

/-- The written order is the order of the revisions. -/
lemma Chained.transitionsOf_eq (hinv : Chained t) {i : Identity} (hi : i ∈ t.identities) :
    transitionsOf i.identityId t = writtenTransitions i.identityId t := by
  refine List.Pairwise.insertionSort_eq (Leads.pairwise ?_ (hinv.leads i hi)).2
  intro r hr
  exact hinv.advances r (List.mem_filter.mp hr).1

lemma not_mem_aliases_of_lookup {serverId : Text} (h : t.aliases.lookup serverId = none)
    (identityId : Text) : (serverId, identityId) ∉ t.aliases := by
  intro hmem
  simpa using List.lookup_eq_none_iff.mp h _ hmem

lemma lookup_aliases_iff {serverId identityId : Text} :
    t.aliases.lookup serverId = some identityId ↔ (serverId, identityId) ∈ t.aliases := by
  constructor
  · intro h
    obtain ⟨before, after, heq, -⟩ := List.lookup_eq_some_iff.mp h
    rw [heq]
    simp
  · intro hmem
    cases hfound : t.aliases.lookup serverId with
    | none => exact absurd hmem (not_mem_aliases_of_lookup hfound identityId)
    | some other =>
        obtain ⟨before, after, heq, -⟩ := List.lookup_eq_some_iff.mp hfound
        have hother : (serverId, other) ∈ t.aliases := by
          rw [heq]
          simp
        obtain ⟨-, -, -, hkeys, -⟩ := t.valid
        have := List.inj_on_of_nodup_map hkeys hmem hother rfl
        rw [(Prod.mk.inj this).2]

lemma chained_empty : Chained .empty where
  advances := by simp [IdentityTables.empty]
  owned := by simp [IdentityTables.empty]
  leads := by simp [IdentityTables.empty]
  simple := by simp [IdentityTables.empty]
  aliases := by simp [IdentityTables.empty]

/-! ## One operation -/

/-- Only the identities, aliases and transitions matter. -/
lemma Chained.of_frame (hinv : Chained t) (hidentities : t'.identities = t.identities)
    (haliases : t'.aliases = t.aliases) (htransitions : t'.transitions = t.transitions) :
    Chained t' where
  advances := by simpa only [htransitions] using hinv.advances
  owned := by simpa only [htransitions, hidentities] using hinv.owned
  leads := by simpa only [writtenTransitions, htransitions, hidentities] using hinv.leads
  simple := by simpa only [writtenTransitions, htransitions, hidentities] using hinv.simple
  aliases := by
    simpa only [writtenTransitions, htransitions, hidentities, haliases] using hinv.aliases

lemma Chained.registerNode {serverId identityId : Text} (hinv : Chained t)
    (h : registerNode H serverId t = .ok (identityId, t')) : Chained t' := by
  rcases registerNode_cases h with ⟨-, rfl⟩ | ⟨-, hrows⟩
  · exact hinv
  · have hkeys := t'.valid.1
    have hnew : ∀ i ∈ t.identities, i.identityId ≠ identityId := by
      rw [hrows, List.map_append, List.nodup_append] at hkeys
      intro i hi
      exact hkeys.2.2 _ (List.mem_map_of_mem hi) _ (by simp)
    have hnone : t.transitions.filter (fun r => decide (r.identityId = identityId)) = [] := by
      rw [List.filter_eq_nil_iff]
      intro r hr
      obtain ⟨i, hi, hkey⟩ := hinv.owned r hr
      simpa [← hkey] using hnew i hi
    refine ⟨?_, ?_, ?_, ?_, ?_⟩
    · simpa only [hrows] using hinv.advances
    · intro r hr
      rw [hrows] at hr ⊢
      obtain ⟨i, hi, hkey⟩ := hinv.owned r hr
      exact ⟨i, List.mem_append_left _ hi, hkey⟩
    · simp only [hrows, writtenTransitions, List.forall_mem_append, List.forall_mem_singleton]
      exact ⟨hinv.leads, by simp [hnone, Leads]⟩
    · simp only [hrows, writtenTransitions, List.forall_mem_append, List.forall_mem_singleton]
      exact ⟨hinv.simple, by simp [hnone, Identity.chain]⟩
    · intro s id
      simp only [hrows, writtenTransitions, List.mem_append, or_and_right, exists_or,
        List.mem_singleton, exists_eq_left, hnone, hinv.aliases s id, Prod.mk.injEq,
        Identity.chain, List.map_nil]
      exact or_congr Iff.rfl ⟨fun h => ⟨h.2.symm, h.1⟩, fun h => ⟨h.2, h.1.symm⟩⟩

/-- The identities after the compare-and-swap: the one that moved, and the others. -/
lemma mem_identities_advanced {m : Migration} {i : Identity} {ownershipSha proof reply : Text}
    (hi : i ∈ t.identities) (hrevision : i.revision = m.expectedRevision)
    (hcurrent : i.currentServerId = m.oldServerId)
    (h : advanceIdentity H m i.identityId ownershipSha proof t = .ok (reply, t')) (j : Identity) :
    j ∈ t'.identities ↔
      j = i.moved m.newServerId proof ∨ (j ∈ t.identities ∧ j.identityId ≠ i.identityId) := by
  rw [(advanceIdentity_rows h).2, List.mem_map]
  constructor
  · rintro ⟨k, hk, rfl⟩
    split
    · rename_i hmatch
      left
      rw [identity_eq_of_key hk hi hmatch.1]
    · rename_i hmatch
      refine Or.inr ⟨hk, ?_⟩
      intro hkey
      obtain rfl := identity_eq_of_key hk hi hkey
      exact hmatch ⟨rfl, hrevision, hcurrent⟩
  · rintro (rfl | ⟨hj, hother⟩)
    · exact ⟨i, hi, if_pos ⟨rfl, hrevision, hcurrent⟩⟩
    · refine ⟨j, hj, if_neg ?_⟩
      rintro ⟨hkey, -⟩
      exact hother hkey

/-- The chain of the identity gets one more link; the others stay. -/
lemma writtenTransitions_advanced {m : Migration} {identityId ownershipSha proof reply : Text}
    (h : advanceIdentity H m identityId ownershipSha proof t = .ok (reply, t')) :
    writtenTransitions identityId t' =
        writtenTransitions identityId t ++ [m.transition H identityId ownershipSha] ∧
      ∀ other, other ≠ identityId → writtenTransitions other t' = writtenTransitions other t := by
  simp only [writtenTransitions, (advanceIdentity_rows h).2, List.filter_append]
  constructor
  · simp [Migration.transition]
  · intro other hother
    simp [Migration.transition, hother.symm]

section Advanced

variable {m : Migration} {i : Identity} {ownershipSha proof reply : Text}
  (hi : i ∈ t.identities) (hrevision : i.revision = m.expectedRevision)
  (hcurrent : i.currentServerId = m.oldServerId)
  (h : advanceIdentity H m i.identityId ownershipSha proof t = .ok (reply, t'))

include h in
lemma chain_advanced :
    (i.moved m.newServerId proof).chain (writtenTransitions i.identityId t') =
      i.chain (writtenTransitions i.identityId t) ++ [m.newServerId] := by
  rw [(writtenTransitions_advanced h).1, Identity.chain, Identity.chain, List.map_append]
  rfl

include hi hrevision hcurrent h in
/-- The server ids on the chains are those of before and the new one. -/
lemma on_chain_advanced (serverId identityId : Text) :
    (∃ j ∈ t'.identities, j.identityId = identityId ∧
        serverId ∈ j.chain (writtenTransitions j.identityId t')) ↔
      (∃ j ∈ t.identities, j.identityId = identityId ∧
          serverId ∈ j.chain (writtenTransitions j.identityId t)) ∨
        (serverId = m.newServerId ∧ identityId = i.identityId) := by
  have hmem := mem_identities_advanced hi hrevision hcurrent h
  have hothers := (writtenTransitions_advanced h).2
  constructor
  · rintro ⟨j, hj, hkey, hon⟩
    rcases (hmem j).mp hj with rfl | ⟨hj, hother⟩
    · have hon' := (chain_advanced h) ▸ hon
      rcases List.mem_append.mp hon' with hon' | hnew
      · exact Or.inl ⟨i, hi, hkey, hon'⟩
      · exact Or.inr ⟨List.mem_singleton.mp hnew, hkey.symm⟩
    · rw [hothers _ hother] at hon
      exact Or.inl ⟨j, hj, hkey, hon⟩
  · have hmoved : ∀ s ∈ i.chain (writtenTransitions i.identityId t) ++ [m.newServerId],
        ∃ j ∈ t'.identities, j.identityId = i.identityId ∧
          s ∈ j.chain (writtenTransitions j.identityId t') := by
      intro s hs
      rw [← chain_advanced h] at hs
      exact ⟨_, (hmem _).mpr (Or.inl rfl), rfl, hs⟩
    rintro (⟨j, hj, rfl, hon⟩ | ⟨rfl, rfl⟩)
    · by_cases hsame : j.identityId = i.identityId
      · obtain rfl := identity_eq_of_key hj hi hsame
        exact hmoved _ (List.mem_append_left _ hon)
      · rw [← hothers _ hsame] at hon
        exact ⟨j, (hmem j).mpr (Or.inr ⟨hj, hsame⟩), rfl, hon⟩
    · exact hmoved _ (List.mem_append_right _ (List.mem_singleton_self _))

include hi hrevision hcurrent h in
/-- **A compare-and-swap to a server id that nobody has had makes the chain longer by one.** -/
lemma Chained.advanceIdentity (hinv : Chained t)
    (hfree : t.aliases.lookup m.newServerId = none) : Chained t' := by
  have hmem := mem_identities_advanced hi hrevision hcurrent h
  obtain ⟨hown, hothers⟩ := writtenTransitions_advanced h
  have hrows := (advanceIdentity_rows h).2
  refine ⟨?_, ?_, ?_, ?_, ?_⟩
  · simp only [hrows, List.forall_mem_append, List.forall_mem_singleton]
    exact ⟨hinv.advances, rfl⟩
  · -- every row still has its identity: the moved one keeps its key
    have hkeep : ∀ j ∈ t.identities, ∃ j' ∈ t'.identities, j'.identityId = j.identityId := by
      intro j hj
      by_cases hkey : j.identityId = i.identityId
      · exact ⟨_, (hmem _).mpr (Or.inl rfl), hkey.symm⟩
      · exact ⟨j, (hmem j).mpr (Or.inr ⟨hj, hkey⟩), rfl⟩
    intro r hr
    have hr : r ∈ t.transitions ∨ r = m.transition H i.identityId ownershipSha := by
      simpa [hrows] using hr
    rcases hr with hr | rfl
    · obtain ⟨j, hj, hkey⟩ := hinv.owned r hr
      obtain ⟨j', hj', hkey'⟩ := hkeep j hj
      exact ⟨j', hj', hkey'.trans hkey⟩
    · exact hkeep i hi
  · intro j hj
    rcases (hmem j).mp hj with rfl | ⟨hj, hother⟩
    · have hlead := (hinv.leads i hi).snoc (r := m.transition H i.identityId ownershipSha)
        hcurrent.symm hrevision.symm
      rw [← hown] at hlead
      rw [Identity.moved, hrevision]
      exact hlead
    · rw [hothers _ hother]
      exact hinv.leads j hj
  · intro j hj
    rcases (hmem j).mp hj with rfl | ⟨hj, hother⟩
    · -- the new server id was no alias, so it is not on the chain
      have hfresh : m.newServerId ∉ i.chain (writtenTransitions i.identityId t) := by
        intro hon
        exact not_mem_aliases_of_lookup hfree i.identityId
          ((hinv.aliases _ _).mpr ⟨i, hi, rfl, hon⟩)
      have hsimple := (hinv.simple i hi).append (List.nodup_singleton m.newServerId)
        (List.disjoint_singleton.mpr hfresh)
      rw [← chain_advanced h] at hsimple
      exact hsimple
    · rw [hothers _ hother]
      exact hinv.simple j hj
  · intro s id
    rw [on_chain_advanced hi hrevision hcurrent h, ← hinv.aliases]
    simp [hrows]

end Advanced

lemma Chained.migrateProfileProvenance {m : Migration} {identityId : Text} (hinv : Chained t)
    (h : migrateProfileProvenance H m t = .ok (identityId, t')) : Chained t' := by
  rcases migrateProfileProvenance_cases h with rfl | ⟨t₁, hregister, hcase⟩
  · exact hinv
  · have hinv₁ := hinv.registerNode hregister
    rcases hcase with rfl | ⟨i, _, _, hfound, hfree, hrevision, hcurrent, hadvance⟩
    · exact hinv₁
    · obtain rfl : i.identityId = identityId := by simpa using List.find?_some hfound
      exact Chained.advanceIdentity (List.mem_of_find?_eq_some hfound) hrevision hcurrent hadvance
        hinv₁ hfree

/-- The operations on credentials register the server at most. -/
lemma Chained.supersede {row reply : Credential} {sha : Text} {next : Credential → Credential}
    (hinv : Chained t) (h : supersede row sha next t = .ok (reply, t')) : Chained t' := by
  have hrows := (supersede_rows h).2
  exact hinv.of_frame (by rw [hrows]) (by rw [hrows]) (by rw [hrows])

lemma Chained.retainCredentials {a : Retention} {reply : Credential} (hinv : Chained t)
    (h : retainCredentials H a t = .ok (reply, t')) : Chained t' := by
  obtain ⟨identityId, t₁, hregister, rfl | ⟨-, hrows⟩⟩ := retainCredentials_cases h
  · exact hinv.registerNode hregister
  · exact (hinv.registerNode hregister).of_frame (by rw [hrows]) (by rw [hrows]) (by rw [hrows])

/-- **One transaction keeps the chains.** -/
lemma Chained.step {op : Op} (hinv : Chained t) : Chained (step H t op) := by
  cases op with
  | registerNode serverId => exact Run.orRollback_keeps hinv fun _ _ h => hinv.registerNode h
  | retainCredentials a => exact Run.orRollback_keeps hinv fun _ _ h => hinv.retainCredentials h
  | rotateCredentials a =>
      refine Run.orRollback_keeps hinv ?_
      intro reply t' h
      obtain ⟨-, -, row, -, -, ⟨rfl, -⟩ | ⟨-, -, hwrite⟩⟩ := rotateCredentials_cases h
      · exact hinv
      · exact hinv.supersede hwrite
  | revokeCredentials a =>
      refine Run.orRollback_keeps hinv ?_
      intro reply t' h
      obtain ⟨row, -, ⟨rfl, -⟩ | ⟨-, -, sha, hwrite⟩⟩ := revokeCredentials_cases h
      · exact hinv
      · exact hinv.supersede hwrite
  | migrateProfileProvenance m =>
      exact Run.orRollback_keeps hinv fun _ _ h => hinv.migrateProfileProvenance h

/-! ## Runs -/

/-- **The history of every identity is a simple chain**, from the server id of its registration at
revision 1 to its current server id and revision, and the aliases are the server ids on the chains,
each of its own identity. -/
theorem identity_history_chain (H : Hashing) (ops : List Op) :
    let t := ops.foldl (step H) .empty
    (∀ i ∈ t.identities,
      Leads i.originServerId 1 (transitionsOf i.identityId t) i.currentServerId i.revision ∧
      i.revision = 1 + (transitionsOf i.identityId t).length ∧
      (i.chain (transitionsOf i.identityId t)).Nodup) ∧
    ∀ serverId identityId, t.aliases.lookup serverId = some identityId ↔
      ∃ i ∈ t.identities, i.identityId = identityId ∧
        serverId ∈ i.chain (transitionsOf i.identityId t) := by
  intro t
  have hinv : Chained t :=
    List.foldlRecOn ops (step H) chained_empty fun _ hinv _ _ => hinv.step
  constructor
  · intro i hi
    rw [hinv.transitionsOf_eq hi]
    refine ⟨hinv.leads i hi, Leads.revision_eq ?_ (hinv.leads i hi), hinv.simple i hi⟩
    intro r hr
    exact hinv.advances r (List.mem_filter.mp hr).1
  · intro serverId identityId
    rw [lookup_aliases_iff, hinv.aliases]
    refine exists_congr fun i => and_congr_right fun hi => ?_
    rw [hinv.transitionsOf_eq hi]

end FwRouter.Subscription
