import FwRouter.Xray.Handoff

/-!
# The handoff ports of any list of preserved assignments

`build_eq` describes `build_xray_handoff_assignments` for preserved assignments as the code writes
them.  Here the list is arbitrary: entries of a server may repeat, ports may lie outside the range,
and servers may be bound no longer; an entry whose port cannot be read stands with the port `0`.

Two passes read the list differently.  The reservation closes the ports of all its entries; what a
server keeps is the port of its last entry alone (`lastPreserved`).  So a server whose last entry has
no port in the range loses the port of an earlier one, and nobody else gets it
(`earlier_port_lost`).  Apart from this the allocation is what it should be (`handoff_allocation`).
-/

namespace Xray

open Py

/-! ## The probing loop -/

/-- The `while` loop of the allocation with its three outcomes: still running when the fuel is used
up, the error (`some none`), or a port. -/
def probeLoop (allocated : List ℕ) (preferred : ℕ) : ℕ → ℕ → Option (Option ℕ)
  | 0, _ => none
  | fuel + 1, port =>
      if port ∈ allocated then
        if nextPort port = preferred then some none
        else probeLoop allocated preferred fuel (nextPort port)
      else some (some port)

/-- **The probing loop ends**, within one turn for each port of the range and wherever it starts. -/
theorem probeLoop_ends (allocated : List ℕ) {offset : ℕ} (hoff : offset < 10000) :
    probeLoop allocated (53100 + offset) xrayMihomoHandoffPortSpan (53100 + offset) =
      some (findPort allocated (53100 + offset) xrayMihomoHandoffPortSpan (53100 + offset)) := by
  suffices hfrom : ∀ n i : ℕ, 0 < n → i + n = 10000 →
      probeLoop allocated (53100 + offset) n (53100 + (offset + i) % 10000) =
        some (findPort allocated (53100 + offset) n (53100 + (offset + i) % 10000)) by
    have h := hfrom 10000 0 (by decide) rfl
    rwa [Nat.add_zero, Nat.mod_eq_of_lt hoff] at h
  intro n
  induction n with
  | zero => exact fun i h => absurd h (Nat.lt_irrefl 0)
  | succ n ih =>
      intro i _ hi
      rw [probeLoop, findPort]
      by_cases hmem : 53100 + (offset + i) % 10000 ∈ allocated
      · rw [if_pos hmem, if_pos hmem, ← nextPort, nextPort_eq]
        by_cases hback : 53100 + (offset + (i + 1)) % 10000 = 53100 + offset
        · rw [if_pos hback, if_pos hback]
        · rw [if_neg hback, if_neg hback]
          exact ih (i + 1) (by omega) (by omega)
      · rw [if_neg hmem, if_neg hmem]

lemma mem_probePorts_iff {sha1 : Sha1} {s : Text} {port : ℕ} :
    port ∈ probePorts sha1 s ↔ InRange port := by
  refine ⟨inRange_of_mem_probePorts sha1, fun h => ?_⟩
  have hrange : 53100 ≤ port ∧ port ≤ 53100 + 10000 - 1 := h
  have hoff := preferredOffset_lt sha1 s
  refine List.mem_map.mpr ⟨(port - 53100 + 10000 - preferredOffset sha1 s) % 10000, ?_, ?_⟩
  · exact List.mem_range.mpr (Nat.mod_lt _ (by decide))
  · show 53100 + (preferredOffset sha1 s + _ % 10000) % 10000 = port
    omega

/-! ## What a server keeps -/

/-- The last entry of the server in the preserved list. -/
def lastPreserved (preserve : List Assignment) (s : Text) : Option Assignment :=
  (preserve.filter fun a => decide (strip a.selectedServerId = s)).getLast?

/-- The port that the server keeps. -/
def keptPort (preserve : List Assignment) (s : Text) : Option ℕ :=
  (lastPreserved preserve s).bind fun a => if InRange a.port then some a.port else none

/-- The entry of a server with the name and the address that were preserved. -/
def keptTarget (preserve : List Assignment) (t : Target) : Target := (keepPreserved preserve t).1

lemma lookup_preserved (preserve : List Assignment) {s : Text} (hs : s ≠ []) :
    (preservedByServer preserve).lookup s = lastPreserved preserve s := by
  induction preserve using List.reverseRecOn with
  | nil => rfl
  | append_singleton preserve a ih =>
      rw [preservedByServer] at ih ⊢
      rw [List.foldl_append, List.foldl_cons, List.foldl_nil, lastPreserved, List.filter_append]
      by_cases ha : strip a.selectedServerId = s
      · rw [if_neg (ha ▸ hs), ha, KeyedTable.lookup_assign_self]
        simp [ha]
      · have hfilter : [a].filter (fun a => decide (strip a.selectedServerId = s)) = [] := by
          simp [ha]
        rw [hfilter, List.append_nil, ← lastPreserved, ← ih]
        split_ifs
        · rfl
        · exact KeyedTable.lookup_assign_of_ne (Ne.symm ha) _ _

lemma keepPreserved_any (preserve : List Assignment) {t : Target} (ht : t.selectedServerId ≠ []) :
    keepPreserved preserve t = (keptTarget preserve t, keptPort preserve t.selectedServerId) := by
  refine Prod.ext rfl ?_
  rw [keepPreserved, keptPort, lookup_preserved preserve ht]
  cases lastPreserved preserve t.selectedServerId with
  | none => rfl
  | some a =>
      rw [Option.bind_some]
      dsimp only
      split_ifs <;> rfl

lemma keptTarget_serverId (preserve : List Assignment) (t : Target) :
    (keptTarget preserve t).selectedServerId = t.selectedServerId := by
  rw [keptTarget, keepPreserved]
  split
  · rfl
  · split_ifs <;> rfl

/-- Keeping a port changes the name and the address of a listener only, and reads no other field. -/
lemma keptTarget_fields (preserve : List Assignment) (t : Target) :
    keptTarget preserve t =
      { t with
        listenerName := (keptTarget preserve t).listenerName
        listen := (keptTarget preserve t).listen } := by
  rw [keptTarget, keepPreserved]
  split
  · rfl
  · split_ifs <;> rfl

section Allocation

variable {sha1 : Sha1} {bindings : List ClientBinding} {preserve : List Assignment}

lemma serverId_ne_nil {t : Target} (ht : t ∈ sortedTargets sha1 bindings) :
    t.selectedServerId ≠ [] := (named_of_mem ht).nonempty

lemma map_keepPreserved : (sortedTargets sha1 bindings).map (keepPreserved preserve) =
    ((sortedTargets sha1 bindings).map (keptTarget preserve)).map fun t =>
      (t, keptPort preserve t.selectedServerId) := by
  rw [List.map_map]
  refine List.map_congr_left fun t ht => ?_
  rw [keepPreserved_any preserve (serverId_ne_nil ht), Function.comp_apply, keptTarget_serverId]

lemma map_serverId_kept (targets : List Target) :
    (targets.map (keptTarget preserve)).map Target.selectedServerId =
      targets.map Target.selectedServerId := by
  rw [List.map_map]
  exact List.map_congr_left fun t _ => keptTarget_serverId preserve t

/-- **What the allocation computes**, for any preserved assignments. -/
theorem build_any (bindings : List ClientBinding) (preserve : List Assignment) :
    buildXrayHandoffAssignments sha1 bindings preserve =
      (FirstFit.place (probePorts sha1) (keptPort preserve) (reservedPorts preserve)
          (boundServers sha1 bindings)).map fun placed =>
        List.zipWith Target.assign ((sortedTargets sha1 bindings).map (keptTarget preserve))
          (placed.map Prod.snd) := by
  rw [buildXrayHandoffAssignments, map_keepPreserved, allocatePorts_eq, map_serverId_kept]
  rfl

/-- The ports of different servers are different. -/
def PortsDistinct (preserve : List Assignment) : Prop :=
  ∀ a ∈ preserve, ∀ b ∈ preserve, InRange a.port → a.port = b.port →
    strip a.selectedServerId = strip b.selectedServerId

lemma mem_reservedPorts {port : ℕ} :
    port ∈ reservedPorts preserve ↔ InRange port ∧ ∃ q ∈ preserve, q.port = port := by
  rw [reservedPorts, List.mem_filter, List.mem_map, decide_eq_true_eq, and_comm]

lemma keptPort_eq_some {s : Text} {port : ℕ} : keptPort preserve s = some port ↔
    ∃ q, lastPreserved preserve s = some q ∧ InRange q.port ∧ q.port = port := by
  rw [keptPort, Option.bind_eq_some_iff]
  constructor
  · rintro ⟨q, hq, hport⟩
    split_ifs at hport with hrange
    exact ⟨q, hq, hrange, Option.some.inj hport⟩
  · rintro ⟨q, hq, hrange, rfl⟩
    exact ⟨q, hq, if_pos hrange⟩

lemma mem_of_lastPreserved {s : Text} {q : Assignment} (h : lastPreserved preserve s = some q) :
    q ∈ preserve ∧ strip q.selectedServerId = s := by
  rcases List.mem_filter.mp (List.mem_of_getLast? h) with ⟨hq, hs⟩
  exact ⟨hq, of_decide_eq_true hs⟩

lemma keptPort_reserved {s : Text} {port : ℕ} (h : keptPort preserve s = some port) :
    port ∈ reservedPorts preserve := by
  rcases keptPort_eq_some.mp h with ⟨q, hq, hrange, rfl⟩
  exact mem_reservedPorts.mpr ⟨hrange, q, (mem_of_lastPreserved hq).1, rfl⟩

lemma keptPort_injective (hports : PortsDistinct preserve) {s t : Text} {port : ℕ}
    (hs : keptPort preserve s = some port) (ht : keptPort preserve t = some port) : s = t := by
  rcases keptPort_eq_some.mp hs with ⟨a, ha, hrange, hport⟩
  rcases keptPort_eq_some.mp ht with ⟨b, hb, -, rfl⟩
  rw [← (mem_of_lastPreserved ha).2, ← (mem_of_lastPreserved hb).2]
  exact hports a (mem_of_lastPreserved ha).1 b (mem_of_lastPreserved hb).1 hrange hport

/-- What is promised of the assignments: one for each bound server, with different ports of the
range; a server keeps the port of its last preserved entry, and no preserved port goes to another
server than that of its entry. -/
structure Allocated (bindings : List ClientBinding) (preserve assignments : List Assignment) :
    Prop where
  nodup : (assignments.map fun a => a.selectedServerId).Nodup
  servers : ∀ s, s ∈ assignments.map (fun a => a.selectedServerId) ↔
    s ≠ [] ∧ ∃ b ∈ bindings, strip b.selectedServerId = s
  ports : (assignments.map Assignment.port).Nodup
  inRange : ∀ a ∈ assignments, InRange a.port
  keeps : ∀ a ∈ assignments, ∀ q ∈ lastPreserved preserve a.selectedServerId, InRange q.port →
    a.port = q.port
  closed : ∀ a ∈ assignments, ∀ q ∈ preserve, a.port = q.port →
    strip q.selectedServerId = a.selectedServerId

lemma allocated_build (hports : PortsDistinct preserve) {assignments : List Assignment}
    (h : buildXrayHandoffAssignments sha1 bindings preserve = some assignments) :
    Allocated bindings preserve assignments := by
  rw [build_any, Option.map_eq_some_iff] at h
  rcases h with ⟨placed, hplace, hassignments⟩
  have hkeys : placed.map Prod.fst = ((sortedTargets sha1 bindings).map (keptTarget preserve)).map
      Target.selectedServerId := by
    rw [map_serverId_kept]
    exact FirstFit.map_fst_place hplace
  rcases placements_zipWith hkeys with ⟨hplacements, -⟩
  rw [hassignments] at hplacements
  have hserverIds : assignments.map (fun a => a.selectedServerId) = boundServers sha1 bindings := by
    have := congrArg (List.map Prod.fst) hplacements
    rw [placements, List.map_map] at this
    exact this.trans (FirstFit.map_fst_place hplace)
  have hportList : assignments.map Assignment.port = placed.map Prod.snd := by
    have := congrArg (List.map Prod.snd) hplacements
    rwa [placements, List.map_map] at this
  have hplaced : ∀ a ∈ assignments, keptPort preserve a.selectedServerId = some a.port ∨
      keptPort preserve a.selectedServerId = none ∧ a.port ∈ probePorts sha1 a.selectedServerId ∧
        a.port ∉ reservedPorts preserve := by
    intro a ha
    exact FirstFit.mem_place hplace (hplacements ▸ List.mem_map.mpr ⟨a, ha, rfl⟩)
  have hinRange : ∀ a ∈ assignments, InRange a.port := by
    intro a ha
    rcases hplaced a ha with hkept | ⟨-, hprobe, -⟩
    · exact (mem_reservedPorts.mp (keptPort_reserved hkept)).1
    · exact mem_probePorts_iff.mp hprobe
  refine ⟨hserverIds ▸ nodup_boundServers bindings, ?_, ?_, hinRange, ?_, ?_⟩
  · intro s
    rw [hserverIds, mem_boundServers]
    rfl
  · rw [hportList]
    exact FirstFit.nodup_place (nodup_boundServers bindings) (fun s port => keptPort_reserved)
      (fun s t port => keptPort_injective hports) hplace
  · intro a ha q hq hrange
    have hkept := keptPort_eq_some.mpr ⟨q, hq, hrange, rfl⟩
    rcases hplaced a ha with hkept' | ⟨hnone, -⟩
    · exact Option.some.inj (hkept'.symm.trans hkept)
    · rw [hnone] at hkept
      cases hkept
  · intro a ha q hq hport
    rcases hplaced a ha with hkept | ⟨-, -, hfree⟩
    · rcases keptPort_eq_some.mp hkept with ⟨r, hr, hrange, hrport⟩
      rw [← (mem_of_lastPreserved hr).2]
      exact (hports r (mem_of_lastPreserved hr).1 q hq hrange (hrport.trans hport)).symm
    · exact absurd (mem_reservedPorts.mpr ⟨hinRange a ha, q, hq, hport.symm⟩) hfree

/-- The allocation fails only when every port of the range is preserved or has been given to one of
the servers before. -/
lemma exhausted_of_none (h : buildXrayHandoffAssignments sha1 bindings preserve = none) :
    ∃ n < (sortedTargets sha1 bindings).length, ∃ given,
      allocatePorts sha1 (reservedPorts preserve)
        (((sortedTargets sha1 bindings).take n).map (keepPreserved preserve)) = some given ∧
      ∀ port, InRange port → (∃ q ∈ preserve, q.port = port) ∨ ∃ a ∈ given, a.port = port := by
  rw [build_any, Option.map_eq_none_iff] at h
  rcases FirstFit.place_eq_none h with ⟨n, hn, placed, hplace, s, -, hfull⟩
  rw [boundServers, List.length_map] at hn
  have hkeep : ((sortedTargets sha1 bindings).take n).map (keepPreserved preserve) =
      (((sortedTargets sha1 bindings).take n).map (keptTarget preserve)).map fun t =>
        (t, keptPort preserve t.selectedServerId) := by
    rw [List.map_take, List.map_take, List.map_take, map_keepPreserved]
  refine ⟨n, hn, List.zipWith Target.assign
    (((sortedTargets sha1 bindings).take n).map (keptTarget preserve)) (placed.map Prod.snd), ?_, ?_⟩
  · rw [boundServers, ← List.map_take] at hplace
    rw [hkeep, allocatePorts_eq, map_serverId_kept, hplace]
    rfl
  · intro port hport
    rcases hfull port (mem_probePorts_iff.mpr hport) with hport | hport
    · exact Or.inl (mem_reservedPorts.mp hport).2
    · right
      have hkeys : placed.map Prod.fst =
          (((sortedTargets sha1 bindings).take n).map (keptTarget preserve)).map
            Target.selectedServerId := by
        rw [map_serverId_kept, FirstFit.map_fst_place hplace, boundServers, List.map_take]
      have hplacements := (placements_zipWith hkeys).1
      rcases List.mem_map.mp hport with ⟨e, he, rfl⟩
      rw [← hplacements] at he
      rcases List.mem_map.mp he with ⟨a, ha, rfl⟩
      exact ⟨a, ha, rfl⟩

end Allocation

/-! ## The order of the bindings -/

section Order

variable {sha1 : Sha1}

lemma mem_appendNew {value x : Text} {values : List Text} :
    x ∈ appendNew value values ↔ x ∈ values ∨ x = value ∧ x ≠ [] := by
  rw [appendNew]
  split_ifs with h
  · refine ⟨Or.inl, ?_⟩
    rintro (hx | ⟨rfl, hne⟩)
    · exact hx
    · exact h.resolve_left hne
  · rw [not_or] at h
    rw [List.mem_append, List.mem_singleton]
    refine or_congr_right ⟨fun hx => ⟨hx, hx ▸ h.1⟩, fun hx => hx.1⟩

lemma nodup_appendNew {value : Text} {values : List Text} (h : values.Nodup) :
    (appendNew value values).Nodup := by
  rw [appendNew]
  split_ifs with hnew
  · exact h
  · rw [not_or] at hnew
    rw [← List.concat_eq_append]
    exact h.concat hnew.2

/-- The entry of a server: its digest, and the subject ids of its bindings. -/
structure Target.Joins (sha1 : Sha1) (bindings : List ClientBinding) (t : Target) : Prop where
  digest : t.digest = xrayHandoffDigest sha1 t.selectedServerId
  nodup : t.subjectIds.Nodup
  subjects : ∀ x, x ∈ t.subjectIds ↔
    x ≠ [] ∧ ∃ b ∈ bindings, b.server = t.selectedServerId ∧ strip b.subjectId = x

lemma joins_groupBindings (bindings : List ClientBinding) :
    ∀ s t, (groupBindings sha1 bindings).lookup s = some t →
      t.selectedServerId = s ∧ t.Joins sha1 bindings := by
  induction bindings using List.reverseRecOn with
  | nil =>
      intro s t h
      cases h
  | append_singleton bindings b ih =>
      intro s t h
      rw [groupBindings, List.foldl_append, List.foldl_cons, List.foldl_nil, ← groupBindings,
        groupBinding] at h
      -- a binding of another server adds nothing to the entry
      have hother : ∀ {t : Target}, t.selectedServerId ≠ b.server → t.Joins sha1 bindings →
          t.Joins sha1 (bindings ++ [b]) := by
        intro t hne ht
        refine ⟨ht.digest, ht.nodup, fun x => ?_⟩
        rw [ht.subjects]
        refine and_congr_right fun _ => ⟨?_, ?_⟩
        · rintro ⟨c, hc, hrest⟩
          exact ⟨c, List.mem_append_left _ hc, hrest⟩
        · rintro ⟨c, hc, hserver, hrest⟩
          rcases List.mem_append.mp hc with hc | hc
          · exact ⟨c, hc, hserver, hrest⟩
          · rw [List.mem_singleton.mp hc] at hserver
            exact absurd hserver.symm hne
      by_cases hempty : b.server = []
      · rw [if_pos hempty] at h
        rcases ih s t h with ⟨rfl, ht⟩
        refine ⟨rfl, hother ?_ ht⟩
        rw [hempty]
        have hmem : t.selectedServerId ∈ (groupBindings sha1 bindings).map Prod.fst :=
          List.mem_map.mpr ⟨_, KeyedTable.mem_of_lookup h, rfl⟩
        exact (((grouped_groupBindings bindings).keys _).mp hmem).1
      rw [if_neg hempty, KeyedTable.lookup_upsert] at h
      split_ifs at h with hs
      · -- the entry of the binding's own server: only its subject is new
        subst hs
        have hjoin : ∀ u : Target, u.selectedServerId = b.server →
            u.digest = xrayHandoffDigest sha1 b.server → u.subjectIds.Nodup →
            (∀ x, x ∈ u.subjectIds ↔
              x ≠ [] ∧ ∃ c ∈ bindings, c.server = b.server ∧ strip c.subjectId = x) →
            (u.join b).selectedServerId = b.server ∧ (u.join b).Joins sha1 (bindings ++ [b]) := by
          intro u hserver hdigest hnodup hsubjects
          refine ⟨hserver, hserver ▸ hdigest, nodup_appendNew hnodup, fun x => ?_⟩
          show x ∈ appendNew (strip b.subjectId) u.subjectIds ↔
            x ≠ [] ∧ ∃ c ∈ bindings ++ [b], c.server = u.selectedServerId ∧ strip c.subjectId = x
          rw [mem_appendNew, hsubjects, hserver]
          constructor
          · rintro (⟨hne, c, hc, hrest⟩ | ⟨rfl, hne⟩)
            · exact ⟨hne, c, List.mem_append_left _ hc, hrest⟩
            · exact ⟨hne, b, by simp, rfl, rfl⟩
          · rintro ⟨hne, c, hc, hcserver, rfl⟩
            rcases List.mem_append.mp hc with hc | hc
            · exact Or.inl ⟨hne, c, hc, hcserver, rfl⟩
            · rw [List.mem_singleton.mp hc] at hne ⊢
              exact Or.inr ⟨rfl, hne⟩
        cases hlookup : (groupBindings sha1 bindings).lookup b.server with
        | none =>
            rw [hlookup] at h
            obtain rfl : (newTarget sha1 b).join b = t := Option.some.inj h
            refine hjoin (newTarget sha1 b) rfl rfl List.nodup_nil fun x => ?_
            refine ⟨fun hx => absurd hx List.not_mem_nil, ?_⟩
            rintro ⟨-, c, hc, hcserver, -⟩
            have hmem : b.server ∈ (groupBindings sha1 bindings).map Prod.fst :=
              ((grouped_groupBindings bindings).keys _).mpr ⟨hempty, c, hc, hcserver⟩
            rcases List.mem_map.mp hmem with ⟨e, he, hkey⟩
            have := List.lookup_eq_none_iff.mp hlookup e he
            simp [hkey] at this
        | some u =>
            rw [hlookup] at h
            obtain rfl : u.join b = t := Option.some.inj h
            rcases ih _ u hlookup with ⟨hserver, hu⟩
            exact hjoin u hserver (hserver ▸ hu.digest) hu.nodup fun x => by
              rw [hu.subjects, hserver]
      · rcases ih s t h with ⟨rfl, ht⟩
        exact ⟨rfl, hother hs ht⟩

lemma joins_of_mem {bindings : List ClientBinding} {t : Target}
    (h : t ∈ sortedTargets sha1 bindings) : t.Joins sha1 bindings := by
  rcases mem_sortedTargets.mp h with ⟨r, hr, rfl⟩
  have hlookup := (KeyedTable.mem_iff_lookup (grouped_groupBindings bindings).nodup).mp hr
  exact (joins_groupBindings bindings _ _ hlookup).2

/-- The order of the assignments as an order of texts. -/
def serverKey (sha1 : Sha1) (s : Text) : ℕ ×ₗ Text := toLex (preferredHandoffPort sha1 s, s)

lemma before_iff {a b : Target} : a.before sha1 b ↔
    serverKey sha1 a.selectedServerId ≤ serverKey sha1 b.selectedServerId := by
  rw [serverKey, serverKey, Prod.Lex.toLex_le_toLex]
  rfl

lemma sorted_boundServers (bindings : List ClientBinding) :
    (boundServers sha1 bindings).Pairwise fun s t => serverKey sha1 s ≤ serverKey sha1 t := by
  have : Std.Total (Target.before sha1) := ⟨fun a b => by
    rw [before_iff, before_iff]
    exact le_total _ _⟩
  have : IsTrans Target (Target.before sha1) := ⟨fun a b c => by
    rw [before_iff, before_iff, before_iff]
    exact le_trans⟩
  rw [boundServers, List.pairwise_map]
  exact (List.pairwise_insertionSort (Target.before sha1) _).imp before_iff.mp

/-- The servers do not depend on the order of the bindings. -/
lemma boundServers_eq_of_perm {bindings bindings' : List ClientBinding}
    (h : bindings.Perm bindings') : boundServers sha1 bindings = boundServers sha1 bindings' := by
  have hperm : (boundServers sha1 bindings).Perm (boundServers sha1 bindings') := by
    refine (List.perm_ext_iff_of_nodup (nodup_boundServers _) (nodup_boundServers _)).mpr fun s => ?_
    rw [mem_boundServers, mem_boundServers]
    exact and_congr_right fun _ => ⟨fun ⟨b, hb, hs⟩ => ⟨b, h.mem_iff.mp hb, hs⟩,
      fun ⟨b, hb, hs⟩ => ⟨b, h.mem_iff.mpr hb, hs⟩⟩
  refine hperm.eq_of_pairwise (fun s t _ _ hst hts => ?_) (sorted_boundServers _)
    (sorted_boundServers _)
  exact congrArg (fun k : ℕ ×ₗ Text => (ofLex k).2) (le_antisymm hst hts)

/-- What remains of an assignment when its emails, its subject ids and its proxy are left out. -/
def Assignment.core (a : Assignment) : Assignment :=
  { a with subjectIds := [], clientEmails := [], proxy := [] }

/-- What a server's entry shows of its bindings apart from the three lists. -/
lemma core_congr {bindings bindings' : List ClientBinding} (h : bindings.Perm bindings')
    {preserve : List Assignment} {t t' : Target} (ht : t ∈ sortedTargets sha1 bindings)
    (ht' : t' ∈ sortedTargets sha1 bindings') (heq : t.selectedServerId = t'.selectedServerId)
    (port : ℕ) :
    ((keptTarget preserve t).assign port).core = ((keptTarget preserve t').assign port).core := by
  have hcount : t.subjectIds.length = t'.subjectIds.length := by
    refine List.Perm.length_eq ((List.perm_ext_iff_of_nodup (joins_of_mem ht).nodup
      (joins_of_mem ht').nodup).mpr fun x => ?_)
    rw [(joins_of_mem ht).subjects, (joins_of_mem ht').subjects, heq]
    exact and_congr_right fun _ => ⟨fun ⟨b, hb, hs⟩ => ⟨b, h.mem_iff.mp hb, hs⟩,
      fun ⟨b, hb, hs⟩ => ⟨b, h.mem_iff.mpr hb, hs⟩⟩
  have hnamed := named_of_mem ht
  have hnamed' := named_of_mem ht'
  have htext : (keptTarget preserve t).listenerName = (keptTarget preserve t').listenerName ∧
      (keptTarget preserve t).listen = (keptTarget preserve t').listen := by
    rw [keptTarget, keptTarget, keepPreserved, keepPreserved, ← heq]
    cases (preservedByServer preserve).lookup t.selectedServerId with
    | none => exact ⟨by rw [hnamed.listenerName, hnamed'.listenerName, heq],
        by rw [hnamed.listen, hnamed'.listen]⟩
    | some a =>
        dsimp only
        split_ifs
        · exact ⟨by rw [hnamed.listenerName, hnamed'.listenerName, heq],
            by rw [hnamed.listen, hnamed'.listen]⟩
        · exact ⟨by rw [hnamed.listenerName, hnamed'.listenerName, heq],
            by rw [hnamed.listen, hnamed'.listen]⟩
  rw [keptTarget_fields preserve t, keptTarget_fields preserve t', htext.1, htext.2]
  simp only [Assignment.core, Target.assign, heq, hcount, hnamed.tag, hnamed'.tag,
    (joins_of_mem ht).digest, (joins_of_mem ht').digest]

/-- **The order of the bindings does not matter**, but for the listed emails and subject ids and the
proxy. -/
theorem build_perm {bindings bindings' : List ClientBinding} (h : bindings.Perm bindings')
    (preserve : List Assignment) :
    (buildXrayHandoffAssignments sha1 bindings preserve).map (List.map Assignment.core) =
      (buildXrayHandoffAssignments sha1 bindings' preserve).map (List.map Assignment.core) := by
  rw [build_any, build_any, ← boundServers_eq_of_perm h, Option.map_map, Option.map_map]
  refine Option.map_congr fun placed _ => ?_
  rw [Function.comp_apply, Function.comp_apply]
  have hservers : (sortedTargets sha1 bindings).map Target.selectedServerId =
      (sortedTargets sha1 bindings').map Target.selectedServerId := boundServers_eq_of_perm h
  have hcore : ∀ t ∈ sortedTargets sha1 bindings, ∀ t' ∈ sortedTargets sha1 bindings',
      t.selectedServerId = t'.selectedServerId → ∀ port : ℕ,
        ((keptTarget preserve t).assign port).core = ((keptTarget preserve t').assign port).core :=
    fun t ht t' ht' heq => core_congr h ht ht' heq
  revert hservers hcore
  generalize sortedTargets sha1 bindings = targets
  generalize sortedTargets sha1 bindings' = targets'
  generalize placed.map Prod.snd = ports
  intro hservers hcore
  induction targets generalizing targets' ports with
  | nil =>
      obtain rfl : targets' = [] := by simpa using hservers.symm
      rfl
  | cons t targets ih =>
      cases targets' with
      | nil => simp at hservers
      | cons t' targets' =>
          rcases List.cons.inj hservers with ⟨hhead, htail⟩
          cases ports with
          | nil => rfl
          | cons port ports =>
              simp only [List.map_cons, List.zipWith_cons_cons]
              rw [hcore t List.mem_cons_self t' List.mem_cons_self hhead port,
                ih targets' ports htail fun u hu u' hu' =>
                  hcore u (List.mem_cons_of_mem _ hu) u' (List.mem_cons_of_mem _ hu')]

end Order

/-- **The allocation is free of collisions and stable**: what is returned is `Allocated`, an error
means that every port of the range is taken, the probing loop ends wherever it starts, and the order
of the bindings shows only in the emails, the subject ids and the proxy. -/
theorem handoff_allocation (sha1 : Sha1) (bindings : List ClientBinding)
    (preserve : List Assignment) (hports : PortsDistinct preserve) :
    (∀ assignments, buildXrayHandoffAssignments sha1 bindings preserve = some assignments →
      Allocated bindings preserve assignments) ∧
    (buildXrayHandoffAssignments sha1 bindings preserve = none →
      ∃ n < (sortedTargets sha1 bindings).length, ∃ given,
        allocatePorts sha1 (reservedPorts preserve)
          (((sortedTargets sha1 bindings).take n).map (keepPreserved preserve)) = some given ∧
        ∀ port, InRange port → (∃ q ∈ preserve, q.port = port) ∨ ∃ a ∈ given, a.port = port) ∧
    (∀ offset < 10000, ∀ allocated : List ℕ,
      probeLoop allocated (53100 + offset) xrayMihomoHandoffPortSpan (53100 + offset) =
        some (findPort allocated (53100 + offset) xrayMihomoHandoffPortSpan (53100 + offset))) ∧
    ∀ bindings', bindings.Perm bindings' →
      (buildXrayHandoffAssignments sha1 bindings preserve).map (List.map Assignment.core) =
        (buildXrayHandoffAssignments sha1 bindings' preserve).map (List.map Assignment.core) :=
  ⟨fun _ => allocated_build hports, exhausted_of_none,
    fun _ hoff allocated => probeLoop_ends allocated hoff, fun _ h => build_perm h preserve⟩

/-! ## A server with two preserved entries -/

namespace Example

/-- A binding to `server-166`. -/
def soleBinding : ClientBinding :=
  ⟨"alice".toList, "alice@example".toList, "server-166".toList, []⟩

/-- The assignment of `server-166` with the port it is given. -/
def assigned (port : ℕ) : Assignment :=
  ((newTarget sampleSha1 soleBinding).join soleBinding).assign port

lemma build_repeated : buildXrayHandoffAssignments sampleSha1 [soleBinding]
    [assigned 53200, assigned 0] = some [assigned 53424] := by decide +kernel

lemma build_kept : buildXrayHandoffAssignments sampleSha1 [soleBinding] [assigned 53200] =
    some [assigned 53200] := by decide +kernel

/-- The server keeps its port. -/
theorem sole_allocated : Allocated [soleBinding] [assigned 53200] [assigned 53200] :=
  (handoff_allocation sampleSha1 [soleBinding] [assigned 53200] (by
    intro a ha b hb _ _
    rw [List.mem_singleton.mp ha, List.mem_singleton.mp hb])).1 _ build_kept

/-- **An earlier entry does not keep its port.**  The last entry of the server has the port `0`, and
the server is given its preferred port instead of the `53200` of the first one. -/
theorem earlier_port_lost : PortsDistinct [assigned 53200, assigned 0] ∧
    buildXrayHandoffAssignments sampleSha1 [soleBinding] [assigned 53200, assigned 0] =
      some [assigned 53424] ∧
    ¬∀ a ∈ [assigned 53424], ∀ q ∈ [assigned 53200, assigned 0],
      strip q.selectedServerId = a.selectedServerId → InRange q.port → a.port = q.port := by
  refine ⟨?_, build_repeated, ?_⟩
  · intro a ha b hb _ _
    have hserver : ∀ c ∈ [assigned 53200, assigned 0], c.selectedServerId = soleBinding.server := by
      intro c hc
      rcases List.mem_cons.mp hc with rfl | hc
      · rfl
      · rw [List.mem_singleton.mp hc]
        rfl
    rw [hserver a ha, hserver b hb]
  · intro h
    have hstrip : strip (assigned 53200).selectedServerId = (assigned 53424).selectedServerId := by
      decide +kernel
    have := h _ (List.mem_singleton_self _) _ List.mem_cons_self hstrip (by decide)
    exact absurd this (by decide)

end Example

end Xray
