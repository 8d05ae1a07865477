import FwRouter.Subjects.EffectiveState
import FwRouter.Subjects.ServerOverride
import FwRouter.Library.KeyedTable

/-!
# The subjects of the dataplane manifest

`build_dataplane_manifest` lists the subjects, loads their overrides in two batches, enriches every
subject, lets an emergency rewrite the routing and the enriched states, and enriches every subject
again.  `get_subject_with_effective_state` reads one subject and its overrides alone.

The second enrichment computes the state anew, from the overrides that the first one found and from
the rewritten routing.  So the two paths resolve the same overrides, and differ on a subject exactly
if the emergency changed the global mode that the subject follows.  And the listing is clamped.
-/

namespace FwRouter.Subjects.Manifest

open Py

/-! ## State -/

/-- The columns of `subjects` that the queries on overrides do not read. -/
structure Columns where
  subjectType : Text
  desiredMode : Text
  lastSeenAt : Option Text
  createdAt : Text
  others : Dict

/-- A row of `subject_user_overrides`. -/
structure UserOverrideRow where
  subjectId : Text
  overrideMode : Option Text
  overrideUntil : Option Text

/-- The tables, the time of the queries, and what both paths are given: the bypass, the emergency and
whether the preflight supports VPN modes.  `routing` is the row of `routing_global_state`, as it is
read. -/
structure State extends Database where
  columns : Text → Columns
  userOverrides : List UserOverrideRow
  userOverrides_key : (userOverrides.map UserOverrideRow.subjectId).Nodup
  routing : Option RoutingSnapshot
  now : Text
  vpnSupported : RoutingSnapshot → Bool
  bypassEnabled : Bool
  emergency : Bool

/-! ## Subjects -/

variable (U : Unicode)

/-- `SUBJECT_TYPE_FILTER_ALIASES`. -/
def subjectTypeFilterAlias (t : Text) : Text :=
  if t ∈ ["tailscale-nodes".toList, "tailscale_nodes".toList, "tailscale-node".toList] then
    "tailscale_node".toList
  else t

/-- `normalize_subject_type`. -/
def normalizeSubjectType (t : Text) : Text :=
  let normalized := U.lower (strip t)
  if normalized = "xray".toList then "explicit_external_client".toList
  else if normalized ∈ ["tailscale".toList, "tailscale_node".toList] then
    "external_network_client".toList
  else normalized

/-- `canonical_subject_type`. -/
def canonicalSubjectType (t : Text) : Option Text :=
  let normalized := U.lower (strip t)
  if normalized = [] then none
  else some (normalizeSubjectType U (subjectTypeFilterAlias normalized))

/-- `_row_to_subject`. -/
def rowToSubject (st : State) (row : SubjectRow) : Subject where
  subjectId := row.subjectId
  subjectType :=
    let raw := (st.columns row.subjectId).subjectType
    (orElse (canonicalSubjectType U raw) (some raw)).getD raw
  desiredMode := (st.columns row.subjectId).desiredMode
  others := (st.columns row.subjectId).others

/-- `ORDER BY is_active DESC, last_seen_at DESC, created_at DESC`; `NULL` comes last. -/
def listedBefore (st : State) (a b : SubjectRow) : Bool :=
  let key (row : SubjectRow) : Bool ×ₗ WithBot Text ×ₗ Text :=
    toLex (row.isActive, toLex ((st.columns row.subjectId).lastSeenAt,
      (st.columns row.subjectId).createdAt))
  decide (key b ≤ key a)

def liveSubjects (st : State) : List SubjectRow := st.subjects.filter fun row => !row.isDeleted

/-- `list_subjects(include_deleted=False, limit=limit)`. -/
def listSubjects (st : State) (limit : ℕ) : List SubjectRow :=
  ((liveSubjects st).mergeSort (listedBefore st)).take (max 1 (min limit 500))

/-! ## Overrides -/

/-- `override_mode IS NOT NULL AND override_until > CURRENT_TIMESTAMP`: the mode. -/
def UserOverrideRow.active (now : Text) (o : UserOverrideRow) : Option UserOverride :=
  if ∃ moment ∈ o.overrideUntil, now < moment then o.overrideMode.map UserOverride.mk else none

/-- `_load_active_user_override`. -/
def loadActiveUserOverride (st : State) (subjectId : Text) : Option UserOverride :=
  (st.userOverrides.find? fun o => decide (o.subjectId = subjectId)).bind fun o => o.active st.now

/-- The ids that both batches ask for. -/
def normalizedIds (ids : List Text) : List Text := (ids.map strip).filter fun id => id ≠ []

/-- `_load_active_user_overrides`. -/
def loadActiveUserOverrides (st : State) (ids : List Text) : List (Text × UserOverride) :=
  (st.userOverrides.filter fun o => decide (o.subjectId ∈ normalizedIds ids)).filterMap fun o =>
    (o.active st.now).map fun override => (o.subjectId, override)

/-- `_load_active_server_override`. -/
def loadActiveServerOverride (st : State) (subjectId : Text) : Option ServerOverride :=
  (Subjects.loadActiveServerOverride st.toDatabase st.now subjectId).map fun o => ⟨o.selectedServerId⟩

/-- `_load_active_server_overrides`. -/
def loadActiveServerOverrides (st : State) (ids : List Text) : List (Text × ServerOverride) :=
  (st.overrides.filter fun o => decide (o.subjectId ∈ normalizedIds ids ∧
    (o.selectedTargetKind = .vpnAuto ∨ o.selectedServerId ≠ none) ∧ o.Unexpired st.now)).map fun o =>
      (o.subjectId, ⟨(projectRow o).selectedServerId⟩)

/-! ## The paths -/

/-- `_routing_snapshot`, and `ensure_routing_global_state`, whose new row has the same values. -/
def routingSnapshot (st : State) : RoutingSnapshot :=
  st.routing.getD ⟨some direct, some direct, some "auto".toList, none, none, none⟩

variable {ρ : Type} (buildScopedSubjectRuntime : ScopedArgs → ρ)

/-- The arguments of the enrichment of one subject: the routing and the overrides that are provided. -/
def inputs (st : State) (routing : RoutingSnapshot) (userOverride : Option (Option UserOverride))
    (serverOverride : Option (Option ServerOverride)) (bypassEnabled : Bool) : Inputs where
  routing := routing
  userOverride := userOverride
  serverOverride := serverOverride
  loadActiveUserOverride := loadActiveUserOverride st
  loadActiveServerOverride := loadActiveServerOverride st
  vpnSupported := st.vpnSupported routing
  bypassEnabled := bypassEnabled
  emergency := st.emergency

/-- `get_subject_with_effective_state`. -/
def getSubjectWithEffectiveState (st : State) (subjectId : Text) :
    Option (Subject × EffectiveState ρ) :=
  (st.subject subjectId).map fun row =>
    let s := rowToSubject U st row
    (s, enrichSubjectWithEffectiveState U buildScopedSubjectRuntime
      (inputs st (routingSnapshot st) none none st.bypassEnabled) s)

/-- `list_subjects_with_effective_state(include_deleted=False, limit=limit)`. -/
def listSubjectsWithEffectiveState (st : State) (limit : ℕ) : List (Subject × EffectiveState ρ) :=
  let subjects := (listSubjects st limit).map (rowToSubject U st)
  let userOverrides := loadActiveUserOverrides st (subjects.map Subject.subjectId)
  let serverOverrides := loadActiveServerOverrides st (subjects.map Subject.subjectId)
  subjects.map fun s =>
    (s, enrichSubjectWithEffectiveState U buildScopedSubjectRuntime
      (inputs st (routingSnapshot st) (some (userOverrides.lookup s.subjectId))
        (some (serverOverrides.lookup s.subjectId)) st.bypassEnabled) s)

/-- The rewriting of an enriched state: a VPN mode becomes direct. -/
def emergencyState (state : EffectiveState ρ) : EffectiveState ρ :=
  if state.effectiveMode ∈ [vpn, forcedVpn, selective] then
    { state with effectiveMode := direct, dataplanePath := direct, modeSource := .emergencyDirect }
  else state

/-- `override_manifest_state`: an emergency sends the routing and the enriched states direct. -/
def overrideManifestState (emergency : Bool) (routing : RoutingSnapshot)
    (subjects : List (Subject × EffectiveState ρ)) :
    RoutingSnapshot × List (Subject × EffectiveState ρ) :=
  if emergency then
    ({ routing with desiredMode := some direct },
      subjects.map fun subject => (subject.1, emergencyState subject.2))
  else (routing, subjects)

/-- An entry of `subjects` in the manifest. -/
@[ext] structure Entry where
  subjectId : Text
  subjectType : Text
  desiredMode : Text
  effectiveMode : Text
  modeSource : ModeSource
  dataplanePath : Text
  selectedServerId : Option Text
  selectedServerSource : Text
  deriving DecidableEq

/-- The entry of an enriched subject. -/
def entryOf (s : Subject) (state : EffectiveState ρ) : Entry where
  subjectId := s.subjectId
  subjectType := s.subjectType
  desiredMode := s.desiredMode
  effectiveMode := state.effectiveMode
  modeSource := state.modeSource
  dataplanePath := state.dataplanePath
  selectedServerId := state.selectedServerId
  selectedServerSource := state.selectedServerSource

/-- The second enrichment of `build_dataplane_manifest_from_state`.  An override is planned if the
first one found it (`_planned_subject_override`); without one the enrichment loads it.  The manifest
is built without a bypass in `extra`. -/
def enrichAgain (st : State) (routing : RoutingSnapshot) (subject : Subject × EffectiveState ρ) :
    EffectiveState ρ :=
  enrichSubjectWithEffectiveState U buildScopedSubjectRuntime
    (inputs st routing (subject.2.userOverride.map some) (subject.2.serverOverride.map some) false)
    subject.1

/-- `build_dataplane_manifest(...)["subjects"]`. -/
def buildDataplaneManifest (st : State) : List Entry :=
  let planned := overrideManifestState st.emergency (routingSnapshot st)
    (listSubjectsWithEffectiveState U buildScopedSubjectRuntime st 1000)
  planned.2.map fun subject =>
    entryOf subject.1 (enrichAgain U buildScopedSubjectRuntime st planned.1 subject)

/-! ## Resolved overrides -/

section Resolved

variable {U buildScopedSubjectRuntime} {st : State} {ids : List Text} {subjectId : Text}

/-- A user override of the batch is the one that the subject alone would load. -/
lemma lookup_loadActiveUserOverrides {o : UserOverride}
    (h : (loadActiveUserOverrides st ids).lookup subjectId = some o) :
    loadActiveUserOverride st subjectId = some o := by
  obtain ⟨row, hrow, hactive⟩ := List.mem_filterMap.mp (KeyedTable.mem_of_lookup h)
  obtain ⟨override, hoverride, heq⟩ := Option.map_eq_some_iff.mp hactive
  obtain ⟨hid, rfl⟩ := Prod.mk.inj heq
  have hid : row.subjectId = subjectId := hid
  have hfound := (KeyedTable.find?_key_iff st.userOverrides_key).mpr ⟨(List.mem_filter.mp hrow).1, hid⟩
  rw [loadActiveUserOverride, hfound]
  exact hoverride

lemma lookup_loadActiveServerOverrides {o : ServerOverride}
    (h : (loadActiveServerOverrides st ids).lookup subjectId = some o) :
    loadActiveServerOverride st subjectId = some o := by
  obtain ⟨row, hrow, heq⟩ := List.mem_map.mp (KeyedTable.mem_of_lookup h)
  obtain ⟨hid, rfl⟩ := Prod.mk.inj heq
  obtain ⟨hmem, hlive⟩ := List.mem_filter.mp hrow
  have hlive := (of_decide_eq_true hlive).2
  rw [loadActiveServerOverride, Subjects.loadActiveServerOverride,
    KeyedTable.find?_eq_some_of_key st.overrides_key hmem (decide_eq_true ⟨hid, hlive⟩)
      fun o _ ho => (of_decide_eq_true ho).1.trans hid.symm]
  rfl

/-- The second enrichment resolves the overrides that the subject alone would load. -/
lemma resolvedUserOverride_planned {routing : RoutingSnapshot} {serverOverride : Option (Option ServerOverride)}
    {bypassEnabled : Bool} {s : Subject} :
    (inputs st routing (((loadActiveUserOverrides st ids).lookup s.subjectId).map some) serverOverride
      bypassEnabled).resolvedUserOverride s = loadActiveUserOverride st s.subjectId := by
  cases hbatch : (loadActiveUserOverrides st ids).lookup s.subjectId with
  | none => rfl
  | some o => exact (lookup_loadActiveUserOverrides hbatch).symm

lemma resolvedServerOverride_planned {routing : RoutingSnapshot} {userOverride : Option (Option UserOverride)}
    {bypassEnabled : Bool} {s : Subject} :
    (inputs st routing userOverride (((loadActiveServerOverrides st ids).lookup s.subjectId).map some)
      bypassEnabled).resolvedServerOverride s = loadActiveServerOverride st s.subjectId := by
  cases hbatch : (loadActiveServerOverrides st ids).lookup s.subjectId with
  | none => rfl
  | some o => exact (lookup_loadActiveServerOverrides hbatch).symm

end Resolved

/-! ## Entries -/

/-- The mode that the manifest and the view of a subject show. -/
def shownMode (st : State) (routing : RoutingSnapshot) (s : Subject) : Text × ModeSource :=
  let mode := effectiveModeWithOverride U s routing (loadActiveUserOverride st s.subjectId)
  if st.emergency = true ∧ mode.1 ∈ [vpn, forcedVpn, selective] then (direct, .emergencyDirect)
  else mode

/-- The binding that they show; a rewritten mode has no override. -/
def shownBinding (st : State) (routing : RoutingSnapshot) (s : Subject) : Binding :=
  let mode := effectiveModeWithOverride U s routing (loadActiveUserOverride st s.subjectId)
  effectiveBinding (shownMode U st routing s).1 s.subjectType
    (if st.emergency = true ∧ mode.1 ∈ [vpn, forcedVpn, selective] then none
      else loadActiveServerOverride st s.subjectId) routing

/-- The entry of a subject under a routing snapshot. -/
def shownEntry (st : State) (routing : RoutingSnapshot) (s : Subject) : Entry where
  subjectId := s.subjectId
  subjectType := s.subjectType
  desiredMode := s.desiredMode
  effectiveMode := (shownMode U st routing s).1
  modeSource := (shownMode U st routing s).2
  dataplanePath := (shownBinding U st routing s).dataplanePath
  selectedServerId := (shownBinding U st routing s).target.selectedServerId
  selectedServerSource := (shownBinding U st routing s).target.selectedServerSource

/-- The routing snapshot that the manifest is built from. -/
def manifestRouting (st : State) : RoutingSnapshot :=
  if st.emergency then { routingSnapshot st with desiredMode := some direct } else routingSnapshot st

section Entries

variable {U buildScopedSubjectRuntime} {st : State}

/-- An enrichment that resolves the overrides of the subject alone shows its entry. -/
lemma entryOf_enrich {i : Inputs} {s : Subject} (hemergency : i.emergency = st.emergency)
    (huser : i.resolvedUserOverride s = loadActiveUserOverride st s.subjectId)
    (hserver : i.resolvedServerOverride s = loadActiveServerOverride st s.subjectId) :
    entryOf s (enrichSubjectWithEffectiveState U buildScopedSubjectRuntime i s) =
      shownEntry U st i.routing s := by
  simp only [entryOf, shownEntry, shownBinding, shownMode, enrichSubjectWithEffectiveState,
    summaryFields, hemergency, huser, hserver, Bool.and_eq_true, decide_eq_true_eq]
  split_ifs <;> rfl

lemma view_eq {row : SubjectRow} (hrow : row ∈ st.subjects) :
    ∃ view, getSubjectWithEffectiveState U buildScopedSubjectRuntime st row.subjectId = some view ∧
      entryOf view.1 view.2 = shownEntry U st (routingSnapshot st) (rowToSubject U st row) := by
  have hfound : st.subject row.subjectId = some row :=
    (KeyedTable.find?_key_iff st.subjects_key).mpr ⟨hrow, rfl⟩
  rw [getSubjectWithEffectiveState, hfound]
  exact ⟨_, rfl, entryOf_enrich rfl rfl rfl⟩

/-- The second enrichment reads no more of the first than the overrides that it found. -/
lemma entryOf_enrichAgain {routing : RoutingSnapshot} {ids : List Text} {s : Subject}
    {state : EffectiveState ρ}
    (huser : state.userOverride = (loadActiveUserOverrides st ids).lookup s.subjectId)
    (hserver : state.serverOverride = (loadActiveServerOverrides st ids).lookup s.subjectId) :
    entryOf s (enrichAgain U buildScopedSubjectRuntime st routing (s, state)) =
      shownEntry U st routing s := by
  rw [enrichAgain, huser, hserver]
  exact entryOf_enrich rfl resolvedUserOverride_planned resolvedServerOverride_planned

lemma emergencyState_overrides (state : EffectiveState ρ) :
    (emergencyState state).userOverride = state.userOverride ∧
      (emergencyState state).serverOverride = state.serverOverride := by
  rw [emergencyState]
  split_ifs
  · exact ⟨rfl, rfl⟩
  · exact ⟨rfl, rfl⟩

/-- The manifest has one entry for every listed subject. -/
lemma buildDataplaneManifest_eq :
    buildDataplaneManifest U buildScopedSubjectRuntime st =
      (listSubjects st 1000).map fun row =>
        shownEntry U st (manifestRouting st) (rowToSubject U st row) := by
  simp only [buildDataplaneManifest, overrideManifestState, manifestRouting]
  split_ifs
  · rw [listSubjectsWithEffectiveState, List.map_map, List.map_map, List.map_map]
    refine List.map_congr_left fun row _ => ?_
    exact entryOf_enrichAgain (emergencyState_overrides _).1 (emergencyState_overrides _).2
  · rw [listSubjectsWithEffectiveState, List.map_map, List.map_map]
    refine List.map_congr_left fun row _ => ?_
    exact entryOf_enrichAgain rfl rfl

/-- The subject follows the global mode, by its own mode and without an override of its user. -/
def FollowsGlobal (U : Unicode) (st : State) (s : Subject) : Prop :=
  subjectFollowsGlobalMode U s.subjectType = true ∧ s.desiredMode = "global".toList ∧
    loadActiveUserOverride st s.subjectId = none

lemma fwrouter_not_followsGlobal : subjectFollowsGlobalMode U fwrouter = false := by
  rw [subjectFollowsGlobalMode, show strip fwrouter = fwrouter by decide, U.lower_ascii _ (by decide)]
  decide

/-- The mode of a subject that follows the global mode. -/
lemma effectiveMode_of_followsGlobal {routing : RoutingSnapshot} {s : Subject}
    (h : FollowsGlobal U st s) :
    effectiveModeWithOverride U s routing (loadActiveUserOverride st s.subjectId) =
      (strOf routing.desiredMode, .global) := by
  obtain ⟨htype, hmode, hnone⟩ := h
  have hcore : s.subjectType ≠ fwrouter := by
    intro heq
    rw [heq, fwrouter_not_followsGlobal] at htype
    cases htype
  rw [effectiveModeWithOverride, if_neg hcore]
  unfold resolveEffectiveCaptureMode
  rw [if_pos htype, if_pos hmode, hnone]

/-- The mode of another subject does not depend on the global one. -/
lemma effectiveMode_of_not_followsGlobal {routing : RoutingSnapshot} {s : Subject}
    (h : ¬FollowsGlobal U st s) (mode : Option Text) :
    effectiveModeWithOverride U s { routing with desiredMode := mode }
        (loadActiveUserOverride st s.subjectId) =
      effectiveModeWithOverride U s routing (loadActiveUserOverride st s.subjectId) := by
  unfold effectiveModeWithOverride resolveEffectiveCaptureMode
  split_ifs with hcore htype hmode
  · rfl
  · cases hload : loadActiveUserOverride st s.subjectId with
    | none => exact absurd ⟨htype, hmode, hload⟩ h
    | some o => rfl
  · rfl
  · rfl
  · rfl

/-- **The entries agree** unless an emergency changed the global mode that the subject follows. -/
lemma shownEntry_manifestRouting_iff {s : Subject} :
    shownEntry U st (manifestRouting st) s = shownEntry U st (routingSnapshot st) s ↔
      ¬(st.emergency = true ∧ FollowsGlobal U st s ∧
        strOf (routingSnapshot st).desiredMode ≠ direct) := by
  rw [manifestRouting]
  by_cases hemergency : st.emergency = true
  · rw [if_pos hemergency]
    by_cases hglobal : FollowsGlobal U st s
    · have hrewritten : effectiveModeWithOverride U s { routingSnapshot st with desiredMode := some direct }
          (loadActiveUserOverride st s.subjectId) = (direct, .global) :=
        effectiveMode_of_followsGlobal hglobal
      have hmode : effectiveModeWithOverride U s (routingSnapshot st)
          (loadActiveUserOverride st s.subjectId) =
            (strOf (routingSnapshot st).desiredMode, .global) := effectiveMode_of_followsGlobal hglobal
      simp only [hemergency, hglobal, true_and, not_not]
      constructor
      · intro h
        have hshown := congrArg Entry.effectiveMode h
        have hsource := congrArg Entry.modeSource h
        simp only [shownEntry, shownMode, hrewritten, hmode, hemergency, true_and] at hshown hsource
        rw [if_neg (by decide)] at hshown hsource
        by_cases hvpn : strOf (routingSnapshot st).desiredMode ∈ [vpn, forcedVpn, selective]
        · rw [if_pos hvpn] at hsource
          cases hsource
        · rw [if_neg hvpn] at hshown
          exact hshown.symm
      · intro h
        simp only [shownEntry, shownBinding, shownMode, hrewritten, hmode, h]
        rfl
    · have hmode := @effectiveMode_of_not_followsGlobal U st (routingSnapshot st) s hglobal (some direct)
      refine iff_of_true ?_ fun h => hglobal h.2.1
      simp only [shownEntry, shownBinding, shownMode, hmode]
      rfl
  · rw [if_neg hemergency]
    exact iff_of_true rfl fun h => hemergency h.1

end Entries

/-! ## The manifest and the views -/

/-- One entry for every subject that is not deleted, and no other. -/
def CoversSubjects (st : State) : Prop :=
  ((buildDataplaneManifest U buildScopedSubjectRuntime st).map Entry.subjectId).Perm
    ((liveSubjects st).map SubjectRow.subjectId)

/-- Every entry shows what the view of its subject shows. -/
def AgreesWithViews (st : State) : Prop :=
  ∀ entry ∈ buildDataplaneManifest U buildScopedSubjectRuntime st, ∃ view,
    getSubjectWithEffectiveState U buildScopedSubjectRuntime st entry.subjectId = some view ∧
    entry.effectiveMode = view.2.effectiveMode ∧ entry.modeSource = view.2.modeSource ∧
    entry.dataplanePath = view.2.dataplanePath ∧
    entry.selectedServerId = view.2.selectedServerId ∧
    entry.selectedServerSource = view.2.selectedServerSource

section Manifest

variable {U buildScopedSubjectRuntime} {st : State}

lemma mem_liveSubjects {row : SubjectRow} :
    row ∈ liveSubjects st ↔ row ∈ st.subjects ∧ row.isDeleted = false := by
  rw [liveSubjects, List.mem_filter, Bool.not_eq_true']

lemma liveSubjects_of_listed {limit : ℕ} {row : SubjectRow} (h : row ∈ listSubjects st limit) :
    row ∈ liveSubjects st :=
  List.mem_mergeSort.mp (List.mem_of_mem_take h)

lemma listSubjects_perm (h : (liveSubjects st).length ≤ 500) :
    (listSubjects st 1000).Perm (liveSubjects st) := by
  rw [listSubjects, List.take_of_length_le (by rw [List.length_mergeSort]; simpa using h)]
  exact List.mergeSort_perm _ _

lemma map_subjectId_manifest :
    (buildDataplaneManifest U buildScopedSubjectRuntime st).map Entry.subjectId =
      (listSubjects st 1000).map SubjectRow.subjectId := by
  rw [buildDataplaneManifest_eq, List.map_map]
  rfl

/-- **Every subject is covered exactly if the listing is not cut off.** -/
lemma coversSubjects_iff :
    CoversSubjects U buildScopedSubjectRuntime st ↔ (liveSubjects st).length ≤ 500 := by
  rw [CoversSubjects, map_subjectId_manifest]
  constructor
  · intro h
    have hlength := h.length_eq
    rw [List.length_map, List.length_map, listSubjects, List.length_take, List.length_mergeSort] at hlength
    omega
  · intro h
    exact (listSubjects_perm h).map _

/-- The entry of a listed subject agrees with its view exactly if both show the same. -/
lemma agrees_iff_shownEntry :
    AgreesWithViews U buildScopedSubjectRuntime st ↔ ∀ row ∈ listSubjects st 1000,
      shownEntry U st (manifestRouting st) (rowToSubject U st row) =
        shownEntry U st (routingSnapshot st) (rowToSubject U st row) := by
  rw [AgreesWithViews, buildDataplaneManifest_eq, List.forall_mem_map]
  refine forall₂_congr fun row hrow => ?_
  have hstored := (mem_liveSubjects.mp (liveSubjects_of_listed hrow)).1
  obtain ⟨view, hview, hentry⟩ := @view_eq U ρ buildScopedSubjectRuntime st row hstored
  have hview : getSubjectWithEffectiveState U buildScopedSubjectRuntime st
      (shownEntry U st (manifestRouting st) (rowToSubject U st row)).subjectId = some view := hview
  have hid := congrArg Entry.subjectId hentry
  have htype := congrArg Entry.subjectType hentry
  have hdesired := congrArg Entry.desiredMode hentry
  rw [hview, ← hentry, Entry.ext_iff]
  simp only [Option.some.injEq, exists_eq_left']
  constructor
  · intro h
    exact ⟨hid.symm, htype.symm, hdesired.symm, h⟩
  · rintro ⟨-, -, -, h⟩
    exact h

end Manifest

/-- **The manifest covers every subject and agrees with the views** exactly if at most 500 subjects are
not deleted and no emergency changes the global mode that one of them follows. -/
theorem manifest_covers_and_agrees_iff (U : Unicode) (buildScopedSubjectRuntime : ScopedArgs → ρ)
    (st : State) :
    CoversSubjects U buildScopedSubjectRuntime st ∧ AgreesWithViews U buildScopedSubjectRuntime st ↔
      (liveSubjects st).length ≤ 500 ∧
      ∀ row ∈ liveSubjects st, ¬(st.emergency = true ∧ FollowsGlobal U st (rowToSubject U st row) ∧
        strOf (routingSnapshot st).desiredMode ≠ direct) := by
  rw [coversSubjects_iff, agrees_iff_shownEntry]
  refine and_congr_right fun hlength => ?_
  simp only [shownEntry_manifestRouting_iff, (listSubjects_perm hlength).mem_iff]

/-! ### A large installation -/

def clientId (n : ℕ) : Text := "lan:".toList ++ List.replicate n 'a'

lemma clientId_injective : Function.Injective clientId := by
  intro m n h
  have hlength := congrArg List.length (List.append_cancel_left h)
  simpa using hlength

def client (n : ℕ) : SubjectRow := ⟨clientId n, true, false, none⟩

/-- LAN clients that the admin sent through the VPN, without any override. -/
def clients (n : ℕ) : State where
  subjects := (List.range n).map client
  servers := []
  overrides := []
  lanAddress _ := none
  dockerAddress _ := none
  subjects_key := by
    rw [List.map_map]
    exact List.nodup_range.map clientId_injective
  servers_key := List.nodup_nil
  overrides_key := List.nodup_nil
  columns _ := ⟨"lan".toList, vpn, none, [], []⟩
  userOverrides := []
  userOverrides_key := List.nodup_nil
  routing := none
  now := []
  vpnSupported _ := true
  bypassEnabled := false
  emergency := false

lemma length_liveSubjects_clients (n : ℕ) : (liveSubjects (clients n)).length = n := by
  have hlive : liveSubjects (clients n) = (List.range n).map client := by
    refine List.filter_eq_self.mpr fun row hrow => ?_
    obtain ⟨k, -, rfl⟩ := List.mem_map.mp hrow
    rfl
  rw [hlive, List.length_map, List.length_range]

/-- Of 501 clients one has no entry. -/
theorem client_not_covered :
    ¬(CoversSubjects .ascii (fun _ => ()) (clients 501) ∧
      AgreesWithViews .ascii (fun _ => ()) (clients 501)) := by
  rintro ⟨hcovers, -⟩
  have hlength := coversSubjects_iff.mp hcovers
  rw [length_liveSubjects_clients] at hlength
  omega

end FwRouter.Subjects.Manifest
