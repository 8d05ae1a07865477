import FwRouter.Library.KeyedTable
import FwRouter.Subjects.ServerOverride

/-!
# Rendered routes and live overrides

The routes of the Mihomo configuration are those of the override rows, live or expired.  A route of
a subject is that of its live override if its row, where it names a server of the inventory, is live
just when the renderer can name the server.
-/

namespace FwRouter.Subjects

open Py

/-! ## Rows by their keys -/

variable {db : Database} {now : Text}

lemma server_iff {serverId : Text} {srv : ServerRow} :
    db.server serverId = some srv ↔ srv ∈ db.servers ∧ srv.serverId = serverId :=
  KeyedTable.find?_key_iff db.servers_key

lemma subject_iff {subjectId : Text} {s : SubjectRow} :
    db.subject subjectId = some s ↔ s ∈ db.subjects ∧ s.subjectId = subjectId :=
  KeyedTable.find?_key_iff db.subjects_key

lemma override_eq {o o' : OverrideRow} (ho : o ∈ db.overrides) (ho' : o' ∈ db.overrides)
    (hkey : o.subjectId = o'.subjectId) : o = o' :=
  List.inj_on_of_nodup_map db.overrides_key ho ho' hkey

/-! ## Live overrides -/

/-- The id of a server that a target can name. -/
def Concrete (serverId : Text) : Prop := serverId ≠ [] ∧ serverId ≠ virtualXrayVpnAutoServerId

lemma decodeTarget_of_some {o : OverrideRow} {serverId : Text}
    (h : o.selectedServerId = some serverId) :
    decodeTarget o.selectedTargetKind o.selectedServerId =
      if serverId = [] then none else some serverId := by
  rcases o.check with hkind | hnone
  · rw [hkind, h, decodeTarget]
  · rw [h] at hnone
    cases hnone

/-- A target that is not the virtual one is the server of the row. -/
lemma selectedServerId_of_decode {o : OverrideRow} {serverId : Text}
    (h : decodeTarget o.selectedTargetKind o.selectedServerId = some serverId)
    (hvirtual : serverId ≠ virtualXrayVpnAutoServerId) :
    o.selectedServerId = some serverId ∧ serverId ≠ [] := by
  cases hselected : o.selectedServerId with
  | none =>
      rw [hselected] at h
      cases hkind : o.selectedTargetKind with
      | server =>
          rw [hkind] at h
          cases h
      | vpnAuto =>
          rw [hkind] at h
          exact absurd (Option.some.inj h).symm hvirtual
  | some selected =>
      rw [decodeTarget_of_some hselected] at h
      split_ifs at h with hempty
      obtain rfl := Option.some.inj h
      exact ⟨rfl, hempty⟩

/-- **The live server of a subject** is the server of its row, if that has not expired. -/
lemma liveServer_iff {subjectId : Text} {srv : ServerRow} :
    liveServer db now subjectId = some srv ↔
      ∃ o ∈ db.overrides, o.subjectId = subjectId ∧ o.selectedServerId = some srv.serverId ∧
        srv ∈ db.servers ∧ o.Unexpired now ∧ Concrete srv.serverId := by
  rw [liveServer, loadActiveServerOverride, Option.bind_map, Option.bind_eq_some_iff]
  constructor
  · rintro ⟨o, hfound, h⟩
    have hrow := List.find?_some hfound
    simp only [decide_eq_true_eq] at hrow
    rw [Function.comp_apply, Option.bind_eq_some_iff] at h
    obtain ⟨serverId, hdecoded, h⟩ := h
    split_ifs at h with hvirtual
    obtain ⟨hmem, rfl⟩ := server_iff.mp h
    obtain ⟨hselected, hempty⟩ := selectedServerId_of_decode hdecoded hvirtual
    exact ⟨o, List.mem_of_find?_eq_some hfound, hrow.1, hselected, hmem, hrow.2.2, hempty, hvirtual⟩
  · rintro ⟨o, hmem, hsubject, hselected, hserver, hlive, hempty, hvirtual⟩
    have hrow : decide (o.subjectId = subjectId ∧ (o.selectedTargetKind = .vpnAuto ∨
        o.selectedServerId ≠ none) ∧ o.Unexpired now) = true := by
      simp [hsubject, hselected, hlive]
    refine ⟨o, ?_, ?_⟩
    · cases hfound : db.overrides.find? _ with
      | none => exact absurd hrow (List.find?_eq_none.mp hfound o hmem)
      | some other =>
          have hother := List.find?_some hfound
          simp only [decide_eq_true_eq] at hother
          rw [override_eq (List.mem_of_find?_eq_some hfound) hmem (hother.1.trans hsubject.symm)]
    · rw [Function.comp_apply, projectRow, decodeTarget_of_some hselected, if_neg hempty]
      simpa [hvirtual] using server_iff.mpr ⟨hserver, rfl⟩

/-! ## Routes -/

variable {jsonText : Value → Text} {selectorName : Text → Text} {s : SubjectRow}

/-- The renderer can name the subject and the server. -/
def Nameable (jsonText : Value → Text) (s : SubjectRow) (srv : ServerRow) : Prop :=
  strip s.subjectId ≠ [] ∧ runtimeName jsonText srv ≠ []

/-- **The routes of a subject** are those of its row, expired or not. -/
lemma exists_route_iff (hs : s ∈ db.subjects) (hactive : s.isActive = true)
    (hdeleted : s.isDeleted = false) (hsource : (sourceCidr jsonText db s).isSome)
    (name : Text) :
    (∃ r, (s.subjectId, r) ∈ subjectRoutes jsonText selectorName db ∧ r.serverName = name) ↔
      ∃ o ∈ db.overrides, ∃ srv ∈ db.servers, o.subjectId = s.subjectId ∧
        o.selectedServerId = some srv.serverId ∧ Nameable jsonText s srv ∧
        runtimeName jsonText srv = name := by
  obtain ⟨source, hsource⟩ := Option.isSome_iff_exists.mp hsource
  constructor
  · rintro ⟨r, hr, rfl⟩
    obtain ⟨o, ho, hrow⟩ := List.mem_filterMap.mp hr
    simp only [routeRow, Option.bind_eq_bind, Option.bind_eq_some_iff] at hrow
    obtain ⟨s', hs', serverId, hserverId, srv, hsrv, hrow⟩ := hrow
    split at hrow
    · cases hrow
    · obtain ⟨source', -, hrow⟩ := Option.bind_eq_some_iff.mp hrow
      split_ifs at hrow with hnames
      obtain ⟨hsubject, rfl⟩ := Prod.mk.inj (Option.some.inj hrow)
      have hkey := (subject_iff.mp hs').2
      obtain ⟨hmem, rfl⟩ := server_iff.mp hsrv
      rw [not_or] at hnames
      refine ⟨o, ho, srv, hmem, hkey.symm.trans hsubject, hserverId, ⟨?_, hnames.2⟩, rfl⟩
      rw [← hsubject]
      exact hnames.1
  · rintro ⟨o, ho, srv, hsrv, hsubject, hserverId, hnames, rfl⟩
    refine ⟨⟨strip s.subjectId, source, runtimeName jsonText srv,
      selectorName (strip s.subjectId)⟩, List.mem_filterMap.mpr ⟨o, ho, ?_⟩, rfl⟩
    simp [routeRow, hsubject, subject_iff.mpr ⟨hs, rfl⟩, hserverId, server_iff.mpr ⟨hsrv, rfl⟩, hactive,
      hdeleted, hsource, hnames.1, hnames.2]

/-- The row of the subject, where it names a server of the inventory, is live just when the renderer
can name the server. -/
def RowCurrent (jsonText : Value → Text) (db : Database) (now : Text) (s : SubjectRow) : Prop :=
  ∀ o ∈ db.overrides, ∀ srv ∈ db.servers, o.subjectId = s.subjectId →
    o.selectedServerId = some srv.serverId →
      (Nameable jsonText s srv ↔ o.Unexpired now ∧ Concrete srv.serverId)

/-- **The routes of a subject are those of its live override exactly if its row is current.** -/
theorem routes_live_iff (jsonText : Value → Text) (selectorName : Text → Text) (db : Database)
    (now : Text) (s : SubjectRow) (hs : s ∈ db.subjects) (hactive : s.isActive = true)
    (hdeleted : s.isDeleted = false) (hsource : (sourceCidr jsonText db s).isSome) :
    (∀ name, (∃ r, (s.subjectId, r) ∈ subjectRoutes jsonText selectorName db ∧
        r.serverName = name) ↔
      ∃ srv, liveServer db now s.subjectId = some srv ∧ runtimeName jsonText srv = name) ↔
    RowCurrent jsonText db now s := by
  simp only [exists_route_iff hs hactive hdeleted hsource, liveServer_iff]
  -- the row of the subject and its server are determined, so that both sides speak of them
  have hsame : ∀ {o o' : OverrideRow} {srv srv' : ServerRow}, o ∈ db.overrides →
      o' ∈ db.overrides → srv ∈ db.servers → srv' ∈ db.servers → o.subjectId = s.subjectId →
      o'.subjectId = s.subjectId → o.selectedServerId = some srv.serverId →
      o'.selectedServerId = some srv'.serverId → o = o' ∧ srv = srv' := by
    intro o o' srv srv' ho ho' hsrv hsrv' hkey hkey' hsel hsel'
    obtain rfl := override_eq ho ho' (hkey.trans hkey'.symm)
    have hid := Option.some.inj (hsel.symm.trans hsel')
    exact ⟨rfl, List.inj_on_of_nodup_map db.servers_key hsrv hsrv' hid⟩
  constructor
  · intro h o ho srv hsrv hkey hsel
    constructor
    · intro hname
      obtain ⟨srv', ⟨o', ho', hkey', hsel', hsrv', hlive⟩, -⟩ :=
        (h (runtimeName jsonText srv)).mp ⟨o, ho, srv, hsrv, hkey, hsel, hname, rfl⟩
      obtain ⟨rfl, rfl⟩ := hsame ho ho' hsrv hsrv' hkey hkey' hsel hsel'
      exact hlive
    · intro hlive
      obtain ⟨o', ho', srv', hsrv', hkey', hsel', hname, -⟩ :=
        (h (runtimeName jsonText srv)).mpr ⟨srv, ⟨o, ho, hkey, hsel, hsrv, hlive⟩, rfl⟩
      obtain ⟨rfl, rfl⟩ := hsame ho ho' hsrv hsrv' hkey hkey' hsel hsel'
      exact hname
  · intro hcurrent name
    constructor
    · rintro ⟨o, ho, srv, hsrv, hkey, hsel, hname, rfl⟩
      exact ⟨srv, ⟨o, ho, hkey, hsel, hsrv, (hcurrent o ho srv hsrv hkey hsel).mp hname⟩, rfl⟩
    · rintro ⟨srv, ⟨o, ho, hkey, hsel, hsrv, hlive⟩, rfl⟩
      exact ⟨o, ho, srv, hsrv, hkey, hsel, (hcurrent o ho srv hsrv hkey hsel).mpr hlive, rfl⟩

def sampleSubject : SubjectRow :=
  ⟨"lan:phone".toList, true, false,
    some (.dict [("detail".toList, .dict [("ip_address".toList, .str "192.168.1.20".toList)])])⟩

def sampleServer : ServerRow :=
  ⟨"sub:berlin".toList, "Berlin".toList, some (.dict [("name".toList, .str "de-1".toList)])⟩

def sampleOverride : OverrideRow where
  subjectId := "lan:phone".toList
  selectedServerId := some "sub:berlin".toList
  selectedTargetKind := .server
  selectedUntil := some "2026-01-02 00:00:00".toList
  check := Or.inl rfl

def sampleDatabase : Database where
  subjects := [sampleSubject]
  servers := [sampleServer]
  overrides := [sampleOverride]
  lanAddress _ := none
  dockerAddress _ := none
  subjects_key := by decide
  servers_key := by decide
  overrides_key := by decide

def sampleRoute : Route :=
  ⟨"lan:phone".toList, "192.168.1.20/32".toList, "de-1".toList, "lan:phone".toList⟩

/-- An hour before it expires the override is the route. -/
theorem routes_live_before_expiry :
    sampleSubject ∈ sampleDatabase.subjects ∧
      (sourceCidr (fun _ => []) sampleDatabase sampleSubject).isSome ∧
      ∀ name, (∃ r, (sampleSubject.subjectId, r) ∈
          subjectRoutes (fun _ => []) id sampleDatabase ∧ r.serverName = name) ↔
        ∃ srv, liveServer sampleDatabase "2026-01-01 23:00:00".toList sampleSubject.subjectId =
          some srv ∧ runtimeName (fun _ => []) srv = name := by
  have hmem : sampleSubject ∈ sampleDatabase.subjects := List.mem_singleton_self _
  have hsource : (sourceCidr (fun _ => []) sampleDatabase sampleSubject).isSome := by
    decide +kernel
  refine ⟨hmem, hsource, (routes_live_iff _ _ _ _ _ hmem rfl rfl hsource).mpr ?_⟩
  intro o ho srv hsrv _ _
  obtain rfl := List.mem_singleton.mp ho
  obtain rfl := List.mem_singleton.mp hsrv
  constructor
  · intro _
    exact ⟨by decide +kernel, by decide +kernel, by decide +kernel⟩
  · intro _
    exact ⟨by decide +kernel, by decide +kernel⟩

/-- A day after it expired the override is gone for the policy, and still the route. -/
theorem expired_override_routed :
    loadActiveServerOverride sampleDatabase "2026-01-03 00:00:00".toList "lan:phone".toList = none ∧
      subjectRoutes (fun _ => []) id sampleDatabase = [(sampleSubject.subjectId, sampleRoute)] ∧
      ¬∀ name, (∃ r, (sampleSubject.subjectId, r) ∈
          subjectRoutes (fun _ => []) id sampleDatabase ∧ r.serverName = name) ↔
        ∃ srv, liveServer sampleDatabase "2026-01-03 00:00:00".toList sampleSubject.subjectId =
          some srv ∧ runtimeName (fun _ => []) srv = name := by
  have hexpired : loadActiveServerOverride sampleDatabase "2026-01-03 00:00:00".toList
      "lan:phone".toList = none := by
    decide +kernel
  have hroutes : subjectRoutes (fun _ => []) id sampleDatabase =
      [(sampleSubject.subjectId, sampleRoute)] := by
    decide +kernel
  refine ⟨hexpired, hroutes, ?_⟩
  intro h
  have hroute : (sampleSubject.subjectId, sampleRoute) ∈
      subjectRoutes (fun _ => []) id sampleDatabase := by
    rw [hroutes]
    exact List.mem_singleton_self _
  obtain ⟨srv, hlive, -⟩ := (h sampleRoute.serverName).mp ⟨sampleRoute, hroute, rfl⟩
  rw [liveServer, show sampleSubject.subjectId = "lan:phone".toList from rfl, hexpired] at hlive
  cases hlive

end FwRouter.Subjects
