import FwRouter.Xray.Policy

/-!
# Where Xray and Mihomo meet

The bindings of the Xray clients are collected from the database, given their handoff ports, and
recorded in the bindings file; Mihomo opens a listener for every bound server, and Xray renders a
SOCKS outbound for it.  `services/xray_bindings.py` and `_collect_xray_handoff_assignments` of
`services/mihomo_config_inbounds.py`.

All of them call `build_xray_handoff_assignments`, but only the annotation of the bindings hands in
the recorded listeners as preserved: what the file records of a binding keeps the port of the last
round, while the recorded listeners, the Mihomo listeners and the SOCKS outbounds are allocated
afresh.  `round_agrees_iff` says when the two allocations are the same.
-/

namespace Xray

open Py

/-- The `handoff` of a binding. -/
structure Handoff where
  listenerName : Text
  listen : Text
  port : ℕ
  outboundTag : Text
deriving DecidableEq

inductive BindingStatus
  | pending
  | applied
deriving DecidableEq

/-- A binding as it is collected and recorded. -/
structure Binding extends ClientBinding where
  handoff : Option Handoff
  status : BindingStatus
deriving DecidableEq

/-- What the bindings file holds. -/
structure BindingsFile where
  bindings : List Binding
  handoffListeners : List Assignment
deriving DecidableEq

/-- The bindings file, and the bindings that the database has for the clients now. -/
structure Runtime where
  file : BindingsFile
  current : List ClientBinding
deriving DecidableEq

/-- No bindings, and no file yet. -/
def Runtime.start : Runtime := ⟨⟨[], []⟩, []⟩

/-- A listener that Mihomo is to open. -/
structure HandoffListener where
  selectedServerId : Text
  listenerName : Text
  listen : Text
  port : ℕ
  tag : Text
  proxy : Text
  clientEmails : List Text
deriving DecidableEq

section Collect

variable (sha1 : Sha1)

def Assignment.handoff (a : Assignment) : Handoff := ⟨a.listenerName, a.listen, a.port, a.tag⟩

/-- `handoff_by_server`. -/
def handoffByServer (assignments : List Assignment) : List (Text × Assignment) :=
  assignments.foldl (fun known a => KeyedTable.assign a.selectedServerId a known) []

/-- A binding with the handoff of its server. -/
def annotate (assignments : List Assignment) (b : ClientBinding) : Binding :=
  { b with
    handoff := ((handoffByServer assignments).lookup b.server).map Assignment.handoff
    status := .pending }

/-- `_annotate_bindings_with_handoff`, with what `_applied_handoff_assignments` reads. -/
def annotateBindingsWithHandoff (bindings : List ClientBinding) (applied : List Assignment) :
    Option (List Binding) :=
  (buildXrayHandoffAssignments sha1 bindings applied).map fun assignments =>
    bindings.map (annotate assignments)

def collectXrayRuntimeBindings (s : Runtime) : Option (List Binding) :=
  annotateBindingsWithHandoff sha1 s.current s.file.handoffListeners

def getXrayHandoffListeners (bindings : List Binding) : Option (List Assignment) :=
  buildXrayHandoffAssignments sha1 (bindings.map Binding.toClientBinding) []

/-- `if applied_ok: binding["status"] = "applied"`. -/
def Binding.record (appliedOk : Bool) (b : Binding) : Binding :=
  if appliedOk then { b with status := .applied } else b

def writeXrayBindingsState (bindings : List Binding) (appliedOk : Bool) : Option BindingsFile :=
  (getXrayHandoffListeners sha1 bindings).map fun listeners =>
    ⟨bindings.map (Binding.record appliedOk), listeners⟩

/-! ## The listeners of Mihomo -/

def Assignment.listener (a : Assignment) : HandoffListener :=
  ⟨a.selectedServerId, a.listenerName, a.listen, a.port, a.tag, a.proxy, a.clientEmails⟩

/-- `by_listener`, from the current assignments. -/
def listenersByName (current : List Assignment) : List (Text × HandoffListener) :=
  current.foldl (fun known a => KeyedTable.assign a.listenerName a.listener known) []

/-- The listener of a recorded binding that is applied stays, unless its name is there. -/
def retainListener (known : List (Text × HandoffListener)) (b : Binding) :
    List (Text × HandoffListener) :=
  match b.status, b.handoff with
  | .applied, some handoff =>
      let listenerName := strip handoff.listenerName
      if listenerName = [] ∨ b.server = [] ∨ listenerName ∈ known.map Prod.fst ∨
          handoff.port = 0 then known
      else
        KeyedTable.assign listenerName
          { selectedServerId := b.server
            listenerName := listenerName
            listen := textOrDefault handoff.listen xrayMihomoHandoffHost
            port := handoff.port
            tag := handoff.outboundTag
            proxy := textOrDefault b.handoffProxyName b.server
            clientEmails := [b.clientEmail] }
          known
  | _, _ => known

def collectXrayHandoffAssignments (s : Runtime) : Option (List HandoffListener) :=
  (collectXrayRuntimeBindings sha1 s).bind fun bindings =>
    (getXrayHandoffListeners sha1 bindings).map fun current =>
      (s.file.bindings.foldl retainListener (listenersByName current)).map Prod.snd

/-! ## Rounds -/

/-- A change of the bindings, and whether the write after it reports them as applied. -/
structure Round where
  bindings : List ClientBinding
  appliedOk : Bool

/-- The bindings change, are collected, and what was collected is written; `none` when one of the
calls raises. -/
def Runtime.round (s : Runtime) (r : Round) : Option Runtime :=
  let changed := { s with current := r.bindings }
  (collectXrayRuntimeBindings sha1 changed).bind fun bindings =>
    (writeXrayBindingsState sha1 bindings r.appliedOk).map fun file => { changed with file := file }

/-- The state after `n` rounds. -/
def stateAfter (rounds : List Round) (n : ℕ) : Option Runtime :=
  (rounds.take n).foldlM (Runtime.round sha1) Runtime.start

end Collect

/-! ## What is to agree -/

/-- The port of the listener of a server. -/
def listenerPort (listeners : List HandoffListener) (s : Text) : Option ℕ :=
  (listeners.find? fun l => decide (l.selectedServerId = s)).map HandoffListener.port

/-- The port that a SOCKS outbound connects to. -/
def outboundPort (o : Value) : Option ℕ :=
  ((o.dictOr.get "settings").dictOr.get "servers").listOr.head?.bind fun server =>
    match server.dictOr.get "port" with
    | .int port => some port.toNat
    | _ => none

/-- The port of the outbound that is rendered for a server. -/
def renderedPort (reprText : Text → Text) (sha1 : Sha1) (m : Materialized) (s : Text) : Option ℕ :=
  ((outboundsOf m.payload).find? (hasTag reprText (xrayManagedEgressTag sha1 s))).bind outboundPort

/-- **The two sides meet on the same ports**: no two listeners share an address, a binding, its
listener and its outbound have one port, and so have an applied binding of the file and its
listener. -/
def Agree (U : Unicode) (reprText : Text → Text) (sha1 : Sha1) (s : Runtime) : Prop :=
  ∃ bindings listeners, collectXrayRuntimeBindings sha1 s = some bindings ∧
    collectXrayHandoffAssignments sha1 s = some listeners ∧
    (listeners.map fun l => (l.listen, l.port)).Nodup ∧
    (∀ b ∈ bindings, b.server ≠ [] → ∃ port, b.handoff.map Handoff.port = some port ∧
      listenerPort listeners b.server = some port ∧
      ∀ payload clientModes m, materializeManagedEgress U reprText sha1 payload
          (bindings.map Binding.toClientBinding) clientModes none = some m →
        renderedPort reprText sha1 m b.server = some port) ∧
    ∀ b ∈ s.file.bindings, b.status = .applied → ∀ handoff, b.handoff = some handoff →
      listenerPort listeners b.server = some handoff.port

/-- Different bound servers have different digests, and so different listener names. -/
def DistinctServers (sha1 : Sha1) (bindings : List ClientBinding) : Prop :=
  ∀ b ∈ bindings, ∀ c ∈ bindings, b.server ≠ [] → c.server ≠ [] →
    xrayHandoffDigest sha1 b.server = xrayHandoffDigest sha1 c.server → b.server = c.server

/-- First fit over the servers bound afterwards moves no server that was bound before, and puts no
other server on a port that first fit gave away before. -/
def KeepsPorts (sha1 : Sha1) (before after : List ClientBinding) : Prop :=
  ∀ old new, handoffPlan sha1 before = some old → handoffPlan sha1 after = some new →
    ∀ s port, (s, port) ∈ new → FirstFit.Respects (fun t => old.lookup t) (old.map Prod.snd) s port

/-! ## The two allocations -/

section Allocations

variable {sha1 : Sha1} {bindings : List ClientBinding} {listeners assignments : List Assignment}

lemma lookup_placements (assignments : List Assignment) (s : Text) :
    (placements assignments).lookup s = portOf assignments s :=
  KeyedTable.lookup_map_key (fun a : Assignment => a.selectedServerId) Assignment.port assignments s

lemma map_snd_placements (assignments : List Assignment) :
    (placements assignments).map Prod.snd = assignments.map Assignment.port := by
  rw [placements, List.map_map]
  rfl

/-- Without preserved assignments the ports are those of plain first fit. -/
lemma handoffPlan_of_build (h : buildXrayHandoffAssignments sha1 bindings [] = some assignments) :
    handoffPlan sha1 bindings = some (placements assignments) :=
  (build_spec wellPlaced_nil h).2.2

/-- Preserving the recorded listeners changes nothing exactly when first fit respects them. -/
lemma build_keeping_iff (hlisteners : WellPlaced sha1 listeners)
    (h : buildXrayHandoffAssignments sha1 bindings [] = some assignments) :
    buildXrayHandoffAssignments sha1 bindings listeners = some assignments ↔
      ∀ s port, (s, port) ∈ placements assignments →
        FirstFit.Respects (portOf listeners) (listeners.map Assignment.port) s port := by
  have hheld : ∀ s port, portOf listeners s = some port → port ∈ listeners.map Assignment.port := by
    intro s port hport
    rw [← map_snd_placements]
    exact List.mem_map.mpr ⟨(s, port), (portOf_eq_some_iff hlisteners).mp hport, rfl⟩
  rw [← FirstFit.place_keeping_iff hheld (handoffPlan_of_build h)]
  constructor
  · exact fun hkeep => (build_spec hlisteners hkeep).2.2
  · intro hplace
    have hplain := build_eq bindings (@wellPlaced_nil sha1)
    rw [h] at hplain
    have hplan : FirstFit.place (probePorts sha1) (portOf []) [] (boundServers sha1 bindings) =
        some (placements assignments) := (build_spec wellPlaced_nil h).2.2
    rw [List.map_nil, hplan, Option.map_some] at hplain
    rw [build_eq bindings hlisteners, hplace, Option.map_some, ← hplain]

lemma build_again (h : buildXrayHandoffAssignments sha1 bindings [] = some assignments) :
    buildXrayHandoffAssignments sha1 bindings assignments = some assignments := by
  obtain ⟨hplaced, -, -⟩ := build_spec wellPlaced_nil h
  rw [build_keeping_iff hplaced h]
  intro s port hmem
  rw [FirstFit.Respects, (portOf_eq_some_iff hplaced).mpr hmem]
  rfl

lemma portOf_isSome (hlisteners : WellPlaced sha1 listeners)
    (h : buildXrayHandoffAssignments sha1 bindings listeners = some assignments)
    {b : ClientBinding} (hb : b ∈ bindings) (hserver : b.server ≠ []) :
    ∃ a ∈ assignments, a.selectedServerId = b.server ∧ portOf assignments b.server = some a.port := by
  obtain ⟨hplaced, htargets, -⟩ := build_spec hlisteners h
  have hmem : b.server ∈ boundServers sha1 bindings := mem_boundServers.mpr ⟨hserver, b, hb, rfl⟩
  rw [boundServers, ← htargets, List.map_map] at hmem
  obtain ⟨a, ha, hab⟩ := List.mem_map.mp hmem
  have hab : a.selectedServerId = b.server := hab
  refine ⟨a, ha, hab, (portOf_eq_some_iff hplaced).mpr ?_⟩
  exact List.mem_map.mpr ⟨a, ha, by rw [hab]⟩

/-- If preserving the recorded listeners moves no port, first fit respects them. -/
lemma respects_of_ports (hlisteners : WellPlaced sha1 listeners) {kept : List Assignment}
    (hkept : buildXrayHandoffAssignments sha1 bindings listeners = some kept)
    (h : buildXrayHandoffAssignments sha1 bindings [] = some assignments)
    (hports : ∀ b ∈ bindings, b.server ≠ [] → portOf kept b.server = portOf assignments b.server) :
    ∀ s port, (s, port) ∈ placements assignments →
      FirstFit.Respects (portOf listeners) (listeners.map Assignment.port) s port := by
  obtain ⟨hkeptPlaced, -, hkeptPlace⟩ := build_spec hlisteners hkept
  obtain ⟨hplaced, -, hplace⟩ := build_spec wellPlaced_nil h
  intro s port hmem
  have hbound : s ∈ boundServers sha1 bindings := by
    rw [← FirstFit.map_fst_place hplace]
    exact List.mem_map.mpr ⟨(s, port), hmem, rfl⟩
  obtain ⟨hs, b, hb, rfl⟩ := mem_boundServers.mp hbound
  have hport : portOf kept b.server = some port := by
    rw [hports b hb hs]
    exact (portOf_eq_some_iff hplaced).mpr hmem
  rcases FirstFit.mem_place hkeptPlace ((portOf_eq_some_iff hkeptPlaced).mp hport) with
    hheld | ⟨hnone, -, hfree⟩
  · rw [FirstFit.Respects, hheld]
    rfl
  · rw [FirstFit.Respects, hnone]
    exact hfree

end Allocations

/-! ## One round -/

section Round

variable {sha1 : Sha1} {s s' : Runtime} {r : Round}

/-- The listeners of the file are those of the bindings of the state, allocated without
preserving. -/
structure Written (sha1 : Sha1) (s : Runtime) : Prop where
  wellPlaced : WellPlaced sha1 s.file.handoffListeners
  listeners : buildXrayHandoffAssignments sha1 s.current [] = some s.file.handoffListeners

lemma written_start : Written sha1 Runtime.start := ⟨wellPlaced_nil, rfl⟩

lemma map_annotate (assignments : List Assignment) (bindings : List ClientBinding) :
    (bindings.map (annotate assignments)).map Binding.toClientBinding = bindings := by
  rw [List.map_map]
  exact List.map_id _

/-- What a round does: it records the bindings with the ports of the preserving allocation, and the
listeners of the plain one. -/
lemma round_eq_some : s.round sha1 r = some s' ↔
    ∃ kept listeners, buildXrayHandoffAssignments sha1 r.bindings s.file.handoffListeners =
        some kept ∧
      buildXrayHandoffAssignments sha1 r.bindings [] = some listeners ∧
      s' = ⟨⟨(r.bindings.map (annotate kept)).map (Binding.record r.appliedOk), listeners⟩,
        r.bindings⟩ := by
  simp only [Runtime.round, collectXrayRuntimeBindings, annotateBindingsWithHandoff,
    writeXrayBindingsState, getXrayHandoffListeners, Option.bind_eq_some_iff,
    Option.map_eq_some_iff]
  constructor
  · rintro ⟨_, ⟨kept, hkept, rfl⟩, _, ⟨listeners, hlisteners, rfl⟩, rfl⟩
    rw [map_annotate] at hlisteners
    exact ⟨kept, listeners, hkept, hlisteners, rfl⟩
  · rintro ⟨kept, listeners, hkept, hlisteners, rfl⟩
    refine ⟨_, ⟨kept, hkept, rfl⟩, _, ⟨listeners, ?_, rfl⟩, rfl⟩
    rw [map_annotate]
    exact hlisteners

lemma Written.round (h : s.round sha1 r = some s') : Written sha1 s' := by
  obtain ⟨kept, listeners, -, hlisteners, rfl⟩ := round_eq_some.mp h
  exact ⟨(build_spec wellPlaced_nil hlisteners).1, hlisteners⟩

/-- In a written state the bindings are collected with the ports of the recorded listeners. -/
lemma Written.collect (h : Written sha1 s) :
    collectXrayRuntimeBindings sha1 s =
      some (s.current.map (annotate s.file.handoffListeners)) := by
  rw [collectXrayRuntimeBindings, annotateBindingsWithHandoff, build_again h.listeners,
    Option.map_some]

lemma lookup_handoffByServer {assignments : List Assignment} (h : WellPlaced sha1 assignments)
    (t : Text) : (handoffByServer assignments).lookup t =
      assignments.find? fun a => decide (a.selectedServerId = t) := by
  have hfold : handoffByServer assignments = assignments.map fun a => (a.selectedServerId, a) :=
    KeyedTable.foldl_assign _ h.servers
  rw [hfold, KeyedTable.lookup_map_key (fun a : Assignment => a.selectedServerId) fun a => a,
    Option.map_id']

/-- The handoff of a binding is that of the assignment of its server. -/
lemma handoff_annotate {assignments : List Assignment} (h : WellPlaced sha1 assignments)
    {b : ClientBinding} {handoff : Handoff} : (annotate assignments b).handoff = some handoff ↔
      ∃ a ∈ assignments, a.selectedServerId = b.server ∧ handoff = a.handoff := by
  show ((handoffByServer assignments).lookup b.server).map Assignment.handoff = some handoff ↔ _
  rw [lookup_handoffByServer h, Option.map_eq_some_iff]
  constructor
  · rintro ⟨a, ha, rfl⟩
    obtain ⟨hmem, hserver⟩ := (KeyedTable.find?_key_iff h.servers).mp ha
    exact ⟨a, hmem, hserver, rfl⟩
  · rintro ⟨a, hmem, hserver, rfl⟩
    exact ⟨a, (KeyedTable.find?_key_iff h.servers).mpr ⟨hmem, hserver⟩, rfl⟩

lemma handoffPort_annotate {assignments : List Assignment} (h : WellPlaced sha1 assignments)
    (b : ClientBinding) :
    (annotate assignments b).handoff.map Handoff.port = portOf assignments b.server := by
  show (((handoffByServer assignments).lookup b.server).map Assignment.handoff).map Handoff.port = _
  rw [lookup_handoffByServer h, Option.map_map]
  rfl

end Round

/-! ## The listeners of a written state -/

section Listeners

variable {sha1 : Sha1} {assignments : List Assignment}

lemma solid_handoffDigest (s : Text) : Solid (xrayHandoffDigest sha1 s) := by
  have hdigits : Solid hexDigits := by decide
  exact hdigits.of_subset fun c hc => sha1.hexadecimal _ c (List.mem_of_mem_take hc)

lemma solid_listenerName (s : Text) : Solid (xrayMihomoListenerName sha1 s) := by
  have hinitial : Solid xrayMihomoListenerPrefix := by decide
  exact hinitial.append (solid_handoffDigest s)

lemma listenerName_inj {s t : Text} : xrayMihomoListenerName sha1 s = xrayMihomoListenerName sha1 t ↔
    xrayHandoffDigest sha1 s = xrayHandoffDigest sha1 t := by
  rw [xrayMihomoListenerName, xrayMihomoListenerName, List.append_cancel_left_eq]

/-- Every name stands for one listener, whose server has that name. -/
structure ByName (sha1 : Sha1) (known : List (Text × HandoffListener)) : Prop where
  nodup : (known.map Prod.fst).Nodup
  named : ∀ r ∈ known, r.1 = xrayMihomoListenerName sha1 r.2.selectedServerId

lemma byName_listenersByName (h : ∀ a ∈ assignments, a.toTarget.Named sha1) :
    ByName sha1 (listenersByName assignments) ∧
      ∀ a ∈ assignments, a.listenerName ∈ (listenersByName assignments).map Prod.fst := by
  induction assignments using List.reverseRecOn with
  | nil => exact ⟨⟨by simp [listenersByName], by simp [listenersByName]⟩, by simp⟩
  | append_singleton assignments a ih =>
      obtain ⟨hnames, hkeys⟩ := ih fun c hc => h c (List.mem_append_left _ hc)
      have hstep : listenersByName (assignments ++ [a]) =
          KeyedTable.assign a.listenerName a.listener (listenersByName assignments) := by
        rw [listenersByName, List.foldl_append]
        rfl
      have ha := (h a (by simp)).listenerName
      rw [hstep]
      refine ⟨⟨KeyedTable.nodup_keys_upsert hnames.nodup, ?_⟩, ?_⟩
      · exact KeyedTable.forall_row_upsert
          (P := fun k (l : HandoffListener) => k = xrayMihomoListenerName sha1 l.selectedServerId)
          ha (fun _ _ => ha) hnames.named
      · intro c hc
        refine KeyedTable.mem_keys_upsert.mpr ?_
        rcases List.mem_append.mp hc with hc | hc
        · exact Or.inr (hkeys c hc)
        · exact Or.inl (by rw [List.mem_singleton.mp hc])

/-- A listener whose name is there is not added. -/
lemma retainListener_eq_self {known : List (Text × HandoffListener)} {b : Binding}
    (h : ∀ handoff, b.handoff = some handoff → strip handoff.listenerName ∈ known.map Prod.fst) :
    retainListener known b = known := by
  rw [retainListener]
  split
  · next handoff _ hhandoff =>
      exact if_pos (Or.inr (Or.inr (Or.inl (h handoff hhandoff))))
  · rfl

lemma foldl_retainListener {known : List (Text × HandoffListener)} {recorded : List Binding}
    (h : ∀ b ∈ recorded, ∀ handoff, b.handoff = some handoff →
      strip handoff.listenerName ∈ known.map Prod.fst) :
    recorded.foldl retainListener known = known := by
  induction recorded with
  | nil => rfl
  | cons b recorded ih =>
      rw [List.foldl_cons, retainListener_eq_self (h b List.mem_cons_self)]
      exact ih fun c hc => h c (List.mem_cons_of_mem _ hc)

lemma handoff_record (appliedOk : Bool) (b : Binding) :
    (b.record appliedOk).handoff = b.handoff ∧
      (b.record appliedOk).toClientBinding = b.toClientBinding := by
  cases appliedOk
  · exact ⟨rfl, rfl⟩
  · exact ⟨rfl, rfl⟩

variable {s s' : Runtime} {r : Round}

/-- After a round the listeners are those of the current bindings: the recorded ones have names
that are there. -/
lemma collect_listeners_of_round (hs : Written sha1 s) (h : s.round sha1 r = some s') :
    collectXrayHandoffAssignments sha1 s' =
      some ((listenersByName s'.file.handoffListeners).map Prod.snd) := by
  have hwritten := Written.round h
  obtain ⟨kept, listeners, hkept, hlisteners, rfl⟩ := round_eq_some.mp h
  obtain ⟨hkeptPlaced, -, -⟩ := build_spec hs.wellPlaced hkept
  rw [collectXrayHandoffAssignments, hwritten.collect, Option.bind_some, getXrayHandoffListeners,
    map_annotate, hlisteners, Option.map_some, foldl_retainListener]
  intro b hb handoff hhandoff
  obtain ⟨c, hc, rfl⟩ := List.mem_map.mp hb
  obtain ⟨d, hd, rfl⟩ := List.mem_map.mp hc
  rw [(handoff_record r.appliedOk _).1, handoff_annotate hkeptPlaced] at hhandoff
  obtain ⟨a, ha, hserver, rfl⟩ := hhandoff
  have hnonempty : d.server ≠ [] := hserver ▸ (hkeptPlaced.named a ha).nonempty
  obtain ⟨a', ha', hserver', -⟩ := portOf_isSome wellPlaced_nil hlisteners hd hnonempty
  have hname : strip a.handoff.listenerName = a'.listenerName := by
    rw [(hwritten.wellPlaced.named a' ha').listenerName, hserver', ← hserver,
      ← (hkeptPlaced.named a ha).listenerName]
    refine strip_solid ?_
    show Solid a.listenerName
    rw [(hkeptPlaced.named a ha).listenerName]
    exact solid_listenerName _
  rw [hname]
  exact (byName_listenersByName hwritten.wellPlaced.named).2 a' ha'

lemma listenerPort_map (assignments : List Assignment) (t : Text) :
    listenerPort (assignments.map Assignment.listener) t = portOf assignments t := by
  rw [listenerPort, List.find?_map, Option.map_map]
  rfl

/-- With different digests no listener is lost. -/
lemma listenersByName_eq (h : WellPlaced sha1 assignments)
    (hdigests : ∀ a ∈ assignments, ∀ c ∈ assignments, xrayHandoffDigest sha1 a.selectedServerId =
      xrayHandoffDigest sha1 c.selectedServerId → a.selectedServerId = c.selectedServerId) :
    (listenersByName assignments).map Prod.snd = assignments.map Assignment.listener := by
  have hnodup : (assignments.map fun a => a.listenerName).Nodup := by
    refine (List.Nodup.of_map _ h.servers).map_on fun a ha c hc hname => ?_
    rw [(h.named a ha).listenerName, (h.named c hc).listenerName, listenerName_inj] at hname
    exact List.inj_on_of_nodup_map h.servers ha hc (hdigests a ha c hc hname)
  have hfold : listenersByName assignments = assignments.map fun a => (a.listenerName, a.listener) :=
    KeyedTable.foldl_assign _ hnodup
  rw [hfold, List.map_map]
  rfl

/-- A server that has a listener is the only one with its digest that has one. -/
lemma digest_inj_of_listenerPort {known : List (Text × HandoffListener)} (h : ByName sha1 known)
    {t u : Text} {p q : ℕ} (ht : listenerPort (known.map Prod.snd) t = some p)
    (hu : listenerPort (known.map Prod.snd) u = some q)
    (hdigest : xrayHandoffDigest sha1 t = xrayHandoffDigest sha1 u) : t = u := by
  have hmem : ∀ {v : Text} {port : ℕ}, listenerPort (known.map Prod.snd) v = some port →
      ∃ r ∈ known, r.2.selectedServerId = v := by
    intro v port hv
    rw [listenerPort, Option.map_eq_some_iff] at hv
    obtain ⟨l, hl, -⟩ := hv
    obtain ⟨row, hrow, rfl⟩ := List.mem_map.mp (List.mem_of_find?_eq_some hl)
    exact ⟨row, hrow, by simpa using List.find?_some hl⟩
  obtain ⟨x, hx, rfl⟩ := hmem ht
  obtain ⟨y, hy, rfl⟩ := hmem hu
  have hkeys : x.1 = y.1 := by
    rw [h.named x hx, h.named y hy, listenerName_inj]
    exact hdigest
  rw [List.inj_on_of_nodup_map h.nodup hx hy hkeys]

end Listeners

/-! ## When the ports agree -/

section Agreement

variable {U : Unicode} {reprText : Text → Text} {sha1 : Sha1} {s s' : Runtime} {r : Round}

/-- The digests of the assigned servers differ when those of the bound servers do. -/
lemma digests_of_distinct {bindings : List ClientBinding} {assignments : List Assignment}
    (h : buildXrayHandoffAssignments sha1 bindings [] = some assignments)
    (hdistinct : DistinctServers sha1 bindings) :
    ∀ a ∈ assignments, ∀ c ∈ assignments, xrayHandoffDigest sha1 a.selectedServerId =
      xrayHandoffDigest sha1 c.selectedServerId → a.selectedServerId = c.selectedServerId := by
  intro a ha c hc hdigest
  obtain ⟨has, x, hx, hxa⟩ := (exists_assignment_iff h).mp ⟨a, ha, rfl⟩
  obtain ⟨hcs, y, hy, hyc⟩ := (exists_assignment_iff h).mp ⟨c, hc, rfl⟩
  rw [← hxa] at has hdigest ⊢
  rw [← hyc] at hcs hdigest ⊢
  exact hdistinct x hx y hy has hcs hdigest

/-- The outbound rendered for a bound server has the port of plain first fit. -/
lemma renderedPort_eq {bindings : List ClientBinding} {assignments : List Assignment}
    (h : buildXrayHandoffAssignments sha1 bindings [] = some assignments)
    (hdistinct : DistinctServers sha1 bindings) {payload : Dict} {clientModes : List ClientMode}
    {m : Materialized}
    (hm : materializeManagedEgress U reprText sha1 payload bindings clientModes none = some m)
    {a : Assignment} (ha : a ∈ assignments) :
    renderedPort reprText sha1 m a.selectedServerId = some a.port := by
  obtain ⟨hbuild, -⟩ := materialize_shape hm
  rw [h] at hbuild
  have hassignments : assignments = m.assignments := Option.some.inj hbuild
  rw [hassignments] at h ha
  rw [renderedPort, find_socks hm ha fun x hx => digests_of_distinct h hdistinct x hx a ha]
  rfl

/-- First fit respects the listeners of a written state exactly when it keeps the ports. -/
lemma keepsPorts_iff (hs : Written sha1 s) {bindings : List ClientBinding}
    {assignments : List Assignment}
    (h : buildXrayHandoffAssignments sha1 bindings [] = some assignments) :
    KeepsPorts sha1 s.current bindings ↔ ∀ t port, (t, port) ∈ placements assignments →
      FirstFit.Respects (portOf s.file.handoffListeners)
        (s.file.handoffListeners.map Assignment.port) t port := by
  have hold := handoffPlan_of_build hs.listeners
  have hnew := handoffPlan_of_build h
  have hlookup : (fun t => (placements s.file.handoffListeners).lookup t) =
      portOf s.file.handoffListeners := by
    funext t
    exact lookup_placements _ t
  constructor
  · intro hkeeps t port hmem
    have := hkeeps _ _ hold hnew t port hmem
    rwa [hlookup, map_snd_placements] at this
  · intro hrespects old new hold' hnew' t port hmem
    rw [hold] at hold'
    rw [hnew] at hnew'
    obtain rfl := Option.some.inj hold'
    obtain rfl := Option.some.inj hnew'
    rw [hlookup, map_snd_placements]
    exact hrespects t port hmem

/-- **When a round leaves the ports in agreement**: exactly when the bound servers have different
digests and, if the round reports its bindings as applied, plain first fit keeps the ports of the
bindings before the round. -/
theorem round_agrees_iff (hs : Written sha1 s) (h : s.round sha1 r = some s') :
    Agree U reprText sha1 s' ↔ DistinctServers sha1 r.bindings ∧
      (r.appliedOk = true → KeepsPorts sha1 s.current r.bindings) := by
  have hwritten := Written.round h
  have hcollect := hwritten.collect
  have hlistenersOf := collect_listeners_of_round hs h
  obtain ⟨kept, listeners, hkept, hlisteners, rfl⟩ := round_eq_some.mp h
  obtain ⟨hkeptPlaced, -, -⟩ := build_spec hs.wellPlaced hkept
  have hplaced : WellPlaced sha1 listeners := hwritten.wellPlaced
  have hbyName := (byName_listenersByName hplaced.named).1
  dsimp only at hcollect hlistenersOf
  constructor
  · rintro ⟨bindings, ports, hbindings, hports, -, hbound, hrecorded⟩
    obtain rfl := Option.some.inj (hcollect.symm.trans hbindings)
    obtain rfl := Option.some.inj (hlistenersOf.symm.trans hports)
    have hport : ∀ b ∈ r.bindings, b.server ≠ [] →
        listenerPort ((listenersByName listeners).map Prod.snd) b.server =
          portOf listeners b.server := by
      intro b hb hserver
      obtain ⟨port, hhandoff, hlistener, -⟩ := hbound _ (List.mem_map_of_mem hb) hserver
      rw [handoffPort_annotate hplaced] at hhandoff
      exact hlistener.trans hhandoff.symm
    refine ⟨?_, ?_⟩
    · intro b hb c hc hbs hcs hdigest
      obtain ⟨a, -, -, hbport⟩ := portOf_isSome wellPlaced_nil hlisteners hb hbs
      obtain ⟨d, -, -, hcport⟩ := portOf_isSome wellPlaced_nil hlisteners hc hcs
      exact digest_inj_of_listenerPort hbyName ((hport b hb hbs).trans hbport)
        ((hport c hc hcs).trans hcport) hdigest
    · intro happlied
      rw [keepsPorts_iff hs hlisteners]
      refine respects_of_ports hs.wellPlaced hkept hlisteners fun b hb hserver => ?_
      obtain ⟨a, ha, hab, hbport⟩ := portOf_isSome hs.wellPlaced hkept hb hserver
      have hmem : (annotate kept b).record true ∈
          (r.bindings.map (annotate kept)).map (Binding.record r.appliedOk) := by
        rw [happlied]
        exact List.mem_map_of_mem (List.mem_map_of_mem hb)
      have hrec := hrecorded _ hmem rfl a.handoff
        ((handoff_annotate hkeptPlaced).mpr ⟨a, ha, hab, rfl⟩)
      rw [hbport, ← hport b hb hserver]
      exact hrec.symm
  · rintro ⟨hdistinct, hkeeps⟩
    have hall : (listenersByName listeners).map Prod.snd = listeners.map Assignment.listener :=
      listenersByName_eq hplaced (digests_of_distinct hlisteners hdistinct)
    refine ⟨_, _, hcollect, hlistenersOf, ?_, ?_, ?_⟩
    · -- all listeners have the same address, so their ports decide
      rw [hall, List.map_map]
      refine List.Nodup.of_map Prod.snd ?_
      rw [List.map_map]
      exact hplaced.ports
    · intro b hb hserver
      obtain ⟨c, hc, rfl⟩ := List.mem_map.mp hb
      obtain ⟨a, ha, hac, hport⟩ := portOf_isSome wellPlaced_nil hlisteners hc hserver
      refine ⟨a.port, ?_, ?_, ?_⟩
      · rw [handoffPort_annotate hplaced]
        exact hport
      · rw [hall, listenerPort_map]
        exact hport
      · intro payload clientModes m hm
        rw [map_annotate] at hm
        have hrendered := renderedPort_eq hlisteners hdistinct hm ha
        rw [hac] at hrendered
        exact hrendered
    · intro b hb happlied handoff hhandoff
      obtain ⟨c, hc, rfl⟩ := List.mem_map.mp hb
      obtain ⟨d, hd, rfl⟩ := List.mem_map.mp hc
      have hok : r.appliedOk = true := by
        cases hcase : r.appliedOk with
        | true => rfl
        | false =>
            rw [hcase] at happlied
            have hpending : BindingStatus.pending = .applied := happlied
            exact absurd hpending (by decide)
      rw [(handoff_record r.appliedOk _).1] at hhandoff
      have hsame : kept = listeners := by
        have hagain := (build_keeping_iff hs.wellPlaced hlisteners).mpr
          ((keepsPorts_iff hs hlisteners).mp (hkeeps hok))
        exact Option.some.inj (hkept.symm.trans hagain)
      have hserver : ((annotate kept d).record r.appliedOk).server = d.server := by
        rw [ClientBinding.server, (handoff_record r.appliedOk _).2]
        rfl
      have hport := handoffPort_annotate hkeptPlaced d
      rw [hhandoff, Option.map_some] at hport
      rw [hall, listenerPort_map, hserver, ← hsame]
      exact hport.symm

lemma agree_start : Agree U reprText sha1 Runtime.start := by
  refine ⟨[], [], rfl, rfl, by simp, by simp, by simp [Runtime.start]⟩

lemma stateAfter_succ {rounds : List Round} {n : ℕ} (hr : rounds[n]? = some r) :
    stateAfter sha1 rounds (n + 1) =
      (stateAfter sha1 rounds n).bind fun s => s.round sha1 r := by
  rw [stateAfter, List.take_add_one, hr, Option.toList_some, List.foldlM_append]
  simp only [List.foldlM_cons, List.foldlM_nil, bind_pure]
  rfl

lemma stateAfter_succ_of_none {rounds : List Round} {n : ℕ} (hr : rounds[n]? = none) :
    stateAfter sha1 rounds (n + 1) = stateAfter sha1 rounds n := by
  rw [stateAfter, List.take_add_one, hr, Option.toList_none, List.append_nil]
  rfl

lemma written_stateAfter {rounds : List Round} : ∀ {n : ℕ} {s : Runtime},
    stateAfter sha1 rounds n = some s → Written sha1 s := by
  intro n
  induction n with
  | zero =>
      intro s h
      obtain rfl := Option.some.inj h
      exact written_start
  | succ n ih =>
      intro s h
      cases hr : rounds[n]? with
      | none =>
          rw [stateAfter_succ_of_none hr] at h
          exact ih h
      | some r =>
          rw [stateAfter_succ hr, Option.bind_eq_some_iff] at h
          obtain ⟨s₀, -, hround⟩ := h
          exact Written.round hround

/-- **Xray and Mihomo meet on the same ports in every state of a run** exactly when every round of
it binds servers with different digests and, if it is reported as applied, keeps the ports of plain
first fit. -/
theorem handoff_ports_agree_iff (rounds : List Round) :
    (∀ n s, stateAfter sha1 rounds n = some s → Agree U reprText sha1 s) ↔
      ∀ n r s s', rounds[n]? = some r → stateAfter sha1 rounds n = some s →
        stateAfter sha1 rounds (n + 1) = some s' →
        DistinctServers sha1 r.bindings ∧
          (r.appliedOk = true → KeepsPorts sha1 s.current r.bindings) := by
  have hround : ∀ {n : ℕ} {r : Round} {s s' : Runtime}, rounds[n]? = some r →
      stateAfter sha1 rounds n = some s → stateAfter sha1 rounds (n + 1) = some s' →
      s.round sha1 r = some s' := by
    intro n r s s' hr hs hs'
    rw [stateAfter_succ hr, hs, Option.bind_some] at hs'
    exact hs'
  constructor
  · intro hagree n r s s' hr hs hs'
    exact (round_agrees_iff (written_stateAfter hs) (hround hr hs hs')).mp (hagree (n + 1) s' hs')
  · intro hkeeps n
    -- the last round decides about the state it leaves
    induction n with
    | zero =>
        intro s hs
        obtain rfl := Option.some.inj hs
        exact agree_start
    | succ n ih =>
        intro s' hs'
        cases hr : rounds[n]? with
        | none =>
            rw [stateAfter_succ_of_none hr] at hs'
            exact ih s' hs'
        | some r =>
            have hbind := hs'
            rw [stateAfter_succ hr, Option.bind_eq_some_iff] at hbind
            obtain ⟨s, hs, hstep⟩ := hbind
            exact (round_agrees_iff (written_stateAfter hs) hstep).mpr (hkeeps n r s s' hr hs hs')

end Agreement

/-! ## A port that moves -/

/-- A client bound to a server, both by their names. -/
def clientOf (client server : String) : ClientBinding where
  subjectId := client.toList
  clientEmail := client.toList
  selectedServerId := server.toList
  handoffProxyName := []

/-- A client is bound to `server-190`; then another one to `server-166`, which prefers the same
port and comes first in the order.  Both rounds are applied. -/
def collidingRounds : List Round :=
  [⟨[clientOf "bob" "server-190"], true⟩,
    ⟨[clientOf "alice" "server-166", clientOf "bob" "server-190"], true⟩]

/-- An applied binding of the file has another port than the listener of its server. -/
def recordedElsewhere (sha1 : Sha1) (s : Runtime) : Bool :=
  (collectXrayHandoffAssignments sha1 s).any fun listeners =>
    s.file.bindings.any fun b =>
      decide (b.status = .applied ∧ b.handoff.isSome = true ∧
        listenerPort listeners b.server ≠ b.handoff.map Handoff.port)

theorem applied_port_moved : ∃ s, stateAfter sampleSha1 collidingRounds 2 = some s ∧
    ¬Agree Unicode.ascii id sampleSha1 s := by
  have hmoved : (stateAfter sampleSha1 collidingRounds 2).any (recordedElsewhere sampleSha1) =
      true := by decide +kernel
  rw [Option.any_eq_true] at hmoved
  obtain ⟨s, hs, hmoved⟩ := hmoved
  refine ⟨s, hs, ?_⟩
  rintro ⟨bindings, listeners, -, hlisteners, -, -, hrecorded⟩
  rw [recordedElsewhere, hlisteners, Option.any_some, List.any_eq_true] at hmoved
  obtain ⟨b, hb, hmoved⟩ := hmoved
  obtain ⟨happlied, hsome, hport⟩ := of_decide_eq_true hmoved
  obtain ⟨handoff, hhandoff⟩ := Option.isSome_iff_exists.mp hsome
  rw [hrecorded b hb happlied handoff hhandoff, hhandoff] at hport
  exact hport rfl

end Xray
