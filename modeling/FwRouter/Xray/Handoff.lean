import FwRouter.Python.Text
import FwRouter.Library.KeyedTable
import FwRouter.Library.FirstFit

/-!
# Handoff ports between Xray and Mihomo

`services/xray_handoff.py`.  Every server that some Xray client is bound to gets one Mihomo
listener; its port is the first free one from a port that the SHA-1 digest of the server's id
prefers.  Assignments that are handed in as preserved keep their ports, and their ports are closed
to the other servers.

The digest is a parameter: all that is used of `hashlib.sha1(…).hexdigest()` is that it is a
function of the text and made of hexadecimal digits.  `build_eq` says what `build_xray_handoff_assignments` computes in terms of
`FirstFit.place`, and is the only lemma about its loops that other modules use.
-/

namespace Xray

open Py

def xrayManagedEgressPrefix : Text := "fwrouter-egress-".toList

def xrayMihomoListenerPrefix : Text := "fwrouter-xray-egress-".toList

def xrayMihomoHandoffHost : Text := "172.18.0.1".toList

def xrayMihomoHandoffPortBase : ℕ := 53100

def xrayMihomoHandoffPortSpan : ℕ := 10000

/-- What the handoff code reads of a binding.  Each field is `str(value or "")`, which is how all
the modelled functions read it. -/
structure ClientBinding where
  subjectId : Text
  clientEmail : Text
  selectedServerId : Text
  handoffProxyName : Text
deriving DecidableEq

/-- The server of a binding, `str(binding.get("selected_server_id") or "").strip()`. -/
def ClientBinding.server (b : ClientBinding) : Text := strip b.selectedServerId

/-- The entry of one server while the bindings are grouped. -/
structure Target where
  selectedServerId : Text
  digest : Text
  tag : Text
  listenerName : Text
  listen : Text
  proxy : Text
  subjectIds : List Text
  clientEmails : List Text
deriving DecidableEq

/-- A finished assignment. -/
structure Assignment extends Target where
  port : ℕ
  bindingsCount : ℕ
deriving DecidableEq

def hexDigits : Text := "0123456789abcdef".toList

/-- `hashlib.sha1(text.encode("utf-8")).hexdigest()`. -/
structure Sha1 where
  hexdigest : Text → Text
  hexadecimal : ∀ t, ∀ c ∈ hexdigest t, c ∈ hexDigits

section Digest

variable (sha1 : Sha1)

def xrayHandoffDigest (selectedServerId : Text) : Text := (sha1.hexdigest (strip selectedServerId)).take 12

def xrayManagedEgressTag (selectedServerId : Text) : Text :=
  xrayManagedEgressPrefix ++ xrayHandoffDigest sha1 selectedServerId

def xrayMihomoListenerName (selectedServerId : Text) : Text :=
  xrayMihomoListenerPrefix ++ xrayHandoffDigest sha1 selectedServerId

/-- `int(digest[:8], 16)` always reads: the digest is made of hexadecimal digits. -/
def preferredOffset (selectedServerId : Text) : ℕ :=
  (hexValue ((sha1.hexdigest (strip selectedServerId)).take 8)).getD 0 % xrayMihomoHandoffPortSpan

def preferredHandoffPort (selectedServerId : Text) : ℕ :=
  xrayMihomoHandoffPortBase + preferredOffset sha1 selectedServerId

end Digest

/-! ## Grouping the bindings -/

/-- `if value and value not in values: values.append(value)`. -/
def appendNew (value : Text) (values : List Text) : List Text :=
  if value = [] ∨ value ∈ values then values else values ++ [value]

/-- A binding is entered into the entry of its server. -/
def Target.join (b : ClientBinding) (t : Target) : Target :=
  { t with
    subjectIds := appendNew (strip b.subjectId) t.subjectIds
    clientEmails := appendNew (strip b.clientEmail) t.clientEmails }

section Build

variable (sha1 : Sha1)

/-- The entry that the first binding of a server makes. -/
def newTarget (b : ClientBinding) : Target where
  selectedServerId := b.server
  digest := xrayHandoffDigest sha1 b.server
  tag := xrayManagedEgressTag sha1 b.server
  listenerName := xrayMihomoListenerName sha1 b.server
  listen := xrayMihomoHandoffHost
  proxy := if b.handoffProxyName = [] then b.server else b.handoffProxyName
  subjectIds := []
  clientEmails := []

/-- One round of the loop over the bindings: `grouped.setdefault(…)` and the two appends. -/
def groupBinding (grouped : List (Text × Target)) (b : ClientBinding) : List (Text × Target) :=
  if b.server = [] then grouped
  else KeyedTable.upsert b.server ((newTarget sha1 b).join b) (Target.join b) grouped

def groupBindings (bindings : List ClientBinding) : List (Text × Target) :=
  bindings.foldl (groupBinding sha1) []

/-- The order of the assignments: by preferred port, then by server id. -/
def Target.before (a b : Target) : Prop :=
  preferredHandoffPort sha1 a.selectedServerId < preferredHandoffPort sha1 b.selectedServerId ∨
    preferredHandoffPort sha1 a.selectedServerId = preferredHandoffPort sha1 b.selectedServerId ∧
      a.selectedServerId ≤ b.selectedServerId

instance : DecidableRel (Target.before sha1) := fun a b => by
  unfold Target.before
  infer_instance

def sortedTargets (bindings : List ClientBinding) : List Target :=
  ((groupBindings sha1 bindings).map Prod.snd).insertionSort (Target.before sha1)

/-! ## Giving out the ports -/

def minHandoffPort : ℕ := xrayMihomoHandoffPortBase

def maxHandoffPort : ℕ := xrayMihomoHandoffPortBase + xrayMihomoHandoffPortSpan - 1

/-- `min_port <= port <= max_port`. -/
def InRange (port : ℕ) : Prop := minHandoffPort ≤ port ∧ port ≤ maxHandoffPort

instance (port : ℕ) : Decidable (InRange port) := by
  unfold InRange
  infer_instance

/-- `preserved_by_server`: of several entries for a server the last one counts. -/
def preservedByServer (preserve : List Assignment) : List (Text × Assignment) :=
  preserve.foldl (fun known a =>
    if strip a.selectedServerId = [] then known
    else KeyedTable.assign (strip a.selectedServerId) a known) []

/-- The ports that are closed from the start. -/
def reservedPorts (preserve : List Assignment) : List ℕ :=
  (preserve.map Assignment.port).filter fun p => decide (InRange p)

/-- `str(value or default)`. -/
def textOrDefault (value default : Text) : Text := if value = [] then default else value

/-- The owner of a preserved port gets it back, with the name and the address it had. -/
def keepPreserved (preserve : List Assignment) (t : Target) : Target × Option ℕ :=
  match (preservedByServer preserve).lookup t.selectedServerId with
  | none => (t, none)
  | some a =>
      if InRange a.port then
        ({ t with
            listenerName := textOrDefault a.listenerName t.listenerName
            listen := textOrDefault a.listen t.listen },
          some a.port)
      else (t, none)

/-- The `while` loop: from `port` on, past the last port to the first one, until a port is free;
`none` when the search is back at the preferred port.  The fuel is the number of ports. -/
def findPort (allocated : List ℕ) (preferred : ℕ) : ℕ → ℕ → Option ℕ
  | 0, _ => none
  | fuel + 1, port =>
      if port ∈ allocated then
        let next := if maxHandoffPort < port + 1 then minHandoffPort else port + 1
        if next = preferred then none else findPort allocated preferred fuel next
      else some port

/-- The assignment gets its port and its count. -/
def Target.assign (t : Target) (port : ℕ) : Assignment :=
  { t with port := port, bindingsCount := t.subjectIds.length }

/-- The last loop: targets without a port take the next free one from their preferred port. -/
def allocatePorts : List ℕ → List (Target × Option ℕ) → Option (List Assignment)
  | _, [] => some []
  | allocated, (t, some port) :: rest => (allocatePorts allocated rest).map (t.assign port :: ·)
  | allocated, (t, none) :: rest =>
      let preferred := preferredHandoffPort sha1 t.selectedServerId
      (findPort allocated preferred xrayMihomoHandoffPortSpan preferred).bind fun port =>
        (allocatePorts (port :: allocated) rest).map (t.assign port :: ·)

/-- `none` is the `RuntimeError` of the search for a free port. -/
def buildXrayHandoffAssignments (bindings : List ClientBinding) (preserve : List Assignment) :
    Option (List Assignment) :=
  allocatePorts sha1 (reservedPorts preserve)
    ((sortedTargets sha1 bindings).map (keepPreserved preserve))

end Build

/-! ## The search is first fit -/

section Search

variable (sha1 : Sha1)

/-- The ports in the order in which a server tries them. -/
def probePorts (s : Text) : List ℕ :=
  (List.range xrayMihomoHandoffPortSpan).map fun i =>
    xrayMihomoHandoffPortBase + (preferredOffset sha1 s + i) % xrayMihomoHandoffPortSpan

lemma preferredOffset_lt (s : Text) : preferredOffset sha1 s < 10000 :=
  Nat.mod_lt _ (by decide)

/-- The port after the `i`-th one tried, with the turn back to the first port of the range. -/
def nextPort (port : ℕ) : ℕ := if maxHandoffPort < port + 1 then minHandoffPort else port + 1

lemma nextPort_eq (offset i : ℕ) :
    nextPort (53100 + (offset + i) % 10000) = 53100 + (offset + (i + 1)) % 10000 := by
  have hmax : maxHandoffPort = 63099 := rfl
  have hmin : minHandoffPort = 53100 := rfl
  rw [nextPort]
  by_cases hwrap : maxHandoffPort < 53100 + (offset + i) % 10000 + 1
  · rw [if_pos hwrap]
    omega
  · rw [if_neg hwrap]
    omega

/-- The search from the `i`-th port on; it is back at the preferred port when all have been tried. -/
lemma findPort_from (allocated : List ℕ) {offset : ℕ} (hoff : offset < 10000) :
    ∀ (n i : ℕ), i + n = 10000 →
      findPort allocated (53100 + offset) n (53100 + (offset + i) % 10000) =
        FirstFit.firstFree allocated ((List.range' i n).map fun j =>
          53100 + (offset + j) % 10000) := by
  intro n
  induction n with
  | zero =>
      intro i _
      rfl
  | succ n ih =>
      intro i hi
      rw [List.range'_succ, List.map_cons, findPort, FirstFit.firstFree, List.find?_cons]
      by_cases hmem : 53100 + (offset + i) % 10000 ∈ allocated
      · have hnext := nextPort_eq offset i
        rw [nextPort] at hnext
        simp only [hnext, hmem, not_true_eq_false, decide_false]
        by_cases hlast : n = 0
        · subst hlast
          have hback : 53100 + (offset + (i + 1)) % 10000 = 53100 + offset := by omega
          rw [if_pos hback]
          rfl
        · have hfurther : ¬53100 + (offset + (i + 1)) % 10000 = 53100 + offset := by omega
          rw [if_neg hfurther]
          exact ih (i + 1) (by omega)
      · simp [hmem]

lemma findPort_eq (allocated : List ℕ) (s : Text) :
    findPort allocated (preferredHandoffPort sha1 s) xrayMihomoHandoffPortSpan
        (preferredHandoffPort sha1 s) =
      FirstFit.firstFree allocated (probePorts sha1 s) := by
  have hoff := preferredOffset_lt sha1 s
  have hstart : 53100 + (preferredOffset sha1 s + 0) % 10000 = preferredHandoffPort sha1 s := by
    show _ = 53100 + preferredOffset sha1 s
    omega
  have h := findPort_from allocated hoff 10000 0 rfl
  rw [hstart] at h
  rw [probePorts, List.range_eq_range']
  exact h

lemma inRange_of_mem_probePorts {s : Text} {port : ℕ} (h : port ∈ probePorts sha1 s) :
    InRange port := by
  obtain ⟨i, -, rfl⟩ := List.mem_map.mp h
  show 53100 ≤ 53100 + _ % 10000 ∧ 53100 + _ % 10000 ≤ 53100 + 10000 - 1
  omega

end Search

/-! ## The targets of a list of bindings -/

section Targets

variable (sha1 : Sha1)

/-- What every entry has from its first binding: the names that follow from its server, the
address, and an id without outer white space. -/
structure Target.Named (t : Target) : Prop where
  tag : t.tag = xrayManagedEgressTag sha1 t.selectedServerId
  listenerName : t.listenerName = xrayMihomoListenerName sha1 t.selectedServerId
  listen : t.listen = xrayMihomoHandoffHost
  stripped : strip t.selectedServerId = t.selectedServerId
  nonempty : t.selectedServerId ≠ []

variable {sha1}

lemma named_newTarget {b : ClientBinding} (h : b.server ≠ []) : (newTarget sha1 b).Named sha1 where
  tag := rfl
  listenerName := rfl
  listen := rfl
  stripped := strip_strip b.selectedServerId
  nonempty := h

/-- Entering a binding touches the two lists only. -/
lemma Target.Named.join {t : Target} (h : t.Named sha1) (b : ClientBinding) :
    (t.join b).Named sha1 := ⟨h.tag, h.listenerName, h.listen, h.stripped, h.nonempty⟩

/-- The table of the groups: its keys are the servers of the bindings read so far, each once, and
its entries are named after their keys. -/
structure Grouped (sha1 : Sha1) (bindings : List ClientBinding)
    (grouped : List (Text × Target)) : Prop where
  nodup : (grouped.map Prod.fst).Nodup
  named : ∀ r ∈ grouped, r.2.Named sha1 ∧ r.2.selectedServerId = r.1
  keys : ∀ s, s ∈ grouped.map Prod.fst ↔ s ≠ [] ∧ ∃ b ∈ bindings, b.server = s

lemma Grouped.step {bindings : List ClientBinding} {grouped : List (Text × Target)}
    (h : Grouped sha1 bindings grouped) (b : ClientBinding) :
    Grouped sha1 (bindings ++ [b]) (groupBinding sha1 grouped b) := by
  rw [groupBinding]
  by_cases hempty : b.server = []
  · rw [if_pos hempty]
    refine ⟨h.nodup, h.named, fun s => ?_⟩
    rw [h.keys]
    constructor
    · rintro ⟨hs, c, hc, rfl⟩
      exact ⟨hs, c, List.mem_append_left _ hc, rfl⟩
    · rintro ⟨hs, c, hc, rfl⟩
      rcases List.mem_append.mp hc with hc | hc
      · exact ⟨hs, c, hc, rfl⟩
      · rw [List.mem_singleton] at hc
        exact absurd (hc ▸ hempty) hs
  · rw [if_neg hempty]
    refine ⟨KeyedTable.nodup_keys_upsert h.nodup, ?_, fun s => ?_⟩
    · refine KeyedTable.forall_row_upsert
        (P := fun k (t : Target) => t.Named sha1 ∧ t.selectedServerId = k) ?_ ?_ h.named
      · exact ⟨(named_newTarget hempty).join b, rfl⟩
      · rintro t ⟨ht, hkey⟩
        exact ⟨ht.join b, hkey⟩
    · rw [KeyedTable.mem_keys_upsert, h.keys]
      constructor
      · rintro (rfl | ⟨hs, c, hc, rfl⟩)
        · exact ⟨hempty, b, by simp, rfl⟩
        · exact ⟨hs, c, List.mem_append_left _ hc, rfl⟩
      · rintro ⟨hs, c, hc, rfl⟩
        rcases List.mem_append.mp hc with hc | hc
        · exact Or.inr ⟨hs, c, hc, rfl⟩
        · rw [List.mem_singleton] at hc
          exact Or.inl (hc ▸ rfl)

lemma grouped_groupBindings (bindings : List ClientBinding) :
    Grouped sha1 bindings (groupBindings sha1 bindings) := by
  induction bindings using List.reverseRecOn with
  | nil => exact ⟨by simp [groupBindings], by simp [groupBindings], by simp [groupBindings]⟩
  | append_singleton bindings b ih =>
      rw [groupBindings, List.foldl_append]
      exact ih.step b

variable (sha1)

/-- The servers of the bindings in the order in which they are given their ports. -/
def boundServers (bindings : List ClientBinding) : List Text :=
  (sortedTargets sha1 bindings).map Target.selectedServerId

/-- The ports that plain first fit gives to the servers of the bindings. -/
def handoffPlan (bindings : List ClientBinding) : Option (List (Text × ℕ)) :=
  FirstFit.plain (probePorts sha1) (boundServers sha1 bindings)

variable {sha1}

lemma mem_sortedTargets {bindings : List ClientBinding} {t : Target} :
    t ∈ sortedTargets sha1 bindings ↔ ∃ r ∈ groupBindings sha1 bindings, r.2 = t := by
  rw [sortedTargets, List.mem_insertionSort, List.mem_map]

lemma named_of_mem {bindings : List ClientBinding} {t : Target}
    (h : t ∈ sortedTargets sha1 bindings) : t.Named sha1 := by
  obtain ⟨r, hr, rfl⟩ := mem_sortedTargets.mp h
  exact ((grouped_groupBindings bindings).named r hr).1

lemma boundServers_perm (bindings : List ClientBinding) :
    (boundServers sha1 bindings).Perm ((groupBindings sha1 bindings).map Prod.fst) := by
  have hkeys : ((groupBindings sha1 bindings).map Prod.snd).map Target.selectedServerId =
      (groupBindings sha1 bindings).map Prod.fst := by
    rw [List.map_map]
    exact List.map_congr_left fun r hr => ((grouped_groupBindings bindings).named r hr).2
  rw [← hkeys]
  exact (List.perm_insertionSort _ _).map _

lemma nodup_boundServers (bindings : List ClientBinding) :
    (boundServers sha1 bindings).Nodup :=
  (boundServers_perm bindings).nodup_iff.mpr (grouped_groupBindings bindings).nodup

lemma mem_boundServers {bindings : List ClientBinding} {s : Text} :
    s ∈ boundServers sha1 bindings ↔ s ≠ [] ∧ ∃ b ∈ bindings, b.server = s := by
  rw [(boundServers_perm bindings).mem_iff]
  exact (grouped_groupBindings bindings).keys s

end Targets

/-! ## What the assignments are -/

section Assignments

variable {sha1 : Sha1}

/-- Assignments as the code writes them: named after their servers, with one port in the range for
each server. -/
structure WellPlaced (sha1 : Sha1) (assignments : List Assignment) : Prop where
  named : ∀ a ∈ assignments, a.toTarget.Named sha1
  inRange : ∀ a ∈ assignments, InRange a.port
  servers : (assignments.map fun a => a.selectedServerId).Nodup
  ports : (assignments.map Assignment.port).Nodup

lemma wellPlaced_nil : WellPlaced sha1 [] := ⟨by simp, by simp, by simp, by simp⟩

/-- The port that a list of assignments has for a server. -/
def portOf (assignments : List Assignment) (s : Text) : Option ℕ :=
  (assignments.find? fun a => decide (a.selectedServerId = s)).map Assignment.port

/-- Servers and ports of a list of assignments. -/
def placements (assignments : List Assignment) : List (Text × ℕ) :=
  assignments.map fun a => (a.selectedServerId, a.port)

lemma portOf_eq_some_iff {assignments : List Assignment} (h : WellPlaced sha1 assignments)
    {s : Text} {port : ℕ} : portOf assignments s = some port ↔ (s, port) ∈ placements assignments := by
  rw [portOf, Option.map_eq_some_iff, placements, List.mem_map]
  constructor
  · rintro ⟨a, ha, rfl⟩
    obtain ⟨hmem, rfl⟩ := (KeyedTable.find?_key_iff h.servers).mp ha
    exact ⟨a, hmem, rfl⟩
  · rintro ⟨a, ha, heq⟩
    obtain ⟨rfl, rfl⟩ := Prod.mk.inj heq
    exact ⟨a, (KeyedTable.find?_key_iff h.servers).mpr ⟨ha, rfl⟩, rfl⟩

/-- The last entry of a server is its only one. -/
lemma lookup_preservedByServer : ∀ {preserve : List Assignment} (known : List (Text × Assignment)),
    (∀ a ∈ preserve, a.toTarget.Named sha1) →
    (preserve.map fun a => a.selectedServerId).Nodup → ∀ s : Text,
      (preserve.foldl (fun known a =>
        if strip a.selectedServerId = [] then known
        else KeyedTable.assign (strip a.selectedServerId) a known) known).lookup s =
      (preserve.find? fun a => decide (a.selectedServerId = s)).or (known.lookup s) := by
  intro preserve
  induction preserve with
  | nil =>
      intro known _ _ s
      rfl
  | cons a preserve ih =>
      intro known hnamed hnodup s
      obtain ⟨ha, hnodup⟩ := List.nodup_cons.mp hnodup
      have hname := hnamed a List.mem_cons_self
      rw [List.foldl_cons, ih _ (fun b hb => hnamed b (List.mem_cons_of_mem _ hb)) hnodup s,
        hname.stripped, if_neg hname.nonempty, List.find?_cons]
      by_cases hs : a.selectedServerId = s
      · have hnone : preserve.find? (fun b => decide (b.selectedServerId = s)) = none := by
          rw [List.find?_eq_none]
          intro b hb hbs
          have hba : b.selectedServerId = a.selectedServerId := by
            rw [hs]
            exact of_decide_eq_true hbs
          exact ha (List.mem_map.mpr ⟨b, hb, hba⟩)
        rw [hnone, ← hs, KeyedTable.lookup_assign_self]
        simp
      · rw [KeyedTable.lookup_assign_of_ne fun h => hs h.symm]
        simp [hs]

lemma textOrDefault_self (t : Text) : textOrDefault t t = t := by
  rw [textOrDefault, ite_self]

/-- A target keeps the port that is preserved for its server, and nothing else changes. -/
lemma keepPreserved_eq {preserve : List Assignment} (h : WellPlaced sha1 preserve) {t : Target}
    (ht : t.Named sha1) : keepPreserved preserve t = (t, portOf preserve t.selectedServerId) := by
  have hlookup : (preservedByServer preserve).lookup t.selectedServerId =
      preserve.find? fun a => decide (a.selectedServerId = t.selectedServerId) := by
    have hfold := lookup_preservedByServer [] h.named h.servers t.selectedServerId
    rw [List.lookup_nil, Option.or_none] at hfold
    exact hfold
  rw [keepPreserved, hlookup, portOf]
  cases hfound : preserve.find? fun a => decide (a.selectedServerId = t.selectedServerId) with
  | none => rfl
  | some a =>
      obtain ⟨hmem, hserver⟩ := (KeyedTable.find?_key_iff h.servers).mp hfound
      have hname : a.listenerName = t.listenerName := by
        rw [(h.named a hmem).listenerName, ht.listenerName, hserver]
      have hlisten : a.listen = t.listen := by rw [(h.named a hmem).listen, ht.listen]
      simp only [if_pos (h.inRange a hmem), hname, hlisten, textOrDefault_self, Option.map_some]

lemma reservedPorts_eq {preserve : List Assignment} (h : WellPlaced sha1 preserve) :
    reservedPorts preserve = preserve.map Assignment.port := by
  rw [reservedPorts, List.filter_eq_self]
  intro port hport
  obtain ⟨a, ha, rfl⟩ := List.mem_map.mp hport
  exact decide_eq_true (h.inRange a ha)

/-- The loop that gives out the ports is first fit over the servers. -/
lemma allocatePorts_eq (kept : Text → Option ℕ) : ∀ (targets : List Target) (taken : List ℕ),
    allocatePorts sha1 taken (targets.map fun t => (t, kept t.selectedServerId)) =
      (FirstFit.place (probePorts sha1) kept taken (targets.map Target.selectedServerId)).map
        fun placed => List.zipWith Target.assign targets (placed.map Prod.snd) := by
  intro targets
  induction targets with
  | nil =>
      intro taken
      rfl
  | cons t targets ih =>
      intro taken
      simp only [List.map_cons, FirstFit.place]
      cases hk : kept t.selectedServerId with
      | some port =>
          rw [allocatePorts, ih, Option.map_map, Option.map_map]
          rfl
      | none =>
          rw [allocatePorts, findPort_eq, Option.map_bind]
          congr 1
          funext port
          rw [ih, Option.map_map, Function.comp_apply, Option.map_map]
          rfl

/-- **What `build_xray_handoff_assignments` computes** when the preserved assignments are well
placed: first fit over the bound servers, which keep the ports preserved for them. -/
theorem build_eq (bindings : List ClientBinding) {preserve : List Assignment}
    (h : WellPlaced sha1 preserve) :
    buildXrayHandoffAssignments sha1 bindings preserve =
      (FirstFit.place (probePorts sha1) (portOf preserve) (preserve.map Assignment.port)
          (boundServers sha1 bindings)).map fun placed =>
        List.zipWith Target.assign (sortedTargets sha1 bindings) (placed.map Prod.snd) := by
  have hkeep : (sortedTargets sha1 bindings).map (keepPreserved preserve) =
      (sortedTargets sha1 bindings).map fun t => (t, portOf preserve t.selectedServerId) :=
    List.map_congr_left fun t ht => keepPreserved_eq h (named_of_mem ht)
  rw [buildXrayHandoffAssignments, hkeep, reservedPorts_eq h, allocatePorts_eq]
  rfl

/-- Assignments read off a placement of their targets. -/
lemma placements_zipWith : ∀ {targets : List Target} {placed : List (Text × ℕ)},
    placed.map Prod.fst = targets.map Target.selectedServerId →
    placements (List.zipWith Target.assign targets (placed.map Prod.snd)) = placed ∧
      (List.zipWith Target.assign targets (placed.map Prod.snd)).map Assignment.toTarget =
        targets := by
  intro targets
  induction targets with
  | nil =>
      intro placed h
      obtain rfl : placed = [] := by simpa using h
      exact ⟨rfl, rfl⟩
  | cons t targets ih =>
      intro placed h
      cases placed with
      | nil => simp at h
      | cons r placed =>
          obtain ⟨hr, hrest⟩ := List.cons.inj h
          obtain ⟨hplacements, htargets⟩ := ih hrest
          obtain ⟨s, port⟩ := r
          refine ⟨?_, ?_⟩
          · show (t.selectedServerId, port) :: placements _ = _
            rw [hplacements, ← hr]
          · show t :: List.map Assignment.toTarget _ = _
            rw [htargets]

/-- The spec of `build_xray_handoff_assignments`: the assignments belong to the bound servers, and
are well placed again. -/
lemma build_spec {bindings : List ClientBinding} {preserve assignments : List Assignment}
    (h : WellPlaced sha1 preserve)
    (hbuild : buildXrayHandoffAssignments sha1 bindings preserve = some assignments) :
    WellPlaced sha1 assignments ∧
      assignments.map Assignment.toTarget = sortedTargets sha1 bindings ∧
      FirstFit.place (probePorts sha1) (portOf preserve) (preserve.map Assignment.port)
        (boundServers sha1 bindings) = some (placements assignments) := by
  rw [build_eq bindings h, Option.map_eq_some_iff] at hbuild
  obtain ⟨placed, hplace, rfl⟩ := hbuild
  have hkeys : placed.map Prod.fst =
      (sortedTargets sha1 bindings).map Target.selectedServerId := FirstFit.map_fst_place hplace
  obtain ⟨hplacements, htargets⟩ := placements_zipWith hkeys
  refine ⟨⟨?_, ?_, ?_, ?_⟩, htargets, by rw [hplacements]; exact hplace⟩
  · intro a ha
    have hmem : a.toTarget ∈ sortedTargets sha1 bindings := htargets ▸ List.mem_map_of_mem ha
    exact named_of_mem hmem
  · intro a ha
    have hmem : (a.selectedServerId, a.port) ∈ placed :=
      hplacements ▸ List.mem_map.mpr ⟨a, ha, rfl⟩
    rcases FirstFit.mem_place hplace hmem with hkept | ⟨-, hprobe, -⟩
    · obtain ⟨b, hb, heq⟩ := List.mem_map.mp ((portOf_eq_some_iff h).mp hkept)
      exact (Prod.mk.inj heq).2 ▸ h.inRange b hb
    · exact inRange_of_mem_probePorts sha1 hprobe
  · have hservers := congrArg (List.map Target.selectedServerId) htargets
    rw [List.map_map] at hservers
    have : (boundServers sha1 bindings).Nodup := nodup_boundServers bindings
    exact hservers ▸ this
  · have hports : (List.zipWith Target.assign (sortedTargets sha1 bindings)
        (placed.map Prod.snd)).map Assignment.port = placed.map Prod.snd := by
      have hsnd := congrArg (List.map Prod.snd) hplacements
      rw [placements, List.map_map] at hsnd
      exact hsnd
    rw [hports]
    refine FirstFit.nodup_place (nodup_boundServers bindings) ?_ ?_ hplace
    · intro s port hkept
      obtain ⟨b, hb, heq⟩ := List.mem_map.mp ((portOf_eq_some_iff h).mp hkept)
      exact (Prod.mk.inj heq).2 ▸ List.mem_map_of_mem hb
    · intro s t port hs ht
      obtain ⟨a, ha, heqa⟩ := List.mem_map.mp ((portOf_eq_some_iff h).mp hs)
      obtain ⟨b, hb, heqb⟩ := List.mem_map.mp ((portOf_eq_some_iff h).mp ht)
      obtain ⟨rfl, rfl⟩ := Prod.mk.inj heqa
      obtain ⟨rfl, hport⟩ := Prod.mk.inj heqb
      rw [List.inj_on_of_nodup_map h.ports ha hb hport.symm]

end Assignments

/-! ## Two servers that prefer the same port -/

/-- The digests that `hashlib.sha1` gives for `server-166` and `server-190`. -/
def sampleDigest (t : Text) : Text :=
  if t = "server-166".toList then hex 0x5dca78f4572e57805aebfe63c2d059cecc808c50
  else if t = "server-190".toList then hex 0xc0507ce44ba6f9b0ae0aeb0d0dd8d61d74eac672
  else []

lemma mem_hexDigits_of_mem_hex {n : ℕ} {c : Char} (h : c ∈ hex n) : c ∈ hexDigits := by
  obtain ⟨d, hd, rfl⟩ := mem_hex h
  have hall : ∀ d < 16, Nat.digitChar d ∈ hexDigits := by decide
  exact hall d hd

def sampleSha1 : Sha1 where
  hexdigest := sampleDigest
  hexadecimal t c hc := by
    rw [sampleDigest] at hc
    split_ifs at hc
    · exact mem_hexDigits_of_mem_hex hc
    · exact mem_hexDigits_of_mem_hex hc
    · simp at hc

example : preferredHandoffPort sampleSha1 "server-166".toList = 53424 ∧
    preferredHandoffPort sampleSha1 "server-190".toList = 53424 := by decide +kernel

end Xray
