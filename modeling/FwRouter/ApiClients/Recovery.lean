import FwRouter.ApiClients.Intent
import FwRouter.Library.Run

/-!
# Publication survives a crash

Calls follow one another, and each may be killed after any of its file operations.  `Inv` says what
stands on the host between calls: a registry that can be read, and an intent that is ahead of the
registry by one revision or has been published already.

There are two ways out of it.  A call that is killed between the link and the unlink of the intent
leaves a file with two names, which no reader accepts and which no call removes
(`linked_intent_sticks`).  And a document may be too long by the newline that `_json_bytes` appends:
what is published then is never read again.  Runs without the one and the other keep the promise
(`published_run`).
-/

namespace FwRouter.ApiClients

open Py Py.Json Interruptible

/-! ## Calls and runs -/

inductive Call
  | publishPolicy (document : Value)
  | publishTarget (origin : Bool) (prepared : ByteArray) (policyRevision : ℤ)
  | recoverPending (expectedRevision : ℤ)

structure Publication where
  target : Target
  prepared : ByteArray
  policyRevision : ℤ

/-- `registry` or `registry_origin`. -/
def registryTarget (origin : Bool) : Target := if origin then .registryOrigin else .registry

/-- A call, and how many of its file operations it survives. -/
structure Step where
  call : Call
  survives : ℕ

/-- No registry and no intent. -/
def start (selector : Option HostFile) : Files := ⟨none, selector, none, []⟩

section Runs

variable (host : Host)

def Call.prog : Call → Prog Files Unit
  | .publishPolicy document => ApiClients.publishPolicy host document
  | .publishTarget origin prepared policyRevision =>
      ApiClients.publishTarget host (registryTarget origin) prepared policyRevision
  | .recoverPending expectedRevision => ApiClients.recoverPending host expectedRevision

/-- What the call would publish. -/
def Call.publication : Call → Option Publication
  | .publishPolicy document =>
      (validatePolicy host.tables document).map fun policy =>
        ⟨.registry, jsonBytes document, policy.policyRevision⟩
  | .publishTarget origin prepared policyRevision =>
      some ⟨registryTarget origin, prepared, policyRevision⟩
  | .recoverPending _ => none

/-- The state that a call leaves, killed or not. -/
def step (files : Files) (s : Step) : Files :=
  ((s.call.prog host files).visited.take s.survives).getLast?.getD files

def run (files : Files) (steps : List Step) : Files := steps.foldl (step host) files

def publications (steps : List Step) : List Publication :=
  steps.filterMap fun s => s.call.publication host

/-- The revisions of the successive contents of the registry. -/
def revisions : Files → List Step → List (Option ℤ)
  | _, [] => []
  | files, s :: steps =>
      let next := step host files s
      if next.registry.map (·.bytes) = files.registry.map (·.bytes) then revisions next steps
      else (loadPolicy host next).map (·.policyRevision) :: revisions next steps

/-- Where the call publishes, it is not killed between the link and the unlink of the intent, what it
publishes is no longer than the limit of the registry, and the revision has at most 1793 digits. -/
def Keeps (files : Files) (s : Step) : Prop :=
  ∀ p ∈ s.call.publication host,
    (publishable host files p.target p.prepared p.policyRevision).isSome →
      s.survives ≠ 2 ∧ p.prepared.size ≤ maxRegistryBytes ∧ p.policyRevision < 10 ^ 1793

/-- The promise, in one state of a run. -/
structure Survives (steps : List Step) (files : Files) : Prop where
  readable : files.registry = none ∨ (loadPolicy host files).isSome
  unauthorised : files.pending ≠ none → selectorMode host files = none
  /-- The publication that wrote the intent can be finished. -/
  recoverable : files.pending ≠ none → ∃ p ∈ publications host steps,
    (pendingState host files).join.map (fun i => (i.target, i.prepared, i.policyRevision)) =
      some (p.target, p.prepared, p.policyRevision) ∧
    (recoverPending host p.policyRevision).Succeeds files fun _ files' =>
      files'.registry = some ⟨p.prepared, false⟩ ∧ files'.pending = none

end Runs

/-! ## Traces -/

section Traces

variable {host : Host} {files : Files} {target : Target} {prepared : ByteArray} {policyRevision : ℤ}

lemma run_publishPending (data : ByteArray) (h : files.pending = none) :
    publishPending data files =
      ⟨[{ files with temporary := data :: files.temporary },
        { files with pending := some ⟨data, true⟩, temporary := data :: files.temporary },
        { files with pending := some ⟨data, false⟩ }],
        some ((), { files with pending := some ⟨data, false⟩ })⟩ := by
  have hnone : files.pending.isNone = true := by
    rw [h]
    rfl
  unfold publishPending writeTemporary
  rw [Prog.run_effect, Prog.run_get, Prog.run_require, if_pos hnone]
  rfl

lemma readsBack_self (data : ByteArray) : readsBack (some ⟨data, false⟩) data = true := by
  rw [readsBack, Option.any_some, decide_eq_true rfl]
  rfl

/-- The registry with its new contents. -/
def Files.published (files : Files) (data : ByteArray) : Files :=
  { files with registry := some ⟨data, false⟩ }

lemma put_of_registry (h : target.isSelector = false) (data : ByteArray) :
    files.put target ⟨data, false⟩ = files.published data := by
  rw [Files.put, if_neg (by rw [h]; decide)]
  rfl

lemma at_of_registry (h : target.isSelector = false) : files.at target = files.registry := by
  rw [Files.at, if_neg (by rw [h]; decide)]

lemma isSelector_registryTarget (origin : Bool) : (registryTarget origin).isSelector = false := by
  cases origin <;> rfl

lemma run_publishAt (data : ByteArray) (h : target.isSelector = false) :
    publishAt target data files =
      ⟨[{ files with temporary := data :: files.temporary }, files.published data],
        some ((), files.published data)⟩ := by
  have hput : ({ { files with temporary := data :: files.temporary }.put target ⟨data, false⟩ with
      temporary := files.temporary } : Files) = files.published data := by
    rw [put_of_registry h]
    rfl
  rw [← hput]
  rfl

/-- The states of a publication that passes its checks. -/
def publishing (files : Files) (pendingBytes prepared : ByteArray) : List Files :=
  [{ files with temporary := pendingBytes :: files.temporary },
    { files with pending := some ⟨pendingBytes, true⟩, temporary := pendingBytes :: files.temporary },
    { files with pending := some ⟨pendingBytes, false⟩ },
    { files with pending := some ⟨pendingBytes, false⟩, temporary := prepared :: files.temporary },
    { files.published prepared with pending := some ⟨pendingBytes, false⟩ },
    { files.published prepared with pending := none }]

/-- **A publication runs through its file operations**, unless its checks refuse it. -/
lemma run_publishTarget {previous : Option ByteArray} (hregistry : target.isSelector = false)
    (h : publishable host files target prepared policyRevision = some previous)
    (hpending : files.pending = none) :
    (publishTarget host target prepared policyRevision files).visited =
      publishing files (jsonBytes (intentFor host target previous prepared policyRevision).toValue)
        prepared := by
  unfold publishTarget
  rw [Prog.run_get, Prog.run_ofOption_some h]
  rw [Prog.run_bind_some (run_publishPending _ hpending), Prog.run_get, Prog.run_require,
    if_pos (readsBack_self _)]
  rw [Prog.run_bind_some (run_publishAt _ hregistry), Prog.run_get, Prog.run_require,
    if_pos (by rw [at_of_registry hregistry]; exact readsBack_self _)]
  rfl

lemma run_publishTarget_refused (h : publishable host files target prepared policyRevision = none) :
    (publishTarget host target prepared policyRevision files).visited = [] := by
  unfold publishTarget
  rw [Prog.run_get, Prog.run_ofOption_none h]

/-- A recovery that finds the prepared bytes in place removes the intent. -/
lemma run_recoverPending_published {i : Intent} (h : recoverable host files policyRevision = some i)
    (hregistry : i.target.isSelector = false) (hdigest : host.sha256 i.prepared = i.preparedSha256)
    (hdone : files.registry = some ⟨i.prepared, false⟩) :
    recoverPending host policyRevision files =
      ⟨[{ files with pending := none }], some ((), { files with pending := none })⟩ := by
  have hskip : ¬ (files.at i.target).map (fun file => host.sha256 file.bytes) ≠
      some i.preparedSha256 := by
    rw [at_of_registry hregistry, hdone, Option.map_some, hdigest]
    exact not_not.mpr rfl
  unfold recoverPending
  rw [Prog.run_get, Prog.run_ofOption_some h, Prog.runIf, if_neg hskip,
    Prog.run_bind (p := pure ()) (a := ()) (t := files) rfl, Prog.run_get, Prog.run_require,
    if_pos (by rw [at_of_registry hregistry, hdone]; exact readsBack_self _)]
  rfl

/-- A recovery that finds the previous bytes publishes the prepared ones. -/
lemma run_recoverPending_previous {i : Intent} (h : recoverable host files policyRevision = some i)
    (hregistry : i.target.isSelector = false)
    (hprevious : files.registry.map (fun file => host.sha256 file.bytes) ≠ some i.preparedSha256) :
    recoverPending host policyRevision files =
      ⟨[{ files with temporary := i.prepared :: files.temporary }, files.published i.prepared,
        { files.published i.prepared with pending := none }],
        some ((), { files.published i.prepared with pending := none })⟩ := by
  have hpublish : (files.at i.target).map (fun file => host.sha256 file.bytes) ≠
      some i.preparedSha256 := by
    rw [at_of_registry hregistry]
    exact hprevious
  unfold recoverPending
  rw [Prog.run_get, Prog.run_ofOption_some h, Prog.runIf, if_pos hpublish,
    Prog.run_bind_some (run_publishAt _ hregistry), Prog.run_get, Prog.run_require,
    if_pos (by rw [at_of_registry hregistry]; exact readsBack_self _)]
  rfl

lemma run_recoverPending_refused (h : recoverable host files policyRevision = none) :
    (recoverPending host policyRevision files).visited = [] := by
  unfold recoverPending
  rw [Prog.run_get, Prog.run_ofOption_none h]

end Traces

/-! ## The invariant -/

section Invariant

variable (host : Host) (P : List Publication)

/-- A registry that can be read, and that was published. -/
def Readable (files : Files) : Prop :=
  ∀ file ∈ files.registry, file.linked = false ∧ file.bytes.size ≤ maxRegistryBytes ∧
    (∃ policy, decodePolicy host.tables file.bytes = some policy) ∧ ∃ p ∈ P, p.prepared = file.bytes

/-- The bytes that the intent replaces are still there. -/
structure Ahead (files : Files) (i : Intent) : Prop where
  digest : files.registry.map (fun file => host.sha256 file.bytes) = i.previousSha256
  revision : revisionOf host (files.registry.map (·.bytes)) = some (i.policyRevision - 1)
  transition : i.target = .registryOrigin →
    files.registry.any (fun file => originTransition host file.bytes i.prepared) = true

/-- An intent that can be finished. -/
structure Finishable (files : Files) (i : Intent) : Prop where
  published : ⟨i.target, i.prepared, i.policyRevision⟩ ∈ P
  written : i.Written
  digest : host.sha256 i.prepared = i.preparedSha256
  policy : ∃ policy, decodePolicy host.tables i.prepared = some policy ∧
    policy.policyRevision = i.policyRevision
  target : i.target.isSelector = false
  origin : i.target = .registryOrigin → unselected host files = true ∧ i.previousSha256 ≠ none ∧
    2 ≤ i.policyRevision
  fresh : i.previousSha256 ≠ some i.preparedSha256
  stage : files.registry = some ⟨i.prepared, false⟩ ∨ Ahead host files i

structure Inv (files : Files) : Prop where
  registry : Readable host P files
  pending : ∀ file ∈ files.pending, ∃ i, file = ⟨jsonBytes i.toValue, false⟩ ∧
    Finishable host P files i

/-- The contents of the registry stay, or are followed by those of the next revision. -/
def Advances (files files' : Files) : Prop :=
  files'.registry = files.registry ∨ ∃ k, revisionOf host (files.registry.map (·.bytes)) = some k ∧
    revisionOf host (files'.registry.map (·.bytes)) = some (k + 1)

variable {host P} {files : Files}

lemma size_pos_of_decodePolicy {raw : ByteArray} {policy : Policy}
    (h : decodePolicy host.tables raw = some policy) : 1 ≤ raw.size := by
  by_contra hsize
  have hempty : raw = ByteArray.empty := ByteArray.size_eq_zero_iff.mp (by omega)
  subst hempty
  have hnone : readJson ByteArray.empty = none := by
    rw [readJson, decodeUtf8, ByteArray.utf8Decode?_empty]
    rfl
  rw [decodePolicy, hnone] at h
  exact absurd h (by simp)

lemma readFixed_of_readable (h : Readable host P files) :
    readFixed maxRegistryBytes files.registry = some (files.registry.map (·.bytes)) := by
  rcases hregistry : files.registry with _ | file
  · rfl
  · rcases h file hregistry with ⟨hlinked, hsize, ⟨policy, hpolicy⟩, -⟩
    have hpos := size_pos_of_decodePolicy hpolicy
    rw [readFixed, if_neg, Option.map_some]
    rw [hlinked]
    simp only [Bool.false_eq_true, false_or, not_or, not_lt]
    exact ⟨hpos, hsize⟩

lemma loadPolicy_of_readable (h : Readable host P files) :
    (loadPolicy host files).map (·.policyRevision) =
      (files.registry.map (·.bytes)).bind fun raw => revisionOf host (some raw) := by
  rw [loadPolicy, readRequired, readFixed_of_readable h, Option.bind_some]
  cases files.registry <;> rfl

lemma Finishable.accepted {i : Intent} (h : Finishable host P files i) : i.accepted host = true := by
  rcases h.policy with ⟨policy, hpolicy, hrevision⟩
  rw [Intent.accepted, decide_eq_true ⟨h.digest, h.written.size⟩, Bool.true_and]
  rcases htarget : i.target with _ | _ | _
  · simp only [hpolicy, Option.any_some, hrevision, decide_true]
  · simp only [hpolicy, Option.any_some, hrevision, decide_true, Bool.true_and, decide_eq_true_eq]
    exact (h.origin htarget).2
  · have hselector := h.target
    rw [htarget] at hselector
    exact absurd hselector (by decide)

/-- Between calls the intent is the one that was written. -/
lemma Inv.pendingState (h : Inv host P files) {file : HostFile} (hfile : files.pending = some file) :
    ∃ i, pendingState host files = some (some i) ∧ Finishable host P files i := by
  rcases h.pending file hfile with ⟨i, rfl, hi⟩
  exact ⟨i, pendingState_of_written hi.written hfile hi.accepted, hi⟩

/-- Once the prepared bytes are published, the previous ones are not there. -/
lemma Finishable.stage_cases {i : Intent} (h : Finishable host P files i) :
    (files.registry = some ⟨i.prepared, false⟩ ∧
      files.registry.map (fun file => host.sha256 file.bytes) = some i.preparedSha256 ∧
      files.registry.map (fun file => host.sha256 file.bytes) ≠ i.previousSha256) ∨
    (Ahead host files i ∧
      files.registry.map (fun file => host.sha256 file.bytes) ≠ some i.preparedSha256) := by
  rcases h.stage with hdone | hahead
  · have hdigest : files.registry.map (fun file => host.sha256 file.bytes) =
        some i.preparedSha256 := by
      rw [hdone, Option.map_some, h.digest]
    refine Or.inl ⟨hdone, hdigest, ?_⟩
    rw [hdigest]
    exact fun heq => h.fresh heq.symm
  · refine Or.inr ⟨hahead, ?_⟩
    rw [hahead.digest]
    exact h.fresh

/-- **An intent that can be finished passes the checks of the recovery.** -/
lemma Finishable.recoverable {i : Intent} (h : Finishable host P files i)
    (hregistry : Readable host P files)
    (hpending : ApiClients.pendingState host files = some (some i)) :
    recoverable host files i.policyRevision = some i := by
  have hselector : i.target ≠ .selector := by
    intro heq
    have htarget := h.target
    rw [heq] at htarget
    exact absurd htarget (by decide)
  have hmap : (files.registry.map (·.bytes)).map host.sha256 =
      files.registry.map (fun file => host.sha256 file.bytes) := by
    rw [Option.map_map]
    rfl
  have hany : ((files.registry.map (·.bytes)).any fun current =>
      originTransition host current i.prepared) =
        files.registry.any fun file => originTransition host file.bytes i.prepared := by
    cases files.registry <;> rfl
  simp only [ApiClients.recoverable, hpending, Option.bind_eq_bind, Option.bind_some,
    at_of_registry h.target, readFixed_of_readable hregistry, Option.pure_def]
  rw [if_pos]
  rw [hmap, hany]
  refine ⟨trivial, fun horigin => (h.origin horigin).1, fun heq => absurd heq hselector, ?_⟩
  rcases h.stage_cases with ⟨-, hdigest, hne⟩ | ⟨hahead, -⟩
  · exact ⟨Or.inr hdigest, fun hprevious => absurd hprevious.1 hne,
      fun hprevious => absurd hprevious.1 hne⟩
  · exact ⟨Or.inl hahead.digest, fun hprevious => hahead.transition hprevious.2,
      fun _ => hahead.revision⟩

/-! ## Steps -/

lemma inv_start (selector : Option HostFile) : Inv host P (start selector) where
  registry file hfile := by cases hfile
  pending file hfile := by cases hfile

lemma inv_temporary (h : Inv host P files) (temporary : List ByteArray) :
    Inv host P { files with temporary } where
  registry := h.registry
  pending file hfile := by
    rcases h.pending file hfile with ⟨i, hi, hfinish⟩
    exact ⟨i, hi, { hfinish with stage := hfinish.stage.imp id fun hahead => { hahead with } }⟩

lemma inv_cleared (h : Inv host P files) : Inv host P { files with pending := none } where
  registry := h.registry
  pending file hfile := by cases hfile

/-- The intent is there before what it announces, and remains finishable when that is published. -/
lemma inv_pending (h : Readable host P files) {i : Intent} (hi : Finishable host P files i) :
    Inv host P { files with pending := some ⟨jsonBytes i.toValue, false⟩ } where
  registry := h
  pending file hfile := by
    obtain rfl := Option.some.inj hfile
    exact ⟨i, rfl, { hi with stage := hi.stage.imp id fun hahead => { hahead with } }⟩

lemma readable_published {i : Intent} (hi : Finishable host P files i) :
    Readable host P (files.published i.prepared) := by
  intro file hfile
  obtain rfl := Option.some.inj hfile
  rcases hi.policy with ⟨policy, hpolicy, -⟩
  exact ⟨rfl, hi.written.size, ⟨policy, hpolicy⟩, _, hi.published, rfl⟩

lemma Finishable.published_finishable {i : Intent} (hi : Finishable host P files i) :
    Finishable host P (files.published i.prepared) i :=
  { hi with stage := Or.inl rfl }

lemma Finishable.revision_published {i : Intent} (hi : Finishable host P files i) :
    revisionOf host ((files.published i.prepared).registry.map (·.bytes)) =
      some i.policyRevision := by
  rcases hi.policy with ⟨policy, hpolicy, hrevision⟩
  show (decodePolicy host.tables i.prepared).map (·.policyRevision) = _
  rw [hpolicy, Option.map_some, hrevision]

/-- Publishing what the intent announces is the next revision. -/
lemma Finishable.advances {i : Intent} (hi : Finishable host P files i) :
    Advances host files (files.published i.prepared) := by
  rcases hi.stage with hdone | hahead
  · exact Or.inl hdone.symm
  · refine Or.inr ⟨i.policyRevision - 1, hahead.revision, ?_⟩
    rw [hi.revision_published]
    exact congrArg some (by omega)

lemma noPending_iff (h : Inv host P files) : noPending host files = true ↔ files.pending = none := by
  rcases hpending : files.pending with _ | file
  · simp [noPending, ApiClients.pendingState, hpending, readFixed]
  · rcases h.pendingState hpending with ⟨i, hi, -⟩
    simp [noPending, hi]

/-- What the checks of a publication to the registry establish. -/
lemma publishable_spec (h : Inv host P files) {p : Publication} {previous : Option ByteArray}
    (htarget : p.target.isSelector = false)
    (hp : publishable host files p.target p.prepared p.policyRevision = some previous) :
    files.pending = none ∧ (p.target = .registryOrigin → unselected host files = true) ∧
      previous = files.registry.map (·.bytes) ∧
      (∃ policy, decodePolicy host.tables p.prepared = some policy ∧
        policy.policyRevision = p.policyRevision) ∧
      revisionOf host previous = some (p.policyRevision - 1) ∧
      (p.target = .registryOrigin →
        previous.any (fun previous => originTransition host previous p.prepared) = true) := by
  unfold publishable at hp
  by_cases hclear : noPending host files = true ∧
      (p.target = .registryOrigin → unselected host files = true)
  · rw [if_pos hclear, if_neg (by rw [htarget]; decide)] at hp
    rcases Option.bind_eq_some_iff.mp hp with ⟨policy, hpolicy, hp⟩
    rcases Option.bind_eq_some_iff.mp hp with ⟨found, hfound, hp⟩
    rcases Option.bind_eq_some_iff.mp hp with ⟨revision, hrevision, hp⟩
    rw [readFixed_of_readable h.registry] at hfound
    obtain rfl := Option.some.inj hfound
    split_ifs at hp with hnext
    obtain rfl := Option.some.inj hp
    refine ⟨(noPending_iff h).mp hclear.1, hclear.2, rfl, ⟨policy, hpolicy, hnext.1⟩, ?_, hnext.2.2⟩
    rw [hrevision, hnext.2.1]
    exact congrArg some (by omega)
  · rw [if_neg hclear] at hp
    exact absurd hp (by simp)

/-- **What a publication announces can be finished.** -/
lemma finishable_of_publishable (hsha : ∀ data, tokenRe (host.sha256 data) = true)
    (hinj : ∀ p ∈ P, ∀ q ∈ P, host.sha256 p.prepared = host.sha256 q.prepared →
      p.prepared = q.prepared)
    (h : Inv host P files) {p : Publication} (hmem : p ∈ P) (htarget : p.target.isSelector = false)
    {previous : Option ByteArray}
    (hp : publishable host files p.target p.prepared p.policyRevision = some previous)
    (hsize : p.prepared.size ≤ maxRegistryBytes) (hsmall : p.policyRevision < 10 ^ 1793) :
    Finishable host P files (intentFor host p.target previous p.prepared p.policyRevision) := by
  rcases publishable_spec h htarget hp with
    ⟨hpending, hunselected, rfl, ⟨policy, hpolicy, hpolicyRevision⟩, hrevision, htransition⟩
  have hpositive := one_le_of_decodePolicy hpolicy
  have hany : ((files.registry.map (·.bytes)).any fun current =>
      originTransition host current p.prepared) =
        files.registry.any fun file => originTransition host file.bytes p.prepared := by
    cases files.registry <;> rfl
  have hfresh : (files.registry.map (·.bytes)).map host.sha256 ≠ some (host.sha256 p.prepared) := by
    intro heq
    rcases hregistry : files.registry with _ | file
    · rw [hregistry] at heq
      exact absurd heq (by simp)
    · rcases h.registry file hregistry with ⟨-, -, -, q, hq, hbytes⟩
      rw [hregistry, Option.map_some, Option.map_some, ← hbytes] at heq
      have hsame := hinj q hq p hmem (Option.some.inj heq)
      rw [hregistry, Option.map_some, ← hbytes, hsame, revisionOf, hpolicy, Option.map_some] at hrevision
      have := Option.some.inj hrevision
      omega
  have hprevious : ∀ digest ∈ (files.registry.map (·.bytes)).map host.sha256,
      tokenRe digest = true := by
    intro digest hdigest
    rcases Option.map_eq_some_iff.mp hdigest with ⟨data, -, rfl⟩
    exact hsha data
  have horigin : p.target = .registryOrigin →
      (files.registry.map (·.bytes)).map host.sha256 ≠ none ∧ 2 ≤ p.policyRevision := by
    intro htarget
    have hsome := htransition htarget
    rcases hregistry : files.registry with _ | file
    · rw [hregistry] at hsome
      exact absurd hsome (by simp)
    · rcases h.registry file hregistry with ⟨-, -, ⟨old, hold⟩, -⟩
      rw [hregistry, Option.map_some, revisionOf, hold, Option.map_some] at hrevision
      have hone := one_le_of_decodePolicy hold
      have heq := Option.some.inj hrevision
      exact ⟨by simp, by omega⟩
  have hahead : Ahead host files
      (intentFor host p.target (files.registry.map (·.bytes)) p.prepared p.policyRevision) :=
    { digest := by
        show _ = (files.registry.map (·.bytes)).map host.sha256
        rw [Option.map_map]
        rfl
      revision := hrevision
      transition := fun horigin => hany ▸ htransition horigin }
  exact
    { published := hmem
      written :=
        { prepared := hsha _
          previous := hprevious
          revision := hpolicyRevision ▸ hpositive
          small := hsmall
          size := hsize }
      digest := rfl
      policy := ⟨policy, hpolicy, hpolicyRevision⟩
      target := htarget
      origin := fun heq => ⟨hunselected heq, horigin heq⟩
      fresh := hfresh
      stage := Or.inr hahead }

/-! ## One call -/

/-- Wherever a call is killed that leaves good states only, the state is good. -/
lemma killed_of_forall {Q : Files → Prop} {visited : List Files} (k : ℕ) (hstart : Q files)
    (hvisited : ∀ files' ∈ visited, Q files') : Q ((visited.take k).getLast?.getD files) := by
  rcases hlast : (visited.take k).getLast? with _ | files'
  · exact hstart
  · exact hvisited files' (List.mem_of_mem_take (List.mem_of_getLast? hlast))

/-- A publication leaves good states only, unless it is killed after the link. -/
lemma killed_of_publishing {Q : Files → Prop} {pendingBytes prepared : ByteArray} {k : ℕ}
    (hk : k ≠ 2) (hstart : Q files)
    (hgood : ∀ j ≠ 1, ∀ files' ∈ (publishing files pendingBytes prepared)[j]?, Q files') :
    Q (((publishing files pendingBytes prepared).take k).getLast?.getD files) := by
  rcases k with _ | _ | _ | _ | _ | _ | k
  · exact hstart
  · exact hgood 0 (by decide) _ rfl
  · exact absurd rfl hk
  · exact hgood 2 (by decide) _ rfl
  · exact hgood 3 (by decide) _ rfl
  · exact hgood 4 (by decide) _ rfl
  · rw [List.take_of_length_le (by show 6 ≤ k + 6; omega)]
    exact hgood 5 (by decide) _ rfl

lemma good_publishing (h : Inv host P files) {i : Intent} (hi : Finishable host P files i) (j : ℕ)
    (hj : j ≠ 1) :
    ∀ files' ∈ (publishing files (jsonBytes i.toValue) i.prepared)[j]?,
      Inv host P files' ∧ Advances host files files' := by
  intro files' hfiles'
  have hpublished := readable_published hi
  rcases j with _ | _ | _ | _ | _ | _ | j
  · obtain rfl := Option.some.inj hfiles'
    exact ⟨inv_temporary h _, Or.inl rfl⟩
  · exact absurd rfl hj
  · obtain rfl := Option.some.inj hfiles'
    exact ⟨inv_pending h.registry hi, Or.inl rfl⟩
  · obtain rfl := Option.some.inj hfiles'
    exact ⟨inv_temporary (inv_pending h.registry hi) _, Or.inl rfl⟩
  · obtain rfl := Option.some.inj hfiles'
    exact ⟨inv_pending hpublished hi.published_finishable, hi.advances⟩
  · obtain rfl := Option.some.inj hfiles'
    exact ⟨⟨hpublished, fun file hfile => by cases hfile⟩, hi.advances⟩
  · exact absurd hfiles' (by simp [publishing])

lemma visited_of_publication (files : Files) {c : Call} {p : Publication} (h : c.publication host = some p) :
    p.target.isSelector = false ∧ (c.prog host files).visited =
      (publishTarget host p.target p.prepared p.policyRevision files).visited := by
  cases c with
  | publishPolicy document =>
      rcases Option.map_eq_some_iff.mp h with ⟨policy, hpolicy, rfl⟩
      refine ⟨rfl, ?_⟩
      show (ApiClients.publishPolicy host document files).visited = _
      unfold ApiClients.publishPolicy
      rw [Prog.run_ofOption_some hpolicy]
  | publishTarget origin prepared policyRevision =>
      obtain rfl := Option.some.inj h
      exact ⟨isSelector_registryTarget origin, rfl⟩
  | recoverPending expectedRevision => cases h

/-- What the checks of a recovery establish. -/
lemma recoverable_spec {expectedRevision : ℤ} {i : Intent}
    (h : recoverable host files expectedRevision = some i) :
    pendingState host files = some (some i) ∧ i.policyRevision = expectedRevision ∧
      readFixed maxRegistryBytes (files.at i.target) ≠ none ∧
      (i.target = .selector → loadPolicy host files ≠ none) := by
  rcases Option.bind_eq_some_iff.mp h with ⟨pending, hpending, h⟩
  rcases Option.bind_eq_some_iff.mp h with ⟨found, hfound, h⟩
  rcases Option.bind_eq_some_iff.mp h with ⟨current, hcurrent, h⟩
  dsimp only at h
  split at h
  case isTrue hchecks =>
    obtain rfl := Option.some.inj h
    refine ⟨hfound ▸ hpending, hchecks.1, by rw [hcurrent]; exact Option.some_ne_none _, ?_⟩
    intro hselector hnone
    have hload := (hchecks.2.2.1 hselector).1
    rw [hnone] at hload
    cases hload
  case isFalse => cases h

lemma finishable_of_pendingState (h : Inv host P files) {i : Intent}
    (hi : pendingState host files = some (some i)) : Finishable host P files i := by
  rcases hpending : files.pending with _ | file
  · simp [ApiClients.pendingState, hpending, readFixed] at hi
  · rcases h.pendingState hpending with ⟨j, hj, hfinish⟩
    obtain rfl := Option.some.inj (Option.some.inj (hi.symm.trans hj))
    exact hfinish

lemma good_recovery (h : Inv host P files) (expectedRevision : ℤ) :
    ∀ files' ∈ (recoverPending host expectedRevision files).visited,
      Inv host P files' ∧ Advances host files files' := by
  intro files' hfiles'
  rcases hrecoverable : recoverable host files expectedRevision with _ | i
  · rw [run_recoverPending_refused hrecoverable] at hfiles'
    exact absurd hfiles' List.not_mem_nil
  · have hi := finishable_of_pendingState h (recoverable_spec hrecoverable).1
    have hpublished := readable_published hi
    rcases hi.stage_cases with ⟨hdone, -, -⟩ | ⟨-, hprevious⟩
    · rw [run_recoverPending_published hrecoverable hi.target hi.digest hdone] at hfiles'
      obtain rfl := List.mem_singleton.mp hfiles'
      exact ⟨inv_cleared h, Or.inl rfl⟩
    · rw [run_recoverPending_previous hrecoverable hi.target hprevious] at hfiles'
      simp only [List.mem_cons, List.not_mem_nil, or_false] at hfiles'
      rcases hfiles' with rfl | rfl | rfl
      · exact ⟨inv_temporary h _, Or.inl rfl⟩
      · refine ⟨⟨hpublished, fun file hfile => ?_⟩, hi.advances⟩
        rcases h.pending file hfile with ⟨j, rfl, hj⟩
        have hsame : pendingState host files = _ := pendingState_of_written hj.written hfile hj.accepted
        rw [(recoverable_spec hrecoverable).1] at hsame
        obtain rfl := Option.some.inj (Option.some.inj hsame)
        exact ⟨i, rfl, hi.published_finishable⟩
      · exact ⟨⟨hpublished, fun file hfile => by cases hfile⟩, hi.advances⟩

/-- **One call, killed anywhere that is allowed.** -/
lemma step_spec (hsha : ∀ data, tokenRe (host.sha256 data) = true)
    (hinj : ∀ p ∈ P, ∀ q ∈ P, host.sha256 p.prepared = host.sha256 q.prepared →
      p.prepared = q.prepared)
    (h : Inv host P files) {s : Step} (hmem : ∀ p ∈ s.call.publication host, p ∈ P)
    (hkeeps : Keeps host files s) :
    Inv host P (step host files s) ∧ Advances host files (step host files s) := by
  let Q : Files → Prop := fun files' => Inv host P files' ∧ Advances host files files'
  have hstart : Q files := ⟨h, Or.inl rfl⟩
  show Q (step host files s)
  unfold step
  rcases hpublication : s.call.publication host with _ | p
  · rcases hcall : s.call with document | ⟨origin, prepared, policyRevision⟩ | expectedRevision
    · rw [hcall] at hpublication
      have hnone := Option.map_eq_none_iff.mp hpublication
      refine killed_of_forall s.survives hstart fun files' hfiles' => ?_
      replace hfiles' : files' ∈ (ApiClients.publishPolicy host document files).visited := hfiles'
      unfold ApiClients.publishPolicy at hfiles'
      rw [Prog.run_ofOption_none hnone] at hfiles'
      exact absurd hfiles' List.not_mem_nil
    · rw [hcall] at hpublication
      cases hpublication
    · exact killed_of_forall s.survives hstart (good_recovery h expectedRevision)
  · rcases visited_of_publication files hpublication with ⟨htarget, hvisited⟩
    rw [hvisited]
    rcases hp : publishable host files p.target p.prepared p.policyRevision with _ | previous
    · rw [run_publishTarget_refused hp]
      exact killed_of_forall s.survives hstart fun files' hfiles' => absurd hfiles' List.not_mem_nil
    · rcases hkeeps p hpublication (by rw [hp]; rfl) with ⟨hkilled, hsize, hsmall⟩
      have hi := finishable_of_publishable hsha hinj h (hmem p hpublication) htarget hp hsize hsmall
      rw [run_publishTarget htarget hp (publishable_spec h htarget hp).1]
      exact killed_of_publishing hkilled hstart fun j hj => good_publishing h hi j hj

/-! ## Runs -/

lemma inv_run (hsha : ∀ data, tokenRe (host.sha256 data) = true)
    (hinj : ∀ p ∈ P, ∀ q ∈ P, host.sha256 p.prepared = host.sha256 q.prepared →
      p.prepared = q.prepared)
    {steps : List Step} (hmem : ∀ p ∈ publications host steps, p ∈ P) (h : Inv host P files)
    (hkeeps : Run.Along (step host) (Keeps host) files steps) :
    Inv host P (run host files steps) := by
  induction steps generalizing files with
  | nil => exact h
  | cons s steps ih =>
      have hpublications : publications host (s :: steps) =
          (s.call.publication host).toList ++ publications host steps := by
        rw [publications, List.filterMap_cons]
        cases s.call.publication host <;> rfl
      rw [hpublications] at hmem
      have hnext := (step_spec hsha hinj h (fun p hp => hmem p (List.mem_append_left _
        (Option.mem_toList.mpr hp))) hkeeps.1).1
      exact ih (fun p hp => hmem p (List.mem_append_right _ hp)) hnext hkeeps.2

lemma revisionOf_nonneg {raw : Option ByteArray} {k : ℤ} (h : revisionOf host raw = some k) :
    0 ≤ k := by
  rcases raw with _ | raw
  · obtain rfl := Option.some.inj h
    exact le_rfl
  · rcases Option.map_eq_some_iff.mp h with ⟨policy, hpolicy, rfl⟩
    have := one_le_of_decodePolicy hpolicy
    omega

/-- A new content of the registry is the next revision. -/
lemma Advances.revision {files' : Files} {k : ℤ} (h : Advances host files files')
    (hreadable : Readable host P files')
    (hk : revisionOf host (files.registry.map (·.bytes)) = some k) :
    files'.registry.map (·.bytes) = files.registry.map (·.bytes) ∨
      (loadPolicy host files').map (·.policyRevision) = some (k + 1) ∧
        revisionOf host (files'.registry.map (·.bytes)) = some (k + 1) := by
  rcases h with hsame | ⟨j, hj, hnext⟩
  · exact Or.inl (by rw [hsame])
  · obtain rfl := Option.some.inj (hj.symm.trans hk)
    refine Or.inr ⟨?_, hnext⟩
    rw [loadPolicy_of_readable hreadable]
    rcases hregistry : files'.registry with _ | file
    · rw [hregistry] at hnext
      have hzero := Option.some.inj hnext
      have := revisionOf_nonneg hj
      omega
    · rw [hregistry] at hnext
      exact hnext

/-- **The contents of the registry are numbered without gaps or repeats.** -/
lemma revisions_run (hsha : ∀ data, tokenRe (host.sha256 data) = true)
    (hinj : ∀ p ∈ P, ∀ q ∈ P, host.sha256 p.prepared = host.sha256 q.prepared →
      p.prepared = q.prepared)
    {steps : List Step} (hmem : ∀ s ∈ steps, ∀ p ∈ s.call.publication host, p ∈ P) {k : ℤ}
    (h : Inv host P files) (hk : revisionOf host (files.registry.map (·.bytes)) = some k)
    (hkeeps : Run.Along (step host) (Keeps host) files steps) :
    ∃ n, revisions host files steps =
      (List.range n).map fun (i : ℕ) => some (k + 1 + (i : ℤ)) := by
  induction steps generalizing files k with
  | nil => exact ⟨0, rfl⟩
  | cons s steps ih =>
      rcases step_spec hsha hinj h (hmem s List.mem_cons_self) hkeeps.1 with ⟨hnext, hadvances⟩
      have hrest := fun t ht => hmem t (List.mem_cons_of_mem s ht)
      rw [revisions]
      by_cases hsame : (step host files s).registry.map (·.bytes) = files.registry.map (·.bytes)
      · rw [if_pos hsame]
        exact ih hrest hnext (by rw [hsame]; exact hk) hkeeps.2
      · rcases hadvances.revision hnext.registry hk with heq | ⟨hload, hrevision⟩
        · exact absurd heq hsame
        · rcases ih hrest hnext hrevision hkeeps.2 with ⟨n, hn⟩
          refine ⟨n + 1, ?_⟩
          rw [if_neg hsame, hload, hn, List.range_succ_eq_map, List.map_cons, List.map_map]
          refine congrArg₂ List.cons (congrArg some (by simp)) (List.map_congr_left fun i _ => ?_)
          show some (k + 1 + 1 + (i : ℤ)) = some (k + 1 + ((i + 1 : ℕ) : ℤ))
          exact congrArg some (by omega)

/-- Between calls, the recovery finishes what was begun. -/
lemma Inv.recovers (h : Inv host P files) (hpending : files.pending ≠ none) :
    ∃ p ∈ P, (ApiClients.pendingState host files).join.map (fun i => (i.target, i.prepared, i.policyRevision)) =
        some (p.target, p.prepared, p.policyRevision) ∧
      (recoverPending host p.policyRevision).Succeeds files fun _ files' =>
        files'.registry = some ⟨p.prepared, false⟩ ∧ files'.pending = none := by
  rcases Option.ne_none_iff_exists'.mp hpending with ⟨file, hfile⟩
  rcases h.pendingState hfile with ⟨i, hi, hfinish⟩
  refine ⟨_, hfinish.published, by rw [hi]; rfl, ?_⟩
  have hrecoverable := hfinish.recoverable h.registry hi
  rcases hfinish.stage_cases with ⟨hdone, -, -⟩ | ⟨-, hprevious⟩
  · have hrun := run_recoverPending_published hrecoverable hfinish.target hfinish.digest hdone
    exact ⟨(), _, congrArg Trace.result hrun, hdone, rfl⟩
  · have hrun := run_recoverPending_previous hrecoverable hfinish.target hprevious
    exact ⟨(), _, congrArg Trace.result hrun, rfl, rfl⟩

lemma selectorMode_of_pending (h : Inv host P files) (hpending : files.pending ≠ none) :
    selectorMode host files = none := by
  rw [selectorMode, if_neg]
  rw [noPending_iff h]
  exact hpending

lemma Inv.survives {steps : List Step} (h : Inv host (publications host steps) files) :
    Survives host steps files where
  readable := by
    rcases hregistry : files.registry with _ | file
    · exact Or.inl rfl
    · refine Or.inr ?_
      rcases h.registry file hregistry with ⟨-, -, ⟨policy, hpolicy⟩, -⟩
      have hload := loadPolicy_of_readable h.registry
      rw [hregistry, Option.map_some, Option.bind_some, revisionOf, hpolicy] at hload
      rcases Option.map_eq_some_iff.mp hload with ⟨found, hfound, -⟩
      rw [hfound]
      rfl
  unauthorised := selectorMode_of_pending h
  recoverable := h.recovers

/-- A document is read back from the registry if its text and the newline fit. -/
lemma loadPolicy_published {document : Value} {policy : Policy}
    (h : validatePolicy host.tables document = some policy)
    (hfiles : files.registry = some ⟨jsonBytes document, false⟩) :
    loadPolicy host files = some policy ↔ (jsonBytes document).size ≤ maxRegistryBytes := by
  have hdecode := decodePolicy_jsonBytes h
  have hpos := size_pos_of_decodePolicy hdecode
  rw [loadPolicy, readRequired, hfiles, readFixed]
  constructor
  · intro hload
    by_contra hsize
    rw [if_pos (Or.inr (Or.inr (not_le.mp hsize)))] at hload
    cases hload
  · intro hsize
    rw [if_neg]
    · exact hdecode
    · simp only [Bool.false_eq_true, false_or, not_or, not_lt]
      exact ⟨hpos, hsize⟩

/-- **Publication survives a crash**, unless a call is killed between the link and the unlink of its
intent or publishes more bytes than a reader accepts. -/
theorem published_run {selector : Option HostFile} {steps : List Step}
    (hsha : ∀ data, tokenRe (host.sha256 data) = true)
    (hinj : ∀ p ∈ publications host steps, ∀ q ∈ publications host steps,
      host.sha256 p.prepared = host.sha256 q.prepared → p.prepared = q.prepared)
    (hkeeps : Run.Along (step host) (Keeps host) (start selector) steps) :
    Survives host steps (run host (start selector) steps) ∧
      (∃ n, revisions host (start selector) steps =
        (List.range n).map fun (i : ℕ) => some (1 + (i : ℤ))) ∧
      ∀ document policy, validatePolicy host.tables document = some policy →
        document = policy.toValue ∧
        ∀ files : Files, files.registry = some ⟨jsonBytes document, false⟩ →
          (loadPolicy host files = some policy ↔ (jsonBytes document).size ≤ maxRegistryBytes) := by
  have hstart : Inv host (publications host steps) (start selector) := inv_start selector
  have hmem : ∀ s ∈ steps, ∀ p ∈ s.call.publication host, p ∈ publications host steps :=
    fun s hs p hp => List.mem_filterMap.mpr ⟨s, hs, hp⟩
  refine ⟨(inv_run hsha hinj (fun p hp => hp) hstart hkeeps).survives, ?_, ?_⟩
  · rcases revisions_run hsha hinj hmem hstart (k := 0) rfl hkeeps with ⟨n, hn⟩
    exact ⟨n, hn⟩
  · intro document policy hpolicy
    exact ⟨(validatePolicy_spec hpolicy).1, fun files hfiles => loadPolicy_published hpolicy hfiles⟩

/-! ## What no call repairs -/

/-- No call passes its checks. -/
def Stuck (host : Host) (files : Files) : Prop :=
  (∀ target prepared policyRevision, target.isSelector = false →
    publishable host files target prepared policyRevision = none) ∧
  ∀ expectedRevision, recoverable host files expectedRevision = none

lemma step_of_stuck (h : Stuck host files) (s : Step) : step host files s = files := by
  have hvisited : (s.call.prog host files).visited = [] := by
    rcases hpublication : s.call.publication host with _ | p
    · rcases hcall : s.call with document | ⟨origin, prepared, policyRevision⟩ | expectedRevision
      · rw [hcall] at hpublication
        have hnone := Option.map_eq_none_iff.mp hpublication
        show (ApiClients.publishPolicy host document files).visited = []
        unfold ApiClients.publishPolicy
        rw [Prog.run_ofOption_none hnone]
      · rw [hcall] at hpublication
        cases hpublication
      · exact run_recoverPending_refused (h.2 expectedRevision)
    · rcases visited_of_publication files hpublication with ⟨htarget, hvisited⟩
      rw [hvisited, run_publishTarget_refused (h.1 _ _ _ htarget)]
  unfold step
  rw [hvisited, List.take_nil]
  rfl

lemma run_of_stuck (h : Stuck host files) (steps : List Step) : run host files steps = files := by
  induction steps with
  | nil => rfl
  | cons s steps ih =>
      show run host (step host files s) steps = files
      rw [step_of_stuck h, ih]

/-- **An intent with two names stays.** -/
theorem linked_intent_sticks {data : ByteArray} (h : files.pending = some ⟨data, true⟩) :
    Stuck host files := by
  have hpending : pendingState host files = none := by
    rw [pendingState, h, readFixed, if_pos (Or.inl rfl)]
  have hnot : ¬ noPending host files = true := by
    rw [noPending, hpending]
    decide
  refine ⟨fun target prepared policyRevision _ => ?_, fun expectedRevision => ?_⟩
  · rw [publishable, if_neg fun hclear => hnot hclear.1]
  · rw [recoverable, hpending]
    rfl

/-- A publication that is killed after the link leaves such an intent. -/
lemma pending_of_killed {document : Value} {policy : Policy} {previous : Option ByteArray}
    (hpolicy : validatePolicy host.tables document = some policy)
    (h : publishable host files .registry (jsonBytes document) policy.policyRevision = some previous)
    (hpending : files.pending = none) :
    ∃ data, (run host files [⟨.publishPolicy document, 2⟩]).pending = some ⟨data, true⟩ := by
  have hrun := run_publishTarget rfl h hpending
  have hfiles : run host files [⟨.publishPolicy document, 2⟩] =
      ((publishPolicy host document files).visited.take 2).getLast?.getD files := rfl
  unfold publishPolicy at hfiles
  rw [Prog.run_ofOption_some hpolicy, hrun] at hfiles
  rw [hfiles]
  exact ⟨_, rfl⟩

/-- Beyond the limit the registry cannot be read. -/
lemma oversized_registry_sticks {file : HostFile} (h : files.registry = some file)
    (hsize : maxRegistryBytes < file.bytes.size) : Stuck host files := by
  have hread : readFixed maxRegistryBytes files.registry = none := by
    rw [h, readFixed, if_pos (Or.inr (Or.inr hsize))]
  have hload : loadPolicy host files = none := by
    rw [loadPolicy, readRequired, hread]
    rfl
  refine ⟨fun target prepared policyRevision htarget => ?_, fun expectedRevision => ?_⟩
  · unfold publishable
    rw [hread, htarget]
    cases decodePolicy host.tables prepared <;> exact ite_self none
  · rw [Option.eq_none_iff_forall_ne_some]
    intro i hi
    rcases recoverable_spec hi with ⟨-, -, hcurrent, hselector⟩
    by_cases htarget : i.target.isSelector = true
    · refine hselector ?_ hload
      rcases heq : i.target with _ | _ | _
      · rw [heq] at htarget
        cases htarget
      · rw [heq] at htarget
        cases htarget
      · rfl
    · rw [at_of_registry (Bool.not_eq_true _ ▸ htarget)] at hcurrent
      exact hcurrent hread

/-- **A registry beyond the limit is never replaced**, whatever is called and wherever it is killed, and
no recovery succeeds. -/
theorem run_of_oversized_registry {file : HostFile} (h : files.registry = some file)
    (hsize : maxRegistryBytes < file.bytes.size) :
    (∀ steps, run host files steps = files) ∧
      ∀ expectedRevision, (recoverPending host expectedRevision files).result = none := by
  have hstuck : Stuck host files := oversized_registry_sticks h hsize
  refine ⟨run_of_stuck hstuck, fun expectedRevision => ?_⟩
  unfold recoverPending
  rw [Prog.run_get, Prog.run_ofOption_none (hstuck.2 expectedRevision)]

end Invariant

/-! ## A host -/

namespace Example

/-- The first policy, without clients. -/
def policy : Policy := ⟨"https://fw.example".toList, [], 1⟩

/-- The SHA-256 of its bytes. -/
def digest : Text := "266d42c751aa560b889c2606c7dddac84aa1275c1f87b2a7f3e2012e6be52007".toList

/-- One origin, and the digest of the bytes of the first policy. -/
def host : Host where
  tables := ⟨fun t => decide (t = "https://fw.example".toList), id, fun _ => false, id⟩
  sha256 data := if data = jsonBytes policy.toValue then digest else List.replicate 64 '0'
  fence := none

example : dumps compact policy.toValue =
    ("\x7b\"canonical_origin\":\"https://fw.example\",\"clients\":[]," ++
      "\"policy_revision\":1,\"schema_version\":1\x7d").toList := by
  decide +kernel

lemma size_policy : (encodeUtf8 (dumps compact policy.toValue)).size ≤ 100 := by decide +kernel

lemma validatePolicy_policy : validatePolicy host.tables policy.toValue = some policy := by
  have hread : readPolicy policy.toValue = some policy := by
    rw [Policy.toValue, readPolicy, if_pos ⟨rfl, rfl⟩]
    rfl
  have hsize := size_policy
  have hlimit : maxRegistryBytes = 131072 := rfl
  rw [validatePolicy, hread, Option.bind_some, if_pos]
  exact ⟨by decide, by decide +kernel, by decide, rfl, by decide +kernel, by decide, by omega⟩

lemma tokenRe_sha256 (data : ByteArray) : tokenRe (host.sha256 data) = true := by
  show tokenRe (if data = jsonBytes policy.toValue then digest else List.replicate 64 '0') = true
  split_ifs <;> decide +kernel

/-- The first publication passes its checks. -/
lemma publishable_start : publishable host (start none) .registry (jsonBytes policy.toValue) 1 =
    some none := by
  have hclear : noPending host (start none) = true := rfl
  have hregistry : ¬ Target.registry = Target.registryOrigin := by decide
  rw [publishable, if_pos ⟨hclear, fun heq => absurd heq hregistry⟩, if_neg (by decide),
    decodePolicy_jsonBytes validatePolicy_policy]
  rfl

/-- A publication that is killed after the intent, and its recovery. -/
theorem published_after_kill :
    let steps := [⟨.publishPolicy policy.toValue, 3⟩, ⟨.recoverPending 1, 3⟩]
    Survives host steps (run host (start none) steps) ∧
      (∃ n, revisions host (start none) steps =
        (List.range n).map fun (i : ℕ) => some (1 + (i : ℤ))) ∧
      ∀ document policy, validatePolicy host.tables document = some policy →
        document = policy.toValue ∧
        ∀ files : Files, files.registry = some ⟨jsonBytes document, false⟩ →
          (loadPolicy host files = some policy ↔
            (jsonBytes document).size ≤ maxRegistryBytes) := by
  intro steps
  have hpublication : (Call.publishPolicy policy.toValue).publication host =
      some ⟨.registry, jsonBytes policy.toValue, 1⟩ := by
    rw [Call.publication, validatePolicy_policy]
    rfl
  refine published_run tokenRe_sha256 ?_ ⟨?_, ?_, trivial⟩
  · intro p hp q hq _
    have hone : ∀ r ∈ publications host steps, r = ⟨.registry, jsonBytes policy.toValue, 1⟩ := by
      intro r hr
      rcases List.mem_filterMap.mp hr with ⟨s, hs, hsr⟩
      rcases List.mem_pair.mp hs with rfl | rfl
      · exact Option.some.inj (hsr.symm.trans hpublication)
      · cases hsr
    rw [hone p hp, hone q hq]
  · intro p hp _
    obtain rfl := Option.some.inj (hp.symm.trans hpublication)
    have hsize := size_policy
    have hlimit : maxRegistryBytes = 131072 := rfl
    refine ⟨show (3 : ℕ) ≠ 2 by decide, ?_, one_lt_pow₀ (by decide) (by decide)⟩
    show (jsonBytes policy.toValue).size ≤ maxRegistryBytes
    rw [size_jsonBytes]
    omega
  · intro p hp
    cases hp

/-- **A call killed between the link and the unlink of its intent** leaves an intent that no call can
finish or remove. -/
theorem linked_intent_lost :
    let files := run host (start none) [⟨.publishPolicy policy.toValue, 2⟩]
    files.pending ≠ none ∧
      (∀ expectedRevision, (recoverPending host expectedRevision files).result = none) ∧
      ∀ steps, run host files steps = files := by
  intro files
  rcases pending_of_killed validatePolicy_policy publishable_start rfl with ⟨data, hdata⟩
  have hstuck : Stuck host files := linked_intent_sticks hdata
  refine ⟨?_, fun expectedRevision => ?_, run_of_stuck hstuck⟩
  · show (run host (start none) [⟨.publishPolicy policy.toValue, 2⟩]).pending ≠ none
    rw [hdata]
    exact Option.some_ne_none _
  · unfold recoverPending
    rw [Prog.run_get, Prog.run_ofOption_none (hstuck.2 expectedRevision)]

/-- A registry of one byte more. -/
def oversized : Files :=
  { start none with registry := some ⟨⟨Array.replicate (maxRegistryBytes + 1) 0⟩, false⟩ }

theorem run_of_oversized : (∀ steps, run host oversized steps = oversized) ∧
    ∀ expectedRevision, (recoverPending host expectedRevision oversized).result = none :=
  run_of_oversized_registry rfl
    (Array.size_replicate.symm ▸ Nat.lt_succ_self maxRegistryBytes : _ < (Array.replicate _ _).size)

end Example

end FwRouter.ApiClients
