import FwRouter.Library.Run
import FwRouter.Python.TextFile

/-!
# Concurrent reconciliations of Mihomo

`reconcile_mihomo_runtime`, for calls with a verification callback and without a reservation: a call
reads what it starts from, writes a candidate, and in one section under the writer guard captures a
checkpoint, checks that nothing has changed, promotes the candidate and restarts Mihomo.  The callback
runs outside the guard; a second section publishes, and `restore_mihomo_reconcile_checkpoint` takes
the active file back from the checkpoint where the verdict is negative.

All calls share the active file, the candidate file and one backup file, `config.previous.yaml`.  File
writes and restarts succeed.  What is generated, what the gates, the native proofs and the callback
say comes from outside; the callback may advance the selection revision itself, by a compare-and-swap
from the revision it is given.
-/

namespace FwRouter.Reconcile

open Py

/-! ## Calls -/

/-- What the calls find and do not change; `failClosed` is `_config_has_failclosed_udp_policy`, and
`vpnRequired` the three conditions on the routing that make that policy mandatory. -/
structure Host (R I : Type) where
  sha256 : ByteArray → Text
  fingerprint : R → I → Option Text
  failClosed : Text → Bool
  vpnRequired : R → Text → Bool

/-- `_capture_mihomo_reconcile_checkpoint`, with the bytes that it has copied. -/
structure Checkpoint where
  beforeHash : Text
  /-- `_checkpoint_rollback_policy_allowed`. -/
  rollbackAllowed : Bool
  preimage : ByteArray

/-- What a call starts from. -/
structure Snapshot (R : Type) where
  routing : R
  revision : ℕ
  incarnation : ℕ
  activeHash : Option Text
  inputHash : Option Text

/-- What the verification callback says: its verdict, and the revision that it names together with
the identifier of the operation. -/
structure Answer where
  ok : Bool
  revision : Option ℕ

/-- A promoted candidate, after the restart. -/
structure Generation (R : Type) where
  snapshot : Snapshot R
  candidateHash : Text
  /-- `generation_revision`. -/
  revision : ℕ
  /-- `runtime_incarnation_after`. -/
  incarnation : ℕ
  checkpoint : Option Checkpoint
  /-- `recovery_expected_revision`. -/
  adopted : ℕ
  /-- The revision that the callback has named. -/
  named : Option ℕ
  /-- Since the restart, another call has advanced the revision, replaced the active file or
  restarted Mihomo. -/
  disturbed : Bool

inductive Phase (R : Type)
  | idle
  | revisionRead (routing : R) (revision : ℕ)
  | runtimeRead (routing : R) (revision incarnation : ℕ)
  | activeRead (routing : R) (revision incarnation : ℕ) (activeHash : Option Text)
  | inputsRead (snapshot : Snapshot R)
  | candidateWritten (snapshot : Snapshot R)
  | prepared (snapshot : Snapshot R) (candidateHash : Option Text)
  | restarted (g : Generation R)
  | verified (g : Generation R)
  /-- Promoted, and not verified. -/
  | failed (g : Generation R)
  | done

/-- The generation that still awaits its verdict or its rollback. -/
def Phase.generation {R : Type} : Phase R → Option (Generation R)
  | .restarted g => some g
  | .verified g => some g
  | .failed g => some g
  | _ => none

def Phase.disturb {R : Type} : Phase R → Phase R
  | .restarted g => .restarted { g with disturbed := true }
  | .verified g => .verified { g with disturbed := true }
  | .failed g => .failed { g with disturbed := true }
  | p => p

/-! ## Steps -/

structure State (R I : Type) where
  revision : ℕ
  active : Option ByteArray
  backup : Option ByteArray
  candidate : Option ByteArray
  /-- The database and the files that the fingerprint covers. -/
  inputs : I
  /-- Every restart is a new incarnation. -/
  incarnation : ℕ
  calls : ℕ → Phase R

inductive Label (R I : Type)
  | inputs (inputs : I)
  | begin (c : ℕ) (routing : R)
  | readRuntime (c : ℕ)
  | readActive (c : ℕ)
  | readInputs (c : ℕ)
  | writeCandidate (c : ℕ) (data : ByteArray)
  | hashCandidate (c : ℕ)
  /-- Refused, invalid or unchanged: the call ends without a generation. -/
  | leave (c : ℕ)
  | apply (c : ℕ) (admitted promotes : Bool)
  | verify (c : ℕ) (answer : Answer) (advances : Bool)
  | publish (c : ℕ) (proven : Bool)
  | rollback (c : ℕ)

section Steps

variable {R I : Type}

def State.setPhase (s : State R I) (c : ℕ) (p : Phase R) : State R I :=
  { s with calls := Function.update s.calls c p }

/-- The call `c` advances the revision, replaces the active file or restarts Mihomo. -/
def State.disturbOthers (s : State R I) (c : ℕ) : State R I :=
  { s with calls := fun d => if d = c then s.calls d else (s.calls d).disturb }

variable (host : Host R I)

/-- The checkpoint of the active file; there is none without a file, and none of a file that is not
UTF-8. -/
def capture (routing : R) (active : Option ByteArray) : Option Checkpoint := do
  let original ← active
  let text ← decodeBytes original
  return ⟨host.sha256 original, !(host.vpnRequired routing text && !host.failClosed text), original⟩

/-- Nothing has changed since the preparation. -/
def Unchanged (s : State R I) (p : Snapshot R) (candidateHash : Option Text) (current : Text) : Prop :=
  s.revision = p.revision ∧ p.inputHash = some current ∧ candidateHash ≠ none ∧
    s.candidate.map host.sha256 = candidateHash ∧ s.active.map host.sha256 = p.activeHash ∧
    s.incarnation = p.incarnation

instance (s : State R I) (p : Snapshot R) (candidateHash : Option Text) (current : Text) :
    Decidable (Unchanged host s p candidateHash current) :=
  inferInstanceAs (Decidable (_ ∧ _))

/-- `promote_mihomo_candidate_config`: what it writes to the active file.  A candidate that is not
UTF-8 is not promoted. -/
def promote (promotes : Bool) (candidate : Option ByteArray) : Option ByteArray :=
  if promotes then candidate.filter fun data => (decodeBytes data).isSome else none

/-- The section under the writer guard that applies the candidate.  The checkpoint is captured before
the checks. -/
def applySection (s : State R I) (c : ℕ) (p : Snapshot R) (candidateHash : Option Text)
    (admitted promotes : Bool) : State R I :=
  match host.fingerprint p.routing s.inputs with
  | none => s.setPhase c .done
  | some current =>
      if admitted then
        let checkpoint := capture host p.routing s.active
        let backup := (checkpoint.map (·.preimage)).or s.backup
        if Unchanged host s p candidateHash current then
          let promoted := promote promotes s.candidate
          let revision := s.revision + 1
          let incarnation := s.incarnation + 1
          let phase := match promoted with
            | some data =>
                .restarted ⟨p, host.sha256 data, revision, incarnation, checkpoint, revision, none, false⟩
            | none => .done
          { s.disturbOthers c with
            revision, backup, incarnation, active := promoted.or s.active }.setPhase c phase
        else { s with backup }.setPhase c .done
      else s.setPhase c .done

/-- The callback, and the revision that the rollback would expect. -/
def verifyStep (s : State R I) (c : ℕ) (g : Generation R) (answer : Answer) (advances : Bool) :
    State R I :=
  let adopted := answer.revision.getD g.revision
  let g := { g with adopted, named := answer.revision }
  let phase := if answer.ok then Phase.verified g else .failed g
  if advances ∧ s.revision = g.revision then
    { s.disturbOthers c with revision := s.revision + 1 }.setPhase c phase
  else s.setPhase c phase

/-- `_selection_publication_still_owned`. -/
def StillOwned (s : State R I) (g : Generation R) : Prop :=
  s.revision = g.adopted ∧ s.incarnation = g.incarnation ∧
    host.fingerprint g.snapshot.routing s.inputs = g.snapshot.inputHash ∧
    s.active.map host.sha256 = some g.candidateHash ∧ g.named = some g.adopted

instance (s : State R I) (g : Generation R) : Decidable (StillOwned host s g) :=
  inferInstanceAs (Decidable (_ ∧ _))

/-- The checks of `restore_mihomo_reconcile_checkpoint`. -/
def Restorable (s : State R I) (g : Generation R) (checkpoint : Checkpoint) : Prop :=
  checkpoint.rollbackAllowed ∧ s.incarnation = g.incarnation ∧
    s.active.map host.sha256 = some g.candidateHash ∧ s.revision = g.adopted

instance (s : State R I) (g : Generation R) (checkpoint : Checkpoint) :
    Decidable (Restorable host s g checkpoint) :=
  inferInstanceAs (Decidable (_ ∧ _))

/-- `restore_mihomo_reconcile_checkpoint`. -/
def restore (s : State R I) (c : ℕ) (g : Generation R) : State R I :=
  match g.checkpoint, s.backup with
  | some checkpoint, some saved =>
      if Restorable host s g checkpoint then
        let s := { s.disturbOthers c with revision := s.revision + 1 }
        match (readText saved).map writeText with
        | none => s
        | some data =>
            if host.sha256 data = checkpoint.beforeHash then
              { s with active := some data, incarnation := s.incarnation + 1 }
            else { s with active := some data }
      else s
  | _, _ => s

def step (s : State R I) : Label R I → State R I
  | .inputs inputs => { s with inputs }
  | .begin c routing =>
      match s.calls c with
      | .idle => s.setPhase c (.revisionRead routing s.revision)
      | _ => s
  | .readRuntime c =>
      match s.calls c with
      | .revisionRead routing revision => s.setPhase c (.runtimeRead routing revision s.incarnation)
      | _ => s
  | .readActive c =>
      match s.calls c with
      | .runtimeRead routing revision incarnation =>
          s.setPhase c (.activeRead routing revision incarnation (s.active.map host.sha256))
      | _ => s
  | .readInputs c =>
      match s.calls c with
      | .activeRead routing revision incarnation activeHash =>
          s.setPhase c (.inputsRead
            ⟨routing, revision, incarnation, activeHash, host.fingerprint routing s.inputs⟩)
      | _ => s
  | .writeCandidate c data =>
      match s.calls c with
      | .inputsRead snapshot =>
          { s with candidate := some data }.setPhase c (.candidateWritten snapshot)
      | _ => s
  | .hashCandidate c =>
      match s.calls c with
      | .candidateWritten snapshot =>
          s.setPhase c (.prepared snapshot (s.candidate.map host.sha256))
      | _ => s
  | .leave c => if (s.calls c).generation = none then s.setPhase c .done else s
  | .apply c admitted promotes =>
      match s.calls c with
      | .prepared snapshot candidateHash =>
          applySection host s c snapshot candidateHash admitted promotes
      | _ => s
  | .verify c answer advances =>
      match s.calls c with
      | .restarted g => verifyStep s c g answer advances
      | _ => s
  | .publish c proven =>
      match s.calls c with
      | .verified g =>
          if proven ∧ StillOwned host s g then s.setPhase c .done else s.setPhase c (.failed g)
      | _ => s
  | .rollback c =>
      match s.calls c with
      | .failed g => (restore host s c g).setPhase c .done
      | _ => s

def run (s : State R I) (labels : List (Label R I)) : State R I := labels.foldl (step host) s

end Steps

end FwRouter.Reconcile
