import FwRouter.Jobs.Effects

/-!
# Which statements a call performs

Only `create_job` inserts a job and only `run_job` invokes a handler.  The statements of all other
calls satisfy every property that holds of the statements other than these two.
-/

namespace FwRouter.Jobs

open Py Interleave

/-- Neither an `INSERT` of a job nor the invocation of a handler. -/
def Stmt.Plain : Stmt → Prop
  | .insertJob _ => False
  | .invokeHandler _ => False
  | _ => True

variable {T : Stmt → Prop}

lemma only_discard {ρ : Type} {p : JobProg ρ} (h : p.Only T) : (discard p).Only T := by
  refine Prog.Only.bind (fun _ => ?_) h
  exact trivial

section Plain

variable (hT : ∀ a : Stmt, a.Plain → T a)

include hT

lemma only_cleanupStaleRunningJobs (sweep : Sweep) : (cleanupStaleRunningJobs sweep).Only T := by
  rw [cleanupStaleRunningJobs]
  cases sweep.cutoff with
  | none => exact trivial
  | some cutoff =>
      refine Prog.Only.bind (fun stale => ?_) (.perform (hT _ trivial))
      split_ifs
      · exact trivial
      · exact .perform (hT _ trivial)

lemma only_findActiveLockConflict (sweep : Sweep) (lockKey : Text) (exclude : Option Text) :
    (findActiveLockConflict sweep lockKey exclude).Only T := by
  rw [findActiveLockConflict]
  split_ifs
  · exact trivial
  · refine Prog.Only.bind (fun _ => ?_) (only_cleanupStaleRunningJobs hT sweep)
    exact .perform (hT _ trivial)

lemma only_getJob (sweep : Sweep) (jobId : Text) : (getJob sweep jobId).Only T := by
  refine Prog.Only.bind (fun _ => ?_) (only_cleanupStaleRunningJobs hT sweep)
  exact .perform (hT _ trivial)

lemma only_markJobRunning (jobId now : Text) : (markJobRunning jobId now).Only T := by
  refine Prog.Only.bind (fun row => ?_) (.perform (hT _ trivial))
  cases row with
  | none => exact trivial
  | some row =>
      dsimp only
      split_ifs
      · exact trivial
      · exact .perform (hT _ trivial)

lemma only_pollJob (sweep : Nat → Sweep) (jobId : Text) :
    ∀ polls, (pollJob sweep jobId polls).Only T := by
  intro polls
  induction polls with
  | zero => exact only_getJob hT _ _
  | succ polls ih =>
      refine Prog.Only.bind (fun job => ?_) (only_getJob hT _ _)
      cases job with
      | none => exact trivial
      | some job =>
          dsimp only
          split_ifs
          · exact trivial
          · exact ih

lemma only_startJob (a : StartArgs) : (startJob a).Only T := by
  refine Prog.Only.bind (fun job => ?_) (only_getJob hT _ _)
  cases job with
  | none => exact trivial
  | some job =>
      dsimp only
      split_ifs
      · exact trivial
      · refine Prog.Only.bind (fun started => ?_) (.perform (hT _ trivial))
        split_ifs
        · exact only_pollJob hT _ _ _
        · exact only_getJob hT _ _

lemma only_settleHandler (a : RunArgs) (outcome : HandlerOutcome) :
    (settleHandler a outcome).Only T := by
  cases outcome with
  | raised message => exact .perform (hT _ trivial)
  | returned result =>
      rw [settleHandler]
      split_ifs
      · exact .perform (hT _ trivial)
      · exact .perform (hT _ trivial)
      · exact .perform (hT _ trivial)

lemma only_explainRefusal (a : CreateArgs) (e : JobError) : (explainRefusal a e).Only T := by
  unfold explainRefusal
  split
  · refine Prog.Only.bind (fun active => ?_) (only_findActiveLockConflict hT _ _ _)
    cases active with
    | none => exact trivial
    | some active => exact trivial
  · exact trivial

end Plain

lemma only_runJob (hT : ∀ a : Stmt, a.Plain → T a) (a : RunArgs) (hinvoke : T (.invokeHandler a.jobId)) :
    (runJob a).Only T := by
  refine Prog.Only.bind (fun _ => ?_) (only_cleanupStaleRunningJobs hT _)
  refine Prog.Only.bind (fun job => ?_) (only_markJobRunning hT _ _)
  cases job with
  | none => exact trivial
  | some job =>
      dsimp only
      split_ifs
      · exact trivial
      · exact Prog.Only.bind (fun outcome => only_settleHandler hT a outcome) (.perform hinvoke)
      · exact .perform (hT _ trivial)

lemma only_runJobWorker (hT : ∀ a : Stmt, a.Plain → T a) (w : Worker)
    (hinvoke : T (.invokeHandler w.run.jobId)) : (runJobWorker w).Only T := by
  refine Prog.Only.bind (fun _ => ?_) (Prog.Only.tryExcept (fun e => ?_)
    (only_runJob hT _ hinvoke))
  · exact .perform (hT _ trivial)
  · refine Prog.Only.bind (fun _ => ?_) (.perform (hT _ trivial))
    exact trivial

lemma only_createJob (hT : ∀ a : Stmt, a.Plain → T a) (a : CreateArgs) (hinsert : T (.insertJob a)) :
    (createJob a).Only T := by
  refine Prog.Only.bind (fun _ => ?_) (only_cleanupStaleRunningJobs hT _)
  refine Prog.Only.bind (fun _ => Prog.Only.tryExcept (only_explainRefusal hT a)
    (.perform hinsert)) ?_
  rw [refuseConflict]
  cases a.checkedKey with
  | none => exact trivial
  | some key =>
      refine Prog.Only.bind (fun active => ?_) (only_findActiveLockConflict hT _ _ _)
      cases active with
      | none => exact trivial
      | some active =>
          refine Prog.Only.bind (fun _ => ?_) (.perform (hT _ trivial))
          exact trivial

/-- What a call performs besides the plain statements. -/
lemma only_prog (hT : ∀ a : Stmt, a.Plain → T a) (c : Call)
    (hinsert : ∀ a, c = .createJob a → T (.insertJob a))
    (hrun : ∀ a, c = .runJob a → T (.invokeHandler a.jobId))
    (hwork : ∀ w, c = .runJobWorker w → T (.invokeHandler w.run.jobId)) : c.prog.Only T := by
  cases c with
  | createJob a => exact only_discard (only_createJob hT a (hinsert a rfl))
  | cleanupStaleRunningJobs sweep => exact only_discard (only_cleanupStaleRunningJobs hT sweep)
  | getJob sweep jobId => exact only_discard (only_getJob hT sweep jobId)
  | markJobRunning jobId now => exact only_discard (only_markJobRunning hT jobId now)
  | touchJobRunning jobId now => exact only_discard (.perform (hT _ trivial))
  | updateJobRunningResult jobId result now => exact only_discard (.perform (hT _ trivial))
  | markJobSuccess jobId result now => exact only_discard (.perform (hT _ trivial))
  | markJobFailed jobId code message result now => exact only_discard (.perform (hT _ trivial))
  | markJobCancelled jobId result now => exact only_discard (.perform (hT _ trivial))
  | runJob a => exact only_discard (only_runJob hT a (hrun a rfl))
  | startJob a => exact only_discard (only_startJob hT a)
  | runJobWorker w => exact only_runJobWorker hT w (hwork w rfl)

end FwRouter.Jobs
