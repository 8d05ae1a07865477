import Mathlib

/-!
# Advisory file locks

`flock` on one file.  A lock belongs to an open file description, which processes may share; it is
shared or exclusive, and another request on the same description converts it.  A conversion is not
atomic: the old mode may be given up before the new one is granted, and is then lost when it is not.

`Compatible` is what the kernel keeps: a description with an exclusive lock is the only one with a lock.
-/

namespace Flock

variable {D : Type} [DecidableEq D]

inductive Mode
  | shared
  | exclusive
  deriving DecidableEq

/-- The locks by open file description. -/
abbrev Table (D : Type) := D → Option Mode

/-- The locks of the other descriptions allow the mode. -/
def Allows (t : Table D) (d : D) : Mode → Prop
  | .shared => ∀ e, e ≠ d → t e ≠ some .exclusive
  | .exclusive => ∀ e, e ≠ d → t e = none

/-- An exclusive lock is the only lock. -/
def Compatible (t : Table D) : Prop := ∀ d e, d ≠ e → t d = some .exclusive → t e = none

/-- Closing the last descriptor, or `LOCK_UN`. -/
def release (t : Table D) (d : D) : Table D := Function.update t d none

/-- `flock(fd, mode | LOCK_NB)`: whether it succeeds, and the locks it leaves. -/
inductive Request (t : Table D) (d : D) (m : Mode) : Bool → Table D → Prop
  /-- The description has the mode already. -/
  | held (h : t d = some m) : Request t d m true t
  | granted (h : Allows t d m) : Request t d m true (Function.update t d (some m))
  | refused (h : ¬Allows t d m) : Request t d m false t
  /-- The old mode was given up for a conversion that is refused. -/
  | dropped (h : ¬Allows t d m) : Request t d m false (release t d)

variable {t t' : Table D} {d e : D} {m : Mode} {b : Bool}

lemma release_self (t : Table D) (d : D) : release t d d = none := Function.update_self ..

lemma release_of_ne (t : Table D) (h : e ≠ d) : release t d e = t e := Function.update_of_ne h ..

lemma Compatible.release (ht : Compatible t) (d : D) : Compatible (release t d) := by
  intro e f hef he
  have hed : e ≠ d := by
    rintro rfl
    rw [release_self] at he
    cases he
  rw [release_of_ne t hed] at he
  by_cases hfd : f = d
  · rw [hfd, release_self]
  · rw [release_of_ne t hfd]
    exact ht e f hef he

lemma Request.other (hr : Request t d m b t') (h : e ≠ d) : t' e = t e := by
  cases hr with
  | held _ => rfl
  | granted _ => exact Function.update_of_ne h ..
  | refused _ => rfl
  | dropped _ => exact release_of_ne t h

/-- A request that succeeds leaves the mode it asked for. -/
lemma Request.mode (hr : Request t d m true t') : t' d = some m := by
  cases hr with
  | held h => exact h
  | granted _ => exact Function.update_self ..

lemma Request.compatible (hr : Request t d m b t') (ht : Compatible t) : Compatible t' := by
  cases hr with
  | held _ => exact ht
  | refused _ => exact ht
  | dropped _ => exact ht.release d
  | granted hallows =>
      intro e f hef he
      by_cases hed : e = d
      · subst hed
        rw [Function.update_self] at he
        obtain rfl := Option.some.inj he
        rw [Function.update_of_ne hef.symm]
        exact hallows f hef.symm
      · rw [Function.update_of_ne hed] at he
        by_cases hfd : f = d
        · subst hfd
          -- the request was granted beside an exclusive lock of another description
          cases m with
          | shared => exact absurd he (hallows e hed)
          | exclusive => exact absurd ((hallows e hed).symm.trans he) (by simp)
        · rw [Function.update_of_ne hfd]
          exact ht e f hef he

omit [DecidableEq D] in
/-- A description that has the mode is granted it again. -/
lemma Compatible.allows (ht : Compatible t) (hd : t d = some m) : Allows t d m := by
  cases m with
  | shared =>
      intro e hed he
      rw [ht e d hed he] at hd
      cases hd
  | exclusive => exact fun e hed => ht d e hed.symm hd

/-- Asking again for the mode one has changes nothing and succeeds. -/
lemma Request.again (hr : Request t d m b t') (ht : Compatible t) (hd : t d = some m) :
    b = true ∧ t' = t := by
  cases hr with
  | held _ => exact ⟨rfl, rfl⟩
  | granted _ => exact ⟨rfl, by rw [← hd, Function.update_eq_self]⟩
  | refused hnot => exact absurd (ht.allows hd) hnot
  | dropped hnot => exact absurd (ht.allows hd) hnot

end Flock
