import FwRouter.Library.Run

/-!
# Events that happen at most once

A machine makes progress, in a linear order, and keeps a log of events.  An event has a mark in that
order: it happens at its mark or before it, and takes the machine beyond it.  As progress is never
taken back, no event happens twice.
-/

namespace Progress

variable {σ ι α κ : Type} [LinearOrder α]

/-- The events of the log are over: they are distinct, and the progress `p` is beyond them. -/
structure Once (mark : κ → α) (log : List κ) (p : α) : Prop where
  nodup : log.Nodup
  beyond : ∀ k ∈ log, mark k < p

/-- What a step does to the log: nothing, or one event whose mark it passes. -/
def Advances (mark : κ → α) (log log' : List κ) (p p' : α) : Prop :=
  log' = log ∧ p ≤ p' ∨ ∃ k, log' = k :: log ∧ p ≤ mark k ∧ mark k < p'

variable {mark : κ → α} {log log' : List κ} {p p' : α}

lemma Once.empty : Once mark [] p := ⟨List.nodup_nil, by simp⟩

lemma Once.advance (h : Once mark log p) (hstep : Advances mark log log' p p') :
    Once mark log' p' := by
  rcases hstep with ⟨rfl, hle⟩ | ⟨k, rfl, hk, hk'⟩
  · exact ⟨h.nodup, fun k hk => (h.beyond k hk).trans_le hle⟩
  · have hnew : k ∉ log := fun hmem => absurd (h.beyond k hmem) (not_lt.mpr hk)
    refine ⟨List.nodup_cons.mpr ⟨hnew, h.nodup⟩, ?_⟩
    intro j hj
    rcases List.mem_cons.mp hj with rfl | hj
    · exact hk'
    · exact (h.beyond j hj).trans (hk.trans_lt hk')

/-- **At most once.**  If every step passes the marks of the events it logs, no event is logged
twice. -/
theorem nodup_of_run {step : σ → ι → σ} {ok : σ → ι → Prop} {progress : σ → α} {log : σ → List κ}
    (hstep : ∀ s a, ok s a →
      Advances mark (log s) (log (step s a)) (progress s) (progress (step s a)))
    {s : σ} (hs : log s = []) {labels : List ι} (hrun : Run.Along step ok s labels) :
    (log (labels.foldl step s)).Nodup := by
  have hstart : Once mark (log s) (progress s) := by
    rw [hs]
    exact .empty
  exact (Run.Along.keeps (I := fun t => Once mark (log t) (progress t))
    (fun t a ht ha => ht.advance (hstep t a ha)) hstart hrun).nodup

end Progress
