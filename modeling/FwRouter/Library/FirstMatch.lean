import Mathlib.Data.List.Basic

/-!
# First match

A chain of rules: the first rule that decides about a packet gives the verdict.  Chains are often
built of blocks, one for each of several parties.  A block that is silent about a packet can be left
out, and if all blocks before one are silent, that block decides (`eval_flatten_of_decided`).
-/

namespace FwRouter.FirstMatch

variable {ρ π ν : Type} (decides : ρ → π → Option ν)

/-- The verdict of the first rule that has one. -/
def eval (rules : List ρ) (p : π) : Option ν := rules.findSome? fun rule => decides rule p

/-- No rule decides about the packet. -/
def Silent (rules : List ρ) (p : π) : Prop := ∀ rule ∈ rules, decides rule p = none

variable {decides} {rules rest : List ρ} {blocks before after : List (List ρ)} {rule : ρ} {p : π} {v : ν}

lemma eval_cons : eval decides (rule :: rules) p = (decides rule p).orElse fun _ => eval decides rules p := by
  rw [eval, List.findSome?_cons]
  cases decides rule p with
  | none => rfl
  | some v => rfl

lemma Silent.eval_eq (h : Silent decides rules p) : eval decides rules p = none :=
  List.findSome?_eq_none_iff.mpr h

lemma Silent.eval_append (h : Silent decides rules p) :
    eval decides (rules ++ rest) p = eval decides rest p := by
  rw [eval, List.findSome?_append, ← eval, h.eval_eq, Option.none_or, eval]

/-- What is decided stays so, whatever comes later. -/
lemma eval_append_of_decided (h : eval decides rules p = some v) :
    eval decides (rules ++ rest) p = some v := by
  rw [eval, List.findSome?_append, ← eval, h, Option.some_or]

lemma silent_flatten (h : ∀ block ∈ blocks, Silent decides block p) :
    Silent decides blocks.flatten p := by
  intro rule hrule
  obtain ⟨block, hblock, hmem⟩ := List.mem_flatten.mp hrule
  exact h block hblock rule hmem

/-- **One block decides** if the blocks before it are silent. -/
lemma eval_flatten_of_decided (hbefore : ∀ block ∈ before, Silent decides block p)
    (h : eval decides rules p = some v) :
    eval decides (before ++ rules :: after).flatten p = some v := by
  rw [List.flatten_append, List.flatten_cons, (silent_flatten hbefore).eval_append]
  exact eval_append_of_decided h

/-! ## Repeated keys -/

variable {κ : Type} [DecidableEq κ] {key : ρ → κ} {seen : List κ}

/-- The first rule of each key that has not been seen. -/
def firsts (key : ρ → κ) (seen : List κ) : List ρ → List ρ
  | [] => []
  | rule :: rules =>
      if key rule ∈ seen then firsts key seen rules
      else rule :: firsts key (seen ++ [key rule]) rules

lemma firsts_sublist : (firsts key seen rules).Sublist rules := by
  induction rules generalizing seen with
  | nil => exact List.Sublist.refl _
  | cons rule rules ih =>
      rw [firsts]
      split_ifs
      · exact ih.cons rule
      · exact ih.cons_cons rule

lemma not_mem_seen_of_mem_firsts (h : rule ∈ firsts key seen rules) : key rule ∉ seen := by
  induction rules generalizing seen with
  | nil => cases h
  | cons first rules ih =>
      rw [firsts] at h
      split_ifs at h with hseen
      · exact ih h
      · rcases List.mem_cons.mp h with rfl | h
        · exact hseen
        · exact fun hmem => ih h (List.mem_append_left _ hmem)

lemma nodup_firsts : ((firsts key seen rules).map key).Nodup := by
  induction rules generalizing seen with
  | nil => exact List.nodup_nil
  | cons rule rules ih =>
      rw [firsts]
      split_ifs
      · exact ih
      · rw [List.map_cons, List.nodup_cons]
        refine ⟨fun hmem => ?_, ih⟩
        obtain ⟨other, hother, hkey⟩ := List.mem_map.mp hmem
        refine not_mem_seen_of_mem_firsts hother ?_
        rw [hkey]
        exact List.mem_append_right _ List.mem_cons_self

lemma firsts_append {more : List ρ} : firsts key seen (rules ++ more) =
    firsts key seen rules ++ firsts key (seen ++ (firsts key seen rules).map key) more := by
  induction rules generalizing seen with
  | nil => rw [List.nil_append, firsts, List.nil_append, List.map_nil, List.append_nil]
  | cons rule rules ih =>
      rw [List.cons_append, firsts, firsts]
      split_ifs
      · exact ih
      · rw [ih, List.map_cons, List.cons_append, List.append_assoc, List.singleton_append]

/-- **Repetitions do not decide.**  The seen keys belong to rules that were silent. -/
lemma eval_firsts (hkey : ∀ a b, key a = key b → decides a p = none → decides b p = none)
    (hseen : ∀ rule ∈ rules, key rule ∈ seen → decides rule p = none) :
    eval decides (firsts key seen rules) p = eval decides rules p := by
  induction rules generalizing seen with
  | nil => rfl
  | cons rule rules ih =>
      have hrest : ∀ other ∈ rules, key other ∈ seen → decides other p = none := fun other hother =>
        hseen other (List.mem_cons_of_mem _ hother)
      rw [firsts, eval_cons]
      split_ifs with hrule
      · rw [ih hrest, hseen rule List.mem_cons_self hrule]
        rfl
      · rw [eval_cons]
        cases hdecides : decides rule p with
        | some v => rfl
        | none =>
            -- a later rule with this key is silent like this one
            refine ih fun other hother hmem => ?_
            rcases List.mem_append.mp hmem with hmem | hmem
            · exact hrest other hother hmem
            · exact hkey rule other (List.mem_singleton.mp hmem).symm hdecides

end FwRouter.FirstMatch
