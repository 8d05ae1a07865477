import Mathlib

/-!
# Prefix codes

A text that is written value after value can be read back if each value is written in a prefix
code: whatever follows a code word, there is one way to read it.  Constants, pairs and bracketed
lists of a prefix code are prefix codes again, so that a whole document is one.
-/

namespace PrefixCode

variable {α β σ : Type}

/-- Whatever follows, a code word is read in one way. -/
def IsPrefixCode (enc : α → List σ) : Prop :=
  ∀ ⦃a b : α⦄ ⦃x y : List σ⦄, enc a ++ x = enc b ++ y → a = b ∧ x = y

lemma IsPrefixCode.injective {enc : α → List σ} (h : IsPrefixCode enc) : Function.Injective enc := by
  intro a b hab
  have hnil : enc a ++ [] = enc b ++ [] := congrArg (· ++ []) hab
  exact (h hnil).1

lemma IsPrefixCode.of_decode {enc : α → List σ} (dec : List σ → Option (α × List σ))
    (h : ∀ a x, dec (enc a ++ x) = some (a, x)) : IsPrefixCode enc := by
  intro a b x y heq
  have hboth : some (a, x) = some (b, y) := by rw [← h, ← h, heq]
  exact Prod.mk.inj (Option.some.inj hboth)

lemma IsPrefixCode.const_append {enc : α → List σ} (h : IsPrefixCode enc) (w : List σ) :
    IsPrefixCode fun a => w ++ enc a := by
  intro a b x y heq
  simp only [List.append_assoc, List.append_cancel_left_eq] at heq
  exact h heq

lemma IsPrefixCode.append_const {enc : α → List σ} (h : IsPrefixCode enc) (w : List σ) :
    IsPrefixCode fun a => enc a ++ w := by
  intro a b x y heq
  rw [List.append_assoc, List.append_assoc] at heq
  obtain ⟨hab, hrest⟩ := h heq
  exact ⟨hab, List.append_cancel_left hrest⟩

lemma IsPrefixCode.prod {enc : α → List σ} {enc' : β → List σ} (h : IsPrefixCode enc)
    (h' : IsPrefixCode enc') : IsPrefixCode fun p : α × β => enc p.1 ++ enc' p.2 := by
  rintro ⟨a, b⟩ ⟨a', b'⟩ x y heq
  rw [List.append_assoc, List.append_assoc] at heq
  obtain ⟨rfl, hrest⟩ := h heq
  obtain ⟨rfl, hxy⟩ := h' hrest
  exact ⟨rfl, hxy⟩

/-! ## Lists -/

/-- The values one after the other, and a last symbol that starts no code word. -/
def terminated (enc : α → List σ) (stop : σ) (as : List α) : List σ := as.flatMap enc ++ [stop]

lemma IsPrefixCode.terminated {enc : α → List σ} (h : IsPrefixCode enc) {stop : σ}
    (hstop : ∀ a x y, enc a ++ x ≠ stop :: y) : IsPrefixCode (terminated enc stop) := by
  intro as
  induction as with
  | nil =>
      rintro (_ | ⟨b, bs⟩) x y heq
      · exact ⟨rfl, List.append_cancel_left heq⟩
      · simp only [PrefixCode.terminated, List.flatMap_nil, List.nil_append, List.flatMap_cons,
          List.append_assoc] at heq
        exact absurd heq.symm (hstop b _ x)
  | cons a as ih =>
      rintro (_ | ⟨b, bs⟩) x y heq
      · simp only [PrefixCode.terminated, List.flatMap_nil, List.nil_append, List.flatMap_cons,
          List.append_assoc] at heq
        exact absurd heq (hstop a _ y)
      · simp only [PrefixCode.terminated, List.flatMap_cons, List.append_assoc] at heq
        obtain ⟨rfl, hrest⟩ := h heq
        rw [← List.append_assoc, ← List.append_assoc] at hrest
        obtain ⟨rfl, hxy⟩ := ih hrest
        exact ⟨rfl, hxy⟩

/-- The values in brackets, with a separator between them. -/
def bracketed (enc : α → List σ) (opening sep closing : σ) : List α → List σ
  | [] => [opening, closing]
  | a :: as => opening :: enc a ++ terminated (fun b => sep :: enc b) closing as

lemma IsPrefixCode.bracketed {enc : α → List σ} (h : IsPrefixCode enc) {opening sep closing : σ}
    (hsep : sep ≠ closing) (hclosing : ∀ a x y, enc a ++ x ≠ closing :: y) :
    IsPrefixCode (bracketed enc opening sep closing) := by
  have hrest : IsPrefixCode (PrefixCode.terminated (fun b => sep :: enc b) closing) := by
    refine IsPrefixCode.terminated (h.const_append [sep]) ?_
    intro a x y heq
    exact hsep (List.cons.inj heq).1
  rintro (_ | ⟨a, as⟩) (_ | ⟨b, bs⟩) x y heq
  · exact ⟨rfl, by simpa [PrefixCode.bracketed] using heq⟩
  · simp only [PrefixCode.bracketed, List.cons_append, List.nil_append, List.append_assoc,
      List.cons.injEq, true_and] at heq
    exact absurd heq.symm (hclosing b _ x)
  · simp only [PrefixCode.bracketed, List.cons_append, List.nil_append, List.append_assoc,
      List.cons.injEq, true_and] at heq
    exact absurd heq (hclosing a _ y)
  · simp only [PrefixCode.bracketed, List.cons_append, List.append_assoc, List.cons.injEq,
      true_and] at heq
    obtain ⟨rfl, htail⟩ := h heq
    obtain ⟨rfl, hxy⟩ := hrest htail
    exact ⟨rfl, hxy⟩

end PrefixCode
