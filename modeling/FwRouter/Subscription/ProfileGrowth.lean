import FwRouter.Python.JsonDocument
import FwRouter.Subscription.NodeIdentity

/-!
# Which profiles may take over an identity

A server keeps its identity without an operator only if its profile grew: the root is the same, and
the outbounds are kept in their order with new ones between them.  `compatible_profile_growth` reads
this off the digests with one iterator over the new ones.  It is proper ordered extension, so that a
chain of such moves never comes back (`compatible_growth_iff`).
-/

namespace FwRouter.Subscription

open Py

/-! ## Witnesses -/

/-- `profile_provenance`; `none` for a profile without outbounds, which raises.  The digest is
`canonical_digest`. -/
def profileProvenance (digest : Value → Text) (profile : Dict) : Option Provenance :=
  match profile.get "outbounds" with
  | .list (first :: more) =>
      let root := digest (.dict (profile.filter fun field => field.1 ≠ "outbounds".toList))
      let outbounds := (first :: more).map digest
      let content := digest (.dict profile)
      some
        { version := 1
          root
          outbounds := some outbounds
          content
          json := Json.dumps Json.compact (.dict [("content".toList, .str content),
            ("outbounds".toList, .list (outbounds.map Value.str)), ("root".toList, .str root),
            ("version".toList, .int 1)]) }
  | _ => none

/-! ## Growth -/

/-- What is accepted, with the searches replaced by the subsequence. -/
lemma compatibleProfileGrowth_iff {before after : Provenance} :
    compatibleProfileGrowth before after = true ↔
      before.version = 1 ∧ after.version = 1 ∧ before.root = after.root ∧
        ∃ old new, before.outbounds = some old ∧ after.outbounds = some new ∧ old ≠ [] ∧
          old.Sublist new ∧ old.length < new.length := by
  rw [compatibleProfileGrowth]
  by_cases hversion : before.version ≠ 1 ∨ after.version ≠ 1
  · rw [if_pos hversion]
    constructor
    · intro h
      cases h
    · rintro ⟨hbefore, hafter, -⟩
      rcases hversion with h | h
      · exact absurd hbefore h
      · exact absurd hafter h
  · rw [if_neg hversion]
    rw [not_or, not_not, not_not] at hversion
    cases hold : before.outbounds with
    | none => simp
    | some old =>
        cases hnew : after.outbounds with
        | none => simp
        | some new =>
            simp only [Bool.and_eq_true, decide_eq_true_eq, Bool.not_eq_true',
              List.isEmpty_eq_false_iff, SharedIterator.foundInTurn_iff]
            constructor
            · rintro ⟨⟨⟨hroot, hne⟩, hlt⟩, hsub⟩
              exact ⟨hversion.1, hversion.2, hroot, old, new, rfl, rfl, hne, hsub, hlt⟩
            · rintro ⟨-, -, hroot, old', new', hold', hnew', hne, hsub, hlt⟩
              obtain rfl := Option.some.inj hold'
              obtain rfl := Option.some.inj hnew'
              exact ⟨⟨⟨hroot, hne⟩, hlt⟩, hsub⟩

lemma compatibleProfileGrowth_trans {a b c : Provenance}
    (hab : compatibleProfileGrowth a b = true) (hbc : compatibleProfileGrowth b c = true) :
    compatibleProfileGrowth a c = true := by
  obtain ⟨hversion, -, hroot, old, mid, hold, hmid, hne, hsub, hlt⟩ :=
    compatibleProfileGrowth_iff.mp hab
  obtain ⟨-, hversion', hroot', mid', new, hmid', hnew, -, hsub', hlt'⟩ :=
    compatibleProfileGrowth_iff.mp hbc
  obtain rfl : mid = mid' := Option.some.inj (hmid.symm.trans hmid')
  exact compatibleProfileGrowth_iff.mpr ⟨hversion, hversion', hroot.trans hroot', old, new, hold,
    hnew, hne, hsub.trans hsub', hlt.trans hlt'⟩

lemma not_compatibleProfileGrowth_self (a : Provenance) : compatibleProfileGrowth a a = false := by
  rw [← Bool.not_eq_true, compatibleProfileGrowth_iff]
  rintro ⟨-, -, -, old, new, hold, hnew, -, -, hlt⟩
  obtain rfl : old = new := Option.some.inj (hold.symm.trans hnew)
  exact lt_irrefl _ hlt

lemma growth_of_chain {a b : Provenance}
    (h : Relation.TransGen (fun a b => compatibleProfileGrowth a b = true) a b) :
    compatibleProfileGrowth a b = true := by
  induction h with
  | single hab => exact hab
  | tail _ hbc ih => exact compatibleProfileGrowth_trans ih hbc

/-- **Compatible growth is proper ordered extension**, an order in which no chain comes back: what
it accepts are two witnesses of version 1 with one root, the outbounds of the first a shorter
subsequence of those of the second, and not empty. -/
theorem compatible_growth_iff :
    (∀ before after : Provenance, compatibleProfileGrowth before after = true ↔
      before.version = 1 ∧ after.version = 1 ∧ before.root = after.root ∧
        ∃ old new, before.outbounds = some old ∧ after.outbounds = some new ∧ old ≠ [] ∧
          old.Sublist new ∧ old.length < new.length) ∧
    (∀ a : Provenance, ¬ compatibleProfileGrowth a a = true) ∧
    (∀ a b c : Provenance, compatibleProfileGrowth a b = true →
      compatibleProfileGrowth b c = true → compatibleProfileGrowth a c = true) ∧
    ∀ a : Provenance,
      ¬ Relation.TransGen (fun a b => compatibleProfileGrowth a b = true) a a := by
  refine ⟨fun _ _ => compatibleProfileGrowth_iff, ?_, fun _ _ _ => compatibleProfileGrowth_trans, ?_⟩
  · intro a
    rw [not_compatibleProfileGrowth_self]
    exact Bool.false_ne_true
  · intro a hchain
    have hself := growth_of_chain hchain
    rw [not_compatibleProfileGrowth_self] at hself
    cases hself

/-! ## Profiles -/

/-- The witness of a profile has version 1 and outbounds. -/
lemma profileProvenance_spec {digest : Value → Text} {profile : Dict} {w : Provenance}
    (h : profileProvenance digest profile = some w) : w.version = 1 ∧
      ∃ values, profile.get "outbounds" = .list values ∧ values ≠ [] ∧
        w.outbounds = some (values.map digest) ∧
        w.root = digest (.dict (profile.filter fun field => field.1 ≠ "outbounds".toList)) := by
  rw [profileProvenance] at h
  split at h
  · rename_i first more hlist
    obtain rfl := Option.some.inj h
    exact ⟨rfl, first :: more, hlist, List.cons_ne_nil _ _, rfl, rfl⟩
  · cases h

/-- **A profile that keeps all it had and gains outbounds has grown**, whatever the digest is. -/
lemma growth_of_profiles {digest : Value → Text} {before after : Dict} {b a : Provenance}
    {old new : List Value} (hb : profileProvenance digest before = some b)
    (ha : profileProvenance digest after = some a)
    (hold : before.get "outbounds" = .list old) (hnew : after.get "outbounds" = .list new)
    (hroot : before.filter (fun field => field.1 ≠ "outbounds".toList) =
      after.filter fun field => field.1 ≠ "outbounds".toList)
    (hsub : old.Sublist new) (hlt : old.length < new.length) :
    compatibleProfileGrowth b a = true := by
  obtain ⟨hbversion, old', hold', hne, hboutbounds, hbroot⟩ := profileProvenance_spec hb
  obtain ⟨haversion, new', hnew', -, haoutbounds, haroot⟩ := profileProvenance_spec ha
  obtain rfl : old = old' := by
    injection hold.symm.trans hold'
  obtain rfl : new = new' := by
    injection hnew.symm.trans hnew'
  refine compatibleProfileGrowth_iff.mpr ⟨hbversion, haversion, ?_, old.map digest, new.map digest,
    hboutbounds, haoutbounds, ?_, hsub.map digest, ?_⟩
  · rw [hbroot, haroot, hroot]
  · rwa [ne_eq, List.map_eq_nil_iff]
  · rwa [List.length_map, List.length_map]

end FwRouter.Subscription
