import FwRouter.Mihomo.Reconcile

/-!
# What a rollback leaves

A generation that no other call has disturbed is still the current one: its incarnation runs, its
candidate is active, and the backup file holds the bytes that its checkpoint has copied.  `Inv` says so
of every call, and that a disturbed generation has been passed by another restart, so that its rollback
stops at the first check.

The backup file is shared, and a call writes it before it finds itself stale: such a call leaves the
candidate of another in the place of that other's preimage (`preimage_overwritten`).  Runs without such
calls roll back exactly (`restored_run`).
-/

namespace FwRouter.Reconcile

open Py

section Rollback

variable {R I : Type} {host : Host R I}

/-! ## The condition and the promise -/

/-- The call has restarted Mihomo, awaits its verdict, and is not disturbed. -/
def Awaits (p : Phase R) : Prop := ∃ g ∈ p.generation, g.disturbed = false

variable (host) in
/-- A call that is found stale finds no other that awaits its verdict; a file that is replaced is text
without carriage returns; and the callback names the revision that its own call has left. -/
def Keeps (s : State R I) : Label R I → Prop
  | .apply c admitted promotes =>
      ∀ p candidateHash, s.calls c = .prepared p candidateHash → admitted = true →
        ∀ current ∈ host.fingerprint p.routing s.inputs,
          if Unchanged host s p candidateHash current then
            promote promotes s.candidate ≠ none → ∀ data ∈ s.active, NoCarriageReturn data
          else ∀ d, ¬ Awaits (s.calls d)
  | .verify c answer advances =>
      ∀ g, s.calls c = .restarted g → answer.revision.getD g.revision =
        if advances ∧ s.revision = g.revision then g.revision + 1 else g.revision
  | _ => True

variable (host) in
/-- The promise for every promoted generation that ends up not verified. -/
def Restores (s : State R I) : Prop :=
  ∀ c g, s.calls c = .failed g →
    (∀ checkpoint ∈ g.checkpoint, checkpoint.rollbackAllowed = true → g.disturbed = false →
      (step host s (.rollback c)).active = some checkpoint.preimage) ∧
    (g.disturbed = true → (step host s (.rollback c)).active = s.active)

/-! ## The invariant -/

variable (host) in
/-- What the state says of a generation. -/
structure Tracked (s : State R I) (g : Generation R) : Prop where
  revision_le : g.revision ≤ s.revision
  incarnation_le : g.incarnation ≤ s.incarnation
  passed : g.disturbed = true → g.revision < s.revision ∧ g.incarnation < s.incarnation
  copied : ∀ checkpoint ∈ g.checkpoint, host.sha256 checkpoint.preimage = checkpoint.beforeHash ∧
    (readText checkpoint.preimage).map writeText = some checkpoint.preimage
  current : g.disturbed = false → s.incarnation = g.incarnation ∧ s.revision = g.adopted ∧
    s.active.map host.sha256 = some g.candidateHash ∧
    ∀ checkpoint ∈ g.checkpoint, s.backup = some checkpoint.preimage

variable (host) in
structure Inv (s : State R I) : Prop where
  tracked : ∀ c, ∀ g ∈ (s.calls c).generation, Tracked host s g
  /-- At most one generation is undisturbed. -/
  unique : ∀ c d, c ≠ d → ∀ g ∈ (s.calls c).generation, ∀ g' ∈ (s.calls d).generation,
    g.disturbed = false → g'.disturbed = true
  /-- Before the callback, the generation's own revision is the expected one. -/
  adopted : ∀ c g, s.calls c = .restarted g → g.adopted = g.revision

variable {s : State R I} {c : ℕ}

lemma generation_disturb (p : Phase R) :
    p.disturb.generation = p.generation.map fun g => { g with disturbed := true } := by
  cases p <;> rfl

lemma disturbOthers_of_ne (s : State R I) {c d : ℕ} (h : d ≠ c) :
    (s.disturbOthers c).calls d = (s.calls d).disturb :=
  if_neg h

/-- A step that leaves the shared state alone but for what `Tracked` does not speak of. -/
lemma Inv.moved {s' : State R I} {p : Phase R} (h : Inv host s) (hrevision : s'.revision = s.revision)
    (hincarnation : s'.incarnation = s.incarnation) (hactive : s'.active = s.active)
    (hbackup : s'.backup = s.backup ∨ ∀ d, ¬ Awaits (s.calls d))
    (hcalls : s'.calls = Function.update s.calls c p)
    (hp : ∀ g ∈ p.generation, ∃ g' ∈ (s.calls c).generation,
      g = { g' with adopted := g.adopted, named := g.named } ∧
        (g.disturbed = false → g.adopted = g'.adopted))
    (hadopted : ∀ g, p = .restarted g → g.adopted = g.revision) : Inv host s' := by
  have hself : s'.calls c = p := by rw [hcalls, Function.update_self]
  have hother : ∀ d, d ≠ c → s'.calls d = s.calls d := fun d hd => by
    rw [hcalls, Function.update_of_ne hd]
  have hold : ∀ d, ∀ g ∈ (s'.calls d).generation, ∃ g' ∈ (s.calls d).generation,
      g = { g' with adopted := g.adopted, named := g.named } ∧
        (g.disturbed = false → g.adopted = g'.adopted) := by
    intro d g hg
    by_cases hd : d = c
    · subst hd
      rw [hself] at hg
      exact hp g hg
    · rw [hother d hd] at hg
      exact ⟨g, hg, rfl, fun _ => rfl⟩
  refine ⟨?_, ?_, ?_⟩
  · intro d g hg
    rcases hold d g hg with ⟨g', hg', heq, hsame⟩
    have htracked := h.tracked d g' hg'
    have hdisturbed : g.disturbed = g'.disturbed := by rw [heq]
    have hcheckpoint : g.checkpoint = g'.checkpoint := by rw [heq]
    refine ⟨?_, ?_, ?_, ?_, ?_⟩
    · rw [hrevision, heq]
      exact htracked.revision_le
    · rw [hincarnation, heq]
      exact htracked.incarnation_le
    · intro hd
      rw [hrevision, hincarnation, heq]
      exact htracked.passed (hdisturbed ▸ hd)
    · rw [hcheckpoint]
      exact htracked.copied
    · intro hd
      rcases htracked.current (hdisturbed ▸ hd) with ⟨hinc, hrev, hact, hback⟩
      refine ⟨?_, ?_, ?_, ?_⟩
      · rw [hincarnation, hinc, heq]
      · rw [hrevision, hrev, hsame hd]
      · rw [hactive, hact, heq]
      · rw [hcheckpoint]
        rcases hbackup with hbackup | hnone
        · rw [hbackup]
          exact hback
        · exact absurd ⟨g', hg', hdisturbed ▸ hd⟩ (hnone d)
  · intro d e hde g hg g' hg' hd
    rcases hold d g hg with ⟨o, ho, heq, -⟩
    rcases hold e g' hg' with ⟨o', ho', heq', -⟩
    have hdisturbed : g.disturbed = o.disturbed := by rw [heq]
    have hdisturbed' : g'.disturbed = o'.disturbed := by rw [heq']
    rw [hdisturbed']
    exact h.unique d e hde o ho o' ho' (hdisturbed ▸ hd)
  · intro d g hg
    by_cases hd : d = c
    · subst hd
      rw [hself] at hg
      exact hadopted g hg
    · rw [hother d hd] at hg
      exact h.adopted d g hg

/-- A call ends, or goes on without a generation. -/
lemma Inv.without {s' : State R I} {p : Phase R} (h : Inv host s) (hp : p.generation = none)
    (hrevision : s'.revision = s.revision) (hincarnation : s'.incarnation = s.incarnation)
    (hactive : s'.active = s.active) (hbackup : s'.backup = s.backup ∨ ∀ d, ¬ Awaits (s.calls d))
    (hcalls : s'.calls = Function.update s.calls c p) : Inv host s' := by
  refine h.moved hrevision hincarnation hactive hbackup hcalls ?_ ?_
  · intro g hg
    rw [hp] at hg
    cases hg
  · rintro g rfl
    cases hp

/-- A call acts on the revision, the active file or the runtime. -/
lemma Inv.acted {s' : State R I} {p : Phase R} (h : Inv host s)
    (hrevision : s.revision < s'.revision)
    (hcalls : s'.calls = Function.update (s.disturbOthers c).calls c p)
    (hothers : ∀ d, d ≠ c → ∀ g ∈ (s.calls d).generation, g.incarnation < s'.incarnation)
    (hp : ∀ g ∈ p.generation, Tracked host s' g)
    (hadopted : ∀ g, p = .restarted g → g.adopted = g.revision) : Inv host s' := by
  have hself : s'.calls c = p := by rw [hcalls, Function.update_self]
  have hother : ∀ d, d ≠ c → s'.calls d = (s.calls d).disturb := fun d hd => by
    rw [hcalls, Function.update_of_ne hd, disturbOthers_of_ne s hd]
  have hold : ∀ d, d ≠ c → ∀ g ∈ (s'.calls d).generation,
      ∃ g' ∈ (s.calls d).generation, { g' with disturbed := true } = g := by
    intro d hd g hg
    rw [hother d hd, generation_disturb] at hg
    exact Option.map_eq_some_iff.mp hg
  refine ⟨?_, ?_, ?_⟩
  · intro d g hg
    by_cases hd : d = c
    · subst hd
      rw [hself] at hg
      exact hp g hg
    · rcases hold d hd g hg with ⟨g', hg', rfl⟩
      have htracked := h.tracked d g' hg'
      have hpassed : g'.revision < s'.revision := lt_of_le_of_lt htracked.revision_le hrevision
      have hlater := hothers d hd g' hg'
      exact ⟨hpassed.le, hlater.le, fun _ => ⟨hpassed, hlater⟩, htracked.copied,
        fun hfalse => Bool.noConfusion hfalse⟩
  · intro d e hde g hg g' hg' hd
    by_cases hdc : d = c
    · have he : e ≠ c := fun heq => hde (hdc.trans heq.symm)
      rcases hold e he g' hg' with ⟨o, -, rfl⟩
      rfl
    · rcases hold d hdc g hg with ⟨o, -, rfl⟩
      cases hd
  · intro d g hg
    by_cases hd : d = c
    · subst hd
      rw [hself] at hg
      exact hadopted g hg
    · rw [hother d hd] at hg
      rcases hphase : s.calls d with _ | _ | _ | _ | _ | _ | _ | o | _ | _ | _ <;>
        rw [hphase] at hg <;> cases hg
      exact h.adopted d o hphase

/-! ## Steps -/

lemma capture_spec {routing : R} {active : Option ByteArray} {checkpoint : Checkpoint}
    (h : capture host routing active = some checkpoint) :
    active = some checkpoint.preimage ∧ host.sha256 checkpoint.preimage = checkpoint.beforeHash ∧
      ∃ t, decodeBytes checkpoint.preimage = some t := by
  rcases Option.bind_eq_some_iff.mp h with ⟨original, hactive, h⟩
  rcases Option.bind_eq_some_iff.mp h with ⟨text, htext, h⟩
  obtain rfl := Option.some.inj h
  exact ⟨hactive, rfl, text, htext⟩

lemma inv_applySection (h : Inv host s) {p : Snapshot R} {candidateHash : Option Text}
    {admitted promotes : Bool} (hcall : s.calls c = .prepared p candidateHash)
    (hkeeps : Keeps host s (.apply c admitted promotes)) :
    Inv host (applySection host s c p candidateHash admitted promotes) := by
  have hleave : Inv host (s.setPhase c .done) := h.without rfl rfl rfl rfl (Or.inl rfl) rfl
  unfold applySection
  rcases hcurrent : host.fingerprint p.routing s.inputs with _ | current
  · exact hleave
  · by_cases hadmitted : admitted = true
    · have hcondition := hkeeps p candidateHash hcall hadmitted current hcurrent
      simp only [hadmitted, if_true]
      by_cases hfresh : Unchanged host s p candidateHash current
      · rw [if_pos hfresh] at hcondition ⊢
        refine h.acted (Nat.lt_succ_self _) rfl ?_ ?_ ?_
        · intro d _ g hg
          exact Nat.lt_succ_of_le (h.tracked d g hg).incarnation_le
        · rcases hpromoted : promote promotes s.candidate with _ | data
          · intro g hg
            cases hg
          · intro g hg
            obtain rfl := Option.some.inj hg
            refine ⟨le_rfl, le_rfl, fun hd => Bool.noConfusion hd, ?_, fun _ => ⟨rfl, rfl, rfl, ?_⟩⟩
            · intro checkpoint hcheckpoint
              rcases capture_spec hcheckpoint with ⟨hactive, hhash, text, htext⟩
              have hplain := hcondition (by rw [hpromoted]; exact Option.some_ne_none data) _ hactive
              exact ⟨hhash, rewritten_of_noCarriageReturn htext hplain⟩
            · intro checkpoint hcheckpoint
              have hcaptured : capture host p.routing s.active = some checkpoint := hcheckpoint
              show ((capture host p.routing s.active).map (·.preimage)).or s.backup = _
              rw [hcaptured]
              rfl
        · intro g hg
          rcases hpromoted : promote promotes s.candidate with _ | data <;> rw [hpromoted] at hg <;>
            cases hg
          rfl
      · rw [if_neg hfresh] at hcondition ⊢
        exact h.without rfl rfl rfl rfl (Or.inr hcondition) rfl
    · simp only [hadmitted]
      exact hleave

/-- Wherever a call acts that is not disturbed itself, the others have been passed. -/
lemma Inv.others_passed (h : Inv host s) {g : Generation R} (hg : g ∈ (s.calls c).generation)
    (hd : g.disturbed = false) {d : ℕ} (hne : d ≠ c) {g' : Generation R}
    (hg' : g' ∈ (s.calls d).generation) : g'.incarnation < s.incarnation :=
  ((h.tracked d g' hg').passed (h.unique c d hne.symm g hg g' hg' hd)).2

lemma inv_verifyStep (h : Inv host s) {g : Generation R} {answer : Answer} {advances : Bool}
    (hcall : s.calls c = .restarted g) (hkeeps : Keeps host s (.verify c answer advances)) :
    Inv host (verifyStep s c g answer advances) := by
  have hadopted := hkeeps g hcall
  have hg : g ∈ (s.calls c).generation := by
    rw [hcall]
    rfl
  have htracked := h.tracked c g hg
  let g₁ : Generation R :=
    { g with adopted := answer.revision.getD g.revision, named := answer.revision }
  have hphase : ∀ g₂ ∈ (if answer.ok then Phase.verified g₁ else .failed g₁).generation, g₂ = g₁ := by
    intro g₂ hg₂
    by_cases hok : answer.ok = true
    · rw [if_pos hok] at hg₂
      exact (Option.some.inj hg₂).symm
    · rw [if_neg hok] at hg₂
      exact (Option.some.inj hg₂).symm
  have hno : ∀ g₂, (if answer.ok then Phase.verified g₁ else .failed g₁) = .restarted g₂ →
      g₂.adopted = g₂.revision := by
    intro g₂ hg₂
    split_ifs at hg₂
  unfold verifyStep
  by_cases hadvance : advances = true ∧ s.revision = g.revision
  · rw [if_pos hadvance] at hadopted ⊢
    have hd : g.disturbed = false := by
      by_contra hdisturbed
      have hpassed := (htracked.passed (Bool.eq_true_of_not_eq_false hdisturbed)).1
      omega
    rcases htracked.current hd with ⟨hinc, -, hact, hback⟩
    refine h.acted (Nat.lt_succ_self _) rfl ?_ ?_ hno
    · intro d hne g' hg'
      exact h.others_passed hg hd hne hg'
    · intro g₂ hg₂
      obtain rfl := hphase g₂ hg₂
      refine ⟨Nat.le_succ_of_le htracked.revision_le, htracked.incarnation_le,
        fun htrue => absurd htrue (by rw [hd]; decide), htracked.copied, fun _ => ⟨hinc, ?_, hact, hback⟩⟩
      show s.revision + 1 = answer.revision.getD g.revision
      rw [hadopted, hadvance.2]
  · rw [if_neg hadvance] at hadopted ⊢
    refine h.moved rfl rfl rfl (Or.inl rfl) rfl ?_ hno
    intro g₂ hg₂
    obtain rfl := hphase g₂ hg₂
    refine ⟨g, hg, rfl, fun _ => ?_⟩
    show answer.revision.getD g.revision = g.adopted
    rw [hadopted, h.adopted c g hcall]

lemma restore_of_disturbed {g : Generation R} (htracked : Tracked host s g)
    (hd : g.disturbed = true) : restore host s c g = s := by
  have hpassed := (htracked.passed hd).2
  unfold restore
  rcases g.checkpoint with _ | checkpoint
  · rfl
  · rcases s.backup with _ | saved
    · rfl
    · have hnot : ¬ Restorable host s g checkpoint := by
        rintro ⟨-, heq, -⟩
        omega
      simp only [if_neg hnot]

lemma restore_of_current {g : Generation R} (htracked : Tracked host s g) (hd : g.disturbed = false)
    {checkpoint : Checkpoint} (hcheckpoint : g.checkpoint = some checkpoint)
    (hallowed : checkpoint.rollbackAllowed = true) :
    restore host s c g =
      { s.disturbOthers c with
        revision := s.revision + 1
        active := some checkpoint.preimage
        incarnation := s.incarnation + 1 } := by
  rcases htracked.current hd with ⟨hinc, hrev, hact, hback⟩
  rcases htracked.copied checkpoint hcheckpoint with ⟨hhash, hrewritten⟩
  have hrestorable : Restorable host s g checkpoint := ⟨hallowed, hinc, hact, hrev⟩
  unfold restore
  rw [hcheckpoint, hback checkpoint hcheckpoint]
  simp only [if_pos hrestorable, hrewritten, if_pos hhash]
  rfl

lemma inv_rollback (h : Inv host s) {g : Generation R} (hcall : s.calls c = .failed g) :
    Inv host ((restore host s c g).setPhase c .done) := by
  have hg : g ∈ (s.calls c).generation := by
    rw [hcall]
    rfl
  have htracked := h.tracked c g hg
  have hleave : Inv host (s.setPhase c .done) := h.without rfl rfl rfl rfl (Or.inl rfl) rfl
  by_cases hd : g.disturbed = true
  · rw [restore_of_disturbed htracked hd]
    exact hleave
  · replace hd : g.disturbed = false := Bool.eq_false_of_not_eq_true hd
    rcases hcheckpoint : g.checkpoint with _ | checkpoint
    · unfold restore
      rw [hcheckpoint]
      exact hleave
    · by_cases hallowed : checkpoint.rollbackAllowed = true
      · rw [restore_of_current htracked hd hcheckpoint hallowed]
        refine h.acted (Nat.lt_succ_self _) rfl ?_ ?_ ?_
        · intro d hne g' hg'
          exact Nat.lt_succ_of_lt (h.others_passed hg hd hne hg')
        · intro g' hg'
          cases hg'
        · intro g' hg'
          cases hg'
      · have hsame : restore host s c g = s := by
          unfold restore
          rw [hcheckpoint]
          rcases s.backup with _ | saved
          · rfl
          · have hnot : ¬ Restorable host s g checkpoint := fun hr => hallowed hr.1
            simp only [if_neg hnot]
        rw [hsame]
        exact hleave

/-- **One step keeps the invariant.** -/
lemma inv_step (h : Inv host s) (label : Label R I) (hkeeps : Keeps host s label) :
    Inv host (step host s label) := by
  cases label with
  | inputs inputs =>
      refine ⟨fun c g hg => ?_, h.unique, h.adopted⟩
      have htracked := h.tracked c g hg
      exact { htracked with }
  | begin c routing =>
      simp only [step]
      split
      · exact h.without rfl rfl rfl rfl (Or.inl rfl) rfl
      · exact h
  | readRuntime c =>
      simp only [step]
      split
      · exact h.without rfl rfl rfl rfl (Or.inl rfl) rfl
      · exact h
  | readActive c =>
      simp only [step]
      split
      · exact h.without rfl rfl rfl rfl (Or.inl rfl) rfl
      · exact h
  | readInputs c =>
      simp only [step]
      split
      · exact h.without rfl rfl rfl rfl (Or.inl rfl) rfl
      · exact h
  | writeCandidate c data =>
      simp only [step]
      split
      · exact h.without rfl rfl rfl rfl (Or.inl rfl) rfl
      · exact h
  | hashCandidate c =>
      simp only [step]
      split
      · exact h.without rfl rfl rfl rfl (Or.inl rfl) rfl
      · exact h
  | leave c =>
      simp only [step]
      split
      · exact h.without rfl rfl rfl rfl (Or.inl rfl) rfl
      · exact h
  | apply c admitted promotes =>
      simp only [step]
      split
      case h_1 hcall => exact inv_applySection h hcall hkeeps
      · exact h
  | verify c answer advances =>
      simp only [step]
      split
      case h_1 hcall => exact inv_verifyStep h hcall hkeeps
      · exact h
  | publish c proven =>
      simp only [step]
      split
      case h_1 g hcall =>
        split_ifs
        · exact h.without rfl rfl rfl rfl (Or.inl rfl) rfl
        · refine h.moved rfl rfl rfl (Or.inl rfl) rfl ?_ ?_
          · intro g' hg'
            obtain rfl := Option.some.inj hg'
            exact ⟨g, by rw [hcall]; rfl, rfl, fun _ => rfl⟩
          · intro g' hg'
            cases hg'
      · exact h
  | rollback c =>
      simp only [step]
      split
      case h_1 hcall => exact inv_rollback h hcall
      · exact h

/-! ## Runs -/

/-- What the invariant says of the rollbacks. -/
lemma Inv.restores (h : Inv host s) : Restores host s := by
  intro c g hcall
  have htracked := h.tracked c g (by rw [hcall]; rfl)
  have hstep : step host s (.rollback c) = (restore host s c g).setPhase c .done := by
    simp only [step, hcall]
  rw [hstep]
  refine ⟨?_, ?_⟩
  · intro checkpoint hcheckpoint hallowed hd
    rw [restore_of_current htracked hd hcheckpoint hallowed]
    rfl
  · intro hd
    rw [restore_of_disturbed htracked hd]
    rfl

/-- **A failed generation is rolled back to its exact preimage**, and a rollback never touches the
file of another, in every state of a run whose steps meet the condition. -/
theorem restored_run {labels : List (Label R I)} (hidle : ∀ c, s.calls c = .idle)
    (hkeeps : Run.Along (step host) (Keeps host) s labels) : Restores host (run host s labels) := by
  have hnone : ∀ c, (s.calls c).generation = none := fun c => by
    rw [hidle c]
    rfl
  have hstart : Inv host s := by
    refine ⟨?_, ?_, ?_⟩
    · intro c g hg
      rw [hnone c] at hg
      cases hg
    · intro c d _ g hg
      rw [hnone c] at hg
      cases hg
    · intro c g hg
      rw [hidle c] at hg
      cases hg
  exact (Run.Along.keeps (I := Inv host) (fun s label hs hok => inv_step hs label hok) hstart hkeeps).restores

end Rollback

/-! ## Two calls -/

namespace Example

def before : ByteArray := writeText ['a']
def first : ByteArray := writeText ['b']
def second : ByteArray := writeText ['c']

def digest (data : ByteArray) : Text :=
  if data = before then
    "ca978112ca1bbdcafac231b39a23dc4da786eff8147c4e72b9807785afee48bb".toList
  else if data = first then
    "3e23e8160039594a33894f6564e1b1348bbd7a0088d42c4acb73eeaed59c009d".toList
  else
    "2e7d2c03a9507ae265ecf5b5356885a53393a2029d241394997265a1a25aefc6".toList

def host : Host Unit Unit := ⟨digest, fun _ _ => some ['i'], fun _ => true, fun _ _ => true⟩

def start : State Unit Unit := ⟨0, some before, none, none, (), 0, fun _ => .idle⟩

def reads (c : ℕ) : List (Label Unit Unit) :=
  [.begin c (), .readRuntime c, .readActive c, .readInputs c]

/-- The second call reads what it starts from, and is overtaken by the first; it is found stale while
the callback of the first is running. -/
def overtaken : List (Label Unit Unit) :=
  reads 1 ++ reads 0 ++ [.writeCandidate 0 first, .hashCandidate 0, .apply 0 true true,
    .writeCandidate 1 second, .hashCandidate 1, .apply 1 true true, .verify 0 ⟨false, none⟩ false]

/-- **The preimage is lost.**  The rollback leaves the candidate that has failed. -/
theorem preimage_overwritten : ¬ Restores host (run host start overtaken) := by
  intro h
  have hactive := (h 0 _ rfl).1 _ rfl rfl rfl
  have hfirst : (step host (run host start overtaken) (.rollback 0)).active = some first := by
    decide +kernel
  rw [hfirst] at hactive
  exact absurd hactive (by decide +kernel)

/-- One call alone. -/
theorem restored_alone :
    Restores host (run host start (reads 0 ++ [.writeCandidate 0 first, .hashCandidate 0,
      .apply 0 true true, .verify 0 ⟨false, none⟩ false])) := by
  refine restored_run (fun _ => rfl) ⟨trivial, trivial, trivial, trivial, trivial, trivial, ?_, ?_, trivial⟩
  · intro p candidateHash hcall _ current hcurrent
    have hunchanged : Unchanged host (run host start (reads 0 ++ [.writeCandidate 0 first,
        .hashCandidate 0])) p candidateHash current := by
      obtain rfl := Option.some.inj hcurrent
      cases hcall
      decide +kernel
    refine (if_pos hunchanged).mpr ?_
    intro _ data hdata text htext
    have hdecode : decodeBytes before = some ['a'] := by decide +kernel
    obtain rfl : before = data := Option.some.inj hdata
    obtain rfl := Option.some.inj (hdecode.symm.trans htext)
    decide
  · intro g hcall
    cases hcall
    rfl

end Example

end FwRouter.Reconcile
