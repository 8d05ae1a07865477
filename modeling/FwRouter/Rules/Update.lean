import FwRouter.Library.Run
import FwRouter.Library.TimedCache
import FwRouter.Mihomo.Config

/-!
# Full updates and manual applies

`run_rules_full_update` and `_execute_apply_manual_rules` build a candidate artifact, run the apply
pipeline and then store the candidate as the active artifact.  The renderers find an artifact in
three places: in the manifest, in the stored file, and in a copy of the file that
`read_effective_rules_artifact` serves for five seconds.

A manual apply hands its candidate to the pipeline in the manifest.  A full update does not, so the
table is rendered from what was active before.
-/

namespace FwRouter.RulesUpdate

open Py Ipaddress TimedCache

/-! ## State -/

/-- The clock of `time.monotonic`, in seconds. -/
abbrev Time := ℚ≥0

/-- The `ttl_seconds` of `read_effective_rules_artifact`. -/
def ttl : Time := 5

/-- `RULES_PIPELINE_VERSION`. -/
def rulesPipelineVersion : Text := "2026-07-30.rules-pipeline-v1".toList

/-- What a rules source answers besides the list. -/
structure ListInfo where
  versionName : Option Text
  sourceUrls : List Text
  deriving DecidableEq

/-- The metadata file, as far as a later run reads it. -/
structure Metadata where
  pipelineVersion : Option Text
  bigDirect : ListInfo
  bigVpn : ListInfo
  deriving DecidableEq

/-- The files of the rules service and its stored selective default. -/
structure RuleFiles where
  manualDraft : Text
  manualActive : Text
  staticDirect : Text
  bigDirect : Text
  bigVpn : Text
  selectiveDefault : Action
  metadata : Metadata
  /-- `generated/rules/effective-rules.json`. -/
  effective : Option EffectiveRules
  /-- The copy under `last-good`. -/
  lastGoodEffective : Option EffectiveRules

/-- `_read_effective_rules_artifact_uncached`. -/
def RuleFiles.stored (f : RuleFiles) : Option EffectiveRules := f.effective <|> f.lastGoodEffective

/-- What the service runs on: the settings, the host, and which artifacts the cache admits. -/
structure Host where
  unicode : Unicode
  settings : NetworkSettings
  collapse : CollapseAddresses
  nft : NftHost
  fits : Option EffectiveRules → Bool

structure World where
  files : RuleFiles
  cache : Cache Time (Option EffectiveRules)
  /-- The rule sets of the live nft table. -/
  nft : NftRuleSets
  /-- The effective rules in the live Mihomo configuration. -/
  mihomo : List Text

/-- An artifact without rules, which is what the renderers make of a missing one. -/
def noEffectiveRules : EffectiveRules := ⟨.direct, [], [], fun _ => 0, ⟨0, 0, 0, 0⟩⟩

/-- `build_nft_rule_sets`. -/
def Host.ruleSets (H : Host) (artifact : Option EffectiveRules) : NftRuleSets :=
  buildNftRuleSets H.unicode H.settings H.collapse H.nft (artifact.getD noEffectiveRules)

/-- `_build_effective_rules`. -/
def Host.mihomoRules (H : Host) (artifact : Option EffectiveRules) : List Text :=
  Mihomo.buildEffectiveRules H.unicode (artifact.getD noEffectiveRules)

/-! ## The cached artifact -/

abbrev Uses := List (Use Time)

/-- Time passes, others read the artifact, and the cache is cleared. -/
def World.pass (H : Host) (us : Uses) (w : World) : World :=
  { w with cache := w.cache.uses ttl H.fits w.files.stored us }

/-- What `read_effective_rules_artifact` answers. -/
def World.readEffectiveRulesArtifact (w : World) : Option EffectiveRules :=
  w.cache.served w.files.stored

/-- `_resolve_rules_effective_artifact`, and the choice `build_global_preflight` makes: the artifact
of the manifest, or a cached read. -/
def resolveRulesEffectiveArtifact (H : Host) (extra : Option EffectiveRules) (w : World) :
    Option EffectiveRules × World :=
  match extra with
  | some artifact => (some artifact, w)
  | none => (w.readEffectiveRulesArtifact, w.pass H [.read])

/-! ## The apply pipeline -/

inductive ApplyEnd
  | ok
  /-- A result that is not ok, or an exception.  `left` are the rule sets that are live then. -/
  | failed (left : NftRuleSets)
  deriving DecidableEq

/-- One run of `run_apply_pipeline`: what happens to the cache between its reads, and its end. -/
structure Pipeline where
  beforeManifest : Uses
  beforeRender : Uses
  beforeCheck : Uses
  beforeVerify : Uses
  afterVerify : Uses
  ending : ApplyEnd

/-- The world in which `render_owned_table_candidate` asks for the artifact. -/
def Pipeline.atRender (H : Host) (p : Pipeline) (extra : Option EffectiveRules) (w : World) : World :=
  -- the preflight of `build_dataplane_manifest_from_state`
  (resolveRulesEffectiveArtifact H extra (w.pass H p.beforeManifest)).2.pass H
    p.beforeRender

/-- `run_apply_pipeline`. -/
def runApplyPipeline (H : Host) (p : Pipeline) (extra : Option EffectiveRules) (w : World) :
    Bool × World :=
  let rendered := resolveRulesEffectiveArtifact H extra (p.atRender H extra w)
  let candidate := H.ruleSets rendered.1
  -- the preflight after the check of the candidate
  let w := (resolveRulesEffectiveArtifact H extra (rendered.2.pass H p.beforeCheck)).2
  match p.ending with
  | .failed left => (false, { w with nft := left }.pass H (p.beforeVerify ++ p.afterVerify))
  | .ok =>
      -- `clear_live_probe_cache`, and the preflight of the applied table
      let w := { w with nft := candidate }.pass H (p.beforeVerify ++ [Use.drop])
      (true, (resolveRulesEffectiveArtifact H extra w).2.pass H p.afterVerify)

/-! ## Storing an artifact -/

/-- `write_active_rules_state`; `_snapshot_last_good_rules` mirrors the artifact first. -/
def writeActiveRulesState (manualActive bigDirect bigVpn : Option Text) (artifact : EffectiveRules)
    (metadata : Metadata) (f : RuleFiles) : RuleFiles :=
  { f with
    lastGoodEffective := f.effective
    manualActive := manualActive.getD f.manualActive
    bigDirect := bigDirect.getD f.bigDirect
    bigVpn := bigVpn.getD f.bigVpn
    effective := some artifact
    metadata }

/-- `_build_metadata_file`, as far as it is read. -/
def buildMetadataFile (bigDirect bigVpn : ListInfo) : Metadata :=
  ⟨some rulesPipelineVersion, bigDirect, bigVpn⟩

/-! ## Runs -/

inductive Result
  /-- Not successful, and no apply was tried. -/
  | rejected
  | applyFailed
  | mihomoFailed
  /-- Success with `changed` false. -/
  | noop
  /-- Success of a full update, `changed` true. -/
  | updated
  /-- Success of a manual apply. -/
  | applied
  deriving DecidableEq

def Result.success : Result → Bool
  | .noop | .updated | .applied => true
  | .rejected | .applyFailed | .mihomoFailed => false

/-- `fetch_big_direct_sources` and `fetch_big_vpn_source_versions`. -/
structure SourceVersions where
  bigDirectText : Text
  bigDirect : ListInfo
  bigVpn : ListInfo

/-- `fetch_big_direct_sources` and `fetch_big_vpn_sources`, with the answer of
`_validate_big_vpn_source_policy`. -/
structure Download where
  bigDirectText : Text
  bigDirect : ListInfo
  bigVpnText : Text
  bigVpn : ListInfo
  policyValid : Bool

inductive MihomoEnd
  | ok
  | failed (left : List Text)
  deriving DecidableEq

/-- The answers a full update gets. -/
structure FullUpdate where
  /-- `none` where the adapter does not answer versions. -/
  versions : Option SourceVersions
  /-- `none` where a fetch raises. -/
  download : Option Download
  pipeline : Pipeline
  /-- From the new files to the rendering of the Mihomo rules; restarting dnsmasq clears the
  cache. -/
  beforeMihomo : Uses
  mihomo : MihomoEnd

/-- `str(name or "")`. -/
def nameText (info : ListInfo) : Text := info.versionName.getD []

/-- `_try_full_update_version_noop`. -/
def tryFullUpdateVersionNoop (H : Host) (f : RuleFiles) (v : SourceVersions) : Bool :=
  let directValidation :=
    validateValueList H.unicode H.settings H.collapse v.bigDirectText .direct .bigDirect
  decide (f.metadata.pipelineVersion = some rulesPipelineVersion) &&
  directValidation.valid &&
  decide (nameText f.metadata.bigDirect = nameText v.bigDirect) &&
  decide (nameText f.metadata.bigVpn = nameText v.bigVpn) &&
  decide (f.bigDirect = directValidation.normalizedText) &&
  decide (f.metadata.bigDirect.sourceUrls = v.bigDirect.sourceUrls) &&
  decide (f.metadata.bigVpn.sourceUrls = v.bigVpn.sourceUrls)

/-- `_is_full_update_noop`. -/
def isFullUpdateNoop (f : RuleFiles) (d : Download) (bigDirectText bigVpnText : Text) : Bool :=
  decide (nameText f.metadata.bigDirect = nameText d.bigDirect) &&
  decide (nameText f.metadata.bigVpn = nameText d.bigVpn) &&
  decide (f.bigDirect = bigDirectText) && decide (f.bigVpn = bigVpnText)

/-- What a full update brings to the pipeline. -/
structure Candidate where
  artifact : EffectiveRules
  bigDirectText : Text
  bigVpnText : Text
  metadata : Metadata

/-- `run_rules_full_update` up to `run_apply_pipeline`: the candidate, or an early result with the
files it leaves. -/
def FullUpdate.prepare (H : Host) (r : FullUpdate) (f : RuleFiles) :
    Except (Result × RuleFiles) Candidate :=
  let validate := validateValueList H.unicode H.settings H.collapse
  if !(validateManualRules H.unicode H.settings f.manualActive).valid then .error (.rejected, f)
  else if r.versions.any (tryFullUpdateVersionNoop H f) then .error (.noop, f)
  else match r.download with
    | none => .error (.rejected, f)
    | some d =>
        let bigDirect := validate d.bigDirectText .direct .bigDirect
        let bigVpn := validate d.bigVpnText .vpn .bigVpn
        let metadata := buildMetadataFile d.bigDirect d.bigVpn
        if !d.policyValid then .error (.rejected, f)
        else if !bigDirect.valid || !bigVpn.valid then .error (.rejected, f)
        else if isFullUpdateNoop f d bigDirect.normalizedText bigVpn.normalizedText then
          .error (.noop, { f with metadata })
        else .ok {
          artifact := effectiveRulesOfTexts H.unicode H.settings H.collapse
            ⟨f.manualActive, f.staticDirect, d.bigDirectText, d.bigVpnText⟩ f.selectiveDefault
          bigDirectText := bigDirect.normalizedText
          bigVpnText := bigVpn.normalizedText
          metadata }

/-- The world in which `reconcile_mihomo_runtime` renders the rules. -/
def FullUpdate.atMihomo (H : Host) (r : FullUpdate) (c : Candidate) (w : World) : World :=
  let files := writeActiveRulesState none (some c.bigDirectText) (some c.bigVpnText) c.artifact
    c.metadata w.files
  { w with files }.pass H r.beforeMihomo

/-- `run_rules_full_update`. -/
def runRulesFullUpdate (H : Host) (r : FullUpdate) (w : World) : Result × World :=
  match r.prepare H w.files with
  | .error (result, files) => (result, { w with files })
  | .ok c =>
      match runApplyPipeline H r.pipeline none w with
      | (false, w) => (.applyFailed, w)
      | (true, w) =>
          let w := r.atMihomo H c w
          match r.mihomo with
          | .failed left => (.mihomoFailed, { w with mihomo := left })
          | .ok =>
              let live := H.mihomoRules w.readEffectiveRulesArtifact
              (.updated, { w with mihomo := live }.pass H [Use.read])

/-- The artifact of `prepare_manual_rules_candidate`. -/
def manualCandidate (H : Host) (f : RuleFiles) : EffectiveRules :=
  effectiveRulesOfTexts H.unicode H.settings H.collapse
    ⟨f.manualDraft, f.staticDirect, f.bigDirect, f.bigVpn⟩ f.selectiveDefault

/-- `_execute_apply_manual_rules` with `finalize_manual_rules_apply`, which writes metadata without
versions. -/
def executeApplyManualRules (H : Host) (p : Pipeline) (w : World) : Result × World :=
  let validation := validateManualRules H.unicode H.settings w.files.manualDraft
  if !validation.valid then (.rejected, w)
  else
    let artifact := manualCandidate H w.files
    match runApplyPipeline H p (some artifact) w with
    | (false, w) => (.applyFailed, w)
    | (true, w) =>
        (.applied, { w with
          files := writeActiveRulesState (some validation.normalizedText) none none artifact
            (buildMetadataFile ⟨none, []⟩ ⟨none, []⟩) w.files })

/-- One step: a run, or what happens between runs. -/
inductive Step
  | pass (us : Uses)
  /-- Somebody edits the draft, the static list or the selective default. -/
  | edit (manualDraft staticDirect : Text) (selectiveDefault : Action)
  | fullUpdate (r : FullUpdate)
  | manualApply (p : Pipeline)

def Step.exec (H : Host) (w : World) : Step → Option Result × World
  | .pass us => (none, w.pass H us)
  | .edit manualDraft staticDirect selectiveDefault =>
      let files := { w.files with manualDraft, staticDirect, selectiveDefault }
      (none, { w with files })
  | .fullUpdate r => (runRulesFullUpdate H r w).map some id
  | .manualApply p => (executeApplyManualRules H p w).map some id

def step (H : Host) (w : World) (s : Step) : World := (s.exec H w).2

/-! ## What a successful run promises -/

/-- The live rule sets are those of the artifact that is stored as active. -/
def World.Enforced (H : Host) (w : World) : Prop := w.nft = H.ruleSets w.files.stored

/-- What a step from `w` is to do. -/
structure Promise (H : Host) (w : World) (s : Step) : Prop where
  enforced : ∀ result ∈ (s.exec H w).1, result.success = true → (step H w s).Enforced H
  mihomo : (s.exec H w).1 = some .updated →
    (step H w s).mihomo = H.mihomoRules (step H w s).files.stored
  untouched : (s.exec H w).1 = some .applyFailed → (step H w s).files = w.files

/-- A cache that has just loaded a value. -/
def freshCopy (H : Host) (artifact : Option EffectiveRules) : Cache Time (Option EffectiveRules) :=
  (Cache.mk 0 none).read ttl H.fits artifact

/-- What a cached read answers when the Mihomo rules are rendered: the pipeline has loaded `old` in
its last preflight, and `new` has been stored since. -/
def FullUpdate.copyAtMihomo (H : Host) (r : FullUpdate) (old new : Option EffectiveRules) :
    Option EffectiveRules :=
  (((freshCopy H old).uses ttl H.fits old r.pipeline.afterVerify).uses ttl H.fits new
    r.beforeMihomo).served new

/-- The new lists change nothing in the rule sets of the artifact the renderer reads, and the Mihomo
rules are not rendered from an outdated copy. -/
def FullUpdate.Unchanging (H : Host) (r : FullUpdate) (c : Candidate) (w : World) : Prop :=
  H.ruleSets (r.pipeline.atRender H none w).readEffectiveRulesArtifact = H.ruleSets (some c.artifact)
    ∧ (r.mihomo = .ok → H.mihomoRules (r.copyAtMihomo H w.files.stored (some c.artifact))
        = H.mihomoRules (some c.artifact))

/-- A failing apply leaves the rule sets as they were. -/
def ApplyEnd.Restores (before : NftRuleSets) : ApplyEnd → Prop
  | .ok => True
  | .failed left => left = before

/-- The condition under which a step keeps up with the artifact: a failing apply leaves the rule
sets as they were, and a full update that gets past its no-change checks is unchanging. -/
def Step.KeepsUp (H : Host) (w : World) : Step → Prop
  | .pass _ | .edit _ _ _ => True
  | .fullUpdate r => ∀ c, r.prepare H w.files = .ok c →
      r.pipeline.ending.Restores w.nft ∧ (r.pipeline.ending = .ok → r.Unchanging H c w)
  | .manualApply p => (validateManualRules H.unicode H.settings w.files.manualDraft).valid = true →
      p.ending.Restores w.nft

instance (before : NftRuleSets) : (e : ApplyEnd) → Decidable (e.Restores before)
  | .ok => isTrue trivial
  | .failed left => inferInstanceAs (Decidable (left = before))

instance (H : Host) (r : FullUpdate) (c : Candidate) (w : World) : Decidable (r.Unchanging H c w) :=
  inferInstanceAs (Decidable (_ ∧ (_ → _)))

instance decidableForallOk {ε α : Type} {p : α → Prop} [DecidablePred p] :
    (x : Except ε α) → Decidable (∀ a, x = .ok a → p a)
  | .error _ => isTrue fun _ h => by cases h
  | .ok a => decidable_of_iff (p a) ⟨fun h _ ha => Except.ok.inj ha ▸ h, fun h => h a rfl⟩

instance (H : Host) (w : World) : (s : Step) → Decidable (s.KeepsUp H w)
  | .pass _ | .edit _ _ _ => isTrue trivial
  | .fullUpdate _ => inferInstanceAs (Decidable (∀ _, _ = Except.ok _ → _))
  | .manualApply _ => inferInstanceAs (Decidable (_ → _))

/-! ## The pipeline -/

variable {H : Host} {w : World}

@[simp] lemma files_pass (us : Uses) : (w.pass H us).files = w.files := rfl

@[simp] lemma nft_pass (us : Uses) : (w.pass H us).nft = w.nft := rfl

lemma resolve_snd (extra : Option EffectiveRules) :
    (resolveRulesEffectiveArtifact H extra w).2.files = w.files
      ∧ (resolveRulesEffectiveArtifact H extra w).2.nft = w.nft := by
  cases extra <;> exact ⟨rfl, rfl⟩

/-- The pipeline writes no file of the rules service. -/
lemma files_pipeline (p : Pipeline) (extra : Option EffectiveRules) :
    (runApplyPipeline H p extra w).2.files = w.files := by
  unfold runApplyPipeline Pipeline.atRender
  cases p.ending <;> simp [resolve_snd]

lemma pipeline_failed {p : Pipeline} {left : NftRuleSets} (h : p.ending = .failed left)
    (extra : Option EffectiveRules) :
    (runApplyPipeline H p extra w).1 = false ∧ (runApplyPipeline H p extra w).2.nft = left := by
  simp [runApplyPipeline, h]

lemma pipeline_ok {p : Pipeline} (h : p.ending = .ok) (extra : Option EffectiveRules) :
    (runApplyPipeline H p extra w).1 = true ∧
      (runApplyPipeline H p extra w).2.nft
        = H.ruleSets (resolveRulesEffectiveArtifact H extra (p.atRender H extra w)).1 := by
  simp [runApplyPipeline, h, resolve_snd]

/-- The copy that a full update finds when it renders the Mihomo rules. -/
lemma readEffectiveRulesArtifact_atMihomo {r : FullUpdate} (h : r.pipeline.ending = .ok)
    (c : Candidate) :
    (r.atMihomo H c (runApplyPipeline H r.pipeline none w).2).readEffectiveRulesArtifact
      = r.copyAtMihomo H w.files.stored (some c.artifact) := by
  obtain ⟨cache, hdropped, hcache⟩ : ∃ cache : Cache Time (Option EffectiveRules),
      cache.slot = none ∧ (runApplyPipeline H r.pipeline none w).2.cache
        = (cache.read ttl H.fits w.files.stored).uses ttl H.fits w.files.stored
          r.pipeline.afterVerify := by
    unfold runApplyPipeline
    rw [h]
    refine ⟨_, ?_, rfl⟩
    simp only [World.pass, Cache.uses, List.foldl_append, List.foldl_cons, List.foldl_nil]
    rfl
  have hfresh : cache.read ttl H.fits w.files.stored
      = (freshCopy H w.files.stored).shift cache.now := by
    obtain ⟨now, slot⟩ := cache
    obtain rfl : slot = none := hdropped
    by_cases hfits : H.fits w.files.stored = true <;>
      simp [freshCopy, Cache.read, Cache.live, Cache.shift, hfits, add_comm]
  unfold FullUpdate.atMihomo World.readEffectiveRulesArtifact World.pass FullUpdate.copyAtMihomo
  simp only [hcache, hfresh, uses_shift]
  exact served_shift _

/-! ## Steps -/

lemma runRulesFullUpdate_early {r : FullUpdate} {result : Result} {files : RuleFiles}
    (h : r.prepare H w.files = .error (result, files)) :
    runRulesFullUpdate H r w = (result, { w with files }) := by
  rw [runRulesFullUpdate, h]

/-- An early result has not touched the artifact, and is no apply. -/
lemma prepare_error {r : FullUpdate} {f files : RuleFiles} {result : Result}
    (h : r.prepare H f = .error (result, files)) :
    files.stored = f.stored ∧ (result = .rejected ∨ result = .noop) := by
  unfold FullUpdate.prepare at h
  cases hd : r.download with
  | none =>
      simp only [hd] at h
      split_ifs at h
      all_goals
        obtain ⟨rfl, rfl⟩ := Prod.mk.inj (Except.error.inj h)
        simp
  | some d =>
      simp only [hd] at h
      split_ifs at h
      all_goals
        obtain ⟨rfl, rfl⟩ := Prod.mk.inj (Except.error.inj h)
        exact ⟨rfl, by simp⟩

lemma runRulesFullUpdate_failed {r : FullUpdate} {c : Candidate} {left : NftRuleSets}
    (h : r.prepare H w.files = .ok c) (hend : r.pipeline.ending = .failed left) :
    runRulesFullUpdate H r w = (.applyFailed, (runApplyPipeline H r.pipeline none w).2) := by
  have hfail := (pipeline_failed (H := H) (w := w) hend none).1
  rw [runRulesFullUpdate, h]
  dsimp only
  rw [← Prod.mk.eta (p := runApplyPipeline H r.pipeline none w), hfail]

/-- What a full update leaves after its apply: the candidate is stored, and the live rule sets are
those of the artifact the renderer has read. -/
lemma runRulesFullUpdate_ok {r : FullUpdate} {c : Candidate} (h : r.prepare H w.files = .ok c)
    (hend : r.pipeline.ending = .ok) :
    (runRulesFullUpdate H r w).2.files.stored = some c.artifact ∧
      (runRulesFullUpdate H r w).2.nft
        = H.ruleSets (r.pipeline.atRender H none w).readEffectiveRulesArtifact ∧
      ((r.mihomo = .ok ∧ (runRulesFullUpdate H r w).1 = .updated ∧ (runRulesFullUpdate H r w).2.mihomo
          = H.mihomoRules (r.copyAtMihomo H w.files.stored (some c.artifact)))
        ∨ (r.mihomo ≠ .ok ∧ (runRulesFullUpdate H r w).1 = .mihomoFailed)) := by
  obtain ⟨hok, hnft⟩ := pipeline_ok (H := H) (w := w) hend none
  have hrun : runRulesFullUpdate H r w
      = let w' := r.atMihomo H c (runApplyPipeline H r.pipeline none w).2
        match r.mihomo with
        | .failed left => (.mihomoFailed, { w' with mihomo := left })
        | .ok =>
            let live := H.mihomoRules w'.readEffectiveRulesArtifact
            (.updated, { w' with mihomo := live }.pass H [Use.read]) := by
    rw [runRulesFullUpdate, h]
    dsimp only
    rw [← Prod.mk.eta (p := runApplyPipeline H r.pipeline none w), hok]
  rw [hrun]
  dsimp only
  cases hm : r.mihomo with
  | failed left => exact ⟨rfl, hnft, .inr ⟨nofun, rfl⟩⟩
  | ok =>
      refine ⟨rfl, hnft, .inl ⟨rfl, rfl, ?_⟩⟩
      exact congrArg H.mihomoRules (readEffectiveRulesArtifact_atMihomo hend c)

/-- Five seconds after the apply, or once the cache was cleared, the Mihomo rules are rendered from
the new artifact. -/
lemma copyAtMihomo_of_expired {r : FullUpdate} (old new : Option EffectiveRules)
    (h : Use.drop ∈ r.beforeMihomo ∨ ttl ≤ waited r.beforeMihomo) :
    r.copyAtMihomo H old new = new := by
  refine served_eq_iff.mpr ?_
  rcases h with hdrop | hwaited
  · exact coherent_uses_of_drop hdrop
  · have hempty : (Cache.mk (0 : Time) (none : Option (Copy Time (Option EffectiveRules)))).Timely
        ttl := fun s hs => by cases hs
    have htimely : (Cache.uses ttl H.fits old
        (Cache.mk (0 : Time) (none : Option (Copy Time (Option EffectiveRules))))
        (Use.read :: r.pipeline.afterVerify)).Timely ttl :=
      timely_uses (fun d => zero_le) hempty _
    exact coherent_uses_of_expired fun s hs =>
      (htimely s hs).trans (add_le_add_right hwaited _)

/-- A full update that gets to a successful apply keeps the live dataplanes with the artifact it
stores exactly when it is unchanging. -/
theorem fullUpdate_keeps_iff {r : FullUpdate} {c : Candidate} (h : r.prepare H w.files = .ok c)
    (hend : r.pipeline.ending = .ok) :
    (runRulesFullUpdate H r w).2.Enforced H ∧ ((runRulesFullUpdate H r w).1 = .updated →
      (runRulesFullUpdate H r w).2.mihomo
        = H.mihomoRules (runRulesFullUpdate H r w).2.files.stored) ↔ r.Unchanging H c w := by
  obtain ⟨hstored, hnft, hmihomo⟩ := runRulesFullUpdate_ok h hend
  unfold World.Enforced FullUpdate.Unchanging
  rw [hstored, hnft]
  refine and_congr_right fun _ => ?_
  rcases hmihomo with ⟨hm, hresult, hlive⟩ | ⟨hm, hresult⟩
  · simp only [hresult, hlive, hm, true_imp_iff]
  · simp [hresult, hm]

/-- A run that gets to no apply promises nothing new. -/
lemma promise_of_early {s : Step} {result : Result} {files : RuleFiles} (hw : w.Enforced H)
    (hrun : s.exec H w = (some result, { w with files })) (hstored : files.stored = w.files.stored)
    (hresult : result = .rejected ∨ result = .noop) :
    (step H w s).Enforced H ∧ Promise H w s := by
  have hafter : (step H w s).Enforced H := by
    unfold step World.Enforced
    rw [hrun, hstored]
    exact hw
  refine ⟨hafter, fun _ _ _ => hafter, ?_, ?_⟩ <;>
  · rw [hrun]
    rintro ⟨⟩
    rcases hresult with h | h <;> cases h

/-- A run whose apply fails and leaves the table as it was. -/
lemma promise_of_applyFailed {s : Step} {p : Pipeline} {left : NftRuleSets}
    (extra : Option EffectiveRules) (hw : w.Enforced H)
    (hrun : s.exec H w = (some .applyFailed, (runApplyPipeline H p extra w).2))
    (hend : p.ending = .failed left) (hleft : left = w.nft) :
    (step H w s).Enforced H ∧ Promise H w s := by
  have hfiles : (step H w s).files = w.files := by
    rw [step, hrun]
    exact files_pipeline p extra
  have hafter : (step H w s).Enforced H := by
    rw [World.Enforced, hfiles, step, hrun, (pipeline_failed hend extra).2, hleft]
    exact hw
  exact ⟨hafter, fun _ _ _ => hafter, by rw [hrun]; nofun, fun _ => hfiles⟩

/-- A successful manual apply stores the artifact it has put into the manifest. -/
lemma promise_of_applied {p : Pipeline}
    (hvalid : (validateManualRules H.unicode H.settings w.files.manualDraft).valid = true)
    (hend : p.ending = .ok) :
    (step H w (.manualApply p)).Enforced H ∧ Promise H w (.manualApply p) := by
  obtain ⟨hok, hnft⟩ := pipeline_ok (H := H) (w := w) hend (some (manualCandidate H w.files))
  have hexec : ((Step.manualApply p).exec H w).1 = some .applied
      ∧ (step H w (.manualApply p)).files.stored = some (manualCandidate H w.files)
      ∧ (step H w (.manualApply p)).nft = H.ruleSets (some (manualCandidate H w.files)) := by
    simp only [step, Step.exec, executeApplyManualRules, hvalid]
    rw [← Prod.mk.eta (p := runApplyPipeline H p (some (manualCandidate H w.files)) w), hok]
    exact ⟨rfl, rfl, hnft⟩
  obtain ⟨hresult, hstored, hlive⟩ := hexec
  have hafter : (step H w (.manualApply p)).Enforced H := by
    rw [World.Enforced, hstored, hlive]
  exact ⟨hafter, fun _ _ _ => hafter, by rw [hresult]; nofun, by rw [hresult]; nofun⟩

/-- **What one step keeps.** -/
theorem step_keeps {s : Step} (hw : w.Enforced H) (hs : s.KeepsUp H w) :
    (step H w s).Enforced H ∧ Promise H w s := by
  cases s with
  | pass us => exact ⟨hw, nofun, nofun, nofun⟩
  | edit manualDraft staticDirect selectiveDefault => exact ⟨hw, nofun, nofun, nofun⟩
  | manualApply p =>
      cases hvalid : (validateManualRules H.unicode H.settings w.files.manualDraft).valid with
      | false =>
          have hrun : (Step.manualApply p).exec H w = (some .rejected, w) := by
            simp [Step.exec, executeApplyManualRules, hvalid]
          exact promise_of_early hw
            (show _ = (some _, { w with files := w.files }) from hrun) rfl (.inl rfl)
      | true =>
          cases hend : p.ending with
          | failed left =>
              have hrun : (Step.manualApply p).exec H w = (some .applyFailed,
                  (runApplyPipeline H p (some (manualCandidate H w.files)) w).2) := by
                simp [Step.exec, executeApplyManualRules, hvalid, runApplyPipeline, hend]
              have hleft := hs hvalid
              rw [hend] at hleft
              exact promise_of_applyFailed _ hw hrun hend hleft
          | ok =>
              exact promise_of_applied hvalid hend
  | fullUpdate r =>
      cases hprepare : r.prepare H w.files with
      | error early =>
          obtain ⟨hstored, hresult⟩ := prepare_error hprepare
          refine promise_of_early hw ?_ hstored hresult
          rw [Step.exec, runRulesFullUpdate_early hprepare]
          rfl
      | ok c =>
          obtain ⟨hrestores, hunchanging⟩ := hs c hprepare
          cases hend : r.pipeline.ending with
          | failed left =>
              rw [hend] at hrestores
              refine promise_of_applyFailed none hw ?_ hend hrestores
              rw [Step.exec, runRulesFullUpdate_failed hprepare hend]
              rfl
          | ok =>
              obtain ⟨hafter, hmihomo⟩ :=
                (fullUpdate_keeps_iff hprepare hend).mpr (hunchanging hend)
              obtain ⟨-, -, hresult⟩ := runRulesFullUpdate_ok hprepare hend
              refine ⟨hafter, fun _ _ _ => hafter, fun h => hmihomo (Option.some.inj h), fun h => ?_⟩
              have h : (runRulesFullUpdate H r w).1 = .applyFailed := Option.some.inj h
              rcases hresult with ⟨-, hres, -⟩ | ⟨-, hres⟩ <;>
              · rw [hres] at h
                cases h

/-- **Sequences of rules runs.**  From a state in which the live rule sets are those of the stored
artifact, every run keeps its promise as long as every step keeps up: no failing apply leaves other
rule sets behind, and every full update that gets past its no-change checks to a successful apply
is unchanging. -/
theorem runs_keep_promise {steps : List Step} (hw : w.Enforced H)
    (hsteps : Run.Along (step H) (fun w s => s.KeepsUp H w) w steps) :
    ∀ done s, done ++ [s] <+: steps → Promise H (done.foldl (step H) w) s := by
  intro done s hinitial
  obtain ⟨rest, rfl⟩ := hinitial
  obtain ⟨hdone, hs, -⟩ : Run.Along (step H) (fun w s => s.KeepsUp H w) w done ∧ _ ∧ _ := by
    rw [List.append_assoc] at hsteps
    exact Run.along_append.mp hsteps
  have hbefore : (done.foldl (step H) w).Enforced H :=
    Run.Along.keeps (I := World.Enforced H) (fun w s hw hs => (step_keeps hw hs).1) hw hdone
  exact (step_keeps hbefore hs).2

/-! ## An update that is stored but not enforced -/

def exampleHost : Host := ⟨.ascii, .noClassE, .sorted, .bare, fun _ => true⟩

/-- Nothing happens between the reads, and the apply is ok. -/
def quietPipeline : Pipeline := ⟨[], [], [], [], [], .ok⟩

def emptyFiles : RuleFiles where
  manualDraft := []
  manualActive := []
  staticDirect := []
  bigDirect := []
  bigVpn := []
  selectiveDefault := .direct
  metadata := ⟨none, ⟨none, []⟩, ⟨none, []⟩⟩
  effective := some (effectiveRulesOfTexts .ascii .noClassE .sorted ⟨[], [], [], []⟩ .direct)
  lastGoodEffective := none

/-- Empty lists are active, and the table is the one rendered from them. -/
def emptyWorld : World where
  files := emptyFiles
  cache := ⟨0, none⟩
  nft := exampleHost.ruleSets emptyFiles.stored
  mihomo := []

/-- A download that lists one network for the VPN. -/
def updateOf (bigVpnText : Text) : FullUpdate where
  versions := none
  download := some ⟨[], ⟨some "d1".toList, []⟩, bigVpnText, ⟨some "v1".toList, []⟩, true⟩
  pipeline := quietPipeline
  beforeMihomo := [.drop]
  mihomo := .ok

/-- A manual apply, and a full update that brings new versions of the same lists. -/
def keepingSteps : List Step :=
  [.edit "VPN 8.8.8.0/24".toList [] .direct, .manualApply quietPipeline, .fullUpdate (updateOf [])]

/-- The steps meet the hypotheses, and both runs succeed. -/
theorem keepingSteps_keep_promise :
    (Step.exec exampleHost ((keepingSteps.take 1).foldl (step exampleHost) emptyWorld)
        (.manualApply quietPipeline)).1 = some .applied ∧
      (Step.exec exampleHost ((keepingSteps.take 2).foldl (step exampleHost) emptyWorld)
        (.fullUpdate (updateOf []))).1 = some .updated ∧
      Promise exampleHost ((keepingSteps.take 2).foldl (step exampleHost) emptyWorld)
        (.fullUpdate (updateOf [])) :=
  ⟨by decide +kernel, by decide +kernel,
    runs_keep_promise (H := exampleHost) (w := emptyWorld) (rfl : emptyWorld.Enforced exampleHost)
      (by decide +kernel : Run.Along _ _ _ keepingSteps) _ _ ⟨[], rfl⟩⟩

/-- The full update reports success, and the VPN set of the live table lacks the stored network. -/
theorem fullUpdate_not_enforced :
    emptyWorld.Enforced exampleHost ∧
      (Step.exec exampleHost emptyWorld (.fullUpdate (updateOf "8.8.8.0/24\n".toList))).1
        = some .updated ∧
      ¬ Promise exampleHost emptyWorld (.fullUpdate (updateOf "8.8.8.0/24\n".toList)) := by
  refine ⟨rfl, by decide +kernel, fun h => ?_⟩
  have henforced := h.enforced .updated (by decide +kernel) rfl
  revert henforced
  unfold World.Enforced
  decide +kernel

/-! ## A copy that has expired -/

/-- **The Mihomo rules are the new ones** when five seconds have passed since the apply or the cache was
cleared, however it was used before and since. -/
theorem fullUpdate_mihomo_of_expired {H : Host} {w : World} {r : FullUpdate} {c : Candidate}
    (h : r.prepare H w.files = .ok c) (hend : r.pipeline.ending = .ok) (hmihomo : r.mihomo = .ok)
    (hexpired : Use.drop ∈ r.beforeMihomo ∨ ttl ≤ waited r.beforeMihomo) :
    (runRulesFullUpdate H r w).1 = .updated ∧
      (runRulesFullUpdate H r w).2.mihomo
        = H.mihomoRules (runRulesFullUpdate H r w).2.files.stored := by
  obtain ⟨hstored, -, ⟨-, hresult, hlive⟩ | ⟨hfailed, -⟩⟩ := runRulesFullUpdate_ok (w := w) h hend
  · exact ⟨hresult, by rw [hlive, hstored, copyAtMihomo_of_expired _ _ hexpired]⟩
  · exact absurd hmihomo hfailed

/-- The network for the VPN, with a copy that was read and has expired. -/
theorem expired_mihomo : ∃ c,
    (updateOf "8.8.8.0/24\n".toList).prepare exampleHost emptyFiles = .ok c ∧
    let r := { updateOf "8.8.8.0/24\n".toList with beforeMihomo := [.read, .wait 5] }
    (runRulesFullUpdate exampleHost r emptyWorld).1 = .updated ∧
      (runRulesFullUpdate exampleHost r emptyWorld).2.mihomo
        = exampleHost.mihomoRules (runRulesFullUpdate exampleHost r emptyWorld).2.files.stored := by
  cases hprepare : (updateOf "8.8.8.0/24\n".toList).prepare exampleHost emptyFiles with
  | error e =>
      have hok : ((updateOf "8.8.8.0/24\n".toList).prepare exampleHost emptyFiles).isOk = true := by
        decide +kernel
      rw [hprepare] at hok
      cases hok
  | ok c =>
      refine ⟨c, rfl, fullUpdate_mihomo_of_expired hprepare rfl rfl (Or.inr ?_)⟩
      exact (add_zero (5 : Time)).ge

end FwRouter.RulesUpdate
