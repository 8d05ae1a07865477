import FwRouter.Subjects.EffectiveState

/-!
# Replacing the classify chain alone

`apply_hot_swap.py`: when an apply may replace the rules of `fwrouter_classify` instead of the whole
table, and the rules it replaces them with, which are cut out of the text of the candidate.
-/

namespace FwRouter.Apply

open Py

variable (U : Unicode) (reprText : Text → Text)

/-! ## What is read of a manifest -/

/-- `str(value or "").strip()`. -/
def strippedText (v : Value) : Text := strip (v.textOr reprText)

/-- `_runtime_mode_from_manifest`. -/
def runtimeModeFromManifest (manifest : Dict) : Text :=
  match (manifest.get "routing_global_state").asDict with
  | none => "direct".toList
  | some routing =>
      (((routing.get "desired_mode").or (routing.get "applied_mode")).or (.str "direct".toList)).text reprText

/-- `_manifest_requests_core_bypass`. -/
def manifestRequestsCoreBypass (manifest : Dict) : Bool :=
  match ((manifest.get "extra").dictOr.get "core_bypass").asDict with
  | none => false
  | some bypass => (bypass.get "enabled").truthy

/-- The context of an apply for one subject. -/
structure FastSubjectApply where
  subjectId : Text
  subjectType : Text
  targetMode : Text
  manifestSubject : Dict
  globalMode : Text

/-- `_FAST_SUBJECT_APPLY_MODES`. -/
def fastSubjectApplyModes : List Text := ["direct".toList, "selective".toList, "vpn".toList]

/-- `_fast_subject_apply_context`. -/
def fastSubjectApplyContext (inputData manifest : Dict) : Option FastSubjectApply := do
  let fastApply ← (inputData.get "fast_subject_apply").asDict
  let globalMode := U.lower (strip (runtimeModeFromManifest reprText manifest))
  let subjectId := strippedText reprText (fastApply.get "subject_id")
  let subjectType := U.lower (strippedText reprText (fastApply.get "subject_type"))
  let targetMode := U.lower (strippedText reprText (fastApply.get "target_mode"))
  if (fastApply.get "enabled").truthy = false ∨ globalMode ≠ "direct".toList ∨ subjectId = [] ∨
      Subjects.subjectFollowsGlobalMode U subjectType = false ∨ targetMode ∉ fastSubjectApplyModes then
    none
  else do
    let manifestSubject ← ((manifest.get "subjects").listOr.filterMap Value.asDict).find? fun subject =>
      decide ((subject.get "subject_id").textOr reprText = subjectId)
    if U.lower (strippedText reprText (manifestSubject.get "dataplane_path")) ≠ targetMode then none
    else some ⟨subjectId, subjectType, targetMode, manifestSubject, globalMode⟩

/-! ## The rules of the classify chain -/

/-- `chain fwrouter_classify {`. -/
def classifyHeader : Text := "chain fwrouter_classify \x7b".toList

/-- The lines of the chain; `depth` is the number of open braces, `none` before the chain. -/
def classifyLines : Option ℤ → List Text → List Text
  | _, [] => []
  | none, line :: lines =>
      classifyLines (if strip line = classifyHeader then some 1 else none) lines
  | some depth, line :: lines =>
      let stripped := strip line
      let depth := depth + stripped.count '\x7b' - stripped.count '\x7d'
      if depth ≤ 0 then []
      else if stripped = [] then classifyLines (some depth) lines
      else stripped :: classifyLines (some depth) lines

/-- `_extract_classify_rules`; no file is no text. -/
def extractClassifyRules (candidate : Option Text) : List Text :=
  candidate.elim [] fun text => classifyLines none (splitlines text)

/-! ## When the chain alone is replaced -/

/-- What both contexts ask of the check and the preflight. -/
def canSwap (manifest checkDetails preflight : Dict) : Bool :=
  !manifestRequestsCoreBypass manifest &&
    (checkDetails.get "table_exists").truthy &&
    (match (checkDetails.get "required_chains").asDict with
      | none => false
      | some chains => chains.all fun chain => chain.2.truthy) &&
    (!((manifest.get "summary").dictOr.get "requires_vpn_policy_routing").truthy ||
      (checkDetails.get "vpn_external_path_verified").truthy) &&
    (preflight.get "can_enforce_global_direct").truthy

/-- A context: the mode it is for, and the rules. -/
structure HotSwap where
  targetMode : Text
  rules : List Text

/-- `_global_mode_hot_swap_context`. -/
def globalModeHotSwapContext (inputData manifest checkDetails preflight : Dict) (candidate : Option Text) :
    Option HotSwap :=
  let rules := extractClassifyRules candidate
  if (inputData.get "repair_owned_table").isTrue = true ∨
      strippedText reprText (inputData.get "intent") ≠ "set_global_mode".toList ∨
      canSwap manifest checkDetails preflight = false ∨ rules = [] then none
  else some ⟨runtimeModeFromManifest reprText manifest, rules⟩

/-- `_subject_mode_hot_swap_context`. -/
def subjectModeHotSwapContext (fastSubjectApply : Option FastSubjectApply)
    (manifest checkDetails preflight : Dict) (candidate : Option Text) : Option HotSwap := do
  let fastApply ← fastSubjectApply
  let rules := extractClassifyRules candidate
  if canSwap manifest checkDetails preflight = false ∨ rules = [] then none
  else some ⟨fastApply.targetMode, rules⟩

end FwRouter.Apply
