import FwRouter.Python.JsonSize

/-!
# How large a stored job result is

`_encode_job_result` keeps the text of a result that fits into `job_result_max_bytes`, else a summary
of it, and else a fallback with six fields.  The fallback cuts the error message, but it copies the
other four values as they are, whatever their size and nesting.  So a stored result can exceed the
limit, and `encodeJobResult_le_iff` says exactly when: neither the result nor its summary fits, and
the five copied values leave no room for the rest of the fallback.
-/

namespace FwRouter.Jobs

open Py Py.Json

/-- `_trim_scalar`. -/
def trimScalar : Value → Value
  | .str s => .str (if s.length ≤ 256 then s else s.take 253 ++ "...".toList)
  | v => v

/-- The keys `_summarize_result_value` prefers. -/
def preferredKeys : List String :=
  ["job_status", "status", "stage", "message", "error_code", "error_message", "job_id", "changed",
    "ok", "apply", "rules_state", "reconcile_reason", "reconcile_action", "candidate",
    "config_validation", "promoted", "container", "mihomo"]

/-- The fields of a summary of a dict, from the summaries of its values. -/
def summaryOfFields (depth : ℕ) (fields summaries : Dict) : Dict :=
  let preferred := preferredKeys.filterMap fun key =>
    (summaries.lookup key.toList).map fun v => (key.toList, v)
  let extraKeys :=
    ((fields.map Prod.fst).filter fun key => !(preferred.map Prod.fst).contains key).take 8
  preferred ++
    (if depth = 0 ∧ extraKeys ≠ [] then [("_extra_keys".toList, .list (extraKeys.map .str))] else []) ++
    [("_keys_count".toList, .int fields.length)]

mutual

/-- `_summarize_result_value`. -/
def summarizeResultValue (depth : ℕ) : Value → Value
  | .list values =>
      if 1 ≤ depth then
        .dict [("type".toList, .str "list".toList), ("length".toList, .int values.length)]
      else
        .dict [("type".toList, .str "list".toList), ("length".toList, .int values.length),
          ("sample".toList, .list (summarizeItems (depth + 1) values 3))]
  | .dict fields => .dict (summaryOfFields depth fields (summarizeFields (depth + 1) fields))
  | v => trimScalar v

/-- The summaries of the first values of a list. -/
def summarizeItems (depth : ℕ) : List Value → ℕ → List Value
  | v :: values, count + 1 => summarizeResultValue depth v :: summarizeItems depth values count
  | _, _ => []

/-- The summaries of the values of a dict; the preferred ones are taken up. -/
def summarizeFields (depth : ℕ) : Dict → Dict
  | [] => []
  | (k, v) :: fields => (k, summarizeResultValue depth v) :: summarizeFields depth fields

end

/-- The outer fields of a text that stands for a result. -/
def truncatedPayload (maxBytes : ℕ) (result : Dict) (summary : Value) : Value :=
  .dict [("__truncated__".toList, .bool true),
    ("original_bytes".toList, .int (jsonSize (.dict result))),
    ("max_bytes".toList, .int maxBytes), ("summary".toList, summary)]

def summaryPayload (maxBytes : ℕ) (result : Dict) : Value :=
  truncatedPayload maxBytes result (summarizeResultValue 0 (.dict result))

def fallback (maxBytes : ℕ) (result : Dict) : Value :=
  truncatedPayload maxBytes result (.dict [("job_status".toList, result.get "job_status"),
    ("status".toList, result.get "status"), ("stage".toList, result.get "stage"),
    ("error_code".toList, result.get "error_code"),
    ("error_message".toList, trimScalar (result.get "error_message")),
    ("_keys_count".toList, .int result.length)])

/-- `_encode_job_result`.  The first `json.dumps` raises for an integer that is too long to print; the
later ones print no others but counts. -/
def encodeJobResult (maxBytes : ℕ) : Option Dict → Except Unit (Option Text)
  | none => .ok none
  | some result =>
      if numeralsFit (.dict result) = false then .error ()
      else if jsonSize (.dict result) ≤ maxBytes then .ok (some (dumpsSorted (.dict result)))
      else if jsonSize (summaryPayload maxBytes result) ≤ maxBytes then
        .ok (some (dumpsSorted (summaryPayload maxBytes result)))
      else .ok (some (dumpsSorted (fallback maxBytes result)))

/-- The bytes of the five values the fallback copies. -/
def copiedBytes (result : Dict) : ℕ :=
  jsonSize (result.get "job_status") + jsonSize (result.get "status") +
    jsonSize (result.get "stage") + jsonSize (result.get "error_code") +
    jsonSize (trimScalar (result.get "error_message"))

/-- The bytes of the rest of the fallback: its keys and its three counts. -/
def fallbackFrame (maxBytes : ℕ) (result : Dict) : ℕ :=
  162 + (dec (jsonSize (.dict result))).length + (dec maxBytes).length + (dec result.length).length

lemma utf8Size_digits {t : Text} (h : ∀ c ∈ t, c.isDigit = true) : utf8Size t = t.length := by
  induction t with
  | nil => rfl
  | cons c t ih =>
      have hcode : 48 ≤ c.toNat ∧ c.toNat ≤ 57 := by
        simpa [Char.isDigit, UInt32.le_iff_toNat_le] using h c (List.mem_cons_self ..)
      have hc : c.utf8Size = 1 := by
        rw [Char.utf8Size_eq_one_iff, UInt32.le_iff_toNat_le]
        exact Nat.le_trans hcode.2 (by decide)
      rw [utf8Size_cons, ih fun d hd => h d (List.mem_cons_of_mem _ hd), hc, List.length_cons]
      omega

lemma jsonSize_nat (n : ℕ) : jsonSize (.int n) = (dec n).length := by
  have htext : dumpsSorted (.int n) = dec n := by
    show Value.intText n = dec n
    rw [Value.intText, if_neg (by omega), Int.natAbs_natCast]
  rw [jsonSize, htext]
  exact utf8Size_digits fun c hc => isDigit_of_mem_dec hc

/-- **The size of the fallback.** -/
lemma jsonSize_fallback (maxBytes : ℕ) (result : Dict) :
    jsonSize (fallback maxBytes result) = copiedBytes result + fallbackFrame maxBytes result := by
  have htruncated : jsonSize (.bool true) = 4 := by decide
  have hkeys : (["__truncated__", "original_bytes", "max_bytes", "summary", "job_status", "status",
      "stage", "error_code", "error_message", "_keys_count"].map fun key =>
        utf8Size (stringText key.toList)) = [15, 16, 11, 9, 12, 8, 7, 12, 15, 13] := by
    decide +kernel
  simp only [List.map_cons, List.map_nil, List.cons.injEq, and_true] at hkeys
  rcases hkeys with ⟨h₁, h₂, h₃, h₄, h₅, h₆, h₇, h₈, h₉, h₁₀⟩
  rw [fallback, truncatedPayload, jsonSize_dict _ (List.cons_ne_nil _ _)]
  simp only [List.map_cons, List.map_nil, List.sum_cons, List.sum_nil, fieldSize]
  rw [jsonSize_dict _ (List.cons_ne_nil _ _)]
  simp only [List.map_cons, List.map_nil, List.sum_cons, List.sum_nil, fieldSize, jsonSize_nat,
    htruncated, h₁, h₂, h₃, h₄, h₅, h₆, h₇, h₈, h₉, h₁₀]
  rw [copiedBytes, fallbackFrame]
  omega

/-- The result or its summary fits, or the values the fallback copies leave room for its frame. -/
def StaysBounded (maxBytes : ℕ) (result : Dict) : Prop :=
  jsonSize (.dict result) ≤ maxBytes ∨ jsonSize (summaryPayload maxBytes result) ≤ maxBytes ∨
    copiedBytes result + fallbackFrame maxBytes result ≤ maxBytes

/-- **When a stored result is bounded.**  For every result and every limit, if the result can be
encoded: the stored text keeps to the limit exactly when the result or its summary fits, or the five
copied values leave room for the frame of the fallback. -/
theorem encodeJobResult_le_iff (maxBytes : ℕ) (result : Dict) :
    (∀ text, encodeJobResult maxBytes (some result) = .ok (some text) → utf8Size text ≤ maxBytes) ↔
      (numeralsFit (.dict result) = true → StaysBounded maxBytes result) := by
  rw [encodeJobResult, StaysBounded, ← jsonSize_fallback]
  split_ifs with hfits hraw hsummary
  · simp [hfits]
  · simp only [Except.ok.injEq, Option.some.injEq, forall_eq']
    exact ⟨fun _ _ => Or.inl hraw, fun _ => hraw⟩
  · simp only [Except.ok.injEq, Option.some.injEq, forall_eq']
    exact ⟨fun _ _ => Or.inr (Or.inl hsummary), fun _ => hsummary⟩
  · simp only [Except.ok.injEq, Option.some.injEq, forall_eq']
    constructor
    · exact fun h _ => Or.inr (Or.inr h)
    · intro h
      rcases h (by simpa using hfits) with h | h | h
      · exact absurd h hraw
      · exact absurd h hsummary
      · exact h

/-! ## A result that is not bounded -/

/-- A long status, and a long key beside it, which the summary lists. -/
def longStatus (n : ℕ) : Dict :=
  [("status".toList, .str (List.replicate n 's')), (List.replicate n 'k', .none)]

lemma get_status_longStatus (n : ℕ) :
    (longStatus n).get "status" = .str (List.replicate n 's') := by
  rw [Dict.get, longStatus, List.lookup_cons_self]
  rfl

lemma numeralsFit_longStatus (n : ℕ) : numeralsFit (.dict (longStatus n)) = true := rfl

lemma le_jsonSize_longStatus (n : ℕ) : n ≤ jsonSize (.dict (longStatus n)) := by
  have hfield := @fieldSize_le_of_mem (longStatus n) _ (List.mem_cons_self ..)
  have hvalue := length_le_jsonSize_str (List.replicate n 's')
  rw [fieldSize] at hfield
  rw [List.length_replicate] at hvalue
  dsimp only at hfield
  omega

lemma le_jsonSize_summary {n : ℕ} (hn : 20 ≤ n) (maxBytes : ℕ) :
    n ≤ jsonSize (summaryPayload maxBytes (longStatus n)) := by
  have hshort : ∀ key ∈ preferredKeys, key.toList.length < 20 := by decide
  set summaries := summarizeFields 1 (longStatus n) with hsummaries
  set preferred := preferredKeys.filterMap fun key =>
    (summaries.lookup key.toList).map fun v => (key.toList, v) with hpreferred
  have hnew : (preferred.map Prod.fst).contains (List.replicate n 'k') = false := by
    rw [Bool.eq_false_iff]
    intro hmem
    rcases List.mem_map.mp (List.contains_iff_mem.mp hmem) with ⟨field, hfield, hkey⟩
    rcases List.mem_filterMap.mp hfield with ⟨key, hkeys, hmap⟩
    rcases Option.map_eq_some_iff.mp hmap with ⟨v, -, rfl⟩
    have hlength := hshort key hkeys
    dsimp only at hkey
    rw [hkey, List.length_replicate] at hlength
    omega
  set extraKeys := (((longStatus n).map Prod.fst).filter
    fun key => !(preferred.map Prod.fst).contains key).take 8 with hextra
  have hmem : List.replicate n 'k' ∈ extraKeys := by
    have hfew : (((longStatus n).map Prod.fst).filter
        fun key => !(preferred.map Prod.fst).contains key).length ≤ 8 :=
      (List.length_filter_le _ _).trans (by simp [longStatus])
    rw [hextra, List.take_of_length_le hfew, List.mem_filter]
    exact ⟨by simp [longStatus], by rw [hnew]; rfl⟩
  have hsummary : summarizeResultValue 0 (.dict (longStatus n)) = .dict (preferred ++
      [("_extra_keys".toList, .list (extraKeys.map .str))] ++
        [("_keys_count".toList, .int (longStatus n).length)]) := by
    rw [summarizeResultValue, summaryOfFields]
    rw [← hsummaries, ← hpreferred, ← hextra, if_pos ⟨rfl, List.ne_nil_of_mem hmem⟩]
  have htext := length_le_jsonSize_str (List.replicate n 'k')
  have hlist := jsonSize_le_of_mem (List.mem_map_of_mem (f := Value.str) hmem)
  have hfield := @fieldSize_le_of_mem (preferred ++
    [("_extra_keys".toList, .list (extraKeys.map .str))] ++
      [("_keys_count".toList, .int (longStatus n).length)])
    ("_extra_keys".toList, .list (extraKeys.map .str)) (by simp)
  have hpayload := @fieldSize_le_of_mem [("__truncated__".toList, .bool true),
    ("original_bytes".toList, .int (jsonSize (.dict (longStatus n)))),
    ("max_bytes".toList, .int maxBytes),
    ("summary".toList, summarizeResultValue 0 (.dict (longStatus n)))]
    ("summary".toList, summarizeResultValue 0 (.dict (longStatus n))) (by simp)
  rw [hsummary] at hpayload
  rw [fieldSize] at hfield hpayload
  rw [List.length_replicate] at htext
  rw [summaryPayload, truncatedPayload, hsummary]
  dsimp only at hfield hpayload
  omega

/-- **A stored result of more than the limit.**  The result does not fit because of its status, the
summary because of a key, and the fallback copies the status. -/
theorem longStatus_exceeds : ∃ text,
    encodeJobResult 4096 (some (longStatus 5000)) = .ok (some text) ∧ 4096 < utf8Size text := by
  have hraw := le_jsonSize_longStatus 5000
  have hsummary := @le_jsonSize_summary 5000 (by decide) 4096
  have hcopied : 5000 ≤ copiedBytes (longStatus 5000) := by
    have hstatus := length_le_jsonSize_str (List.replicate 5000 's')
    rw [List.length_replicate] at hstatus
    rw [copiedBytes, get_status_longStatus]
    omega
  have hfallback := jsonSize_fallback 4096 (longStatus 5000)
  refine ⟨dumpsSorted (fallback 4096 (longStatus 5000)), ?_, ?_⟩
  · rw [encodeJobResult, numeralsFit_longStatus, if_neg Bool.noConfusion, if_neg (by omega),
      if_neg (by omega)]
  · rw [jsonSize] at hfallback
    omega

end FwRouter.Jobs
