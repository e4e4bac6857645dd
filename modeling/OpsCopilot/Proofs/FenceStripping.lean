import OpsCopilot.Lib.PyJsonRead
import OpsCopilot.Model.LlmClient

/-!
# JSON in fences

Taking off a fence breaks the text into lines and joins them again, which replaces every line break
by a newline. Between tokens this is of no consequence; inside a string it destroys the text.
-/

namespace OpsCopilot

open Python

/-- A text in a fence, with the name of a language or none. -/
def fenced (tag j : List Char) : List Char := fence ++ tag ++ '\n' :: (j ++ '\n' :: fence)

lemma forall_mem_of_all (p : Char → Bool) {cs : List Char} (h : cs.all (fun c => !p c) = true) :
    ∀ c ∈ cs, p c = false :=
  fun c hc => (Bool.not_eq_true' (p c)).mp (List.all_eq_true.mp h c hc)

/-! ### Without a fence -/

/-- No token starts with a backtick. -/
lemma lexJson_fence (cs : List Char) : lexJson (fence ++ cs) = none := rfl

lemma stripFences_json {j : List Char} {tokens : List JsonToken} (hj : lexJson j = some tokens) :
    stripFences j = stripChars j := by
  unfold stripFences
  dsimp only
  rw [if_neg]
  intro hfence
  obtain ⟨rest, hrest⟩ := List.isPrefixOf_iff_prefix.mp hfence
  have hstripped := lexJson_stripChars hj
  rw [← hrest, lexJson_fence] at hstripped
  cases hstripped

/-! ### With a fence -/

lemma splitlines_fenced {tag : List Char} (htag : ∀ c ∈ tag, isLineBreak c = false)
    (j : List Char) : ∃ lines, splitlines (fenced tag j) = (fence ++ tag) :: (lines ++ [fence]) ∧
      lines.flatMap (· ++ ['\n']) = withNewlines false (j ++ ['\n']) := by
  have hplain := forall_mem_of_all isLineBreak (rfl : fence.all (fun c => !isLineBreak c) = true)
  have hfirst : ∀ c ∈ fence ++ tag, isLineBreak c = false := by
    intro c hc
    rcases List.mem_append.mp hc with hc | hc
    · exact hplain c hc
    · exact htag c hc
  obtain ⟨lines, hlines, hflat⟩ := linesFrom_last hplain (by decide) j [] false
    (fun h => absurd h Bool.false_ne_true)
  refine ⟨lines, ?_, hflat⟩
  rw [splitlines, fenced, linesFrom_first _ hfirst, List.nil_append, hlines]

/-- The text between the fences, with a newline for each line break and stripped. -/
lemma stripFences_fenced {tag : List Char} (htag : ∀ c ∈ tag, isLineBreak c = false)
    (j : List Char) :
    stripFences (fenced tag j) = stripChars (withNewlines false (j ++ ['\n'])) := by
  have hself : stripChars (fenced tag j) = fenced tag j := by
    have hends : fenced tag j = Char.ofNat 96 :: ((Char.ofNat 96 :: Char.ofNat 96 :: tag ++
        '\n' :: (j ++ ['\n', Char.ofNat 96, Char.ofNat 96])) ++ [Char.ofNat 96]) := by
      simp [fenced, fence]
    rw [hends]
    exact stripChars_eq_self (by decide) (by decide)
  have hprefix : fence.isPrefixOf (fenced tag j) = true := by
    rw [List.isPrefixOf_iff_prefix, fenced, List.append_assoc]
    exact List.prefix_append _ _
  obtain ⟨lines, hlines, hflat⟩ := splitlines_fenced htag j
  have hcloses : closesFence (lines ++ [fence]) = true := by
    rw [closesFence, List.getLast?_append_of_ne_nil _ (List.cons_ne_nil _ _)]
    decide
  unfold stripFences
  dsimp only
  rw [hself, if_pos hprefix, hlines, List.tail_cons, if_pos hcloses, List.dropLast_concat, ← hflat]
  by_cases hne : lines = []
  · rw [hne]
    rfl
  · rw [← joinLines_newline hne, stripChars_append_space (by decide)]

/-! ### Both -/

lemma toNat_eq_iff {c d : Char} : c.toNat = d.toNat ↔ c = d := by
  constructor
  · intro h
    rw [← Char.ofNat_toNat c, h, Char.ofNat_toNat]
  · exact fun h => congrArg Char.toNat h

lemma isSeparator_iff {c : Char} :
    isSeparator c = true ↔ c = '\u0085' ∨ c = '\u2028' ∨ c = '\u2029' := by
  rw [← toNat_eq_iff, ← toNat_eq_iff, ← toNat_eq_iff]
  simp only [isSeparator, Bool.or_eq_true, beq_iff_eq, or_assoc]
  exact Iff.rfl

lemma not_separator {c : Char} (hc : isSeparator c = false) :
    c ≠ '\u0085' ∧ c ≠ '\u2028' ∧ c ≠ '\u2029' := by
  rwa [← Bool.not_eq_true, isSeparator_iff, not_or, not_or] at hc

variable {ν : Type}

/-- A valid JSON text comes through as it is, and it comes through a fence just when none of the
line breaks that may stand in a string stands in it. -/
theorem fences_preserve_json_iff (number : List Char → Option ν) (j tag : String)
    (hj : (readJson number j.toList).isSome) (htag : ∀ c ∈ tag.toList, isLineBreak c = false) :
    (readJson number (stripJsonFences j).toList = readJson number j.toList ∧
      readJson number (stripJsonFences (String.ofList (fenced tag.toList j.toList))).toList =
        readJson number j.toList) ↔
      ∀ c ∈ j.toList, c ≠ '\u0085' ∧ c ≠ '\u2028' ∧ c ≠ '\u2029' := by
  obtain ⟨v, hv⟩ := Option.isSome_iff_exists.mp hj
  obtain ⟨tokens, htokens, hvalue⟩ := Option.bind_eq_some_iff.mp hv
  have hbare : readJson number (stripJsonFences j).toList = readJson number j.toList := by
    rw [stripJsonFences, String.toList_ofList, stripFences_json htokens, readJson,
      lexJson_stripChars htokens, readJson, htokens]
  have hunfenced : readJson number
      (stripJsonFences (String.ofList (fenced tag.toList j.toList))).toList =
        (if j.toList.all (fun c => !isSeparator c) then some tokens else none).bind
          (readTokens number) := by
    rw [stripJsonFences, String.toList_ofList, String.toList_ofList, stripFences_fenced htag,
      readJson, lexJson_withNewlines htokens]
  rw [hunfenced, hbare, hv]
  refine ⟨fun h c hc => ?_, fun h => ⟨rfl, ?_⟩⟩
  · by_cases hall : j.toList.all (fun c => !isSeparator c) = true
    · exact not_separator (forall_mem_of_all isSeparator hall c hc)
    · have hfenced := h.2
      rw [if_neg hall] at hfenced
      cases hfenced
  · rw [if_pos, Option.bind_some, hvalue]
    rw [List.all_eq_true]
    intro c hc
    rw [Bool.not_eq_true', ← Bool.not_eq_true, isSeparator_iff, not_or, not_or]
    exact h c hc

/-- The number a decimal numeral denotes. -/
def decimalNumber (cs : List Char) : Option ℕ :=
  if cs ≠ [] ∧ cs.all Char.isDigit then
    some (cs.foldl (fun n c => 10 * n + (c.toNat - 48)) 0)
  else none

/-- A line separator in a string is legal JSON, and does not survive the fence. -/
theorem separator_lost :
    (readJson decimalNumber "[\"one\u2028two\"]".toList).isSome ∧
    stripJsonFences "```json\n[\"one\u2028two\"]\n```" = "[\"one\ntwo\"]" ∧
    (readJson decimalNumber "[\"one\ntwo\"]".toList).isNone ∧
    readJson decimalNumber (stripJsonFences "```json\n[\"one\u2028two\"]\n```").toList ≠
      readJson decimalNumber "[\"one\u2028two\"]".toList := by
  have hsome : (readJson decimalNumber "[\"one\u2028two\"]".toList).isSome := by decide +kernel
  have hnone : (readJson decimalNumber "[\"one\ntwo\"]".toList).isNone := by decide +kernel
  have hstrip : stripJsonFences "```json\n[\"one\u2028two\"]\n```" = "[\"one\ntwo\"]" := by
    decide +kernel
  refine ⟨hsome, hstrip, hnone, fun h => ?_⟩
  rw [hstrip] at h
  rw [← h, Option.isNone_iff_eq_none.mp hnone] at hsome
  cases hsome

/-- An array over several lines comes through. -/
theorem array_survives :
    readJson decimalNumber (stripJsonFences "[1,\r\n 2]").toList =
      readJson decimalNumber "[1,\r\n 2]".toList ∧
    readJson decimalNumber (stripJsonFences "```json\n[1,\r\n 2]\n```").toList =
      readJson decimalNumber "[1,\r\n 2]".toList :=
  (fences_preserve_json_iff decimalNumber "[1,\r\n 2]" "json" (by decide +kernel)
    (forall_mem_of_all isLineBreak (by decide +kernel))).mpr
    (fun c hc => not_separator (forall_mem_of_all isSeparator (by decide +kernel) c hc))

end OpsCopilot
