import GroundedQA.Evaluation.Report
import GroundedQA.Proofs.Evaluation.Results
/-!
# A report shows exactly the scores

A report is a text of lines, so as long as no line holds a line break the text tells which lines it was made of
(`linesOf_report`). Each metric has a block of lines of one length, and what a line shows of a score holds no colon, so
the name before it can be told even when it looks like another line (`additionalLines_eq_iff`). Only the number of
additional metrics is open, so the lines show where each block begins (`lines_eq_iff`), and reports are equal exactly
when they show the same.
-/

namespace GroundedQA

/-! ## The characters of numbers -/

namespace Number

/-- The characters that a score is shown with. -/
def placesChars : List Char := "0123456789.-NaNinf".toList

theorem toChar_mem_placesChars (d : Digit) : d.toChar ∈ placesChars := by
  revert d
  decide +kernel

theorem mem_placesChars_of_decimal {n : Nat} {c : Char} (h : c ∈ (decimal n).toList) : c ∈ placesChars := by
  rw [decimal, String.toList_ofList] at h
  obtain ⟨d, -, rfl⟩ := List.mem_map.1 h
  exact toChar_mem_placesChars d

theorem mem_placesChars_of_all {text : String} (hall : text.toList.all (· ∈ placesChars)) {c : Char}
    (h : c ∈ text.toList) : c ∈ placesChars :=
  of_decide_eq_true (List.all_eq_true.1 hall c h)

theorem mem_placesChars_of_fourPlaces {x : Float} {c : Char} (h : c ∈ (fourPlaces x).toList) : c ∈ placesChars := by
  rw [fourPlaces] at h
  split at h
  · next d _ =>
    simp only [renderTenThousandths, String.toList_append, List.mem_append] at h
    rcases h with hsign | ((hwhole | hpoint) | hzeros) | hplaces
    · split at hsign
      · exact mem_placesChars_of_all (by decide +kernel) hsign
      · exact mem_placesChars_of_all (by decide +kernel) hsign
    · exact mem_placesChars_of_decimal hwhole
    · exact mem_placesChars_of_all (by decide +kernel) hpoint
    · rw [String.toList_ofList] at hzeros
      exact List.eq_of_mem_replicate hzeros ▸ toChar_mem_placesChars 0
    · exact mem_placesChars_of_decimal hplaces
  · split at h
    · exact mem_placesChars_of_all (by decide +kernel) h
    · split at h
      · exact mem_placesChars_of_all (by decide +kernel) h
      · exact mem_placesChars_of_all (by decide +kernel) h

theorem decimal_injective : Function.Injective decimal := by
  intro m n h
  have := congrArg readDecimal? h
  rw [readDecimal?_decimal, readDecimal?_decimal] at this
  exact Option.some.inj this

end Number

/-! ## Blocks of lines -/

/-- Lists of blocks of one length are equal when the blocks are, place by place. -/
theorem flatMap_eq_flatMap_iff {α β γ : Type} {block : α → List β} {shown : α → γ} {size : ℕ} (hpos : 0 < size)
    (hsize : ∀ x, (block x).length = size) (hblock : ∀ x y, block x = block y ↔ shown x = shown y) (xs ys : List α) :
    xs.flatMap block = ys.flatMap block ↔ xs.map shown = ys.map shown := by
  have hne (x : α) (rest : List α) : (x :: rest).flatMap block ≠ [] := by
    intro h
    have hlength := congrArg List.length h
    rw [List.flatMap_cons, List.length_append, hsize, List.length_nil] at hlength
    omega
  induction xs generalizing ys with
  | nil =>
    cases ys with
    | nil => simp
    | cons y ys => exact iff_of_false (hne y ys).symm (by simp)
  | cons x xs ih =>
    cases ys with
    | nil => exact iff_of_false (hne x xs) (by simp)
    | cons y ys =>
      rw [List.flatMap_cons, List.flatMap_cons, List.map_cons, List.map_cons, List.cons.injEq, ← hblock]
      constructor
      · intro h
        obtain ⟨hfirst, hrest⟩ := List.append_inj h (by rw [hsize, hsize])
        exact ⟨hfirst, (ih ys).1 hrest⟩
      · rintro ⟨hfirst, hrest⟩
        rw [hfirst, (ih ys).2 hrest]

/-- What follows the last of a character can be told, and so can what stands before it. -/
theorem append_cons_eq_iff {c : Char} {front front' back back' : List Char} (h : c ∉ back) (h' : c ∉ back') :
    front ++ c :: back = front' ++ c :: back' ↔ front = front' ∧ back = back' := by
  constructor
  · intro heq
    rw [List.append_eq_append_iff] at heq
    rcases heq with ⟨middle, rfl, hback⟩ | ⟨middle, rfl, hback⟩
    · cases middle with
      | nil => exact ⟨(List.append_nil _).symm, (List.cons.inj hback).2⟩
      | cons d middle =>
        rw [(List.cons.inj hback).2] at h
        exact absurd (by simp) h
    · cases middle with
      | nil => exact ⟨List.append_nil _, (List.cons.inj hback).2.symm⟩
      | cons d middle =>
        rw [(List.cons.inj hback).2] at h'
        exact absurd (by simp) h'
  · rintro ⟨rfl, rfl⟩
    rfl

namespace Report

open Number

/-- What the lines about a metric show of it. -/
def shown {α : Type} (entry : α × Float) : α × String := (entry.1, fourPlaces entry.2)

theorem coreLines_eq_iff (entry other : CoreMetric × Float) :
    coreLines entry = coreLines other ↔ shown entry = shown other := by
  obtain ⟨metric, score⟩ := entry
  obtain ⟨metric', score'⟩ := other
  constructor
  · intro h
    obtain ⟨hscore, hmetric, -⟩ := by simpa only [coreLines, List.cons.injEq] using h
    obtain rfl : metric = metric' := by
      revert hmetric
      cases metric <;> cases metric' <;> decide
    exact Prod.ext rfl ((String.append_right_inj _).1 hscore)
  · intro h
    obtain ⟨rfl, hscore⟩ := Prod.mk.inj h
    simp only [coreLines, hscore]

theorem toList_additionalLine (name score : String) :
    (s!"{name}: {score}").toList = name.toList ++ ':' :: ' ' :: score.toList := by
  simp [toString]

theorem additionalLines_eq_iff (entry other : String × Float) :
    additionalLines entry = additionalLines other ↔ shown entry = shown other := by
  obtain ⟨name, score⟩ := entry
  obtain ⟨name', score'⟩ := other
  have hcolon (x : Float) : ':' ∉ ' ' :: (fourPlaces x).toList := by
    rw [List.mem_cons, not_or]
    exact ⟨by decide, fun h => absurd (mem_placesChars_of_fourPlaces h) (by decide +kernel)⟩
  simp only [additionalLines, shown, List.cons.injEq, and_true, Prod.mk.injEq]
  rw [← String.toList_inj, toList_additionalLine, toList_additionalLine, append_cons_eq_iff (hcolon _) (hcolon _),
    List.cons.injEq, String.toList_inj, String.toList_inj]
  simp

/-! ## Lines -/

/-- The lines before those about metrics. -/
def opening (result : EvaluationResult Float) : List String :=
  [heavyRule, "RAG Evaluation Report", heavyRule, "", s!"Samples evaluated: {decimal result.sampleCount}", "",
    "Metrics", lightRule]

/-- The lines after those about metrics. -/
def closing (result : EvaluationResult Float) : List String :=
  let band := QualityBand.ofScore result.overall
  [lightRule, s!"Overall score: {fourPlaces result.overall}", "", "Assessment", lightRule,
    s!"{band.label}: {band.summary}", "", heavyRule]

theorem lines_eq (result : EvaluationResult Float) :
    lines result = opening result ++ result.coreScores.flatMap coreLines ++
      result.additional.entries.flatMap additionalLines ++ closing result := rfl

theorem length_opening (result : EvaluationResult Float) : (opening result).length = 8 := rfl

theorem length_coreLines (result : EvaluationResult Float) : (result.coreScores.flatMap coreLines).length = 12 := rfl

theorem length_closing (result : EvaluationResult Float) : (closing result).length = 8 := rfl

theorem opening_eq_iff (a b : EvaluationResult Float) : opening a = opening b ↔ a.sampleCount = b.sampleCount := by
  simp only [opening, List.cons.injEq, true_and, and_true]
  exact (String.append_right_inj _).trans decimal_injective.eq_iff

theorem closing_eq_iff (a b : EvaluationResult Float) :
    closing a = closing b ↔
      fourPlaces a.overall = fourPlaces b.overall ∧ QualityBand.ofScore a.overall = QualityBand.ofScore b.overall := by
  have hband (band other : QualityBand) :
      s!"{band.label}: {band.summary}" = s!"{other.label}: {other.summary}" ↔ band = other := by
    cases band <;> cases other <;> decide
  simp only [closing, List.cons.injEq, true_and, and_true, hband]
  exact and_congr_left fun _ => String.append_right_inj _

/-- Two results of which a report shows the same. -/
structure ShowsSame (a b : EvaluationResult Float) : Prop where
  sampleCount : a.sampleCount = b.sampleCount
  core : ∀ metric, fourPlaces (a.coreScore metric) = fourPlaces (b.coreScore metric)
  overall : fourPlaces a.overall = fourPlaces b.overall
  band : QualityBand.ofScore a.overall = QualityBand.ofScore b.overall
  additional : a.additional.entries.map shown = b.additional.entries.map shown

theorem shown_coreScores_eq_iff (a b : EvaluationResult Float) :
    a.coreScores.map shown = b.coreScores.map shown ↔
      ∀ metric, fourPlaces (a.coreScore metric) = fourPlaces (b.coreScore metric) := by
  rw [EvaluationResult.coreScores, EvaluationResult.coreScores, List.map_map, List.map_map, List.map_inj_left]
  simp [shown, CoreMetric.mem_all]

/-- The lines before and after the additional metrics are always as many, so they can be told from both ends. -/
theorem lines_eq_iff (a b : EvaluationResult Float) : lines a = lines b ↔ ShowsSame a b := by
  have hcore := flatMap_eq_flatMap_iff (by decide : 0 < 3) (fun _ => rfl) coreLines_eq_iff a.coreScores b.coreScores
  have hadditional := flatMap_eq_flatMap_iff (by decide : 0 < 2) (fun _ => rfl) additionalLines_eq_iff
    a.additional.entries b.additional.entries
  rw [shown_coreScores_eq_iff] at hcore
  rw [lines_eq, lines_eq]
  constructor
  · intro h
    obtain ⟨h, hclosing⟩ := List.append_inj' h (by rw [length_closing, length_closing])
    obtain ⟨h, hlisted⟩ := List.append_inj h (by
      rw [List.length_append, List.length_append, length_opening, length_opening, length_coreLines, length_coreLines])
    obtain ⟨hopening, hscores⟩ := List.append_inj h (by rw [length_opening, length_opening])
    obtain ⟨hoverall, hband⟩ := (closing_eq_iff a b).1 hclosing
    exact ⟨(opening_eq_iff a b).1 hopening, hcore.1 hscores, hoverall, hband, hadditional.1 hlisted⟩
  · intro h
    rw [(opening_eq_iff a b).2 h.sampleCount, hcore.2 h.core, hadditional.2 h.additional,
      (closing_eq_iff a b).2 ⟨h.overall, h.band⟩]

/-! ## The text -/

/-- The lines of a text. -/
def linesOf (text : String) : List String := (text.toList.splitOn '\n').map String.ofList

theorem linesOf_intercalate {lines : List String} (hne : lines ≠ []) (h : ∀ line ∈ lines, '\n' ∉ line.toList) :
    linesOf ("\n".intercalate lines) = lines := by
  have hplain : ∀ line ∈ lines.map String.toList, '\n' ∉ line := List.forall_mem_map.2 h
  have hsplit : (['\n'].intercalate (lines.map String.toList)).splitOn '\n' = lines.map String.toList :=
    List.splitOn_intercalate '\n' hplain (by simpa using hne)
  have htext : ("\n".intercalate lines).toList = ['\n'].intercalate (lines.map String.toList) :=
    String.toList_intercalate
  rw [linesOf, htext, hsplit, List.map_map]
  simp

theorem newline_notMem_append {front back : String} (hfront : '\n' ∉ front.toList) (hback : '\n' ∉ back.toList) :
    '\n' ∉ (front ++ back).toList := by
  rw [String.toList_append, List.mem_append, not_or]
  exact ⟨hfront, hback⟩

theorem newline_notMem_fourPlaces (x : Float) : '\n' ∉ (fourPlaces x).toList := fun h =>
  absurd (mem_placesChars_of_fourPlaces h) (by decide +kernel)

theorem newline_notMem_decimal (n : ℕ) : '\n' ∉ (decimal n).toList := fun h =>
  absurd (mem_placesChars_of_decimal h) (by decide +kernel)

theorem newline_notMem_opening (result : EvaluationResult Float) : ∀ line ∈ opening result, '\n' ∉ line.toList := by
  have hcount : '\n' ∉ s!"Samples evaluated: {decimal result.sampleCount}".toList :=
    newline_notMem_append (by decide +kernel) (newline_notMem_decimal _)
  simp only [opening, List.forall_mem_cons]
  refine ⟨?_, ?_, ?_, ?_, hcount, ?_, ?_, ?_, ?_⟩ <;> decide +kernel

theorem newline_notMem_coreLines (entry : CoreMetric × Float) : ∀ line ∈ coreLines entry, '\n' ∉ line.toList := by
  obtain ⟨metric, score⟩ := entry
  have htitle : '\n' ∉ s!"{metric.title} ({metric.name}): ".toList := by
    cases metric <;> decide +kernel
  have hexplanation : '\n' ∉ s!"  - {metric.explanation}".toList := by
    cases metric <;> decide +kernel
  simp only [coreLines, List.forall_mem_cons]
  refine ⟨newline_notMem_append htitle (newline_notMem_fourPlaces score), hexplanation, ?_, ?_⟩ <;> decide +kernel

theorem newline_notMem_additionalLines {entry : String × Float} (h : '\n' ∉ entry.1.toList) :
    ∀ line ∈ additionalLines entry, '\n' ∉ line.toList := by
  simp only [additionalLines, List.forall_mem_cons]
  refine ⟨newline_notMem_append (newline_notMem_append h ?_) (newline_notMem_fourPlaces entry.2), ?_, ?_⟩ <;>
    decide +kernel

theorem newline_notMem_closing (result : EvaluationResult Float) : ∀ line ∈ closing result, '\n' ∉ line.toList := by
  have hoverall : '\n' ∉ s!"Overall score: {fourPlaces result.overall}".toList :=
    newline_notMem_append (by decide +kernel) (newline_notMem_fourPlaces _)
  have hband (band : QualityBand) : '\n' ∉ s!"{band.label}: {band.summary}".toList := by
    cases band <;> decide +kernel
  simp only [closing, List.forall_mem_cons]
  refine ⟨?_, hoverall, ?_, ?_, ?_, hband _, ?_, ?_, ?_⟩ <;> decide +kernel

/-- No line holds a line break unless the name of a metric does. -/
theorem newline_notMem_lines {result : EvaluationResult Float}
    (h : ∀ name ∈ result.additional.keys, '\n' ∉ name.toList) : ∀ line ∈ lines result, '\n' ∉ line.toList := by
  rw [lines_eq]
  simp only [List.forall_mem_append, List.forall_mem_flatMap]
  exact ⟨⟨⟨newline_notMem_opening result, fun entry _ => newline_notMem_coreLines entry⟩,
    fun entry hentry => newline_notMem_additionalLines (h _ (List.mem_map_of_mem hentry))⟩,
    newline_notMem_closing result⟩

theorem linesOf_report {result : EvaluationResult Float}
    (h : ∀ name ∈ result.additional.keys, '\n' ∉ name.toList) : linesOf result.report = lines result :=
  linesOf_intercalate (List.cons_ne_nil _ _) (newline_notMem_lines h)

end Report

namespace EvaluationResult

open Number Report

/-- When no name of a metric holds a line break, which could make one metric look like two, reports are equal exactly
when they show the same. What tells one evaluation from another and the scores of the samples make no difference to a
report, and of its lines all but the first twenty and the last eight are those about the additional metrics, one with
its score for each, in their order. -/
theorem report_eq_iff_showsSame {a b : EvaluationResult Float} (ha : ∀ name ∈ a.additional.keys, '\n' ∉ name.toList)
    (hb : ∀ name ∈ b.additional.keys, '\n' ∉ name.toList) :
    (a.report = b.report ↔ ShowsSame a b) ∧
    (∀ (stamp : Stamp) (perSample : List (ScoredRecord Float)),
      { a with runId := stamp.runId, evaluatedAt := stamp.time, perSample }.report = a.report) ∧
    ∃ before after, before.length = 20 ∧ after.length = 8 ∧
      linesOf a.report = before ++
        a.additional.entries.flatMap (fun entry => [s!"{entry.1}: {fourPlaces entry.2}", ""]) ++ after := by
  refine ⟨?_, fun _ _ => rfl, ?_⟩
  · rw [← lines_eq_iff]
    constructor
    · intro h
      rw [← linesOf_report ha, ← linesOf_report hb, h]
    · exact congrArg ("\n".intercalate)
  · refine ⟨opening a ++ a.coreScores.flatMap coreLines, closing a, ?_, length_closing a, linesOf_report ha⟩
    rw [List.length_append, length_opening, length_coreLines]

/-- A result with the same score for each standard metric. -/
def uniform (runId : Uuid) (score : Float) (additional : Dictionary Float) : EvaluationResult Float where
  runId := runId
  faithfulness := score
  answerRelevancy := score
  contextPrecision := score
  contextRecall := score
  additional := additional
  perSample := []
  sampleCount := 2
  evaluatedAt := ⟨⟨2024, 2, 29⟩, 28800, 0⟩

/-- The additional metric has the name of the line for the overall score, or looks like a rule. -/
theorem report_eq_iff_showsSame_headings :
    (∀ name ∈ (Dictionary.empty.insert "Overall score" (0.25 : Float)).keys, '\n' ∉ name.toList) ∧
    (∀ name ∈ (Dictionary.empty.insert lightRule (0.25 : Float)).keys, '\n' ∉ name.toList) ∧
    (uniform ⟨1⟩ 0.5 (Dictionary.empty.insert "Overall score" 0.25)).report =
      (uniform ⟨2⟩ 0.50001 (Dictionary.empty.insert "Overall score" 0.24999)).report ∧
    (uniform ⟨1⟩ 0.5 (Dictionary.empty.insert "Overall score" 0.25)).report ≠
      (uniform ⟨1⟩ 0.5 (Dictionary.empty.insert lightRule 0.25)).report := by
  have hscore : ∀ name ∈ (Dictionary.empty.insert "Overall score" (0.25 : Float)).keys, '\n' ∉ name.toList := by
    decide +kernel
  have hscore' : ∀ name ∈ (Dictionary.empty.insert "Overall score" (0.24999 : Float)).keys, '\n' ∉ name.toList := by
    decide +kernel
  have hrule : ∀ name ∈ (Dictionary.empty.insert lightRule (0.25 : Float)).keys, '\n' ∉ name.toList := by
    decide +kernel
  refine ⟨hscore, hrule, (report_eq_iff_showsSame hscore hscore').1.2 ?_, fun h => ?_⟩
  · exact ⟨rfl, fun metric => by cases metric <;> decide +kernel, by decide +kernel, by decide +kernel,
      by decide +kernel⟩
  · have hadditional := ((report_eq_iff_showsSame hscore hrule).1.1 h).additional
    revert hadditional
    decide +kernel

end EvaluationResult

end GroundedQA
