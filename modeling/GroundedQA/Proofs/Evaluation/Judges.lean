import GroundedQA.Evaluation.Judge
import GroundedQA.Proofs.Answering.Calls
import GroundedQA.Proofs.Evaluation.Exact
import Mathlib.Algebra.BigOperators.Group.Finset.Basic
import Mathlib.Algebra.Order.BigOperators.Group.Finset
/-!
# What metrics ask of a judge

A judge is any language model, so its replies may depend on all that it was asked before. Either each prompt gets a
verdict in its turn (`GivesVerdicts`), or there is a first one that does not (`Refuses`). A judge that takes notes
shows which prompts were put to it (`Scored`), and `AsksInTurn` is what all metrics with a judge have in common. Over
exact numbers they score the part of the verdicts that are yes (`shareOfYes`) or their average precision
(`meanPrecision`).
-/

namespace GroundedQA.Evaluation

open Text

variable {σ : Type} {core : CoreMetric} {judge : LanguageModel σ} {s between s' : σ} {prompt : String}
  {prompts before : List String} {verdict : Bool} {verdicts : List Bool} {e : EvaluationError}

/-! ## The replies of a judge -/

/-- Asked in the state `s`, the judge replies with a verdict and is then in the state `s'`. -/
def GivesVerdict (judge : LanguageModel σ) (s : σ) (prompt : String) (verdict : Bool) (s' : σ) : Prop :=
  ∃ reply, (judge.complete prompt).run.run s = (.ok reply, s') ∧ verdict? (trim reply.toList) = some verdict

/-- Asked in the state `s`, the judge gives no verdict: it fails, or none can be read in its reply. -/
def Refuses (core : CoreMetric) (judge : LanguageModel σ) (s : σ) (prompt : String) (e : EvaluationError) (s' : σ) :
    Prop :=
  (∃ cause, (judge.complete prompt).run.run s = (.error cause, s') ∧ e = .retrieval cause) ∨
  ∃ reply, (judge.complete prompt).run.run s = (.ok reply, s') ∧ verdict? (trim reply.toList) = none ∧
    e = core.fault (.unrecognisedVerdict (stripped reply))

/-- Asked one prompt after the other, the judge replies to each with a verdict. -/
inductive GivesVerdicts (judge : LanguageModel σ) : σ → List String → List Bool → σ → Prop
  | nil (s : σ) : GivesVerdicts judge s [] [] s
  | cons {s between s' : σ} {prompt : String} {prompts : List String} {verdict : Bool} {verdicts : List Bool} :
      GivesVerdict judge s prompt verdict between → GivesVerdicts judge between prompts verdicts s' →
      GivesVerdicts judge s (prompt :: prompts) (verdict :: verdicts) s'

theorem GivesVerdicts.length_eq (h : GivesVerdicts judge s prompts verdicts s') : verdicts.length = prompts.length := by
  induction h with
  | nil => rfl
  | cons _ _ ih => rw [List.length_cons, List.length_cons, ih]

theorem gives_or_refuses (core : CoreMetric) (judge : LanguageModel σ) (s : σ) (prompt : String) :
    (∃ verdict s', GivesVerdict judge s prompt verdict s') ∨ ∃ e s', Refuses core judge s prompt e s' := by
  cases hcomplete : (judge.complete prompt).run.run s with
  | mk result s' =>
    cases result with
    | error cause => exact .inr ⟨_, s', .inl ⟨cause, hcomplete, rfl⟩⟩
    | ok reply =>
      cases hverdict : verdict? (trim reply.toList) with
      | some verdict => exact .inl ⟨verdict, s', reply, hcomplete, hverdict⟩
      | none => exact .inr ⟨_, s', .inr ⟨reply, hcomplete, hverdict, rfl⟩⟩

/-- Each prompt gets a verdict, or there is a first one that does not. -/
theorem verdicts_or_refusal (core : CoreMetric) (judge : LanguageModel σ) (s : σ) (prompts : List String) :
    (∃ verdicts s', GivesVerdicts judge s prompts verdicts s') ∨
    ∃ before prompt after verdicts between e s', prompts = before ++ prompt :: after ∧
      GivesVerdicts judge s before verdicts between ∧ Refuses core judge between prompt e s' := by
  induction prompts generalizing s with
  | nil => exact .inl ⟨[], s, .nil s⟩
  | cons prompt prompts ih =>
    rcases gives_or_refuses core judge s prompt with ⟨verdict, s₁, hgives⟩ | ⟨e, s₁, hrefuses⟩
    · rcases ih s₁ with ⟨verdicts, s', hall⟩ | ⟨before, last, after, verdicts, between, e, s', rfl, hbefore, hrefuses⟩
      · exact .inl ⟨_, s', .cons hgives hall⟩
      · exact .inr ⟨prompt :: before, last, after, _, between, e, s', rfl, .cons hgives hbefore, hrefuses⟩
    · exact .inr ⟨[], prompt, prompts, [], s, e, s₁, rfl, .nil s, hrefuses⟩

/-! ## Asking -/

theorem toScoring_run {α : Type} (call : Call σ α) (s : σ) :
    call.toScoring.run.run s = ((call.run.run s).1.mapError .retrieval, (call.run.run s).2) := rfl

theorem toScoring_bind_run_of_ok {α β : Type} {call : Call σ α} {a : α} (h : call.run.run s = (.ok a, s'))
    (f : α → Scoring σ β) : (call.toScoring >>= f).run.run s = (f a).run.run s' := by
  rw [run_bind, toScoring_run, h]
  rfl

theorem toScoring_bind_run_of_error {α β : Type} {call : Call σ α} {cause : RetrievalError}
    (h : call.run.run s = (.error cause, s')) (f : α → Scoring σ β) :
    (call.toScoring >>= f).run.run s = (.error (.retrieval cause), s') := by
  rw [run_bind, toScoring_run, h]
  rfl

theorem askJudge_run_of_gives (core : CoreMetric) (h : GivesVerdict judge s prompt verdict s') :
    (askJudge core judge prompt).run.run s = (.ok verdict, s') := by
  obtain ⟨reply, hcomplete, hverdict⟩ := h
  have hread : readVerdict reply = .ok verdict := by rw [readVerdict, hverdict]
  rw [askJudge, toScoring_bind_run_of_ok hcomplete, hread]
  rfl

theorem askJudge_run_of_refuses (h : Refuses core judge s prompt e s') :
    (askJudge core judge prompt).run.run s = (.error e, s') := by
  rw [askJudge]
  rcases h with ⟨cause, hcomplete, rfl⟩ | ⟨reply, hcomplete, hverdict, rfl⟩
  · exact toScoring_bind_run_of_error hcomplete _
  · have hread : readVerdict reply = .error (.unrecognisedVerdict (stripped reply)) := by rw [readVerdict, hverdict]
    rw [toScoring_bind_run_of_ok hcomplete, hread]
    rfl

theorem GivesVerdicts.inTurn (core : CoreMetric) (h : GivesVerdicts judge s prompts verdicts s') :
    InTurn (askJudge core judge) s prompts verdicts s' := by
  induction h with
  | nil s => exact .nil s
  | cons hgives _ ih => exact .cons (askJudge_run_of_gives core hgives) ih

theorem askAll_run_of_verdicts (core : CoreMetric) (h : GivesVerdicts judge s prompts verdicts s') :
    (askAll core judge prompts).run.run s = (.ok verdicts, s') :=
  mapM_run_of_inTurn (h.inTurn core)

theorem askAll_run_of_refusal (h : GivesVerdicts judge s before verdicts between)
    (hrefuses : Refuses core judge between prompt e s') (after : List String) :
    (askAll core judge (before ++ prompt :: after)).run.run s = (.error e, s') :=
  mapM_run_of_failure (h.inTurn core) (askJudge_run_of_refuses hrefuses) after

/-! ## Judges that take notes -/

variable (notes : List Asked)

theorem complete_noted_run (judge : LanguageModel σ) (prompt : String) (s : σ) :
    (judge.noted.complete prompt).run.run (s, notes) =
      (((judge.complete prompt).run.run s).1, ((judge.complete prompt).run.run s).2, notes ++ [.complete prompt]) :=
  Call.noted_run ..

theorem GivesVerdict.noted (h : GivesVerdict judge s prompt verdict s') :
    GivesVerdict judge.noted (s, notes) prompt verdict (s', notes ++ [.complete prompt]) := by
  obtain ⟨reply, hcomplete, hverdict⟩ := h
  exact ⟨reply, by rw [complete_noted_run, hcomplete], hverdict⟩

theorem Refuses.noted (h : Refuses core judge s prompt e s') :
    Refuses core judge.noted (s, notes) prompt e (s', notes ++ [.complete prompt]) := by
  refine h.imp ?_ ?_
  · rintro ⟨cause, hcomplete, he⟩
    exact ⟨cause, by rw [complete_noted_run, hcomplete], he⟩
  · rintro ⟨reply, hcomplete, hverdict, he⟩
    exact ⟨reply, by rw [complete_noted_run, hcomplete], hverdict, he⟩

theorem GivesVerdicts.noted (h : GivesVerdicts judge s prompts verdicts s') :
    GivesVerdicts judge.noted (s, notes) prompts verdicts (s', notes ++ prompts.map .complete) := by
  induction h generalizing notes with
  | nil s =>
    rw [List.map_nil, List.append_nil]
    exact .nil _
  | @cons _ _ _ prompt _ _ _ hgives _ ih =>
    rw [List.map_cons, List.append_cons]
    exact .cons (hgives.noted notes) (ih _)

/-! ## Asking in turn -/

/-- A metric with exact scores for each judge that it may be given. -/
abbrev JudgeMetric := ∀ τ, LanguageModel τ → Metric τ Exact

variable {metric : JudgeMetric} {record : EvaluationRecord}

/-- To score the record in the state `s` comes to the result, with these prompts to the judge, in this order and no
others. -/
def Scored (metric : JudgeMetric) (judge : LanguageModel σ) (record : EvaluationRecord) (s : σ) (asked : List String)
    (result : Except EvaluationError Exact) (s' : σ) : Prop :=
  ((metric σ judge).score record).run.run s = (result, s') ∧
  ∀ notes : List Asked, ((metric _ judge.noted).score record).run.run (s, notes) =
    (result, s', notes ++ asked.map .complete)

/-- To score the record the metric puts the prompts to the judge, one after the other. When each gets a verdict, the
score is a value of the verdicts within `0` and `1`. Otherwise it fails as the first reply without a verdict does, and
asks no more. -/
structure AsksInTurn (core : CoreMetric) (metric : JudgeMetric) (judge : LanguageModel σ) (record : EvaluationRecord)
    (prompts : List String) (value : List Bool → ℚ) : Prop where
  scores : ∀ s verdicts s', GivesVerdicts judge s prompts verdicts s' → verdicts.length = prompts.length ∧
    0 ≤ value verdicts ∧ value verdicts ≤ 1 ∧ Scored metric judge record s prompts (.ok (.finite (value verdicts))) s'
  stops : ∀ s before prompt after verdicts between e s', prompts = before ++ prompt :: after →
    GivesVerdicts judge s before verdicts between → Refuses core judge between prompt e s' →
    Scored metric judge record s (before ++ [prompt]) (.error e) s'
  either : ∀ s, (∃ verdicts s', GivesVerdicts judge s prompts verdicts s') ∨
    ∃ before prompt after verdicts between e s', prompts = before ++ prompt :: after ∧
      GivesVerdicts judge s before verdicts between ∧ Refuses core judge between prompt e s'
  succeeds_iff : ∀ s, (∃ score s', ((metric σ judge).score record).run.run s = (.ok score, s')) ↔
    ∃ verdicts s', GivesVerdicts judge s prompts verdicts s'

section

variable (score : List Bool → Exact)

theorem scoring_run_of_verdicts (h : GivesVerdicts judge s prompts verdicts s') :
    (do return score (← askAll core judge prompts) : Scoring σ Exact).run.run s = (.ok (score verdicts), s') := by
  rw [run_bind, askAll_run_of_verdicts core h]
  rfl

theorem scoring_run_of_refusal (h : GivesVerdicts judge s before verdicts between)
    (hrefuses : Refuses core judge between prompt e s') (after : List String) :
    (do return score (← askAll core judge (before ++ prompt :: after)) : Scoring σ Exact).run.run s =
      (.error e, s') := by
  rw [run_bind, askAll_run_of_refusal h hrefuses]

/-- Scoring succeeds exactly when each prompt gets a verdict. -/
theorem scoring_succeeds_iff :
    (∃ x s', (do return score (← askAll core judge prompts) : Scoring σ Exact).run.run s = (.ok x, s')) ↔
      ∃ verdicts s', GivesVerdicts judge s prompts verdicts s' := by
  constructor
  · rintro ⟨x, s', hrun⟩
    rcases verdicts_or_refusal core judge s prompts with hall | ⟨_, _, after, _, _, _, _, rfl, h, hrefuses⟩
    · exact hall
    · rw [scoring_run_of_refusal score h hrefuses after] at hrun
      cases hrun
  · rintro ⟨verdicts, s', h⟩
    exact ⟨_, s', scoring_run_of_verdicts score h⟩

/-- What a metric does that puts prompts to the judge and then makes a score of the verdicts. -/
theorem asksInTurn {value : List Bool → ℚ} (judge : LanguageModel σ)
    (hmetric : ∀ τ (judge : LanguageModel τ),
      (metric τ judge).score record = do return score (← askAll core judge prompts))
    (hscore : ∀ verdicts, verdicts.length = prompts.length → score verdicts = .finite (value verdicts))
    (hunit : ∀ verdicts, 0 ≤ value verdicts ∧ value verdicts ≤ 1) :
    AsksInTurn core metric judge record prompts value := by
  constructor
  case scores =>
    intro s verdicts s' h
    refine ⟨h.length_eq, (hunit verdicts).1, (hunit verdicts).2, ?_, fun notes => ?_⟩
    · rw [hmetric, scoring_run_of_verdicts score h, hscore verdicts h.length_eq]
    · rw [hmetric, scoring_run_of_verdicts score (h.noted notes), hscore verdicts h.length_eq]
  case stops =>
    rintro s before prompt after verdicts between e s' rfl h hrefuses
    refine ⟨?_, fun notes => ?_⟩
    · rw [hmetric, scoring_run_of_refusal score h hrefuses]
    · rw [hmetric, scoring_run_of_refusal score (h.noted notes) (hrefuses.noted _), List.map_append, List.append_assoc]
      rfl
  case either => exact fun s => verdicts_or_refusal core judge s prompts
  case succeeds_iff =>
    intro s
    rw [hmetric]
    exact scoring_succeeds_iff score

end

/-! ## The values of verdicts -/

/-- The part of the verdicts that are yes. -/
def shareOfYes (verdicts : List Bool) : ℚ :=
  verdicts.count true / verdicts.length

theorem shareOfYes_mem_unit (verdicts : List Bool) : 0 ≤ shareOfYes verdicts ∧ shareOfYes verdicts ≤ 1 := by
  have hcount : (verdicts.count true : ℚ) ≤ verdicts.length := by exact_mod_cast List.count_le_length
  exact ⟨div_nonneg (Nat.cast_nonneg _) (Nat.cast_nonneg _), div_le_one_of_le₀ hcount (Nat.cast_nonneg _)⟩

theorem partTrue_eq (h : verdicts ≠ []) : partTrue verdicts = Exact.finite (shareOfYes verdicts) :=
  Exact.finite_div _ (by simpa using h)

/-- The part of yes among the first verdicts. -/
def precisionAt (verdicts : List Bool) (rank : ℕ) : ℚ :=
  shareOfYes (verdicts.take rank)

/-- The precisions at the ranks with a yes, added up. -/
def sumPrecision (verdicts : List Bool) : ℚ :=
  ∑ i ∈ Finset.range verdicts.length, if verdicts[i]? = some true then precisionAt verdicts (i + 1) else 0

/-- The mean of the precisions at the ranks with a yes; without any it is `0`, the value of a quotient over zero. -/
def meanPrecision (verdicts : List Bool) : ℚ :=
  sumPrecision verdicts / verdicts.count true

theorem sumPrecision_concat (verdicts : List Bool) (verdict : Bool) :
    sumPrecision (verdicts ++ [verdict]) =
      sumPrecision verdicts + if verdict then shareOfYes (verdicts ++ [verdict]) else 0 := by
  rw [sumPrecision, List.length_append, List.length_singleton, Finset.sum_range_succ]
  congr 1
  · refine Finset.sum_congr rfl fun i hi => ?_
    have hlt : i < verdicts.length := Finset.mem_range.1 hi
    rw [List.getElem?_append_left hlt, precisionAt, List.take_append_of_le_length (by omega), ← precisionAt]
  · rw [List.getElem?_concat_length, precisionAt, List.take_of_length_le (by simp)]
    simp

theorem sumPrecision_bounds (verdicts : List Bool) :
    0 ≤ sumPrecision verdicts ∧ sumPrecision verdicts ≤ verdicts.count true := by
  induction verdicts using List.reverseRecOn with
  | nil => simp [sumPrecision]
  | append_singleton verdicts verdict ih =>
    obtain ⟨hlower, hupper⟩ := shareOfYes_mem_unit (verdicts ++ [verdict])
    rw [sumPrecision_concat, List.count_append]
    cases verdict with
    | false => simpa using ih
    | true =>
      simp only [if_true, List.count_singleton_self, Nat.cast_add, Nat.cast_one]
      exact ⟨add_nonneg ih.1 hlower, add_le_add ih.2 hupper⟩

theorem meanPrecision_mem_unit (verdicts : List Bool) : 0 ≤ meanPrecision verdicts ∧ meanPrecision verdicts ≤ 1 := by
  obtain ⟨hlower, hupper⟩ := sumPrecision_bounds verdicts
  exact ⟨div_nonneg hlower (Nat.cast_nonneg _), div_le_one_of_le₀ hupper (Nat.cast_nonneg _)⟩

/-- After the verdicts in `done` the loop has counted these, and what it makes of the others is their mean precision. -/
theorem averagePrecisionFrom_eq (done verdicts : List Bool) :
    averagePrecisionFrom (done.count true) done.length (.finite (sumPrecision done)) verdicts =
      Exact.finite (meanPrecision (done ++ verdicts)) := by
  induction verdicts generalizing done with
  | nil =>
    rw [averagePrecisionFrom, List.append_nil]
    split
    · next h => simp [meanPrecision, h]
    · next h => exact Exact.finite_div _ (Nat.cast_ne_zero.2 h)
  | cons verdict verdicts ih =>
    have hlength : (done ++ [verdict]).length = done.length + 1 := List.length_append
    rw [List.append_cons, ← ih, hlength, sumPrecision_concat]
    cases verdict with
    | false =>
      have hcount : (done ++ [false]).count true = done.count true := by simp
      rw [averagePrecisionFrom, hcount, if_neg Bool.false_ne_true, add_zero]
    | true =>
      have hcount : (done ++ [true]).count true = done.count true + 1 := by simp
      have hshare : Scalar.fraction (done.count true + 1) (done.length + 1) =
          Exact.finite (shareOfYes (done ++ [true])) := by
        rw [shareOfYes, hcount, hlength]
        exact Exact.finite_div _ (Nat.cast_ne_zero.2 (Nat.succ_ne_zero _))
      rw [averagePrecisionFrom, hcount, hshare, if_pos rfl, Exact.finite_add]

theorem averagePrecision_eq (verdicts : List Bool) :
    averagePrecision verdicts = Exact.finite (meanPrecision verdicts) :=
  averagePrecisionFrom_eq [] verdicts

/-! ## The metrics -/

/-- What the metrics do that judge the statements of a text. -/
structure JudgesStatements (core : CoreMetric) (metric : JudgeMetric) (judge : LanguageModel σ)
    (record : EvaluationRecord) (text : String) (prompt : String → String → String) : Prop where
  no_statements : statements text = [] → ∀ s, Scored metric judge record s [] (.ok .nan) s
  no_contexts : statements text ≠ [] → record.contexts = [] → ∀ s, Scored metric judge record s [] (.ok (.finite 0)) s
  judged : statements text ≠ [] → record.contexts ≠ [] →
    AsksInTurn core metric judge record ((statements text).map (prompt (numberedContexts record.contexts))) shareOfYes

theorem judgesStatements {text : String} {prompt : String → String → String} (judge : LanguageModel σ)
    (hmetric : ∀ τ (judge : LanguageModel τ), (metric τ judge).score record =
      scoreStatements core judge text record.contexts prompt) :
    JudgesStatements core metric judge record text prompt := by
  have hunasked {x : Exact} (hscore : ∀ τ (judge : LanguageModel τ), (metric τ judge).score record = pure x) (s : σ) :
      Scored metric judge record s [] (.ok x) s := by
    refine ⟨by rw [hscore]; rfl, fun notes => ?_⟩
    rw [hscore, List.map_nil, List.append_nil]
    rfl
  constructor
  case no_statements =>
    refine fun hnone => hunasked fun τ judge => ?_
    rw [hmetric, scoreStatements, hnone]
    rfl
  case no_contexts =>
    refine fun hsome hnone => hunasked fun τ judge => ?_
    rw [hmetric, scoreStatements, if_neg (by simpa using hsome), hnone]
    rfl
  case judged =>
    intro hsome hcontexts
    refine asksInTurn partTrue judge (fun τ judge => ?_) (fun verdicts hlength => ?_) shareOfYes_mem_unit
    · rw [hmetric, scoreStatements, if_neg (by simpa using hsome), if_neg (by simpa using hcontexts)]
    · refine partTrue_eq fun hnil => hsome ?_
      rw [hnil, List.length_map] at hlength
      exact List.length_eq_zero_iff.1 hlength.symm

theorem meanPrecision_nil : meanPrecision [] = 0 := by
  simp [meanPrecision, sumPrecision]

/-- Faithfulness asks of the statements of the answer, context recall of those of the reference answer, and context
precision of the contexts, one prompt for each, in their order, up to the first reply without a verdict. Where there is
nothing to ask of, and where no contexts are there to judge statements by, the judge is not asked. -/
theorem judge_contract (judge : LanguageModel σ) (record : EvaluationRecord) :
    JudgesStatements .faithfulness (fun _ => Metric.faithfulness) judge record record.answer supportPrompt ∧
    JudgesStatements .contextRecall (fun _ => Metric.contextRecall) judge record record.groundTruth
      (attributionPrompt record.question) ∧
    AsksInTurn .contextPrecision (fun _ => Metric.contextPrecision) judge record
      (record.contexts.map (usefulnessPrompt record.question · record.groundTruth)) meanPrecision ∧
    (record.contexts = [] → ∀ s, Scored (fun _ => Metric.contextPrecision) judge record s [] (.ok (.finite 0)) s) := by
  have hprecision : AsksInTurn .contextPrecision (fun _ => Metric.contextPrecision) judge record
      (record.contexts.map (usefulnessPrompt record.question · record.groundTruth)) meanPrecision :=
    asksInTurn averagePrecision judge (fun _ _ => rfl) (fun verdicts _ => averagePrecision_eq verdicts)
      meanPrecision_mem_unit
  refine ⟨judgesStatements judge fun _ _ => rfl, judgesStatements judge fun _ _ => rfl, hprecision, fun hnone s => ?_⟩
  rw [hnone] at hprecision
  rw [← meanPrecision_nil]
  exact (hprecision.scores s [] s (.nil s)).2.2.2

/-- A judge whose reply depends on how often it was asked: yes, then no, then nothing to be read, then a failure. -/
def tiringJudge : LanguageModel ℕ where
  complete _ := ExceptT.mk fun n =>
    match n with
    | 0 => (.ok "**Yes** - it says so", 1)
    | 1 => (.ok "No.", 2)
    | 2 => (.ok " perhaps ", 3)
    | n + 3 => (.error (.provider "judge" "busy"), n + 4)

def piRecord : EvaluationRecord where
  question := "What is pi?"
  answer := "Pi is 3.14. It is round!"
  contexts := ["circles", "squares"]
  groundTruth := "3.14... I think?\n..."
  referenceContexts := none

/-- The answer is judged; then the judge is asked of a statement of the reference answer and of a context, both times
too often. -/
theorem judge_contract_pi :
    Scored (fun _ => Metric.faithfulness) tiringJudge piRecord 0
      [supportPrompt "[1] circles\n\n[2] squares" "Pi is 3.14.",
        supportPrompt "[1] circles\n\n[2] squares" "It is round!"]
      (.ok (.finite (1 / 2))) 2 ∧
    Scored (fun _ => Metric.contextRecall) tiringJudge piRecord 2
      [attributionPrompt "What is pi?" "[1] circles\n\n[2] squares" "3.14..."]
      (.error (.metric "context_recall" (.unrecognisedVerdict "perhaps"))) 3 ∧
    Scored (fun _ => Metric.contextPrecision) tiringJudge piRecord 0
      [usefulnessPrompt "What is pi?" "circles" "3.14... I think?\n...",
        usefulnessPrompt "What is pi?" "squares" "3.14... I think?\n..."]
      (.ok (.finite 1)) 2 ∧
    Scored (fun _ => Metric.faithfulness) tiringJudge { piRecord with answer := "...", contexts := [] } 0 []
      (.ok .nan) 0 ∧
    Scored (fun _ => Metric.faithfulness) tiringJudge { piRecord with contexts := [] } 0 [] (.ok (.finite 0)) 0 ∧
    Scored (fun _ => Metric.contextPrecision) tiringJudge { piRecord with contexts := [] } 0 []
      (.ok (.finite 0)) 0 := by
  have hanswer : statements piRecord.answer = ["Pi is 3.14.", "It is round!"] := by decide +kernel
  have hreference : statements piRecord.groundTruth = ["3.14...", "I think?"] := by decide +kernel
  have hcontexts : numberedContexts piRecord.contexts = "[1] circles\n\n[2] squares" := by decide +kernel
  have hyes (prompt : String) : GivesVerdict tiringJudge 0 prompt true 1 :=
    ⟨"**Yes** - it says so", rfl, by decide +kernel⟩
  have hno (prompt : String) : GivesVerdict tiringJudge 1 prompt false 2 := ⟨"No.", rfl, by decide +kernel⟩
  have hneither (prompt : String) :
      Refuses .contextRecall tiringJudge 2 prompt (.metric "context_recall" (.unrecognisedVerdict "perhaps")) 3 :=
    .inr ⟨" perhaps ", rfl, by decide +kernel, by decide +kernel⟩
  have hboth (first second : String) : GivesVerdicts tiringJudge 0 [first, second] [true, false] 2 :=
    .cons (hyes first) (.cons (hno second) (.nil 2))
  obtain ⟨hfaithful, hrecall, hprecision, -⟩ := judge_contract tiringJudge piRecord
  obtain ⟨hsilent, -, -, -⟩ := judge_contract tiringJudge { piRecord with answer := "...", contexts := [] }
  obtain ⟨hbare, -, -, hnothing⟩ := judge_contract tiringJudge { piRecord with contexts := [] }
  have hfaithful := hfaithful.judged (by rw [hanswer]; decide) (by decide)
  have hrecall := hrecall.judged (by rw [hreference]; decide) (by decide)
  rw [hanswer, hcontexts] at hfaithful
  rw [hreference, hcontexts] at hrecall
  refine ⟨?_, ?_, ?_, hsilent.no_statements (by decide +kernel) 0, hbare.no_contexts (by decide +kernel) rfl 0,
    hnothing rfl 0⟩
  · have hshare : shareOfYes [true, false] = 1 / 2 := by decide +kernel
    exact hshare ▸ (hfaithful.scores 0 _ 2 (hboth _ _)).2.2.2
  · exact hrecall.stops 2 [] _ _ [] 2 _ 3 rfl (.nil 2) (hneither _)
  · have hmean : meanPrecision [true, false] = 1 := by decide +kernel
    exact hmean ▸ (hprecision.scores 0 _ 2 (hboth _ _)).2.2.2

end GroundedQA.Evaluation
