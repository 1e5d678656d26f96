import GroundedQA.Evaluation.Relevancy
import GroundedQA.Proofs.Evaluation.Judges
import GroundedQA.Proofs.Number.Order
/-!
# What answer relevancy asks for its score

The model and the embedder are any, so what they give may depend on all that they were asked before. To score a record
takes one of four courses (`Course`): nothing is asked for a blank answer; a prompt fails, and no more is asked; no
reply poses a question; or the questions posed are compared with the one of the record (`Compared`). Each course says
what is asked, in its order, and what the score or the failure is, and for any providers scoring takes one and does what
it says (`relevancy_contract`).
-/

namespace GroundedQA.Evaluation

open Text Number

variable {σ : Type}

/-! ## The questions in replies -/

/-- What is left of a reply without the white space around it, one label at its start and the white space after that. -/
def Poses (reply question : String) : Prop :=
  (∃ rest, trim reply.toList = "Question:".toList ++ rest ∧ question.toList = trim rest) ∨
  ¬"Question:".toList <+: trim reply.toList ∧ question.toList = trim reply.toList

/-- The questions that replies pose, in their order, without those that are empty. -/
inductive Keeps : List String → List String → Prop
  | nil : Keeps [] []
  | drop {reply : String} {replies kept : List String} :
      Poses reply "" → Keeps replies kept → Keeps (reply :: replies) kept
  | keep {reply question : String} {replies kept : List String} :
      Poses reply question → question ≠ "" → Keeps replies kept → Keeps (reply :: replies) (question :: kept)

theorem toList_questionOf_of_label {reply : String} {rest : List Char}
    (h : trim reply.toList = "Question:".toList ++ rest) : (questionOf reply).toList = trim rest := by
  have hafter : after? questionLabel.toList (trim reply.toList) = some rest := after?_eq_some_iff.2 h
  simp only [questionOf, hafter, String.toList_ofList]

theorem toList_questionOf_of_plain {reply : String} (h : ¬"Question:".toList <+: trim reply.toList) :
    (questionOf reply).toList = trim reply.toList := by
  have hafter : after? questionLabel.toList (trim reply.toList) = none := by
    refine Option.eq_none_iff_forall_ne_some.2 fun rest hsome => h ?_
    exact ⟨rest, (after?_eq_some_iff.1 hsome).symm⟩
  simp only [questionOf, hafter, String.toList_ofList]

theorem poses_iff {reply question : String} : Poses reply question ↔ question = questionOf reply := by
  constructor
  · rintro (⟨rest, hrest, hquestion⟩ | ⟨hplain, hquestion⟩)
    · exact String.toList_inj.1 (hquestion.trans (toList_questionOf_of_label hrest).symm)
    · exact String.toList_inj.1 (hquestion.trans (toList_questionOf_of_plain hplain).symm)
  · rintro rfl
    by_cases hlabel : "Question:".toList <+: trim reply.toList
    · obtain ⟨rest, hrest⟩ := hlabel
      exact .inl ⟨rest, hrest.symm, toList_questionOf_of_label hrest.symm⟩
    · exact .inr ⟨hlabel, toList_questionOf_of_plain hlabel⟩

theorem keeps_iff {replies kept : List String} :
    Keeps replies kept ↔ kept = (replies.map questionOf).filter (!·.isEmpty) := by
  constructor
  · intro h
    induction h with
    | nil => rfl
    | drop hposes _ ih => simp [← poses_iff.1 hposes, ih]
    | keep hposes hne _ ih => simp [← poses_iff.1 hposes, hne, ih]
  · rintro rfl
    induction replies with
    | nil => exact .nil
    | cons reply replies ih =>
      by_cases hempty : questionOf reply = ""
      · rw [List.map_cons, List.filter_cons_of_neg (by simp [hempty])]
        exact .drop (poses_iff.2 hempty.symm) ih
      · rw [List.map_cons, List.filter_cons_of_pos (by simp [hempty])]
        exact .keep (poses_iff.2 rfl) hempty ih

/-! ## Scores -/

/-- The score is the larger of `0` and a number, and `0` when that is no number. -/
structure IsFloored (x score : Float) : Prop where
  of_pos : 0 < x → score = x
  of_not_pos : ¬0 < x → score = 0
  isNaN : score.isNaN = false
  not_lt_zero : ¬score < 0
  not_lt : ¬score < x

/-- The mean of the similarities of an embedding to others. -/
def meanCosine (asked : Embedding) (vectors : List Embedding) : Float :=
  Number.sum (vectors.map fun vector => widen (cosineSimilarity asked vector)) / Float.ofNat vectors.length

theorem meanSimilarity_eq (asked : Embedding) (vectors : List Embedding) :
    meanSimilarity asked vectors = meanCosine asked vectors := by
  rw [meanSimilarity, Scalar.mean, List.length_map]
  rfl

theorem isFloored_atLeastZero (x : Float) : IsFloored x (Scalar.atLeastZero x) := by
  have hvalue : Scalar.atLeastZero x = if 0 < x then x else 0 := rfl
  rw [hvalue]
  by_cases hpos : 0 < x
  · rw [if_pos hpos]
    exact ⟨fun _ => rfl, fun h => absurd hpos h, (float_isNaN_of_lt hpos).2, float_lt_asymm hpos,
      fun h => float_lt_asymm h h⟩
  · rw [if_neg hpos]
    exact ⟨fun h => absurd h hpos, fun _ => rfl, rfl, fun h => float_lt_asymm h h, hpos⟩

theorem IsFloored.eq_atLeastZero {x score : Float} (h : IsFloored x score) : score = Scalar.atLeastZero x := by
  by_cases hpos : 0 < x
  · exact (h.of_pos hpos).trans ((isFloored_atLeastZero x).of_pos hpos).symm
  · exact (h.of_not_pos hpos).trans ((isFloored_atLeastZero x).of_not_pos hpos).symm

/-! ## Courses -/

/-- The prompts for questions that an answer responds to, one an attempt. -/
def questionPrompts (answer : String) (attempts : ℕ) : List String :=
  (List.range' 1 attempts).map (questionPrompt answer)

/-- What is asked to compare a question with those kept, and what comes of it: the question is embedded, and then the
batch of those kept. -/
inductive Compared (embedder : Embedder σ) (question : String) (kept : List String) (s : σ) :
    List Asked → Except EvaluationError Float → σ → Prop
  | questionFails {e : RetrievalError} {s' : σ} (hquestion : (embedder.embed question).run.run s = (.error e, s')) :
      Compared embedder question kept s [.embed question] (.error (.retrieval e)) s'
  | batchFails {asked : Embedding} {between s' : σ} {e : RetrievalError}
      (hquestion : (embedder.embed question).run.run s = (.ok asked, between))
      (hbatch : (embedder.embedBatch kept).run.run between = (.error e, s')) :
      Compared embedder question kept s [.embed question, .embedBatch kept] (.error (.retrieval e)) s'
  | miscounted {asked : Embedding} {vectors : List Embedding} {between s' : σ}
      (hquestion : (embedder.embed question).run.run s = (.ok asked, between))
      (hbatch : (embedder.embedBatch kept).run.run between = (.ok vectors, s'))
      (hlength : vectors.length ≠ kept.length) :
      Compared embedder question kept s [.embed question, .embedBatch kept]
        (.error (.metric "answer_relevancy" (.embeddingCount kept.length vectors.length))) s'
  | scored {asked : Embedding} {vectors : List Embedding} {score : Float} {between s' : σ}
      (hquestion : (embedder.embed question).run.run s = (.ok asked, between))
      (hbatch : (embedder.embedBatch kept).run.run between = (.ok vectors, s'))
      (hlength : vectors.length = kept.length) (hscore : IsFloored (meanCosine asked vectors) score) :
      Compared embedder question kept s [.embed question, .embedBatch kept] (.ok score) s'

/-- What is asked to score a record, and what comes of it. -/
inductive Course (model : LanguageModel σ) (embedder : Embedder σ) (record : EvaluationRecord) (attempts : ℕ) (s : σ) :
    List Asked → Except EvaluationError Float → σ → Prop
  | blank (hblank : Text.blank record.answer) : Course model embedder record attempts s [] (.ok 0) s
  | refused {before after replies : List String} {prompt : String} {between s' : σ} {e : RetrievalError}
      (hanswer : ¬Text.blank record.answer)
      (hprompts : questionPrompts record.answer attempts = before ++ prompt :: after)
      (hreplies : InTurn model.complete s before replies between)
      (hprompt : (model.complete prompt).run.run between = (.error e, s')) :
      Course model embedder record attempts s ((before ++ [prompt]).map .complete) (.error (.retrieval e)) s'
  | nothingKept {replies : List String} {s' : σ} (hanswer : ¬Text.blank record.answer)
      (hreplies : InTurn model.complete s (questionPrompts record.answer attempts) replies s')
      (hkept : Keeps replies []) :
      Course model embedder record attempts s ((questionPrompts record.answer attempts).map .complete) (.ok 0) s'
  | compared {replies kept : List String} {between s' : σ} {calls : List Asked} {result : Except EvaluationError Float}
      (hanswer : ¬Text.blank record.answer)
      (hreplies : InTurn model.complete s (questionPrompts record.answer attempts) replies between)
      (hkept : Keeps replies kept) (hsome : kept ≠ [])
      (hcompared : Compared embedder record.question kept between calls result s') :
      Course model embedder record attempts s ((questionPrompts record.answer attempts).map .complete ++ calls) result s'

variable {model : LanguageModel σ} {embedder : Embedder σ} {record : EvaluationRecord} {attempts : ℕ}
  {question answer prompt : String} {before after prompts replies kept : List String} {calls : List Asked}
  {result : Except EvaluationError Float} {e : RetrievalError} {s between s' : σ}

theorem exists_compared (embedder : Embedder σ) (question : String) (kept : List String) (s : σ) :
    ∃ calls result s', Compared embedder question kept s calls result s' := by
  cases hquestion : (embedder.embed question).run.run s with
  | mk embedded between =>
    cases embedded with
    | error e => exact ⟨_, _, _, .questionFails hquestion⟩
    | ok asked =>
      cases hbatch : (embedder.embedBatch kept).run.run between with
      | mk batch s' =>
        cases batch with
        | error e => exact ⟨_, _, _, .batchFails hquestion hbatch⟩
        | ok vectors =>
          by_cases hlength : vectors.length = kept.length
          · exact ⟨_, _, _, .scored hquestion hbatch hlength (isFloored_atLeastZero _)⟩
          · exact ⟨_, _, _, .miscounted hquestion hbatch hlength⟩

/-- Some course is taken, for any providers. -/
theorem exists_course (model : LanguageModel σ) (embedder : Embedder σ) (record : EvaluationRecord) (attempts : ℕ)
    (s : σ) : ∃ calls result s', Course model embedder record attempts s calls result s' := by
  by_cases hanswer : Text.blank record.answer
  · exact ⟨_, _, _, .blank hanswer⟩
  rcases inTurn_or_failure model.complete s (questionPrompts record.answer attempts) with
    ⟨replies, between, hreplies⟩ | ⟨before, prompt, after, replies, between, e, s', hprompts, hreplies, hprompt⟩
  · have hkept := keeps_iff.2 (Eq.refl ((replies.map questionOf).filter (!·.isEmpty)))
    by_cases hnone : (replies.map questionOf).filter (!·.isEmpty) = []
    · rw [hnone] at hkept
      exact ⟨_, _, _, .nothingKept hanswer hreplies hkept⟩
    · obtain ⟨calls, result, s', hcompared⟩ := exists_compared embedder record.question _ between
      exact ⟨_, _, _, .compared hanswer hreplies hkept hnone hcompared⟩
  · exact ⟨_, _, _, .refused hanswer hprompts hreplies hprompt⟩

/-! ## What scoring comes to -/

theorem inTurn_toScoring (h : InTurn model.complete s prompts replies s') :
    InTurn (fun prompt => (model.complete prompt).toScoring) s prompts replies s' := by
  induction h with
  | nil s => exact .nil s
  | cons hprompt _ ih => exact .cons (by rw [toScoring_run, hprompt]; rfl) ih

theorem askBackFrom_eq_mapM (model : LanguageModel σ) (answer : String) (attempts first : ℕ) :
    askBackFrom model answer attempts first =
      ((List.range' first attempts).map (questionPrompt answer)).mapM fun prompt => (model.complete prompt).toScoring := by
  induction attempts generalizing first with
  | zero => rfl
  | succ attempts ih => rw [askBackFrom, ih, List.range'_succ, List.map_cons, List.mapM_cons]

theorem askBack_run_of_replies (hreplies : InTurn model.complete s (questionPrompts answer attempts) replies s')
    (hkept : Keeps replies kept) : (askBack model answer attempts).run.run s = (.ok kept, s') := by
  unfold questionPrompts at hreplies
  rw [askBack, askBackFrom_eq_mapM, run_bind, mapM_run_of_inTurn (inTurn_toScoring hreplies), keeps_iff.1 hkept]
  rfl

theorem askBack_run_of_failure (hprompts : questionPrompts answer attempts = before ++ prompt :: after)
    (hreplies : InTurn model.complete s before replies between)
    (hprompt : (model.complete prompt).run.run between = (.error e, s')) :
    (askBack model answer attempts).run.run s = (.error (.retrieval e), s') := by
  have hfails : (model.complete prompt).toScoring.run.run between = (.error (.retrieval e), s') := by
    rw [toScoring_run, hprompt]
    rfl
  unfold questionPrompts at hprompts
  rw [askBack, askBackFrom_eq_mapM, hprompts, run_bind, mapM_run_of_failure (inTurn_toScoring hreplies) hfails]

theorem scoreRelevancy_run_of_course (h : Course model embedder record attempts s calls result s') :
    (scoreRelevancy model embedder attempts record).run.run s = (result, s') := by
  unfold scoreRelevancy
  cases h with
  | blank hblank => rw [if_pos hblank]; rfl
  | refused hanswer hprompts hreplies hprompt =>
    rw [if_neg hanswer, run_bind, askBack_run_of_failure hprompts hreplies hprompt]
  | nothingKept hanswer hreplies hkept =>
    rw [if_neg hanswer, run_bind, askBack_run_of_replies hreplies hkept]
    rfl
  | compared hanswer hreplies hkept hsome hcompared =>
    rw [if_neg hanswer, run_bind, askBack_run_of_replies hreplies hkept]
    dsimp only
    rw [if_neg (by simpa using hsome)]
    cases hcompared with
    | questionFails hquestion => exact toScoring_bind_run_of_error hquestion _
    | batchFails hquestion hbatch =>
      rw [toScoring_bind_run_of_ok hquestion, toScoring_bind_run_of_error hbatch]
    | miscounted hquestion hbatch hlength =>
      rw [toScoring_bind_run_of_ok hquestion, toScoring_bind_run_of_ok hbatch, if_pos hlength]
      rfl
    | scored hquestion hbatch hlength hscore =>
      rw [toScoring_bind_run_of_ok hquestion, toScoring_bind_run_of_ok hbatch, if_neg (not_not_intro hlength),
        meanSimilarity_eq, ← hscore.eq_atLeastZero]
      rfl

/-! ## Providers that take notes -/

variable (notes : List Asked)

theorem inTurn_noted (h : InTurn model.complete s prompts replies s') :
    InTurn model.noted.complete (s, notes) prompts replies (s', notes ++ prompts.map .complete) := by
  induction h generalizing notes with
  | nil s =>
    rw [List.map_nil, List.append_nil]
    exact .nil _
  | @cons _ _ _ prompt _ _ _ hprompt _ ih =>
    rw [List.map_cons, List.append_cons]
    exact .cons (by rw [complete_noted_run, hprompt]) (ih _)

theorem Compared.noted (h : Compared embedder question kept s calls result s') :
    Compared embedder.noted question kept (s, notes) calls result (s', notes ++ calls) := by
  have hembed : ∀ {embedded between},
      (embedder.embed question).run.run s = (embedded, between) →
      (embedder.noted.embed question).run.run (s, notes) = (embedded, between, notes ++ [.embed question]) := by
    intro embedded between h
    exact (Call.noted_run ..).trans (by rw [h])
  have hembedBatch : ∀ {between batch s'}, (embedder.embedBatch kept).run.run between = (batch, s') →
      (embedder.noted.embedBatch kept).run.run (between, notes ++ [.embed question]) =
        (batch, s', notes ++ [.embed question, .embedBatch kept]) := by
    intro between batch s' h
    exact (Call.noted_run ..).trans (by rw [h, List.append_assoc]; rfl)
  cases h with
  | questionFails hquestion => exact .questionFails (hembed hquestion)
  | batchFails hquestion hbatch => exact .batchFails (hembed hquestion) (hembedBatch hbatch)
  | miscounted hquestion hbatch hlength => exact .miscounted (hembed hquestion) (hembedBatch hbatch) hlength
  | scored hquestion hbatch hlength hscore =>
    exact .scored (hembed hquestion) (hembedBatch hbatch) hlength hscore

/-- Providers that take notes take the same course, and what they note is what the course says. -/
theorem Course.noted (h : Course model embedder record attempts s calls result s') :
    Course model.noted embedder.noted record attempts (s, notes) calls result (s', notes ++ calls) := by
  cases h with
  | blank hblank =>
    rw [List.append_nil]
    exact .blank hblank
  | refused hanswer hprompts hreplies hprompt =>
    refine .refused hanswer hprompts (inTurn_noted notes hreplies) ?_
    rw [complete_noted_run, hprompt, List.map_append, List.append_assoc]
    rfl
  | nothingKept hanswer hreplies hkept => exact .nothingKept hanswer (inTurn_noted notes hreplies) hkept
  | compared hanswer hreplies hkept hsome hcompared =>
    rw [← List.append_assoc]
    exact .compared hanswer (inTurn_noted notes hreplies) hkept hsome (hcompared.noted _)

/-! ## The score of a record -/

/-- A score is never less than `0`, and always a number. -/
theorem Course.score_nonneg {score : Float} (h : Course model embedder record attempts s calls (.ok score) s') :
    score.isNaN = false ∧ ¬score < 0 := by
  have hzero := isFloored_atLeastZero 0
  cases h with
  | blank _ | nothingKept _ _ _ => exact ⟨hzero.isNaN, hzero.not_lt_zero⟩
  | compared _ _ _ _ hcompared =>
    cases hcompared with
    | scored _ _ _ hscore => exact ⟨hscore.isNaN, hscore.not_lt_zero⟩

/-- What answer relevancy asks and gives, for any record, strictness and providers. Scoring takes a course, with one
attempt at least; what a course says is what scoring comes to, and it asks for no more and no less, in this order. Its
score is then a number, and not less than `0`. -/
theorem relevancy_contract (model : LanguageModel σ) (embedder : Embedder σ) (strictness : ℕ)
    (record : EvaluationRecord) (s : σ) :
    (∃ calls result s', Course model embedder record (max strictness 1) s calls result s') ∧
    ∀ calls result s', Course model embedder record (max strictness 1) s calls result s' →
      ((Metric.answerRelevancy model embedder strictness).score record).run.run s = (result, s') ∧
      (∀ notes : List Asked, ((Metric.answerRelevancy model.noted embedder.noted strictness).score record).run.run
        (s, notes) = (result, s', notes ++ calls)) ∧
      ∀ score, result = .ok score → score.isNaN = false ∧ ¬score < 0 := by
  refine ⟨exists_course model embedder record _ s, fun calls result s' h => ⟨?_, fun notes => ?_, ?_⟩⟩
  · exact scoreRelevancy_run_of_course h
  · exact scoreRelevancy_run_of_course (h.noted notes)
  · rintro score rfl
    exact h.score_nonneg

/-- A model whose replies are a question with its label, the label alone, and a question without it, and then fail. -/
def asker : LanguageModel ℕ where
  complete _ := ExceptT.mk fun
    | 0 => (.ok " Question: Why? ", 1)
    | 1 => (.ok "Question:", 2)
    | 2 => (.ok "How?", 3)
    | n => (.error (.provider "asker" "no more questions"), n)

/-- Finds a question like the first of a batch, and unlike the second. -/
def plane : Embedder ℕ where
  dimensions := 2
  embed _ := return [1, 0]
  embedBatch texts := return [[1, 0], [0, 1]].take texts.length

def tilted : EvaluationRecord := ⟨"Why are there seasons?", "The axis is tilted.", [], "", none⟩

/-- The second reply is dropped, so the mean is over two; and when asked from its last reply on, the model fails in the
second attempt. -/
theorem relevancy_contract_tilted :
    ((Metric.answerRelevancy asker.noted plane.noted 3 : Metric _ Float).score tilted).run.run (0, []) =
      (.ok 0.5, 3, (questionPrompts tilted.answer 3).map .complete ++
        [.embed tilted.question, .embedBatch ["Why?", "How?"]]) ∧
    ((Metric.answerRelevancy asker.noted plane.noted 3 : Metric _ Float).score tilted).run.run (2, []) =
      (.error (.retrieval (.provider "asker" "no more questions")), 3,
        [.complete (questionPrompt tilted.answer 1), .complete (questionPrompt tilted.answer 2)]) := by
  have hanswer : ¬Text.blank tilted.answer := by decide +kernel
  have hkept : Keeps [" Question: Why? ", "Question:", "How?"] ["Why?", "How?"] := keeps_iff.2 (by decide +kernel)
  have hscore : IsFloored (meanCosine [1, 0] [[1, 0], [0, 1]]) 0.5 := by
    have hmean : Scalar.atLeastZero (meanCosine [1, 0] [[1, 0], [0, 1]]) = 0.5 := by decide +kernel
    exact hmean ▸ isFloored_atLeastZero _
  have hscored : Course asker plane tilted (max 3 1) 0 ((questionPrompts tilted.answer 3).map .complete ++
      [.embed tilted.question, .embedBatch ["Why?", "How?"]]) (.ok 0.5) 3 :=
    .compared hanswer (.cons rfl (.cons rfl (.cons rfl (.nil 3)))) hkept (by decide) (.scored rfl rfl rfl hscore)
  have hprompts : questionPrompts tilted.answer (max 3 1) =
      [questionPrompt tilted.answer 1] ++ questionPrompt tilted.answer 2 :: [questionPrompt tilted.answer 3] := rfl
  have hrefused : Course asker plane tilted (max 3 1) 2
      [.complete (questionPrompt tilted.answer 1), .complete (questionPrompt tilted.answer 2)]
      (.error (.retrieval (.provider "asker" "no more questions"))) 3 :=
    .refused hanswer hprompts (.cons rfl (.nil 3)) rfl
  exact ⟨((relevancy_contract asker plane 3 tilted 0).2 _ _ _ hscored).2.1 [],
    ((relevancy_contract asker plane 3 tilted 2).2 _ _ _ hrefused).2.1 []⟩

end GroundedQA.Evaluation
