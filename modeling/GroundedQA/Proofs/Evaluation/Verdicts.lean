import GroundedQA.Proofs.Evaluation.Judges
import GroundedQA.Proofs.Evaluation.Statements
import GroundedQA.Proofs.Text.LowerCase
/-!
# The verdict of a reply

The words of a reply are its longest runs of letters and digits (`IsWord`), and the first of them that decides gives the
verdict, whatever else stands in the reply. Without such a word the first letter or digit may give it; a reply without
a verdict is a failure of the metric that asked (`verdict_of_firstDecisive`).
-/

namespace GroundedQA.Evaluation

open Text

variable {cs before word after : List Char} {verdict : Bool}

/-- The words that decide for a verdict. -/
def decisiveWords : Bool → List String
  | true => ["yes", "true"]
  | false => ["no", "false"]

/-- The lower-case form of the word decides for the verdict. -/
def Decides (word : List Char) (verdict : Bool) : Prop :=
  String.ofList (lowerCase word) ∈ decisiveWords verdict

/-- Between these texts the word is a run of letters and digits, with no other next to it. -/
structure IsWord (before word after : List Char) : Prop where
  ne_nil : word ≠ []
  alphanumeric : ∀ c ∈ word, isAlphanumeric c
  starts : ∀ c ∈ before.getLast?, ¬isAlphanumeric c
  ends : ∀ c ∈ after.head?, ¬isAlphanumeric c

/-- Some word of the text decides. -/
def HasDecisive (cs : List Char) : Prop :=
  ∃ before word after verdict, cs = before ++ word ++ after ∧ IsWord before word after ∧ Decides word verdict

theorem wordVerdict?_eq_some : wordVerdict? word = some verdict ↔ Decides word verdict := by
  have hsame (target : String) (h : target.toList.all isOwnSmall) :
      String.ofList (lowerCase word) = target ↔ String.ofList (word.map Char.toLower) = target := by
    rw [← String.toList_inj, ← String.toList_inj, String.toList_ofList, String.toList_ofList]
    exact lowerCase_eq_iff (List.all_eq_true.1 h)
  have hyes := hsame "yes" (by decide)
  have htrue := hsame "true" (by decide)
  have hno := hsame "no" (by decide)
  have hfalse := hsame "false" (by decide)
  unfold Decides wordVerdict?
  cases verdict with
  | true =>
    rw [decisiveWords, List.mem_pair, hyes, htrue]
    dsimp only
    split
    · simp_all
    · split <;> simp_all
  | false =>
    rw [decisiveWords, List.mem_pair, hno, hfalse]
    dsimp only
    split
    next h => rcases h with h | h <;> simp [h]
    next => split <;> simp_all

/-! ## The words of a text -/

theorem words_append_cons {c : Char} (h : ¬isAlphanumeric c) (xs ys : List Char) :
    words (xs ++ c :: ys) = words xs ++ words ys := by
  unfold words filledPieces
  rw [pieces_append_cons (by simpa using h), List.filter_append]

/-- In front of what begins with no letter or digit a text has its own words. -/
theorem words_append_of_ends (h : ∀ c ∈ after.head?, ¬isAlphanumeric c) (cs : List Char) :
    words (cs ++ after) = words cs ++ words after := by
  cases after with
  | nil => simp [words, filledPieces, pieces]
  | cons c after =>
    have hc : ¬isAlphanumeric c := h c rfl
    rw [words_append_cons hc, ← List.nil_append (c :: after), words_append_cons hc]
    rfl

/-- Behind what ends in no letter or digit a text has its own words. -/
theorem words_append_of_starts (h : ∀ c ∈ before.getLast?, ¬isAlphanumeric c) (cs : List Char) :
    words (before ++ cs) = words before ++ words cs := by
  rcases List.eq_nil_or_concat before with rfl | ⟨front, c, rfl⟩
  · rfl
  · have hc : ¬isAlphanumeric c := h c (by simp)
    rw [List.concat_eq_append, List.append_assoc, List.singleton_append, words_append_cons hc, words_append_cons hc]
    simp [words, filledPieces, pieces]

theorem pieces_of_alphanumeric (h : ∀ c ∈ cs, isAlphanumeric c) : pieces (!isAlphanumeric ·) cs = [cs] := by
  induction cs with
  | nil => rfl
  | cons c cs ih =>
    obtain ⟨hc, hcs⟩ := List.forall_mem_cons.1 h
    simp [pieces, hc, ih hcs]

theorem words_of_alphanumeric (hne : word ≠ []) (h : ∀ c ∈ word, isAlphanumeric c) : words word = [word] := by
  rw [words, filledPieces, pieces_of_alphanumeric h]
  simp [hne]

theorem words_of_no_alphanumeric (h : ∀ c ∈ cs, ¬isAlphanumeric c) : words cs = [] := by
  induction cs with
  | nil => rfl
  | cons c cs ih =>
    obtain ⟨hc, hcs⟩ := List.forall_mem_cons.1 h
    rw [← List.nil_append (c :: cs), words_append_cons hc, ih hcs]
    rfl

theorem IsWord.words_eq (h : IsWord before word after) :
    words (before ++ word ++ after) = words before ++ word :: words after := by
  rw [words_append_of_ends h.ends, words_append_of_starts h.starts, words_of_alphanumeric h.ne_nil h.alphanumeric,
    List.append_assoc, List.singleton_append]

theorem IsWord.behind (h : IsWord before word after) {c : Char} (hc : ¬isAlphanumeric c) (front : List Char) :
    IsWord (front ++ c :: before) word after where
  ne_nil := h.ne_nil
  alphanumeric := h.alphanumeric
  ends := h.ends
  starts d hd := by
    rw [List.getLast?_append_of_ne_nil _ (List.cons_ne_nil c before), List.getLast?_cons] at hd
    cases hlast : before.getLast? with
    | none =>
      rw [hlast] at hd
      exact Option.mem_some_iff.1 hd ▸ hc
    | some last =>
      rw [hlast] at hd
      exact h.starts d (hlast.trans hd)

/-- Each of the words of a text stands in it as a word, behind those before it. -/
theorem exists_isWord {ws ws' : List (List Char)} (h : words cs = ws ++ word :: ws') :
    ∃ before after, cs = before ++ word ++ after ∧ IsWord before word after ∧ words before = ws := by
  -- In front of the rest of the text stand the letters and digits of a word that has begun.
  suffices hbegun : ∀ begun : List Char, (∀ c ∈ begun, isAlphanumeric c) → words (begun ++ cs) = ws ++ word :: ws' →
      ∃ before after, begun ++ cs = before ++ word ++ after ∧ IsWord before word after ∧ words before = ws from
    hbegun [] (by simp) h
  clear h
  intro begun hbegun h
  induction cs generalizing begun ws with
  | nil =>
    obtain rfl | hne := eq_or_ne begun []
    · simp [words_of_no_alphanumeric] at h
    rw [List.append_nil, words_of_alphanumeric hne hbegun] at h
    obtain ⟨rfl, h⟩ | ⟨-, h⟩ := List.singleton_eq_append_iff.1 h
    · obtain ⟨rfl, -⟩ := List.cons.inj h
      exact ⟨[], [], by simp, ⟨hne, hbegun, by simp, by simp⟩, rfl⟩
    · cases h
  | cons c cs ih =>
    by_cases hc : isAlphanumeric c
    · rw [List.append_cons] at h ⊢
      exact ih _ (by simpa [or_imp, forall_and] using ⟨hbegun, hc⟩) h
    -- The word that has begun ends here, so it is the one that is looked for or stands before that.
    have hlater {ws₁ : List (List Char)} (hcs : words cs = ws₁ ++ word :: ws') (hws : ws = words begun ++ ws₁) :
        ∃ before after, begun ++ c :: cs = before ++ word ++ after ∧ IsWord before word after ∧ words before = ws := by
      obtain ⟨before, after, rfl, hword, rfl⟩ := ih [] (by simp) hcs
      exact ⟨begun ++ c :: before, after, by simp, hword.behind hc begun, by rw [words_append_cons hc, hws]⟩
    rw [words_append_cons hc] at h
    obtain rfl | hne := eq_or_ne begun []
    · exact hlater h rfl
    rw [words_of_alphanumeric hne hbegun, List.singleton_append] at h
    cases ws with
    | nil =>
      obtain ⟨rfl, -⟩ := List.cons.inj h
      exact ⟨[], c :: cs, by simp, ⟨hne, hbegun, by simp, by simpa using hc⟩, rfl⟩
    | cons w ws =>
      obtain ⟨rfl, htail⟩ := List.cons.inj h
      exact hlater htail (by rw [words_of_alphanumeric hne hbegun]; rfl)

/-! ## The first word that decides -/

theorem hasDecisive_iff : HasDecisive cs ↔ (words cs).findSome? wordVerdict? ≠ none := by
  rw [Ne, List.findSome?_eq_none_iff]
  push Not
  constructor
  · rintro ⟨before, word, after, verdict, rfl, hword, hdecides⟩
    refine ⟨word, by rw [hword.words_eq]; simp, ?_⟩
    rw [wordVerdict?_eq_some.2 hdecides]
    exact Option.some_ne_none _
  · rintro ⟨word, hmem, hne⟩
    obtain ⟨verdict, hverdict⟩ := Option.ne_none_iff_exists'.1 hne
    obtain ⟨ws, ws', hws⟩ := List.append_of_mem hmem
    obtain ⟨before, after, hcs, hword, -⟩ := exists_isWord hws
    exact ⟨before, word, after, verdict, hcs, hword, wordVerdict?_eq_some.1 hverdict⟩

theorem not_hasDecisive_iff : ¬HasDecisive cs ↔ (words cs).findSome? wordVerdict? = none := by
  rw [hasDecisive_iff, not_not]

/-- Of the words that decide there is a first one. -/
theorem HasDecisive.exists_first (h : HasDecisive cs) : ∃ before word after verdict,
    cs = before ++ word ++ after ∧ IsWord before word after ∧ Decides word verdict ∧ ¬HasDecisive before := by
  obtain ⟨verdict, hverdict⟩ := Option.ne_none_iff_exists'.1 (hasDecisive_iff.1 h)
  obtain ⟨ws, word, ws', hws, hdecides, hnone⟩ := List.findSome?_eq_some_iff.1 hverdict
  obtain ⟨before, after, hcs, hword, hbefore⟩ := exists_isWord hws
  refine ⟨before, word, after, verdict, hcs, hword, wordVerdict?_eq_some.1 hdecides, ?_⟩
  rw [not_hasDecisive_iff, hbefore, List.findSome?_eq_none_iff]
  exact hnone

/-! ## The verdict of a text -/

theorem verdict?_of_word (h : IsWord before word after) (hdecides : Decides word verdict) (hfirst : ¬HasDecisive before) :
    verdict? (before ++ word ++ after) = some verdict := by
  have hword : (words (before ++ word ++ after)).findSome? wordVerdict? = some verdict := by
    rw [h.words_eq, List.findSome?_append, not_hasDecisive_iff.1 hfirst, Option.none_or, List.findSome?_cons,
      wordVerdict?_eq_some.2 hdecides]
  rw [verdict?, hword, Option.some_or]

theorem verdict?_of_opening {c : Char} (hnone : ¬HasDecisive (before ++ c :: after)) (hc : isAlphanumeric c)
    (hfirst : ∀ d ∈ before, ¬isAlphanumeric d) : verdict? (before ++ c :: after) = openingVerdict? c := by
  have hfind : (before ++ c :: after).find? isAlphanumeric = some c :=
    List.find?_eq_some_iff_append.2 ⟨hc, before, after, rfl, by simpa using hfirst⟩
  rw [verdict?, not_hasDecisive_iff.1 hnone, Option.none_or, hfind, Option.bind_some]

theorem verdict?_of_no_alphanumeric (h : ∀ c ∈ cs, ¬isAlphanumeric c) : verdict? cs = none := by
  rw [verdict?, words_of_no_alphanumeric h, List.findSome?_nil, Option.none_or, List.find?_eq_none.2 h, Option.bind_none]

theorem not_isAlphanumeric_of_isBlank {blank : List Char} (h : isBlank blank) : ∀ c ∈ blank, ¬isAlphanumeric c :=
  fun c hc halnum => not_isSpace_of_isAlphanumeric halnum (isBlank_iff.1 h c hc)

/-- White space around a reply does not matter. -/
theorem verdict?_trim (cs : List Char) : verdict? (trim cs) = verdict? cs := by
  obtain ⟨front, back, hfront, hback, hcs⟩ := exists_trim cs
  have hfront := not_isAlphanumeric_of_isBlank hfront
  have hback := not_isAlphanumeric_of_isBlank hback
  have hwords : words cs = words (trim cs) := by
    rw [congrArg words hcs, words_append_of_ends fun c hc => hback c (List.mem_of_mem_head? hc),
      words_append_of_starts fun c hc => hfront c (List.mem_of_mem_getLast? hc), words_of_no_alphanumeric hfront,
      words_of_no_alphanumeric hback, List.nil_append, List.append_nil]
  have hopening : cs.find? isAlphanumeric = (trim cs).find? isAlphanumeric := by
    rw [← List.head?_filter, ← List.head?_filter, ← content, ← content, content_trim]
  rw [verdict?, verdict?, hwords, hopening]

/-- What is put in front of a text with a word that decides, or behind it, does not change its verdict. -/
theorem verdict?_append_of_starts (h : HasDecisive cs) {text : List Char} (hnone : ¬HasDecisive text)
    (hstarts : ∀ c ∈ text.getLast?, ¬isAlphanumeric c) : verdict? (text ++ cs) = verdict? cs := by
  obtain ⟨verdict, hverdict⟩ := Option.ne_none_iff_exists'.1 (hasDecisive_iff.1 h)
  rw [verdict?, verdict?, words_append_of_starts hstarts, List.findSome?_append, not_hasDecisive_iff.1 hnone,
    Option.none_or, hverdict, Option.some_or, Option.some_or]

theorem verdict?_append_of_ends (h : HasDecisive cs) {text : List Char} (hends : ∀ c ∈ text.head?, ¬isAlphanumeric c) :
    verdict? (cs ++ text) = verdict? cs := by
  obtain ⟨verdict, hverdict⟩ := Option.ne_none_iff_exists'.1 (hasDecisive_iff.1 h)
  rw [verdict?, verdict?, words_append_of_ends hends, List.findSome?_append, hverdict, Option.some_or, Option.some_or,
    Option.some_or]

/-! ## The verdict of a judge -/

/-- What a reply comes to for the metric that asked. -/
def verdictFor (core : CoreMetric) (reply : String) : Except EvaluationError Bool :=
  (readVerdict reply).mapError core.fault

/-- What a reply without a verdict comes to. -/
def noVerdict (core : CoreMetric) (reply : String) : Except EvaluationError Bool :=
  .error (.metric core.name (.unrecognisedVerdict (stripped reply)))

theorem verdictFor_of_eq_some {core : CoreMetric} {reply : String} (h : verdict? reply.toList = some verdict) :
    verdictFor core reply = .ok verdict := by
  rw [verdictFor, readVerdict, verdict?_trim, h]
  rfl

theorem verdictFor_of_eq_none {core : CoreMetric} {reply : String} (h : verdict? reply.toList = none) :
    verdictFor core reply = noVerdict core reply := by
  rw [verdictFor, readVerdict, verdict?_trim, h]
  rfl

theorem askJudge_run_of_reply (core : CoreMetric) {σ : Type} {judge : LanguageModel σ} {prompt reply : String} {s s' : σ}
    (h : (judge.complete prompt).run.run s = (.ok reply, s')) :
    (askJudge core judge prompt).run.run s = (verdictFor core reply, s') := by
  rw [askJudge, run_bind, toScoring_run, h, verdictFor]
  dsimp only [Except.mapError]
  cases readVerdict reply <;> rfl

/-- The first word of a reply that decides is its verdict, and neither what is put in front of the reply without such a
word nor what is put behind it changes that, if it does not touch a word. In a reply without such a word the first
letter or digit may be its verdict. All else, and so also an empty reply, is a failure of the metric that asked. -/
theorem verdict_of_firstDecisive (core : CoreMetric) (reply : String) :
    (∀ {σ : Type} (judge : LanguageModel σ) (prompt : String) (s s' : σ),
      (judge.complete prompt).run.run s = (.ok reply, s') →
        (askJudge core judge prompt).run.run s = (verdictFor core reply, s')) ∧
    (∀ before word after verdict, reply.toList = before ++ word ++ after → IsWord before word after →
      Decides word verdict → ¬HasDecisive before → verdictFor core reply = .ok verdict) ∧
    (HasDecisive reply.toList →
      (∃ before word after verdict, reply.toList = before ++ word ++ after ∧ IsWord before word after ∧
        Decides word verdict ∧ ¬HasDecisive before) ∧
      (∀ text : String, ¬HasDecisive text.toList → (∀ c ∈ text.toList.getLast?, ¬isAlphanumeric c) →
        verdictFor core (text ++ reply) = verdictFor core reply) ∧
      ∀ text : String, (∀ c ∈ text.toList.head?, ¬isAlphanumeric c) →
        verdictFor core (reply ++ text) = verdictFor core reply) ∧
    (¬HasDecisive reply.toList →
      (∀ before c after, reply.toList = before ++ c :: after → (∀ d ∈ before, ¬isAlphanumeric d) → isAlphanumeric c →
        verdictFor core reply =
          if c = '是' then .ok true else if c = '否' ∨ c = '不' then .ok false else noVerdict core reply) ∧
      ((∀ c ∈ reply.toList, ¬isAlphanumeric c) → verdictFor core reply = noVerdict core reply)) := by
  have hdecided : ∀ before word after verdict, reply.toList = before ++ word ++ after → IsWord before word after →
      Decides word verdict → ¬HasDecisive before → verdict? reply.toList = some verdict := by
    intro before word after verdict hreply hword hdecides hfirst
    rw [hreply]
    exact verdict?_of_word hword hdecides hfirst
  refine ⟨fun judge prompt s s' => askJudge_run_of_reply core, fun before word after verdict hreply hword hdecides hfirst =>
    verdictFor_of_eq_some (hdecided before word after verdict hreply hword hdecides hfirst), fun h => ?_, fun hnone => ?_⟩
  · obtain ⟨before, word, after, verdict, hreply, hword, hdecides, hfirst⟩ := h.exists_first
    have hverdict := hdecided before word after verdict hreply hword hdecides hfirst
    refine ⟨⟨before, word, after, verdict, hreply, hword, hdecides, hfirst⟩, fun text htext hstarts => ?_,
      fun text hends => ?_⟩
    · rw [verdictFor_of_eq_some hverdict, verdictFor_of_eq_some]
      rw [String.toList_append, verdict?_append_of_starts h htext hstarts, hverdict]
    · rw [verdictFor_of_eq_some hverdict, verdictFor_of_eq_some]
      rw [String.toList_append, verdict?_append_of_ends h hends, hverdict]
  · refine ⟨fun before c after hreply hfirst hc => ?_, fun h => verdictFor_of_eq_none (verdict?_of_no_alphanumeric h)⟩
    have hopening : verdict? reply.toList = openingVerdict? c := by
      rw [hreply] at hnone ⊢
      exact verdict?_of_opening hnone hc hfirst
    rw [openingVerdict?] at hopening
    split at hopening
    next hyes => rw [if_pos hyes, verdictFor_of_eq_some hopening]
    next hyes =>
      rw [if_neg hyes]
      split at hopening
      next hno => rw [if_pos hno, verdictFor_of_eq_some hopening]
      next hno => rw [if_neg hno, verdictFor_of_eq_none hopening]

/-- A word of another script that ends in one that decides, words that decide on both sides of each other, and replies
without any. -/
theorem verdict_of_firstDecisive_glued :
    IsWord "яno, **".toList "YES".toList "**! No".toList ∧ Decides "YES".toList true ∧ ¬HasDecisive "яno, **".toList ∧
    verdictFor .faithfulness "яno, **YES**! No" = .ok true ∧
    verdictFor .faithfulness ("Hm... " ++ "яno, **YES**! No") = .ok true ∧
    verdictFor .faithfulness ("яno, **YES**! No" ++ "? false") = .ok true ∧
    verdictFor .faithfulness "(不是)" = .ok false ∧
    verdictFor .faithfulness "" = .error (.metric "faithfulness" (.unrecognisedVerdict "")) := by
  have hstar : isAlphanumeric '*' = false := by decide +kernel
  have hspace : isAlphanumeric ' ' = false := by decide +kernel
  have hmark : isAlphanumeric '?' = false := by decide +kernel
  have hbracket : isAlphanumeric '(' = false := by decide +kernel
  have hword : IsWord "яno, **".toList "YES".toList "**! No".toList :=
    ⟨by decide, List.all_eq_true.1 (by decide +kernel), by simp [hstar], by simp [hstar]⟩
  have hdecides : Decides "YES".toList true := by
    unfold Decides
    decide +kernel
  have hfirst : ¬HasDecisive "яno, **".toList := not_hasDecisive_iff.2 (by decide +kernel)
  have hsome : HasDecisive "яno, **YES**! No".toList := ⟨_, _, _, true, rfl, hword, hdecides⟩
  obtain ⟨-, hyes, hkept, -⟩ := verdict_of_firstDecisive .faithfulness "яno, **YES**! No"
  have hyes := hyes _ _ _ true rfl hword hdecides hfirst
  obtain ⟨-, hfront, hback⟩ := hkept hsome
  obtain ⟨-, -, -, hopening⟩ := verdict_of_firstDecisive .faithfulness "(不是)"
  obtain ⟨-, -, -, hempty⟩ := verdict_of_firstDecisive .faithfulness ""
  refine ⟨hword, hdecides, hfirst, hyes, ?_, ?_, ?_, ?_⟩
  · exact (hfront "Hm... " (not_hasDecisive_iff.2 (by decide +kernel)) (by simp [hspace])).trans hyes
  · exact (hback "? false" (by simp [hmark])).trans hyes
  · exact (hopening (not_hasDecisive_iff.2 (by decide +kernel))).1 ['('] '不' ['是', ')'] rfl (by simp [hbracket])
      (by decide +kernel)
  · exact (hempty (not_hasDecisive_iff.2 (by decide +kernel))).2 (by simp)

end GroundedQA.Evaluation
