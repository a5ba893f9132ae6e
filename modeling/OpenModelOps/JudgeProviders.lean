import OpenModelOps.JudgeConsensus

namespace OpenModelOps.JudgeProviders
open KeyedTable PythonFloat Raising JudgeEnsemble JudgeConsensus OrderStatistics
open JudgeGate (listRepr supportRubric rubricDigest opinion)

-- Rubric.digest and JudgeSample.content_digest: SHA-256 in hexadecimal.
structure Digests where
  rubric : Rubric → String
  sample : JudgeSample → String
  rubricMatches : ∀ r, digestMatches (rubric r) = true
  sampleMatches : ∀ s, digestMatches (sample s) = true

def names (rubric : Rubric) : List String := rubric.dimensions.map RubricDimension.name

def sameNames (scores : Dict String ℚ) (rubric : Rubric) : Bool :=
  (names rubric).all (fun name => (Dict.get scores name).isSome) &&
    scores.rows.all fun row => (names rubric).any fun name => decide (name = row.1)

def validateResult (digests : Digests) (result : JudgeResult) (sample : JudgeSample) (rubric : Rubric) :
    Except Raised JudgeResult :=
  if sameNames result.scores rubric = false then
    .error (.valueError ("judge returned incorrect dimensions: expected " ++
      listRepr ((names rubric).insertionSort fun a b => a ≤ b)))
  else if result.sampleId ≠ sample.sampleId ∨ result.sampleDigest ≠ digests.sample sample then
    .error (.valueError "judge result does not match the evaluated sample")
  else if result.rubricId ≠ rubric.rubricId ∨ result.rubricDigest ≠ digests.rubric rubric then
    .error (.valueError "judge result does not match the rubric")
  else .ok result

structure Reply where
  verdict : Verdict
  scores : Dict String ℚ
  confidence : ℚ
  rationale : String
  claims : List ClaimAssessment
  injectionDetected : Bool
  confident : probability confidence = true
  explained : lengthWithin 1 5000 rationale = true ∧ claims.length ≤ 100
  scored : (Dict.values scores).all probability = true

def Reply.result (reply : Reply) (digests : Digests) (judgeId judgeRevision : String)
    (identified : lengthWithin 1 160 judgeId = true ∧ lengthWithin 1 160 judgeRevision = true) (sample : JudgeSample)
    (rubric : Rubric) : JudgeResult :=
  ⟨sample.sampleId,judgeId,judgeRevision,rubric.rubricId,digests.rubric rubric,digests.sample sample,reply.verdict,
    reply.scores,reply.confidence,reply.rationale,reply.claims,reply.injectionDetected,identified,
    ⟨digests.rubricMatches rubric,digests.sampleMatches sample⟩,reply.confident,reply.explained,reply.scored⟩

def zeroScores (dimensions : List RubricDimension) : Dict String ℚ :=
  dimensions.foldl (fun scores dimension => Dict.set scores dimension.name 0) Table.empty

theorem zeroScores_zero (dimensions : List RubricDimension) (scores : Dict String ℚ)
    (before : ∀ score ∈ Dict.values scores, score = 0) :
    ∀ score ∈ Dict.values (dimensions.foldl (fun scores dimension => Dict.set scores dimension.name 0) scores),
      score = 0 := by
  induction dimensions generalizing scores with
  | nil => exact before
  | cons dimension rest ih =>
    refine ih _ fun score member => ?_
    obtain ⟨name,found⟩ := Dict.mem_values_iff.mp member
    rw [Dict.get_set] at found
    split at found
    · exact (Option.some.inj found).symm
    · exact before score (Dict.mem_values_iff.mpr ⟨name,found⟩)

theorem zeroScores_scored (rubric : Rubric) : (Dict.values (zeroScores rubric.dimensions)).all probability = true := by
  refine List.all_eq_true.mpr fun score member => ?_
  rw [zeroScores_zero rubric.dimensions _ (fun _ none => absurd none List.not_mem_nil) score member]
  decide +kernel

theorem certain_probability : probability 1 = true := by decide +kernel

def injectedRationale : String := "Potential judge-targeting prompt injection requires human review."

theorem injected_explained : lengthWithin 1 5000 injectedRationale = true ∧ ([] : List ClaimAssessment).length ≤ 100 := by
  decide

def Reply.injected (rubric : Rubric) : Reply where
  verdict := .review
  scores := zeroScores rubric.dimensions
  confidence := 1
  rationale := injectedRationale
  claims := []
  injectionDetected := true
  confident := certain_probability
  explained := injected_explained
  scored := zeroScores_scored rubric

-- The model is whatever answers; the detection of injections is a predicate of
-- the sample.
structure OpenAIJudge where
  judgeId : String
  judgeRevision : String
  detect : JudgeSample → Bool
  generate : Nat → JudgeSample → Rubric → Except Raised Reply
  identified : lengthWithin 1 160 judgeId = true ∧ lengthWithin 1 160 judgeRevision = true

def OpenAIJudge.evaluate (judge : OpenAIJudge) (digests : Digests) (call : Nat) (sample : JudgeSample) (rubric : Rubric) :
    Except Raised JudgeResult :=
  if judge.detect sample then
    .ok ((Reply.injected rubric).result digests judge.judgeId judge.judgeRevision judge.identified sample rubric)
  else do
    let reply ← judge.generate call sample rubric
    validateResult digests (reply.result digests judge.judgeId judge.judgeRevision judge.identified sample rubric)
      sample rubric

def OpenAIJudge.provider (judge : OpenAIJudge) (digests : Digests) : JudgeProvider :=
  ⟨judge.judgeId,judge.judgeRevision,judge.evaluate digests⟩

theorem validate_ok {digests : Digests} {result accepted : JudgeResult} {sample : JudgeSample} {rubric : Rubric}
    (done : validateResult digests result sample rubric = .ok accepted) :
    accepted = result ∧ ∀ dimension ∈ rubric.dimensions, ∃ score, Dict.get result.scores dimension.name = some score := by
  unfold validateResult at done
  split at done
  · cases done
  rename_i covering
  split at done
  · cases done
  split at done
  · cases done
  refine ⟨(Except.ok.inj done).symm,fun dimension member => ?_⟩
  rw [Bool.not_eq_false,sameNames,Bool.and_eq_true] at covering
  exact Option.isSome_iff_exists.mp (List.all_eq_true.mp covering.1 dimension.name (List.mem_map_of_mem member))

def SameButVerdict (a b : JudgeResult) : Prop := b = {a with verdict := b.verdict}

section Unread
variable {results others : List JudgeResult} {arithmetic : Arithmetic}

theorem scoresOf_unread (same : List.Forall₂ SameButVerdict results others) (name : String) :
    scoresOf others name = scoresOf results name := by
  induction same with
  | nil => rfl
  | cons here _ ih =>
    rw [here]
    simp only [scoresOf,List.mapM_cons] at ih ⊢
    rw [ih]

theorem tally_unread (same : List.Forall₂ SameButVerdict results others) (dimensions : List RubricDimension)
    (scores : Dict String ℚ) (low : ℚ) :
    tally arithmetic others dimensions scores low = tally arithmetic results dimensions scores low := by
  induction dimensions generalizing scores low with
  | nil => rfl
  | cons dimension rest ih =>
    rw [tally,tally,scoresOf_unread same]
    simp only [ih]

theorem rest_unread (same : List.Forall₂ SameButVerdict results others) :
    others.map JudgeResult.confidence = results.map JudgeResult.confidence ∧
      others.any JudgeResult.injectionDetected = results.any JudgeResult.injectionDetected := by
  induction same with
  | nil => exact ⟨rfl,rfl⟩
  | cons here _ ih =>
    rw [here,List.map_cons,List.map_cons,List.any_cons,List.any_cons,ih.1,ih.2]
    exact ⟨rfl,rfl⟩

theorem conclude_unread {limit : PyFloat} {sample : JudgeSample} {rubric : Rubric}
    (same : List.Forall₂ SameButVerdict results others)
    (done : conclude arithmetic limit sample rubric results = .ok result) :
    conclude arithmetic limit sample rubric others = .ok {result with judgeResults := others} := by
  rw [conclude] at done
  obtain ⟨⟨scores,disagreement⟩,tallying,done⟩ := bind_ok done
  obtain ⟨products,multiplied,done⟩ := bind_ok done
  obtain ⟨confidence,middling,done⟩ := bind_ok done
  cases Except.ok.inj done
  obtain ⟨confidences,injections⟩ := rest_unread same
  rw [conclude,tally_unread same,tallying]
  show (List.mapM (m := Except Raised) _ _ >>= _) = _
  rw [multiplied]
  show (median _ _ >>= _) = _
  rw [confidences,middling,injections]
  rfl

end Unread

theorem middle_below {values : List ℚ} {bound : ℚ} (inhabited : values ≠ []) (each : ∀ value ∈ values, value < bound) :
    middle values < bound := by
  obtain ⟨low,high,lowest,highest⟩ := extremes inhabited
  obtain ⟨inside,greatest⟩ := max?_iff.mp highest
  have bounded := middle_between inhabited fun value member => ⟨(min?_iff.mp lowest).2 value member,greatest value member⟩
  exact lt_of_le_of_lt bounded.2 (each high inside)

-- The verdicts of the judges are not read, and what no judge's score reaches on
-- some dimension does not pass.
theorem ensemble_scores (digests : Digests) (round6 : ℚ → ℚ) {ensemble : EnsembleJudge} {call : Nat}
    {sample : JudgeSample} {rubric : Rubric} {results : List JudgeResult}
    (answered : ensemble.answers call sample rubric = .ok results)
    (accepted : ∀ answer ∈ results, validateResult digests answer sample rubric = .ok answer) :
    ∃ result, ensemble.evaluate (.rounded round6) call sample rubric = .ok result ∧
      (∀ dimension ∈ rubric.dimensions,
        (∀ answer ∈ results, ∀ score, Dict.get answer.scores dimension.name = some score → score < dimension.threshold) →
        result.verdict ≠ .pass) ∧
      ∀ (other : EnsembleJudge) (others : List JudgeResult), other.answers call sample rubric = .ok others →
        other.maximumDisagreement = ensemble.maximumDisagreement → List.Forall₂ SameButVerdict results others →
        ∃ again, other.evaluate (.rounded round6) call sample rubric = .ok again ∧
          again.verdict = result.verdict ∧ again.scores = result.scores := by
  have covers : Covers rubric results := fun answer member => (validate_ok (accepted answer member)).2
  have inhabited : results ≠ [] := by
    rintro rfl
    exact ensemble.inhabited (List.forall₂_nil_right_iff.mp (mapM_ok.mp answered))
  obtain ⟨result,concluded,_,_⟩ := conclude_covered round6 ensemble.maximumDisagreement sample
    inhabited covers
  have done : ensemble.evaluate (.rounded round6) call sample rubric = .ok result := by
    rw [evaluate_conclude,answered]
    exact concluded
  refine ⟨result,done,fun dimension member below pass => ?_,fun other others answering same differ => ?_⟩
  · obtain ⟨results',answered',verdict,_⟩ := evaluate_parts done
    rw [answered] at answered'
    cases Except.ok.inj answered'
    have some_value : (results.map fun result => scoreIn result.scores dimension.name) ≠ [] :=
      fun none => inhabited (List.map_eq_nil_iff.mp none)
    refine (verdict.mp pass).2 ⟨dimension,member,_,_,scoresOf_covered covers member,median_middle round6 some_value,?_⟩
    refine middle_below some_value fun value listed => ?_
    obtain ⟨answer,inside,rfl⟩ := List.mem_map.mp listed
    obtain ⟨score,found⟩ := covers answer inside dimension member
    rw [scoreIn,found]
    exact below answer inside score found
  · refine ⟨{result with judgeResults := others},?_,rfl,rfl⟩
    rw [evaluate_conclude,answering,same]
    exact conclude_unread differ concluded

theorem rubricDigest_matches : digestMatches rubricDigest = true := by decide +kernel

def fixedDigests : Digests := ⟨fun _ => rubricDigest,fun _ => rubricDigest,fun _ => rubricDigest_matches,fun _ => rubricDigest_matches⟩

theorem outspoken_identified : lengthWithin 1 160 "judge-a" = true ∧ lengthWithin 1 160 "v1" = true := by decide

theorem agreeing_identified : lengthWithin 1 160 "judge-b" = true ∧ lengthWithin 1 160 "v1" = true := by decide

def fullMarks : Dict String ℚ := Dict.set Table.empty "accuracy" 1
def goodMarks : Dict String ℚ := Dict.set Table.empty "accuracy" (4/5)

theorem fullMarks_scored : (Dict.values fullMarks).all probability = true := by decide +kernel

theorem goodMarks_scored : (Dict.values goodMarks).all probability = true := by decide +kernel

def praise : String := "All statements are supported."

theorem praise_explained : lengthWithin 1 5000 praise = true ∧ ([] : List ClaimAssessment).length ≤ 100 := by decide

def outspokenReply (verdict : Verdict) : Reply :=
  ⟨verdict,fullMarks,1,praise,[],false,certain_probability,praise_explained,fullMarks_scored⟩

def agreeingReply (verdict : Verdict) : Reply :=
  ⟨verdict,goodMarks,1,praise,[],false,certain_probability,praise_explained,goodMarks_scored⟩

def outspoken (verdict : Verdict) : OpenAIJudge :=
  ⟨"judge-a","v1",fun _ => false,fun _ _ _ => .ok (outspokenReply verdict),outspoken_identified⟩

def agreeing (verdict : Verdict) : OpenAIJudge :=
  ⟨"judge-b","v1",fun _ => false,fun _ _ _ => .ok (agreeingReply verdict),agreeing_identified⟩

def outspokenEnsemble (verdict : Verdict) : EnsembleJudge :=
  ⟨[(outspoken verdict).provider fixedDigests,(agreeing verdict).provider fixedDigests],.finite (1/4),by simp,
    by simp [outspoken,agreeing,OpenAIJudge.provider]⟩

def outspokenAnswer (verdict : Verdict) : JudgeResult :=
  (outspokenReply verdict).result fixedDigests "judge-a" "v1" outspoken_identified limitSample supportRubric

def agreeingAnswer (verdict : Verdict) : JudgeResult :=
  (agreeingReply verdict).result fixedDigests "judge-b" "v1" agreeing_identified limitSample supportRubric

theorem outspoken_accepted (verdict : Verdict) :
    validateResult fixedDigests (outspokenAnswer verdict) limitSample supportRubric = .ok (outspokenAnswer verdict) := by
  cases verdict <;> rw [validateResult,if_neg (by decide +kernel),if_neg (by decide +kernel),if_neg (by decide +kernel)]

theorem agreeing_accepted (verdict : Verdict) :
    validateResult fixedDigests (agreeingAnswer verdict) limitSample supportRubric = .ok (agreeingAnswer verdict) := by
  cases verdict <;> rw [validateResult,if_neg (by decide +kernel),if_neg (by decide +kernel),if_neg (by decide +kernel)]

theorem outspoken_answers (verdict : Verdict) : (outspokenEnsemble verdict).answers 0 limitSample supportRubric =
    .ok [outspokenAnswer verdict,agreeingAnswer verdict] :=
  mapM_ok.mpr (.cons (outspoken_accepted verdict) (.cons (agreeing_accepted verdict) .nil))

theorem answers_accepted (verdict : Verdict) : ∀ answer ∈ [outspokenAnswer verdict,agreeingAnswer verdict],
    validateResult fixedDigests answer limitSample supportRubric = .ok answer := by
  intro answer inside
  simp only [List.mem_cons,List.not_mem_nil,or_false] at inside
  rcases inside with rfl | rfl
  · exact outspoken_accepted verdict
  · exact agreeing_accepted verdict

theorem ensemble_scores_outspoken : ∃ result again,
    (outspokenEnsemble .fail).evaluate (.rounded id) 0 limitSample supportRubric = .ok result ∧
    (outspokenEnsemble .pass).evaluate (.rounded id) 0 limitSample supportRubric = .ok again ∧
    again.verdict = result.verdict := by
  obtain ⟨result,done,_,unread⟩ := ensemble_scores fixedDigests id (outspoken_answers .fail) (answers_accepted .fail)
  obtain ⟨again,same,verdict,_⟩ := unread (outspokenEnsemble .pass) _ (outspoken_answers .pass) rfl
    (.cons rfl (.cons rfl .nil))
  exact ⟨result,again,done,same,verdict⟩

-- Both judges say fail, and the ensemble passes.
theorem failing_judge_passes : ∃ results result,
    (outspokenEnsemble .fail).answers 0 limitSample supportRubric = .ok results ∧
    (∀ answer ∈ results, validateResult fixedDigests answer limitSample supportRubric = .ok answer ∧
      answer.verdict = .fail) ∧
    (outspokenEnsemble .fail).evaluate .exact 0 limitSample supportRubric = .ok result ∧ result.verdict = .pass := by
  have passes : ((outspokenEnsemble .fail).evaluate .exact 0 limitSample supportRubric).toOption.map
      EnsembleResult.verdict = some .pass := by decide +kernel
  obtain ⟨result,made,verdict⟩ := Option.map_eq_some_iff.mp passes
  refine ⟨_,result,outspoken_answers .fail,fun answer inside => ⟨answers_accepted .fail answer inside,?_⟩,
    toOption_ok.mp made,verdict⟩
  simp only [List.mem_cons,List.not_mem_nil,or_false] at inside
  rcases inside with rfl | rfl <;> rfl

end OpenModelOps.JudgeProviders
