import OpenModelOps.JudgeGate
import OpenModelOps.OrderStatistics
import Mathlib.Tactic.Positivity

namespace OpenModelOps.JudgeConsensus
open KeyedTable PythonFloat Raising JudgeEnsemble OrderStatistics
open JudgeGate (sure sureAnswers sure_answers sure_scores sure_unflagged supportRubric)

def Covers (rubric : Rubric) (results : List JudgeResult) : Prop :=
  ∀ result ∈ results, ∀ dimension ∈ rubric.dimensions, ∃ score, Dict.get result.scores dimension.name = some score

def scoreIn (scores : Dict String ℚ) (name : String) : ℚ := (Dict.get scores name).getD 0

def middle (values : List ℚ) : ℚ :=
  let data := values.insertionSort (· ≤ ·)
  if data.length % 2 = 1 then data.getD (data.length / 2) 0
  else (data.getD (data.length / 2 - 1) 0 + data.getD (data.length / 2) 0) / 2

section Values
variable {values others : List ℚ}

theorem median_middle (round6 : ℚ → ℚ) (inhabited : values ≠ []) : median (.rounded round6) values = .ok (middle values) := by
  have nonzero : (values.insertionSort (· ≤ ·)).length ≠ 0 := by
    rw [List.length_insertionSort]
    exact fun none => inhabited (List.length_eq_zero_iff.mp none)
  rw [median,middle]
  simp only [if_neg nonzero]
  by_cases odd : (values.insertionSort (· ≤ ·)).length % 2 = 1
  · rw [if_pos odd,if_pos odd]
  · rw [if_neg odd,if_neg odd]
    rfl

theorem middle_between {low high : ℚ} (inhabited : values ≠ []) (each : ∀ value ∈ values, low ≤ value ∧ value ≤ high) :
    low ≤ middle values ∧ middle values ≤ high := by
  have positive : 0 < values.length := List.length_pos_iff.mpr inhabited
  have inside : ∀ i, i < values.length → low ≤ (values.insertionSort (· ≤ ·)).getD i 0 ∧
      (values.insertionSort (· ≤ ·)).getD i 0 ≤ high := fun i within => each _ (sorted_getD_mem within 0)
  rw [middle]
  simp only [List.length_insertionSort]
  have upper := inside (values.length / 2) (by omega)
  have lower := inside (values.length / 2 - 1) (by omega)
  split
  · exact upper
  · constructor
    · linarith [upper.1,lower.1]
    · linarith [upper.2,lower.2]

theorem spread_perm (reordered : values.Perm others) {arithmetic : Arithmetic} :
    spread arithmetic values = spread arithmetic others := by
  rw [spread,spread,max?_perm reordered,min?_perm reordered]

theorem spread_some (round6 : ℚ → ℚ) (inhabited : values ≠ []) : ∃ low high, values.min? = some low ∧ values.max? = some high ∧
    spread (.rounded round6) values = .ok (high - low) := by
  obtain ⟨low,high,lowest,highest⟩ := extremes inhabited
  refine ⟨low,high,lowest,highest,?_⟩
  rw [spread,lowest,highest]
  rfl

theorem near_middle {wide value : ℚ} (round6 : ℚ → ℚ) (spanned : spread (.rounded round6) values = .ok wide) (member : value ∈ values) :
    middle values - wide ≤ value := by
  have inhabited : values ≠ [] := List.ne_nil_of_mem member
  obtain ⟨low,high,lowest,highest,same⟩ := spread_some round6 inhabited
  rw [same] at spanned
  cases Except.ok.inj spanned
  have least := (min?_iff.mp lowest).2
  have greatest := (max?_iff.mp highest).2
  have bounded := middle_between inhabited fun other inside => ⟨least other inside,greatest other inside⟩
  linarith [bounded.2,least value member]

end Values

section Results
variable {results others : List JudgeResult} {rubric : Rubric} {dimension : RubricDimension}

theorem Covers.perm (reordered : results.Perm others) (covers : Covers rubric results) : Covers rubric others :=
  fun result member => covers result (reordered.mem_iff.mpr member)

theorem scoresOf_covered (covers : Covers rubric results) (member : dimension ∈ rubric.dimensions) :
    scoresOf results dimension.name = .ok (results.map fun result => scoreIn result.scores dimension.name) := by
  refine mapM_ok.mpr (List.forall₂_map_right_iff.mpr (List.forall₂_same.mpr fun result inside => ?_))
  obtain ⟨score,found⟩ := covers result inside dimension member
  rw [item_exact,scoreIn,found]
  rfl

theorem tally_perm {arithmetic : Arithmetic} (reordered : results.Perm others) (covers : Covers rubric results)
    (dimensions : List RubricDimension) (included : dimensions ⊆ rubric.dimensions) (scores : Dict String ℚ) (low : ℚ) :
    tally arithmetic others dimensions scores low = tally arithmetic results dimensions scores low := by
  induction dimensions generalizing scores low with
  | nil => rfl
  | cons dimension rest ih =>
    have member := included List.mem_cons_self
    have moved := reordered.map fun result => scoreIn result.scores dimension.name
    have halved : median arithmetic (others.map fun result => scoreIn result.scores dimension.name) =
        median arithmetic (results.map fun result => scoreIn result.scores dimension.name) := by
      rw [median,median,insertionSort_perm moved]
    rw [tally,tally,scoresOf_covered covers member,scoresOf_covered (covers.perm reordered) member]
    show (median _ _ >>= _) = (median _ _ >>= _)
    rw [halved,spread_perm moved]
    simp only [ih fun other inside => included (List.mem_cons_of_mem _ inside)]

theorem tally_covered (round6 : ℚ → ℚ) (inhabited : results ≠ []) (covers : Covers rubric results)
    (dimensions : List RubricDimension) (included : dimensions ⊆ rubric.dimensions) (scores : Dict String ℚ) (low : ℚ) :
    ∃ after high, tally (.rounded round6) results dimensions scores low = .ok (after,high) := by
  induction dimensions generalizing scores low with
  | nil => exact ⟨scores,low,rfl⟩
  | cons dimension rest ih =>
    have some_value : (results.map fun result => scoreIn result.scores dimension.name) ≠ [] :=
      fun none => inhabited (List.map_eq_nil_iff.mp none)
    obtain ⟨_,_,_,_,spanned⟩ := spread_some round6 some_value
    obtain ⟨after,high,done⟩ := ih (fun other inside => included (List.mem_cons_of_mem _ inside)) _ _
    refine ⟨after,high,?_⟩
    rw [tally,scoresOf_covered covers (included List.mem_cons_self)]
    show (median _ _ >>= _) = _
    rw [median_middle round6 some_value]
    show (spread _ _ >>= _) = _
    rw [spanned]
    exact done

end Results

-- What the ensemble makes of the answers, whoever gave them.
def conclude (arithmetic : Arithmetic) (maximumDisagreement : PyFloat) (sample : JudgeSample) (rubric : Rubric)
    (results : List JudgeResult) : Except Raised EnsembleResult := do
  let (scores,disagreement) ← tally arithmetic results rubric.dimensions Table.empty 0
  let products ← rubric.dimensions.mapM fun dimension => do
    let score ← item scores dimension.name
    return arithmetic.mul score dimension.weight
  let weighted := arithmetic.div (arithmetic.sum products) (arithmetic.sum (rubric.dimensions.map RubricDimension.weight))
  let confidence ← median arithmetic (results.map JudgeResult.confidence)
  let decision := verdictOf (results.any JudgeResult.injectionDetected) disagreement maximumDisagreement confidence
    rubric.minimumConfidence (rubric.dimensions.all (meets scores))
  return ⟨sample.sampleId,decision.1,scores,arithmetic.round6 weighted,confidence,arithmetic.round6 disagreement,
    results,decision.2⟩

theorem evaluate_conclude (arithmetic : Arithmetic) (ensemble : EnsembleJudge) (call : Nat) (sample : JudgeSample)
    (rubric : Rubric) : ensemble.evaluate arithmetic call sample rubric =
      ensemble.answers call sample rubric >>= conclude arithmetic ensemble.maximumDisagreement sample rubric := rfl

def weightedOf (rubric : Rubric) (scores : Dict String ℚ) : ℚ :=
  (rubric.dimensions.map fun dimension => scoreIn scores dimension.name * dimension.weight).sum /
    (rubric.dimensions.map RubricDimension.weight).sum

section Concluding
variable {results others : List JudgeResult} {rubric : Rubric} {sample : JudgeSample} {limit : PyFloat}

theorem conclude_covered (round6 : ℚ → ℚ) (limit : PyFloat) (sample : JudgeSample) (inhabited : results ≠ []) (covers : Covers rubric results) :
    ∃ result, conclude (.rounded round6) limit sample rubric results = .ok result ∧
      result.weightedScore = round6 (weightedOf rubric result.scores) ∧
      ∀ dimension ∈ rubric.dimensions, ∃ score, Dict.get result.scores dimension.name = some score := by
  obtain ⟨scores,disagreement,tallying⟩ := tally_covered round6 inhabited covers rubric.dimensions
    (List.Subset.refl _) Table.empty 0
  have tallied := tally_tallied rubric.unique tallying
  have scored : ∀ dimension ∈ rubric.dimensions, ∃ score, Dict.get scores dimension.name = some score := by
    intro dimension member
    obtain ⟨_,score,_,_,_,_,found,_⟩ := tallied.scored dimension member
    exact ⟨score,found⟩
  have products : (rubric.dimensions.mapM fun dimension => do
      let score ← item scores dimension.name
      return (Arithmetic.rounded round6).mul score dimension.weight) =
      .ok (rubric.dimensions.map fun dimension => scoreIn scores dimension.name * dimension.weight) := by
    refine mapM_ok.mpr (List.forall₂_map_right_iff.mpr (List.forall₂_same.mpr fun dimension member => ?_))
    obtain ⟨score,found⟩ := scored dimension member
    rw [item_exact.mpr found,scoreIn,found]
    rfl
  have confident : median (.rounded round6) (results.map JudgeResult.confidence) = .ok _ :=
    median_middle round6 fun none => inhabited (List.map_eq_nil_iff.mp none)
  rw [conclude,tallying]
  show ∃ result, (List.mapM (m := Except Raised) _ _ >>= _) = _ ∧ _
  rw [products]
  show ∃ result, (median _ _ >>= _) = _ ∧ _
  rw [confident]
  exact ⟨_,rfl,rfl,scored⟩

theorem conclude_perm {round6 : ℚ → ℚ} (reordered : results.Perm others) (covers : Covers rubric results)
    (done : conclude (.rounded round6) limit sample rubric results = .ok result) :
    conclude (.rounded round6) limit sample rubric others = .ok {result with judgeResults := others} := by
  have halved : median (.rounded round6) (others.map JudgeResult.confidence) =
      median (.rounded round6) (results.map JudgeResult.confidence) := by
    rw [median,median,insertionSort_perm (reordered.map JudgeResult.confidence)]
  rw [conclude] at done
  obtain ⟨⟨scores,disagreement⟩,tallying,done⟩ := bind_ok done
  obtain ⟨products,multiplied,done⟩ := bind_ok done
  obtain ⟨confidence,middling,done⟩ := bind_ok done
  cases Except.ok.inj done
  rw [conclude,tally_perm reordered covers rubric.dimensions (List.Subset.refl _),tallying]
  show (List.mapM (m := Except Raised) _ _ >>= _) = _
  rw [multiplied]
  show (median _ _ >>= _) = _
  rw [halved,middling,reordered.symm.any_eq]
  rfl

theorem weightedOf_between (rubric : Rubric) (scores : Dict String ℚ)
    (scored : ∀ dimension ∈ rubric.dimensions, ∃ score, Dict.get scores dimension.name = some score) :
    (∃ dimension ∈ rubric.dimensions, ∃ score, Dict.get scores dimension.name = some score ∧
      score ≤ weightedOf rubric scores) ∧
    ∃ dimension ∈ rubric.dimensions, ∃ score, Dict.get scores dimension.name = some score ∧
      weightedOf rubric scores ≤ score := by
  have weighty : ∀ dimension ∈ rubric.dimensions, 0 < dimension.weight := fun dimension _ => dimension.weighty.1
  constructor
  · obtain ⟨dimension,member,below⟩ := weighted_reached (fun dimension => scoreIn scores dimension.name)
      rubric.dimensioned.1 weighty
    obtain ⟨score,found⟩ := scored dimension member
    rw [scoreIn,found] at below
    exact ⟨dimension,member,score,found,below⟩
  · obtain ⟨dimension,member,above⟩ := weighted_bounded (fun dimension => scoreIn scores dimension.name)
      rubric.dimensioned.1 weighty
    obtain ⟨score,found⟩ := scored dimension member
    rw [scoreIn,found] at above
    exact ⟨dimension,member,score,found,above⟩

end Concluding

theorem answers_perm {ensemble other : EnsembleJudge} (reordered : ensemble.judges.Perm other.judges)
    (answered : ensemble.answers call sample rubric = .ok results) :
    ∃ others, other.answers call sample rubric = .ok others ∧ results.Perm others := by
  obtain ⟨others,related,moved⟩ := List.perm_comp_forall₂ reordered.symm (mapM_ok.mp answered)
  exact ⟨others,mapM_ok.mpr related,moved.symm⟩

structure Passes (d : ℚ) (rubric : Rubric) (results : List JudgeResult) : Prop where
  unflagged : ∀ answer ∈ results, answer.injectionDetected = false
  reached : ∀ dimension ∈ rubric.dimensions, ∃ values middle wide, scoresOf results dimension.name = .ok values ∧
    median .exact values = .ok middle ∧ spread .exact values = .ok wide ∧ wide ≤ d ∧ dimension.threshold ≤ middle
  confident : ∃ middle, median .exact (results.map JudgeResult.confidence) = .ok middle ∧
    rubric.minimumConfidence ≤ middle

theorem finite_lt {d x : ℚ} : PyFloat.lt (.finite d) (.finite x) = false ↔ x ≤ d := by
  simp [PyFloat.lt,PyFloat.rank]

section Passing
variable {results : List JudgeResult} {rubric : Rubric} {d : ℚ} {round6 : ℚ → ℚ}

theorem passes_iff (nonneg : 0 ≤ d) (inhabited : results ≠ []) (covers : Covers rubric results) :
    Certain (.rounded round6) (.finite d) rubric results ∧ ¬ Short (.rounded round6) rubric results ↔
      Passes d rubric results := by
  have some_value : ∀ name, (results.map fun result => scoreIn result.scores name) ≠ [] :=
    fun name none => inhabited (List.map_eq_nil_iff.mp none)
  have confidence : median (.rounded round6) (results.map JudgeResult.confidence) = .ok _ :=
    median_middle round6 fun none => inhabited (List.map_eq_nil_iff.mp none)
  constructor
  · rintro ⟨certain,enough⟩
    refine ⟨certain.unflagged,fun dimension member => ?_,_,confidence,certain.confident _ confidence⟩
    have read := scoresOf_covered covers member
    obtain ⟨low,high,_,_,spanned⟩ := spread_some round6 (some_value dimension.name)
    have halved := median_middle round6 (some_value dimension.name)
    refine ⟨_,_,_,read,halved,spanned,finite_lt.mp (certain.agreed dimension member _ _ read spanned),?_⟩
    by_contra below
    exact enough ⟨dimension,member,_,_,read,halved,not_le.mp below⟩
  · rintro ⟨unflagged,reached,middling,halved,sure⟩
    refine ⟨⟨unflagged,finite_lt.mpr nonneg,?_,?_⟩,?_⟩
    · intro dimension member values wide read spanned
      obtain ⟨values',_,wide',read',_,spanned',within,_⟩ := reached dimension member
      rw [read] at read'
      cases Except.ok.inj read'
      cases Except.ok.inj (spanned.symm.trans spanned')
      exact finite_lt.mpr within
    · intro other same
      cases Except.ok.inj (same.symm.trans halved)
      exact sure
    · rintro ⟨dimension,member,values,low,read,halving,below⟩
      obtain ⟨values',_,_,read',halving',_,_,enough⟩ := reached dimension member
      rw [read] at read'
      cases Except.ok.inj read'
      cases Except.ok.inj (halving.symm.trans halving')
      exact absurd below (not_lt.mpr enough)

theorem Passes.each (passes : Passes d rubric results) (covers : Covers rubric results) :
    ∀ answer ∈ results, ∀ dimension ∈ rubric.dimensions, ∃ score,
      Dict.get answer.scores dimension.name = some score ∧ dimension.threshold - d ≤ score := by
  intro answer inside dimension member
  obtain ⟨score,found⟩ := covers answer inside dimension member
  obtain ⟨values,center,wide,read,halved,spanned,within,enough⟩ := passes.reached dimension member
  rw [scoresOf_covered covers member] at read
  cases Except.ok.inj read
  have listed : score ∈ results.map fun result => scoreIn result.scores dimension.name :=
    List.mem_map.mpr ⟨answer,inside,by rw [scoreIn,found]; rfl⟩
  have near := near_middle Arithmetic.exact.round6 spanned listed
  have center_eq := median_middle Arithmetic.exact.round6 (List.ne_nil_of_mem listed)
  cases Except.ok.inj (halved.symm.trans center_eq)
  exact ⟨score,found,by linarith⟩

end Passing

theorem ensemble_exact (round6 : ℚ → ℚ) {ensemble : EnsembleJudge} {call : Nat} {sample : JudgeSample} {rubric : Rubric}
    {results : List JudgeResult} {d : ℚ} (nonneg : 0 ≤ d) (limit : ensemble.maximumDisagreement = .finite d)
    (answered : ensemble.answers call sample rubric = .ok results) (covers : Covers rubric results) :
    ∃ result, ensemble.evaluate (.rounded round6) call sample rubric = .ok result ∧
      (result.verdict = .pass ↔
        (∀ answer ∈ results, answer.injectionDetected = false) ∧
        (∀ dimension ∈ rubric.dimensions, ∃ values middle wide, scoresOf results dimension.name = .ok values ∧
          median .exact values = .ok middle ∧ spread .exact values = .ok wide ∧ wide ≤ d ∧
          dimension.threshold ≤ middle) ∧
        ∃ middle, median .exact (results.map JudgeResult.confidence) = .ok middle ∧
          rubric.minimumConfidence ≤ middle) ∧
      (result.verdict = .pass → ∀ answer ∈ results, ∀ dimension ∈ rubric.dimensions, ∃ score,
        Dict.get answer.scores dimension.name = some score ∧ dimension.threshold - d ≤ score) ∧
      result.weightedScore = round6 (weightedOf rubric result.scores) ∧
      (∃ dimension ∈ rubric.dimensions, ∃ score, Dict.get result.scores dimension.name = some score ∧
        score ≤ weightedOf rubric result.scores) ∧
      (∃ dimension ∈ rubric.dimensions, ∃ score, Dict.get result.scores dimension.name = some score ∧
        weightedOf rubric result.scores ≤ score) ∧
      ∀ other : EnsembleJudge, ensemble.judges.Perm other.judges →
        other.maximumDisagreement = ensemble.maximumDisagreement →
        ∃ again, other.evaluate (.rounded round6) call sample rubric = .ok again ∧ again.verdict = result.verdict ∧
          again.scores = result.scores ∧ again.confidence = result.confidence ∧
          again.maximumDisagreement = result.maximumDisagreement := by
  have inhabited : results ≠ [] := by
    rintro rfl
    exact ensemble.inhabited (List.forall₂_nil_right_iff.mp (mapM_ok.mp answered))
  obtain ⟨result,concluded,weighted,scored⟩ := conclude_covered round6 ensemble.maximumDisagreement sample
    inhabited covers
  have done : ensemble.evaluate (.rounded round6) call sample rubric = .ok result := by
    rw [evaluate_conclude,answered]
    exact concluded
  obtain ⟨low,high⟩ := weightedOf_between rubric result.scores scored
  have passing : result.verdict = .pass ↔ Passes d rubric results := by
    obtain ⟨results',answered',verdict,_⟩ := evaluate_parts done
    rw [answered] at answered'
    cases Except.ok.inj answered'
    rw [verdict,limit]
    exact passes_iff nonneg inhabited covers
  refine ⟨result,done,passing.trans ⟨fun p => ⟨p.unflagged,p.reached,p.confident⟩,fun p => ⟨p.1,p.2.1,p.2.2⟩⟩,
    fun pass => (passing.mp pass).each covers,weighted,low,high,fun other reordered same => ?_⟩
  obtain ⟨others,answering,moved⟩ := answers_perm reordered answered
  refine ⟨{result with judgeResults := others},?_,rfl,rfl,rfl,rfl⟩
  rw [evaluate_conclude,answering,same]
  exact conclude_perm moved covers concluded

def limitSample : JudgeSample := ⟨"case-1","What is the limit?","The limit is ten.",none,[],[],"standard"⟩

-- Two judges, a fifth apart on the one dimension.
theorem ensemble_exact_sure : ∃ result, sure.ensemble.evaluate (.rounded id) 0 limitSample supportRubric = .ok result ∧
    result.verdict = .pass ∧ result.weightedScore = 9/10 := by
  have covers : Covers supportRubric (sureAnswers limitSample.sampleId) := by
    intro result inside dimension member
    cases List.mem_singleton.mp member
    simp only [sureAnswers,List.mem_cons,List.not_mem_nil,or_false] at inside
    rcases inside with rfl | rfl
    · exact ⟨1,by decide +kernel⟩
    · exact ⟨4/5,by decide +kernel⟩
  obtain ⟨result,done,passing,_⟩ := ensemble_exact id (d := 1/4) (by norm_num) rfl
    (sure_answers 0 limitSample) covers
  have confidence : median .exact [1,9/10] = .ok (19/20) := toOption_ok.mp (by decide +kernel)
  refine ⟨result,done,passing.mpr ⟨sure_unflagged _,?_,19/20,confidence,by decide +kernel⟩,?_⟩
  · intro dimension member
    cases List.mem_singleton.mp member
    exact ⟨[1,4/5],9/10,1/5,sure_scores _,toOption_ok.mp (by decide +kernel),
      toOption_ok.mp (by decide +kernel),by decide +kernel,by decide +kernel⟩
  · have computed : (sure.ensemble.evaluate (.rounded id) 0 limitSample supportRubric).toOption.map
        EnsembleResult.weightedScore = some (9/10) := by decide +kernel
    obtain ⟨again,made,score⟩ := Option.map_eq_some_iff.mp computed
    cases Except.ok.inj (done.symm.trans (toOption_ok.mp made))
    exact score

end OpenModelOps.JudgeConsensus
