import OpenModelOps.JudgeEnsemble

namespace OpenModelOps.JudgeGate
open KeyedTable PythonFloat JudgeEnsemble Raising

structure EvaluationCase where
  caseId : String
  question : String
  answer : String
  contexts : List String
  expectedAnswer : Option String
  expectedTools : List String

structure MetricResult where
  name : String
  score : ℚ
  threshold : ℚ
  reason : String
  bounded : probability score = true ∧ probability threshold = true

def MetricResult.make (name : String) (score threshold : ℚ) (reason : String) : Except Raised MetricResult :=
  if bounded : probability score = true ∧ probability threshold = true then .ok ⟨name,score,threshold,reason,bounded⟩
  else .error (.valueError "evaluation scores and thresholds must be between 0 and 1")

def MetricResult.passed (metric : MetricResult) : Bool := decide (metric.threshold ≤ metric.score)

structure EvaluationReport where
  engine : String
  metrics : List MetricResult
  caseCount : Nat
  metadata : List (String × String)

def EvaluationReport.passed (report : EvaluationReport) : Bool :=
  decide (0 < report.caseCount) && !report.metrics.isEmpty && report.metrics.all MetricResult.passed

structure EvaluationEngine where
  name : String
  evaluate : List EvaluationCase → Except Raised EvaluationReport

structure EvaluationGate where
  engines : List EvaluationEngine
  inhabited : engines ≠ []

-- repr of a list of engine names.
def listRepr (names : List String) : String :=
  "[" ++ String.intercalate ", " (names.map fun name => "'" ++ name ++ "'") ++ "]"

def EvaluationGate.run (gate : EvaluationGate) (dataset : List EvaluationCase) : Except Raised (List EvaluationReport) :=
  if dataset = [] then .error (.valueError "evaluation dataset cannot be empty")
  else do
    let reports ← gate.engines.mapM fun engine => engine.evaluate dataset
    if reports.all EvaluationReport.passed then return reports
    else .error (.valueError ("evaluation gate failed: " ++
      listRepr ((reports.filter fun report => !report.passed).map EvaluationReport.engine)))

structure JudgeOpsEvaluationAdapter where
  ensemble : EnsembleJudge
  rubric : Rubric

namespace JudgeOpsEvaluationAdapter

def name (adapter : JudgeOpsEvaluationAdapter) : String := "judgeops:" ++ adapter.rubric.rubricId

def sample (asked : EvaluationCase) : Except Raised JudgeSample :=
  JudgeSample.make asked.caseId asked.question asked.answer asked.expectedAnswer asked.contexts asked.expectedTools

def judged (arithmetic : Arithmetic) (adapter : JudgeOpsEvaluationAdapter) (dataset : List EvaluationCase) :
    Except Raised (List EnsembleResult) :=
  dataset.zipIdx.mapM fun asked => do
    let sample ← sample asked.1
    adapter.ensemble.evaluate arithmetic asked.2 sample adapter.rubric

def minimum (values : List ℚ) : Except Raised ℚ :=
  match values.min? with
  | some least => .ok least
  | none => .error (.valueError "min() iterable argument is empty")

def metric (results : List EnsembleResult) (dimension : RubricDimension) : Except Raised MetricResult := do
  let values ← results.mapM fun result => item result.scores dimension.name
  let worst ← minimum values
  MetricResult.make dimension.name worst dimension.threshold
    "Worst-case score; every release case must satisfy the rubric."

-- The verdicts are counted for the metadata; the metrics are made of scores.
def evaluate (arithmetic : Arithmetic) (digest : Rubric → String) (adapter : JudgeOpsEvaluationAdapter)
    (dataset : List EvaluationCase) : Except Raised EvaluationReport :=
  if dataset = [] then .error (.valueError "JudgeOps evaluation dataset cannot be empty")
  else do
    let results ← adapter.judged arithmetic dataset
    let reviewCases := results.countP fun result => decide (result.verdict = .review)
    let failedCases := results.countP fun result => decide (result.verdict = .fail)
    let metrics ← adapter.rubric.dimensions.mapM (metric results)
    return ⟨adapter.name,metrics,dataset.length,[("rubric_digest",digest adapter.rubric),
      ("review_cases",toString reviewCases),("failed_cases",toString failedCases)]⟩

def answered (adapter : JudgeOpsEvaluationAdapter) (dataset : List EvaluationCase) (results : List JudgeResult) : Prop :=
  ∃ n asked drawn, dataset[n]? = some asked ∧ sample asked = .ok drawn ∧
    adapter.ensemble.answers n drawn adapter.rubric = .ok results

end JudgeOpsEvaluationAdapter

open JudgeOpsEvaluationAdapter (evaluate judged metric minimum)

theorem minimum_exact (found : minimum values = .ok least) : values.min? = some least := by
  unfold minimum at found
  split at found
  · rename_i present; cases Except.ok.inj found; exact present
  · cases found

theorem make_parts (made : MetricResult.make title score threshold reason = .ok measured) :
    measured.score = score ∧ measured.threshold = threshold := by
  unfold MetricResult.make at made
  split at made
  · cases Except.ok.inj made; exact ⟨rfl,rfl⟩
  · cases made

theorem metric_parts (made : metric results dimension = .ok measured) :
    measured.passed = true ↔ ∀ result ∈ results, meets result.scores dimension = true := by
  unfold metric at made
  obtain ⟨values,read,made⟩ := bind_ok made
  obtain ⟨worst,least,made⟩ := bind_ok made
  obtain ⟨score,threshold⟩ := make_parts made
  obtain ⟨forward,backward⟩ := mapM_mem read
  have met : ∀ {result : EnsembleResult} {value : ℚ}, item result.scores dimension.name = .ok value →
      (meets result.scores dimension = true ↔ dimension.threshold ≤ value) := by
    intro result value found
    simp only [meets,item_exact.mp found,decide_eq_true_eq]
  rw [MetricResult.passed,score,threshold,decide_eq_true_eq,List.le_min?_iff (minimum_exact least)]
  constructor
  · intro above result member
    obtain ⟨value,inside,found⟩ := forward result member
    exact (met found).mpr (above value inside)
  · intro all value member
    obtain ⟨result,inside,found⟩ := backward value member
    exact (met found).mp (all result inside)

theorem evaluate_report (done : evaluate arithmetic digest adapter dataset = .ok report) :
    ∃ results, adapter.judged arithmetic dataset = .ok results ∧
      (report.passed = true ↔ ∀ result ∈ results, ∀ dimension ∈ adapter.rubric.dimensions,
        meets result.scores dimension = true) := by
  unfold JudgeOpsEvaluationAdapter.evaluate at done
  split at done
  · cases done
  · rename_i asked
    obtain ⟨results,judging,done⟩ := bind_ok done
    obtain ⟨metrics,measured,done⟩ := bind_ok done
    obtain rfl := Except.ok.inj done
    refine ⟨results,judging,?_⟩
    have length := (mapM_ok.mp measured).length_eq
    have some_metric : metrics ≠ [] := by
      intro empty
      rw [empty] at length
      exact adapter.rubric.dimensioned.1 (List.length_eq_zero_iff.mp length)
    obtain ⟨forward,backward⟩ := mapM_mem measured
    have shape : EvaluationReport.passed ⟨adapter.name,metrics,dataset.length,
        [("rubric_digest",digest adapter.rubric),
          ("review_cases",toString (results.countP fun result => decide (result.verdict = .review))),
          ("failed_cases",toString (results.countP fun result => decide (result.verdict = .fail)))]⟩ = true ↔
        ∀ measured ∈ metrics, MetricResult.passed measured = true := by
      simp [EvaluationReport.passed,some_metric,List.length_pos_iff,asked]
    rw [shape]
    constructor
    · intro passing result inside dimension member
      obtain ⟨measure,listed,made⟩ := forward dimension member
      exact (metric_parts made).mp (passing measure listed) result inside
    · intro met measure listed
      obtain ⟨dimension,member,made⟩ := backward measure listed
      exact (metric_parts made).mpr fun result inside => met result inside dimension member

structure Follows (arithmetic : Arithmetic) (adapter : JudgeOpsEvaluationAdapter) (answers : List JudgeResult)
    (result : EnsembleResult) : Prop where
  verdict : result.verdict = .pass ↔
    Certain arithmetic adapter.ensemble.maximumDisagreement adapter.rubric answers ∧
      ¬ Short arithmetic adapter.rubric answers
  enough : (∀ dimension ∈ adapter.rubric.dimensions, meets result.scores dimension = true) ↔
    ¬ Short arithmetic adapter.rubric answers

theorem judged_parts (done : judged arithmetic adapter dataset = .ok results) :
    (∀ result ∈ results, ∃ answers, adapter.answered dataset answers ∧ Follows arithmetic adapter answers result) ∧
    ∀ answers, adapter.answered dataset answers → ∃ result ∈ results, Follows arithmetic adapter answers result := by
  obtain ⟨forward,backward⟩ := mapM_mem done
  constructor
  · intro result member
    obtain ⟨⟨asked,n⟩,inside,made⟩ := backward result member
    obtain ⟨drawn,sampled,made⟩ := bind_ok made
    obtain ⟨answers,answering,verdict,enough,_⟩ := evaluate_parts made
    exact ⟨answers,⟨n,asked,drawn,List.mem_zipIdx_iff_getElem?.mp inside,sampled,answering⟩,verdict,enough⟩
  · rintro answers ⟨n,asked,drawn,place,sampled,answering⟩
    obtain ⟨result,member,made⟩ := forward (asked,n) (List.mem_zipIdx_iff_getElem?.mpr place)
    obtain ⟨drawn',sampled',made⟩ := bind_ok made
    rw [sampled] at sampled'
    cases Except.ok.inj sampled'
    obtain ⟨answers',answering',verdict,enough,_⟩ := evaluate_parts made
    rw [answering] at answering'
    cases Except.ok.inj answering'
    exact ⟨result,member,verdict,enough⟩

-- Where the adapter returns a report, passing it means that every case has the
-- verdict PASS exactly when some dimension of some case is short or the judges
-- are certain of every case.
theorem gate_closed_iff (arithmetic : Arithmetic) (digest : Rubric → String) (adapter : JudgeOpsEvaluationAdapter)
    (dataset : List EvaluationCase) (report : EvaluationReport)
    (done : evaluate arithmetic digest adapter dataset = .ok report) :
    (report.passed = true → ∀ results, adapter.judged arithmetic dataset = .ok results →
      ∀ result ∈ results, result.verdict = .pass) ↔
    (∃ answers, adapter.answered dataset answers ∧ Short arithmetic adapter.rubric answers) ∨
      ∀ answers, adapter.answered dataset answers →
        Certain arithmetic adapter.ensemble.maximumDisagreement adapter.rubric answers := by
  obtain ⟨results,judging,passing⟩ := evaluate_report done
  obtain ⟨forward,backward⟩ := judged_parts judging
  have released : report.passed = true ↔ ∀ answers, adapter.answered dataset answers →
      ¬ Short arithmetic adapter.rubric answers := by
    rw [passing]
    constructor
    · intro met answers answering
      obtain ⟨result,member,follows⟩ := backward answers answering
      exact follows.enough.mp (met result member)
    · intro enough result member
      obtain ⟨answers,answering,follows⟩ := forward result member
      exact follows.enough.mpr (enough answers answering)
  constructor
  · intro closed
    by_cases passed : report.passed = true
    · refine .inr fun answers answering => ?_
      obtain ⟨result,member,follows⟩ := backward answers answering
      exact (follows.verdict.mp (closed passed results judging result member)).1
    · rw [released] at passed
      push Not at passed
      exact .inl passed
  · rintro (⟨answers,answering,short⟩ | certain) passed results' judging' result member
    · exact absurd short (released.mp passed answers answering)
    · rw [judging] at judging'
      cases Except.ok.inj judging'
      obtain ⟨answers,answering,follows⟩ := forward result member
      exact follows.verdict.mpr ⟨certain answers answering,released.mp passed answers answering⟩

-- A gate with no other engine lets the release through exactly on a passed
-- report.
def soleGate (arithmetic : Arithmetic) (digest : Rubric → String) (adapter : JudgeOpsEvaluationAdapter) :
    EvaluationGate := ⟨[⟨adapter.name,evaluate arithmetic digest adapter⟩],by simp⟩

theorem soleGate_run (done : evaluate arithmetic digest adapter dataset = .ok report) :
    (soleGate arithmetic digest adapter).run dataset = .ok [report] ↔ report.passed = true := by
  have asked : dataset ≠ [] := by
    rintro rfl
    cases done
  have reports : (soleGate arithmetic digest adapter).engines.mapM (fun engine => engine.evaluate dataset) =
      .ok [report] := mapM_ok.mpr (.cons done .nil)
  unfold EvaluationGate.run
  rw [if_neg asked,reports]
  cases passed : report.passed with
  | true => simp [bind,Except.bind,passed,pure,Except.pure]
  | false => simp [bind,Except.bind,passed]

def accuracy : RubricDimension :=
  ⟨"accuracy","Every statement of the answer is correct.",1/2,1,by decide,by decide,by decide +kernel,by decide +kernel⟩

def supportRubric : Rubric :=
  ⟨"support-quality","1.0.0",[accuracy],3/4,by decide,by decide,by decide,by decide +kernel,by decide⟩

def rubricDigest : String := "sha256:3a1f0c5b7d9e2468ace013579bdf2468ace013579bdf2468ace013579bdf2468"

def opinion (confidence : ℚ) (confident : probability confidence = true) : JudgeResult where
  sampleId := "case-1"
  judgeId := "judge-a"
  judgeRevision := "v1"
  rubricId := "support-quality"
  rubricDigest := rubricDigest
  sampleDigest := rubricDigest
  verdict := .pass
  scores := Dict.set Table.empty "accuracy" 1
  confidence := confidence
  rationale := "All statements are supported."
  claims := []
  injectionDetected := false
  identified := by decide
  digested := by decide +kernel
  confident := confident
  explained := by decide
  scored := by decide +kernel

def confiding (confidence : ℚ) (confident : probability confidence = true) : JudgeOpsEvaluationAdapter :=
  ⟨⟨[⟨"judge-a","v1",fun _ _ _ => .ok (opinion confidence confident)⟩],.finite (1/4),by simp,by simp⟩,supportRubric⟩

def supportCase : EvaluationCase := ⟨"case-1","What is the limit?","The limit is ten.",[],none,[]⟩
def feeCase : EvaluationCase := ⟨"case-2","What is the fee?","The fee is two.",[],none,[]⟩

def unsure : JudgeOpsEvaluationAdapter := confiding (1/2) (by decide +kernel)

def reserved : JudgeResult :=
  {opinion (9/10) (by decide +kernel) with
    judgeId := "judge-b"
    scores := Dict.set Table.empty "accuracy" (4/5)
    identified := by decide
    scored := by decide +kernel}

def sureAnswers (sampleId : String) : List JudgeResult :=
  [{opinion 1 (by decide +kernel) with sampleId := sampleId},{reserved with sampleId := sampleId}]

def sureJudges : List JudgeProvider :=
  [⟨"judge-a","v1",fun _ sample _ => .ok {opinion 1 (by decide +kernel) with sampleId := sample.sampleId}⟩,
   ⟨"judge-b","v1",fun _ sample _ => .ok {reserved with sampleId := sample.sampleId}⟩]

def sure : JudgeOpsEvaluationAdapter := ⟨⟨sureJudges,.finite (1/4),by simp [sureJudges],by simp [sureJudges]⟩,supportRubric⟩

theorem sure_answers (call : Nat) (sample : JudgeSample) :
    sure.ensemble.answers call sample supportRubric = .ok (sureAnswers sample.sampleId) := rfl

theorem sure_scores (sampleId : String) : scoresOf (sureAnswers sampleId) "accuracy" = .ok [1,4/5] := rfl

theorem sure_unflagged (sampleId : String) : ∀ result ∈ sureAnswers sampleId, result.injectionDetected = false := by
  intro result member
  simp only [sureAnswers,List.mem_cons,List.not_mem_nil,or_false] at member
  rcases member with rfl | rfl <;> rfl

theorem sure_certain (sampleId : String) :
    Certain .exact sure.ensemble.maximumDisagreement sure.rubric (sureAnswers sampleId) := by
  refine ⟨sure_unflagged sampleId,by decide +kernel,?_,?_⟩
  · intro dimension member values wide read spanned
    cases List.mem_singleton.mp member
    cases Except.ok.inj ((sure_scores sampleId).symm.trans read)
    cases spanned
    decide +kernel
  · intro middle found
    have confidence : median .exact [1,9/10] = .ok (19/20) := toOption_ok.mp (by decide +kernel)
    cases Except.ok.inj (confidence.symm.trans found)
    decide +kernel

theorem gate_closed_sure : ∃ report results,
    evaluate .exact (fun _ => rubricDigest) sure [supportCase,feeCase] = .ok report ∧ report.passed = true ∧
    sure.judged .exact [supportCase,feeCase] = .ok results ∧ results.length = 2 ∧
    ∀ result ∈ results, result.verdict = .pass := by
  have passes : (evaluate .exact (fun _ => rubricDigest) sure [supportCase,feeCase]).toOption.map EvaluationReport.passed =
      some true := by decide +kernel
  have judging : (sure.judged .exact [supportCase,feeCase]).toOption.map List.length = some 2 := by decide +kernel
  obtain ⟨report,made,passed⟩ := Option.map_eq_some_iff.mp passes
  obtain ⟨results,judged,length⟩ := Option.map_eq_some_iff.mp judging
  have done := toOption_ok.mp made
  have certain : ∀ answers, sure.answered [supportCase,feeCase] answers →
      Certain .exact sure.ensemble.maximumDisagreement sure.rubric answers := by
    intro answers answering
    obtain ⟨call,asked,drawn,_,_,answered⟩ := answering
    cases Except.ok.inj ((sure_answers call drawn).symm.trans answered)
    exact sure_certain drawn.sampleId
  have all := (gate_closed_iff .exact (fun _ => rubricDigest) sure [supportCase,feeCase] report done).mpr (.inr certain)
  exact ⟨report,results,done,passed,toOption_ok.mp judged,length,all passed results (toOption_ok.mp judged)⟩

-- The only judge is too unsure for the rubric. The case is routed to human
-- review, and the release goes through.
theorem gate_passes_review : ¬ ∀ (arithmetic : Arithmetic) (digest : Rubric → String)
    (adapter : JudgeOpsEvaluationAdapter) (dataset : List EvaluationCase) (report : EvaluationReport),
    evaluate arithmetic digest adapter dataset = .ok report → report.passed = true →
    ∀ results, adapter.judged arithmetic dataset = .ok results → ∀ result ∈ results, result.verdict = .pass := by
  intro closed
  have passes : (evaluate .exact (fun _ => rubricDigest) unsure [supportCase]).toOption.map EvaluationReport.passed =
      some true := by decide +kernel
  have judging : (unsure.judged .exact [supportCase]).toOption.map
      (fun results => results.map EnsembleResult.verdict) = some [.review] := by decide +kernel
  obtain ⟨report,made,passed⟩ := Option.map_eq_some_iff.mp passes
  obtain ⟨results,judged,verdicts⟩ := Option.map_eq_some_iff.mp judging
  have all := closed _ _ _ _ report (toOption_ok.mp made) passed results (toOption_ok.mp judged)
  have review : Verdict.review ∈ results.map EnsembleResult.verdict := by rw [verdicts]; simp
  obtain ⟨result,member,routed⟩ := List.mem_map.mp review
  have pass := all result member
  rw [routed] at pass
  cases pass

end OpenModelOps.JudgeGate
