import OpenModelOps.JudgeCalibration
import OpenModelOps.JudgeGate
import OpenModelOps.OrderedDict

namespace OpenModelOps.JudgeShadow
open KeyedTable PythonFloat Raising
open JudgeEnsemble (EnsembleJudge EnsembleResult JudgeSample Raised Rubric Verdict)
open JudgeCalibration (CalibrationCase CalibrationPolicy CalibrationReport Failure calibrate calibrate_able
  qualifyCalibration)

-- A candidate that raised has the verdict "provider_error" and the exception's
-- type and text as its error. Both stand here as they are made.
structure ShadowComparison where
  sampleId : String
  activeVerdict : Verdict
  candidateVerdict : Option Verdict
  agreed : Bool
  candidateConfidence : ℚ
  candidateError : Option Raised

def ShadowComparison.of (sample : JudgeSample) (active : EnsembleResult) :
    Except Raised EnsembleResult → ShadowComparison
  | .error raised => ⟨sample.sampleId,active.verdict,none,false,0,some raised⟩
  | .ok candidate => ⟨sample.sampleId,active.verdict,some candidate.verdict,
      decide (active.verdict = candidate.verdict),candidate.confidence,none⟩

structure ShadowReport where
  comparisons : List ShadowComparison
  agreementRate : ℚ

structure ShadowEvaluator where
  active : EnsembleJudge
  candidate : EnsembleJudge

namespace ShadowEvaluator

-- The samples are numbered as the two ensembles meet them.
def compare (arithmetic : Arithmetic) (evaluator : ShadowEvaluator) (rubric : Rubric) (asked : JudgeSample × Nat) :
    Except Raised ShadowComparison := do
  let active ← evaluator.active.evaluate arithmetic asked.2 asked.1 rubric
  return .of asked.1 active (evaluator.candidate.evaluate arithmetic asked.2 asked.1 rubric)

def run (arithmetic : Arithmetic) (evaluator : ShadowEvaluator) (samples : List JudgeSample) (rubric : Rubric) :
    Except Raised ShadowReport :=
  if samples.isEmpty then .error (.valueError "shadow evaluation requires samples")
  else do
    let comparisons ← samples.zipIdx.mapM (evaluator.compare arithmetic rubric)
    return ⟨comparisons,
      arithmetic.round6 (arithmetic.div (comparisons.countP ShadowComparison.agreed : Nat) comparisons.length)⟩

end ShadowEvaluator

structure GoldenCase where
  sample : JudgeSample
  humanVerdict : Verdict

inductive Stopped where
  | shadow (raised : Raised)
  | keyError (sampleId : String)
  | valueError (message : String)
  | calibration (failure : Failure)

structure Experiment where
  shadowAgreementRate : ℚ
  calibration : Option CalibrationReport
  unresolvedReviews : List String
  providerErrors : List String
  qualificationFailures : List String

def Experiment.productionQualified (experiment : Experiment) : Bool := experiment.qualificationFailures.isEmpty

def raisedAs {ε ε' α : Type} (stopped : ε → ε') : Except ε α → Except ε' α
  | .error raised => .error (stopped raised)
  | .ok value => .ok value

def passProbability (arithmetic : Arithmetic) (verdict : Verdict) (confidence : ℚ) : ℚ :=
  if verdict = .pass then confidence else arithmetic.sub 1 confidence

def calibrationCase (arithmetic : Arithmetic) (byId : Dict String ShadowComparison) (asked : GoldenCase) :
    Except Stopped CalibrationCase :=
  match Dict.get byId asked.sample.sampleId with
  | none => .error (.keyError asked.sample.sampleId)
  | some comparison =>
    match comparison.candidateVerdict with
    | none => .error (.valueError "'provider_error' is not a valid Verdict")
    | some verdict => .ok ⟨asked.sample.sampleId,decide (asked.humanVerdict = .pass),verdict,
        some (passProbability arithmetic verdict comparison.candidateConfidence)⟩

def providerErrors (comparisons : List ShadowComparison) : List String :=
  (comparisons.filter fun comparison => comparison.candidateError.isSome).map ShadowComparison.sampleId

def unresolved (comparisons : List ShadowComparison) : List String :=
  (comparisons.filter fun comparison => decide (comparison.candidateVerdict = some .review)).map
    ShadowComparison.sampleId

def byId (comparisons : List ShadowComparison) : Dict String ShadowComparison :=
  Dict.ofRows (comparisons.map fun comparison => (comparison.sampleId,comparison))

-- main() of the experiment, from the loaded cases to the payload.
def experiment (arithmetic : Arithmetic) (evaluator : ShadowEvaluator) (loaded : List GoldenCase) (rubric : Rubric) :
    Except Stopped Experiment := do
  let shadow ← raisedAs .shadow (evaluator.run arithmetic (loaded.map GoldenCase.sample) rubric)
  let errors := providerErrors shadow.comparisons
  let reviews := unresolved shadow.comparisons
  if reviews.isEmpty && errors.isEmpty then do
    let labelled ← loaded.mapM (calibrationCase arithmetic (byId shadow.comparisons))
    let calibration ← raisedAs .calibration (calibrate arithmetic labelled)
    return ⟨shadow.agreementRate,some calibration,reviews,errors,CalibrationPolicy.standard.failures calibration⟩
  else
    return ⟨shadow.agreementRate,none,reviews,errors,(if errors.isEmpty then [] else ["provider_errors"]) ++
      if reviews.isEmpty then [] else ["unresolved_reviews"]⟩

def answers (arithmetic : Arithmetic) (ensemble : EnsembleJudge) (rubric : Rubric) (samples : List JudgeSample) :
    Except Raised (List EnsembleResult) :=
  samples.zipIdx.mapM fun asked => ensemble.evaluate arithmetic asked.2 asked.1 rubric

def ShadowReport.activeVerdicts (report : ShadowReport) : List (String × Verdict) :=
  report.comparisons.map fun comparison => (comparison.sampleId,comparison.activeVerdict)

section Running
variable {arithmetic : Arithmetic} {evaluator : ShadowEvaluator} {rubric : Rubric} {samples : List JudgeSample}

@[simp] theorem of_sampleId (sample : JudgeSample) (active : EnsembleResult) (candidate : Except Raised EnsembleResult) :
    (ShadowComparison.of sample active candidate).sampleId = sample.sampleId := by
  cases candidate <;> rfl

@[simp] theorem of_activeVerdict (sample : JudgeSample) (active : EnsembleResult)
    (candidate : Except Raised EnsembleResult) :
    (ShadowComparison.of sample active candidate).activeVerdict = active.verdict := by
  cases candidate <;> rfl

theorem run_active (asked : samples ≠ []) :
    (evaluator.run arithmetic samples rubric).map ShadowReport.activeVerdicts =
      (answers arithmetic evaluator.active rubric samples).map
        (List.zipWith (fun sample result => (sample.sampleId,result.verdict)) samples) := by
  have some_left : samples.isEmpty = false := by simpa using asked
  have paired := mapM_zipWith (fun asked => evaluator.active.evaluate arithmetic asked.2 asked.1 rubric)
    (fun asked result => ShadowComparison.of asked.1 result (evaluator.candidate.evaluate arithmetic asked.2 asked.1 rubric))
    samples.zipIdx
  rw [ShadowEvaluator.run,if_neg (by simp [some_left])]
  show ((samples.zipIdx.mapM (evaluator.compare arithmetic rubric)) >>= _).map _ = _
  unfold ShadowEvaluator.compare answers
  rw [paired]
  cases samples.zipIdx.mapM fun asked => evaluator.active.evaluate arithmetic asked.2 asked.1 rubric with
  | error raised => rfl
  | ok results =>
    refine congrArg Except.ok ?_
    show List.map _ (List.zipWith _ _ _) = _
    have plain := @List.zipWith_map_left _ _ _ _ samples.zipIdx results Prod.fst
      fun (sample : JudgeSample) (result : EnsembleResult) => (sample.sampleId,result.verdict)
    rw [List.zipIdx_map_fst] at plain
    rw [List.map_zipWith,plain]
    simp only [of_sampleId,of_activeVerdict]

end Running

def verdictCase (arithmetic : Arithmetic) (asked : GoldenCase) (result : EnsembleResult) : CalibrationCase :=
  ⟨asked.sample.sampleId,decide (asked.humanVerdict = .pass),result.verdict,
    some (passProbability arithmetic result.verdict result.confidence)⟩

section Qualifying
variable {arithmetic : Arithmetic} {evaluator : ShadowEvaluator} {rubric : Rubric} {loaded : List GoldenCase}

def Compared (arithmetic : Arithmetic) (evaluator : ShadowEvaluator) (rubric : Rubric)
    (asked : JudgeSample × Nat) (comparison : ShadowComparison) : Prop :=
  evaluator.compare arithmetic rubric asked = .ok comparison

def Answered (arithmetic : Arithmetic) (ensemble : EnsembleJudge) (rubric : Rubric) (asked : JudgeSample × Nat)
    (result : EnsembleResult) : Prop :=
  ensemble.evaluate arithmetic asked.2 asked.1 rubric = .ok result

theorem compare_ok {asked : JudgeSample × Nat} {comparison : ShadowComparison}
    (compared : Compared arithmetic evaluator rubric asked comparison) :
    ∃ active, Answered arithmetic evaluator.active rubric asked active ∧
      comparison = .of asked.1 active (evaluator.candidate.evaluate arithmetic asked.2 asked.1 rubric) := by
  obtain ⟨active,answered,made⟩ := bind_ok compared
  exact ⟨active,answered,(Except.ok.inj made).symm⟩

structure Records (asked : JudgeSample × Nat) (comparison : ShadowComparison) (result : EnsembleResult) : Prop where
  named : comparison.sampleId = asked.1.sampleId
  verdict : comparison.candidateVerdict = some result.verdict
  confidence : comparison.candidateConfidence = result.confidence
  clean : comparison.candidateError = none

theorem compared_records {asked : JudgeSample × Nat} {comparison : ShadowComparison} {result : EnsembleResult}
    (compared : Compared arithmetic evaluator rubric asked comparison)
    (answered : Answered arithmetic evaluator.candidate rubric asked result) : Records asked comparison result := by
  obtain ⟨active,_,made⟩ := compare_ok compared
  rw [show evaluator.candidate.evaluate arithmetic asked.2 asked.1 rubric = .ok result from answered] at made
  subst made
  exact ⟨rfl,rfl,rfl,rfl⟩

theorem compared_clean {asked : JudgeSample × Nat} {comparison : ShadowComparison}
    (compared : Compared arithmetic evaluator rubric asked comparison) (clean : comparison.candidateError = none) :
    ∃ result, Answered arithmetic evaluator.candidate rubric asked result := by
  obtain ⟨active,_,made⟩ := compare_ok compared
  cases candidate : evaluator.candidate.evaluate arithmetic asked.2 asked.1 rubric with
  | error raised =>
    rw [candidate] at made
    subst made
    cases clean
  | ok result => exact ⟨result,candidate⟩

theorem asked_names (samples : List JudgeSample) :
    (samples.zipIdx.map fun asked => asked.1.sampleId) = samples.map JudgeSample.sampleId := by
  calc samples.zipIdx.map (fun asked => asked.1.sampleId)
      = (samples.zipIdx.map Prod.fst).map JudgeSample.sampleId := by rw [List.map_map]; rfl
    _ = samples.map JudgeSample.sampleId := by rw [List.zipIdx_map_fst]

theorem compared_names {asked : List (JudgeSample × Nat)} {comparisons : List ShadowComparison}
    (compared : List.Forall₂ (Compared arithmetic evaluator rubric) asked comparisons) :
    comparisons.map ShadowComparison.sampleId = asked.map fun sample => sample.1.sampleId := by
  induction compared with
  | nil => rfl
  | cons first _ ih =>
    obtain ⟨active,_,made⟩ := compare_ok first
    rw [List.map_cons,List.map_cons,ih,made,of_sampleId]

theorem providerErrors_nil {comparisons : List ShadowComparison} :
    providerErrors comparisons = [] ↔ ∀ comparison ∈ comparisons, comparison.candidateError = none := by
  simp [providerErrors,List.filter_eq_nil_iff]

theorem unresolved_nil {comparisons : List ShadowComparison} :
    unresolved comparisons = [] ↔ ∀ comparison ∈ comparisons, comparison.candidateVerdict ≠ some .review := by
  simp [unresolved,List.filter_eq_nil_iff]

theorem byId_known {comparisons : List ShadowComparison} (unique : (comparisons.map ShadowComparison.sampleId).Nodup) :
    ∀ comparison ∈ comparisons, Dict.get (byId comparisons) comparison.sampleId = some comparison := by
  intro comparison member
  rw [Dict.get_row,byId,Dict.ofRows_rows]
  · exact List.mem_map_of_mem member
  · rwa [List.map_map]

theorem records_case {dict : Dict String ShadowComparison} {asked : GoldenCase} {start : Nat}
    {comparison : ShadowComparison} {result : EnsembleResult} (recorded : Records (asked.sample,start) comparison result)
    (known : Dict.get dict comparison.sampleId = some comparison) :
    calibrationCase arithmetic dict asked = .ok (verdictCase arithmetic asked result) := by
  have found : Dict.get dict asked.sample.sampleId = some comparison := by rw [← known,recorded.named]
  unfold calibrationCase
  rw [found]
  simp only [recorded.verdict,recorded.confidence]
  rfl

theorem calibrationCases {dict : Dict String ShadowComparison} (loaded : List GoldenCase) (start : Nat)
    {comparisons : List ShadowComparison} {results : List EnsembleResult}
    (compared : List.Forall₂ (Compared arithmetic evaluator rubric)
      ((loaded.map GoldenCase.sample).zipIdx start) comparisons)
    (answered : List.Forall₂ (Answered arithmetic evaluator.candidate rubric)
      ((loaded.map GoldenCase.sample).zipIdx start) results)
    (known : ∀ comparison ∈ comparisons, Dict.get dict comparison.sampleId = some comparison) :
    loaded.mapM (calibrationCase arithmetic dict) = .ok (List.zipWith (verdictCase arithmetic) loaded results) := by
  induction loaded generalizing start comparisons results with
  | nil => rfl
  | cons asked rest ih =>
    rw [List.map_cons,List.zipIdx_cons] at compared answered
    cases compared with
    | cons first laterCompared =>
      cases answered with
      | cons answer laterAnswered =>
        obtain ⟨here,later⟩ := List.forall_mem_cons.mp known
        have recorded := compared_records first answer
        rw [List.mapM_cons,records_case recorded here,ih (start + 1) laterCompared laterAnswered later]
        rfl

theorem records_all {asked : List (JudgeSample × Nat)} {comparisons : List ShadowComparison}
    {results : List EnsembleResult} (compared : List.Forall₂ (Compared arithmetic evaluator rubric) asked comparisons)
    (answered : List.Forall₂ (Answered arithmetic evaluator.candidate rubric) asked results) :
    providerErrors comparisons = [] ∧
      (unresolved comparisons = [] ↔ ∀ result ∈ results, result.verdict ≠ .review) := by
  induction compared generalizing results with
  | nil =>
    cases answered
    exact ⟨rfl,iff_of_true rfl nofun⟩
  | cons first _ ih =>
    cases answered with
    | cons answer later =>
      have recorded := compared_records first answer
      obtain ⟨clean,resolved⟩ := ih later
      rw [providerErrors_nil] at clean ⊢
      rw [unresolved_nil] at resolved ⊢
      refine ⟨List.forall_mem_cons.mpr ⟨recorded.clean,clean⟩,?_⟩
      rw [List.forall_mem_cons,List.forall_mem_cons,resolved,recorded.verdict]
      exact and_congr_left fun _ => not_congr Option.some_inj

theorem verdicts_kept {results : List EnsembleResult} (same : loaded.length = results.length) :
    (List.zipWith (verdictCase arithmetic) loaded results).map CalibrationCase.judgeVerdict =
      results.map EnsembleResult.verdict := by
  induction loaded generalizing results with
  | nil =>
    cases results with
    | nil => rfl
    | cons => cases same
  | cons asked rest ih =>
    cases results with
    | nil => cases same
    | cons result later =>
      rw [List.zipWith_cons_cons,List.map_cons,List.map_cons,ih (Nat.succ.inj same)]
      rfl

theorem qualifyCalibration_ok {labelled : List CalibrationCase} :
    qualifyCalibration arithmetic labelled = .ok () ↔
      ∃ report, calibrate arithmetic labelled = .ok report ∧ CalibrationPolicy.standard.failures report = [] := by
  have qualified : ∀ report, CalibrationPolicy.standard.qualify report = .ok () ↔
      CalibrationPolicy.standard.failures report = [] := by
    intro report
    unfold CalibrationPolicy.qualify
    by_cases none_left : CalibrationPolicy.standard.failures report = [] <;> simp [none_left]
  constructor
  · intro passed
    obtain ⟨report,made,passed⟩ := bind_ok passed
    exact ⟨report,made,(qualified report).mp passed⟩
  · intro passed
    obtain ⟨report,made,none_left⟩ := passed
    show (calibrate arithmetic labelled >>= _) = _
    rw [made]
    exact (qualified report).mpr none_left

theorem run_ok {samples : List JudgeSample} {report : ShadowReport} :
    evaluator.run arithmetic samples rubric = .ok report ↔ samples ≠ [] ∧
      List.Forall₂ (Compared arithmetic evaluator rubric) samples.zipIdx report.comparisons ∧
      report.agreementRate = arithmetic.round6 (arithmetic.div
        (report.comparisons.countP ShadowComparison.agreed : Nat) report.comparisons.length) := by
  unfold ShadowEvaluator.run
  cases samples with
  | nil => exact iff_of_false nofun fun left => left.1 rfl
  | cons sample rest =>
    rw [if_neg (show ¬ (sample :: rest).isEmpty = true from nofun)]
    constructor
    · intro finished
      obtain ⟨comparisons,made,finished⟩ := bind_ok finished
      cases Except.ok.inj finished
      exact ⟨List.cons_ne_nil _ _,mapM_ok.mp made,rfl⟩
    · intro parts
      obtain ⟨_,compared,rate⟩ := parts
      show ((sample :: rest).zipIdx.mapM (evaluator.compare arithmetic rubric) >>= _) = _
      rw [mapM_ok.mpr compared]
      obtain ⟨comparisons,agreementRate⟩ := report
      exact congrArg (fun rate => Except.ok (ShadowReport.mk comparisons rate)) rate.symm

theorem raisedAs_ok {ε ε' α : Type} {stopped : ε → ε'} {result : Except ε α} {value : α} :
    raisedAs stopped result = .ok value ↔ result = .ok value := by
  cases result with
  | error raised => exact ⟨nofun,nofun⟩
  | ok found => exact ⟨fun same => by cases same; rfl,fun same => by cases same; rfl⟩

theorem run_total {samples : List JudgeSample} {actives : List EnsembleResult} (asked : samples ≠ [])
    (active : answers arithmetic evaluator.active rubric samples = .ok actives) :
    ∃ report, evaluator.run arithmetic samples rubric = .ok report := by
  obtain ⟨comparisons,made⟩ := mapM_total fun asked member => by
    obtain ⟨result,_,answered⟩ := related_left (mapM_ok.mp active) member
    have compared : evaluator.compare arithmetic rubric asked = .ok (.of asked.1 result
        (evaluator.candidate.evaluate arithmetic asked.2 asked.1 rubric)) := by
      unfold ShadowEvaluator.compare
      rw [answered]
      rfl
    exact ⟨_,compared⟩
  exact ⟨⟨comparisons,arithmetic.round6 (arithmetic.div (comparisons.countP ShadowComparison.agreed : Nat)
    comparisons.length)⟩,run_ok.mpr ⟨asked,mapM_ok.mp made,rfl⟩⟩

theorem experiment_qualified : (∃ outcome, experiment arithmetic evaluator loaded rubric = .ok outcome ∧
      outcome.productionQualified = true) ↔
    ∃ report, evaluator.run arithmetic (loaded.map GoldenCase.sample) rubric = .ok report ∧
      providerErrors report.comparisons = [] ∧ unresolved report.comparisons = [] ∧
      ∃ labelled, loaded.mapM (calibrationCase arithmetic (byId report.comparisons)) = .ok labelled ∧
        qualifyCalibration arithmetic labelled = .ok () := by
  constructor
  · intro qualified
    obtain ⟨outcome,done,qualified⟩ := qualified
    obtain ⟨report,ran,done⟩ := bind_ok done
    refine ⟨report,raisedAs_ok.mp ran,?_⟩
    cases errors : providerErrors report.comparisons with
    | cons first rest =>
      simp only [errors,List.isEmpty_cons,Bool.and_false] at done
      cases Except.ok.inj done
      cases qualified
    | nil =>
      cases reviews : unresolved report.comparisons with
      | cons first rest =>
        simp only [errors,reviews,List.isEmpty_cons,Bool.false_and] at done
        cases Except.ok.inj done
        cases qualified
      | nil =>
        simp only [errors,reviews,List.isEmpty_nil,Bool.and_self,if_true] at done
        obtain ⟨labelled,made,done⟩ := bind_ok done
        obtain ⟨calibration,calibrated,done⟩ := bind_ok done
        cases Except.ok.inj done
        exact ⟨rfl,rfl,labelled,made,qualifyCalibration_ok.mpr
          ⟨calibration,raisedAs_ok.mp calibrated,List.isEmpty_iff.mp qualified⟩⟩
  · intro parts
    obtain ⟨report,ran,errors,reviews,labelled,made,passed⟩ := parts
    obtain ⟨calibration,calibrated,none_left⟩ := qualifyCalibration_ok.mp passed
    refine ⟨⟨report.agreementRate,some calibration,[],[],CalibrationPolicy.standard.failures calibration⟩,?_,?_⟩
    · show (raisedAs Stopped.shadow (evaluator.run arithmetic (loaded.map GoldenCase.sample) rubric) >>= _) = _
      rw [ran]
      show (if (unresolved report.comparisons).isEmpty && (providerErrors report.comparisons).isEmpty then _ else _) = _
      rw [errors,reviews]
      show (loaded.mapM (calibrationCase arithmetic (byId report.comparisons)) >>= _) = _
      rw [made]
      show (raisedAs Stopped.calibration (calibrate arithmetic labelled) >>= _) = _
      rw [calibrated]
      rfl
    · exact List.isEmpty_iff.mpr none_left

-- The candidate changes nothing that the active ensemble decides, and the active
-- ensemble changes nothing in how the candidate qualifies.
theorem candidate_stays_in_shadow (asked : loaded ≠ []) (unique : (loaded.map fun c => c.sample.sampleId).Nodup) :
    (evaluator.run arithmetic (loaded.map GoldenCase.sample) rubric).map ShadowReport.activeVerdicts =
        (answers arithmetic evaluator.active rubric (loaded.map GoldenCase.sample)).map
          (List.zipWith (fun c result => (c.sample.sampleId,result.verdict)) loaded) ∧
      ((∃ outcome, experiment arithmetic evaluator loaded rubric = .ok outcome ∧ outcome.productionQualified = true) ↔
        (∃ actives, answers arithmetic evaluator.active rubric (loaded.map GoldenCase.sample) = .ok actives) ∧
        ∃ results, answers arithmetic evaluator.candidate rubric (loaded.map GoldenCase.sample) = .ok results ∧
          qualifyCalibration arithmetic (List.zipWith (verdictCase arithmetic) loaded results) = .ok ()) := by
  have samples : loaded.map GoldenCase.sample ≠ [] := List.map_eq_nil_iff.not.mpr asked
  constructor
  · rw [run_active samples]
    refine congrArg (fun pair => Except.map pair (answers arithmetic evaluator.active rubric _)) (funext fun results => ?_)
    exact List.zipWith_map_left
  have known_of : ∀ {comparisons : List ShadowComparison},
      List.Forall₂ (Compared arithmetic evaluator rubric) (loaded.map GoldenCase.sample).zipIdx comparisons →
      ∀ comparison ∈ comparisons, Dict.get (byId comparisons) comparison.sampleId = some comparison := by
    intro comparisons compared
    refine byId_known ?_
    rw [compared_names compared,asked_names,List.map_map]
    exact unique
  rw [experiment_qualified]
  constructor
  · intro parts
    obtain ⟨report,ran,errors,reviews,labelled,made,passed⟩ := parts
    obtain ⟨_,compared,_⟩ := run_ok.mp ran
    have clean := providerErrors_nil.mp errors
    obtain ⟨actives,active⟩ := mapM_total fun sample member => by
      obtain ⟨comparison,_,here⟩ := related_left compared member
      obtain ⟨answer,answered,_⟩ := compare_ok here
      exact ⟨answer,answered⟩
    obtain ⟨results,answered⟩ := mapM_total fun sample member => by
      obtain ⟨comparison,inside,here⟩ := related_left compared member
      exact compared_clean here (clean comparison inside)
    refine ⟨⟨actives,active⟩,results,answered,?_⟩
    have known := known_of compared
    rw [calibrationCases loaded 0 compared (mapM_ok.mp answered) known] at made
    rwa [Except.ok.inj made]
  · intro parts
    obtain ⟨⟨actives,active⟩,results,answered,passed⟩ := parts
    obtain ⟨report,ran⟩ := @run_total _ evaluator _ _ _ samples active
    obtain ⟨_,compared,_⟩ := run_ok.mp ran
    have candidates := mapM_ok.mp answered
    obtain ⟨errors,reviews⟩ := records_all compared candidates
    obtain ⟨calibration,calibrated,_⟩ := qualifyCalibration_ok.mp passed
    have resolved := (calibrate_able calibrated).resolved
    have size : loaded.length = results.length := by
      have together := candidates.length_eq
      rwa [List.length_zipIdx,List.length_map] at together
    have verdicts := @verdicts_kept arithmetic loaded results size
    refine ⟨report,ran,errors,reviews.mpr fun result member => ?_,_,
      calibrationCases loaded 0 compared candidates (known_of compared),passed⟩
    have same : result.verdict ∈ (List.zipWith (verdictCase arithmetic) loaded results).map CalibrationCase.judgeVerdict := by
      rw [verdicts]
      exact List.mem_map_of_mem member
    obtain ⟨c,inside,here⟩ := List.mem_map.mp same
    rw [← here]
    exact resolved c inside

end Qualifying

def limitCase : GoldenCase := ⟨⟨"case-1","What is the limit?","The limit is ten.",none,[],[],"standard"⟩,.pass⟩

def feeCase : GoldenCase := ⟨⟨"case-2","What is the fee?","The fee is two.",none,[],[],"standard"⟩,.pass⟩

-- A candidate whose model cannot be reached.
def silent : EnsembleJudge :=
  ⟨[⟨"judge-b","v1",fun _ _ _ => .error (.provider "integration is unavailable")⟩],.finite (1/4),by simp,by simp⟩

theorem silent_in_shadow :
    (ShadowEvaluator.run .exact ⟨JudgeGate.sure.ensemble,silent⟩ [limitCase.sample,feeCase.sample]
        JudgeGate.supportRubric).map ShadowReport.activeVerdicts = .ok [("case-1",.pass),("case-2",.pass)] ∧
      ¬ ∃ outcome, experiment .exact ⟨JudgeGate.sure.ensemble,silent⟩ [limitCase,feeCase] JudgeGate.supportRubric =
        .ok outcome ∧ outcome.productionQualified = true := by
  obtain ⟨active,qualifies⟩ := @candidate_stays_in_shadow .exact ⟨JudgeGate.sure.ensemble,silent⟩ JudgeGate.supportRubric
    [limitCase,feeCase] (List.cons_ne_nil _ _) (by decide)
  constructor
  · exact active.trans (toOption_ok.mp (by decide +kernel))
  · intro qualified
    obtain ⟨_,results,answered,_⟩ := qualifies.mp qualified
    cases answered

end OpenModelOps.JudgeShadow
