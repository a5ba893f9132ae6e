import OpenModelOps.AriaScorecard
import OpenModelOps.JsonRecords
import OpenModelOps.Raising
import Mathlib.Algebra.Order.Field.Basic
import Mathlib.Tactic.NormNum

namespace OpenModelOps.IntegrationEvaluation
open JsonText PythonFloat PythonText AriaIntelligence
open AriaScorecard (Floats)

inductive Failure where
  | keyError (name : String)
  -- what float() or int() raises for the named value
  | conversion (name : String)
  | attributeError
  | valueError (message : String)
  deriving DecidableEq

structure EvaluationReport where
  passRate : PyFloat
  passed : Int
  total : Int
  regression : Bool
  deriving DecidableEq

-- int() of a float drops the fraction; nan and the infinities have no integer.
def truncated : PyFloat → Option Int
  | .finite q => some (q.num.tdiv q.den)
  | .negZero => some 0
  | _ => none

-- int().
def integer (floats : Floats) : Json Number → Option Int
  | .num (.int n) => some n
  | .bool value => some (if value then 1 else 0)
  | .str t => (untext t).bind parseInt
  | value => (floats.float value).bind truncated

-- payload[name], converted.
def required (convert : Json Number → Option α) (payload : List (Text × Json Number)) (name : String) :
    Except Failure α :=
  match field payload (text name) with
  | none => .error (.keyError name)
  | some value => match convert value with
    | none => .error (.conversion name)
    | some converted => .ok converted

-- payload.get("comparison", {}).get("regression", False); only a dict has a get.
def regressionOf (payload : List (Text × Json Number)) : Except Failure Bool :=
  match field payload (text "comparison") with
  | none => .ok false
  | some (.obj comparison) => .ok (truthy (field comparison (text "regression")))
  | some _ => .error .attributeError

def EvaluationReport.invalid (report : EvaluationReport) : Bool :=
  decide (report.total < 1) || !(decide (0 ≤ report.passed) && decide (report.passed ≤ report.total)) ||
    !(PyFloat.le (.finite 0) report.passRate && PyFloat.le report.passRate (.finite 1))

def parse (floats : Floats) (payload : List (Text × Json Number)) : Except Failure EvaluationReport := do
  let passRate ← required floats.float payload "pass_rate"
  let passed ← required (integer floats) payload "passed"
  let total ← required (integer floats) payload "total"
  let regression ← regressionOf payload
  let report : EvaluationReport := ⟨passRate,passed,total,regression⟩
  if report.invalid then .error (.valueError "invalid evaluation report") else .ok report

structure EvaluationReportAdapter where
  -- the double nearest to 0.95
  minimumPassRate : PyFloat := .finite (4278419646001971 / 4503599627370496)

def EvaluationReportAdapter.passed (adapter : EvaluationReportAdapter) (report : EvaluationReport) : Bool :=
  PyFloat.le adapter.minimumPassRate report.passRate && !report.regression

def EvaluationReport.Reaches (report : EvaluationReport) : PyFloat → Prop
  | .finite rate => rate * report.total ≤ report.passed
  | .negZero => 0 ≤ report.passed
  | .negInfinity => True
  | _ => False

structure Valid (report : EvaluationReport) : Prop where
  counted : 1 ≤ report.total ∧ 0 ≤ report.passed ∧ report.passed ≤ report.total
  rated : PyFloat.le (.finite 0) report.passRate = true ∧ PyFloat.le report.passRate (.finite 1) = true

theorem valid_iff (report : EvaluationReport) : report.invalid = false ↔ Valid report := by
  simp only [EvaluationReport.invalid,Bool.or_eq_false_iff,Bool.not_eq_false',Bool.and_eq_true,decide_eq_true_eq,
    decide_eq_false_iff_not,Int.not_lt]
  constructor
  · intro checks
    exact ⟨⟨checks.1.1,checks.1.2⟩,checks.2⟩
  · intro valid
    exact ⟨⟨valid.counted.1,valid.counted.2⟩,valid.rated⟩

theorem parse_parts (parsed : parse floats payload = .ok report) :
    Valid report ∧ regressionOf payload = .ok report.regression := by
  obtain ⟨rate,_,parsed⟩ := Raising.bind_ok parsed
  obtain ⟨passed,_,parsed⟩ := Raising.bind_ok parsed
  obtain ⟨total,_,parsed⟩ := Raising.bind_ok parsed
  obtain ⟨regression,compared,parsed⟩ := Raising.bind_ok parsed
  dsimp only at parsed
  split at parsed
  · cases parsed
  · rename_i checked
    cases Except.ok.inj parsed
    exact ⟨(valid_iff _).mp (by simpa using checked),compared⟩

theorem reaches_mono {report : EvaluationReport} (valid : Valid report) {lower higher : PyFloat}
    (ordered : PyFloat.le lower higher = true) (bounded : PyFloat.le higher (.finite 1) = true)
    (reached : report.Reaches higher) : report.Reaches lower := by
  have some : (0 : ℚ) ≤ report.total := by exact_mod_cast le_trans (by decide) valid.counted.1
  cases lower with
  | negInfinity => trivial
  | nan => simp [PyFloat.le,PyFloat.rank] at ordered
  | infinity => cases higher <;> simp [PyFloat.le,PyFloat.rank] at ordered bounded
  | negZero => exact valid.counted.2.1
  | finite rate =>
    cases higher with
    | nan => exact reached.elim
    | infinity => exact reached.elim
    | negInfinity => simp [PyFloat.le,PyFloat.rank] at ordered
    | negZero =>
      have below : rate ≤ 0 := by simpa [PyFloat.le,PyFloat.rank] using ordered
      have positive : (0 : ℚ) ≤ report.passed := by exact_mod_cast valid.counted.2.1
      exact le_trans (mul_nonpos_of_nonpos_of_nonneg below some) positive
    | finite top =>
      have below : rate ≤ top := by simpa [PyFloat.le,PyFloat.rank] using ordered
      exact le_trans (mul_le_mul_of_nonneg_right below some) reached

theorem rate_reflexive {report : EvaluationReport} (valid : Valid report) :
    PyFloat.le report.passRate report.passRate = true := by
  have rated := valid.rated.2
  cases rate : report.passRate with
  | nan => rw [rate] at rated; cases rated
  | _ => simp [PyFloat.le,PyFloat.rank]

-- A passed report has a rate at the threshold and no regression, and its counts
-- are in order. They reach every threshold that it passes exactly when they
-- reach the rate that the report states for them.
theorem passed_report_stated (floats : Floats) (payload : List (Text × Json Number)) (report : EvaluationReport)
    (parsed : parse floats payload = .ok report) :
    Valid report ∧
    (∀ adapter : EvaluationReportAdapter, adapter.passed report = true →
      PyFloat.le adapter.minimumPassRate report.passRate = true ∧ regressionOf payload = .ok false ∧
      (report.Reaches report.passRate → report.Reaches adapter.minimumPassRate)) ∧
    (report.regression = false → (∀ adapter : EvaluationReportAdapter, adapter.passed report = true →
      report.Reaches adapter.minimumPassRate) → report.Reaches report.passRate) := by
  obtain ⟨valid,compared⟩ := parse_parts parsed
  refine ⟨valid,?_,?_⟩
  · intro adapter passed
    simp only [EvaluationReportAdapter.passed,Bool.and_eq_true,Bool.not_eq_true'] at passed
    obtain ⟨above,steady⟩ := passed
    rw [steady] at compared
    exact ⟨above,compared,reaches_mono valid above valid.rated.2⟩
  · intro steady reached
    apply reached ⟨report.passRate⟩
    simp [EvaluationReportAdapter.passed,steady,rate_reflexive valid]

def exactFloats : Floats where
  ofInt n := some (.finite n)
  ofDecimal q := .finite q
  ofText _ := none

def reported (rate : ℚ) (passed total : Int) : List (Text × Json Number) :=
  [(text "pass_rate",.num (.real rate)),(text "passed",.num (.int passed)),(text "total",.num (.int total)),
   (text "comparison",.obj [(text "regression",.bool false)])]

theorem reported_parsed : ∃ report, parse exactFloats (reported (49/50) 49 50) = .ok report ∧
    EvaluationReportAdapter.passed {} report = true ∧ report.Reaches (.finite (4278419646001971 / 4503599627370496)) := by
  have parsed : parse exactFloats (reported (49/50) 49 50) = .ok ⟨.finite (49/50),49,50,false⟩ := by
    decide +kernel
  obtain ⟨_,passes,_⟩ := passed_report_stated exactFloats _ _ parsed
  have passed : EvaluationReportAdapter.passed {} ⟨.finite (49/50),49,50,false⟩ = true := by decide +kernel
  obtain ⟨_,_,reaches⟩ := passes {} passed
  refine ⟨_,parsed,passed,reaches ?_⟩
  change (49 / 50 : ℚ) * ((50 : Int) : ℚ) ≤ ((49 : Int) : ℚ)
  norm_num

-- A rate of 0.98 next to no passed case of fifty.
theorem overstated_passes : ¬ ∀ (floats : Floats) (payload : List (Text × Json Number)) (report : EvaluationReport)
    (adapter : EvaluationReportAdapter), parse floats payload = .ok report → adapter.passed report = true →
    report.Reaches adapter.minimumPassRate ∧ regressionOf payload = .ok false := by
  intro holds
  have parsed : parse exactFloats (reported (49/50) 0 50) = .ok ⟨.finite (49/50),0,50,false⟩ := by
    decide +kernel
  have reached := (holds exactFloats _ _ {} parsed (by decide +kernel)).1
  have below : (4278419646001971 / 4503599627370496 : ℚ) * ((50 : Int) : ℚ) ≤ ((0 : Int) : ℚ) := reached
  norm_num at below

end OpenModelOps.IntegrationEvaluation
