import OpenModelOps.KeyedTable
import OpenModelOps.PythonFloat
import OpenModelOps.PythonText
import OpenModelOps.Raising
import Mathlib.Data.List.Sort

namespace OpenModelOps.JudgeEnsemble
open KeyedTable PythonFloat PythonText Raising

inductive Verdict where
  | pass | fail | review
  deriving DecidableEq

-- What a call can raise. A provider may raise anything.
inductive Raised where
  | validationError (model : String)
  | keyError (key : String)
  | valueError (message : String)
  | statisticsError
  | provider (message : String)

def lowercase (c : Char) : Bool := decide ('a' ≤ c) && decide (c ≤ 'z')
def numeral (c : Char) : Bool := decide ('0' ≤ c) && decide (c ≤ '9')

-- A first character, then between low and high further ones.
def patternMatches (first rest : Char → Bool) (low high : Nat) (s : String) : Bool :=
  match s.toList with
  | [] => false
  | c :: more => first c && decide (low ≤ more.length) && decide (more.length ≤ high) && more.all rest

def lengthWithin (low high : Nat) (s : String) : Bool := decide (low ≤ s.length) && decide (s.length ≤ high)

def probability (x : ℚ) : Bool := decide (0 ≤ x) && decide (x ≤ 1)

def digestMatches (s : String) : Bool :=
  startsWith s "sha256:" && decide (s.length = 71) &&
    (s.toList.drop 7).all fun c => numeral c || (decide ('a' ≤ c) && decide (c ≤ 'f'))

structure RubricDimension where
  name : String
  description : String
  threshold : ℚ
  weight : ℚ
  named : patternMatches lowercase (fun c => lowercase c || numeral c || c == '_') 1 63 name = true
  described : lengthWithin 10 1000 description = true
  attainable : probability threshold = true
  weighty : 0 < weight ∧ weight ≤ 10

structure Rubric where
  rubricId : String
  version : String
  dimensions : List RubricDimension
  minimumConfidence : ℚ
  identified : patternMatches (fun c => lowercase c || numeral c)
    (fun c => lowercase c || numeral c || c == '_' || c == '.' || c == '-') 2 79 rubricId = true
  versioned : lengthWithin 1 40 version = true
  dimensioned : dimensions ≠ [] ∧ dimensions.length ≤ 20
  confident : probability minimumConfidence = true
  unique : (dimensions.map RubricDimension.name).Nodup

structure JudgeSample where
  sampleId : String
  question : String
  candidateAnswer : String
  referenceAnswer : Option String
  contexts : List String
  expectedTools : List String
  riskTier : String

-- JudgeSample(...) with the default risk tier.
def JudgeSample.make (sampleId question candidateAnswer : String) (referenceAnswer : Option String)
    (contexts expectedTools : List String) : Except Raised JudgeSample :=
  if lengthWithin 1 120 sampleId && lengthWithin 1 100000 question && lengthWithin 1 200000 candidateAnswer &&
      referenceAnswer.all (lengthWithin 0 200000) && decide (contexts.length ≤ 100) &&
      decide (expectedTools.length ≤ 100) then
    .ok ⟨sampleId,question,candidateAnswer,referenceAnswer,contexts,expectedTools,"standard"⟩
  else .error (.validationError "JudgeSample")

structure ClaimAssessment where
  claim : String
  supported : Bool
  evidence : String
  stated : lengthWithin 1 2000 claim = true
  brief : lengthWithin 0 2000 evidence = true

structure JudgeResult where
  sampleId : String
  judgeId : String
  judgeRevision : String
  rubricId : String
  rubricDigest : String
  sampleDigest : String
  verdict : Verdict
  scores : Dict String ℚ
  confidence : ℚ
  rationale : String
  claims : List ClaimAssessment
  injectionDetected : Bool
  identified : lengthWithin 1 160 judgeId = true ∧ lengthWithin 1 160 judgeRevision = true
  digested : digestMatches rubricDigest = true ∧ digestMatches sampleDigest = true
  confident : probability confidence = true
  explained : lengthWithin 1 5000 rationale = true ∧ claims.length ≤ 100
  scored : (Dict.values scores).all probability = true

-- A provider need not answer the same question alike twice, so its answers are
-- numbered by call.
structure JudgeProvider where
  judgeId : String
  judgeRevision : String
  evaluate : Nat → JudgeSample → Rubric → Except Raised JudgeResult

structure EnsembleJudge where
  judges : List JudgeProvider
  maximumDisagreement : PyFloat
  inhabited : judges ≠ []
  distinct : (judges.map fun judge => (judge.judgeId,judge.judgeRevision)).Nodup

structure EnsembleResult where
  sampleId : String
  verdict : Verdict
  scores : Dict String ℚ
  weightedScore : ℚ
  confidence : ℚ
  maximumDisagreement : ℚ
  judgeResults : List JudgeResult
  reason : String

def item (scores : Dict String ℚ) (name : String) : Except Raised ℚ :=
  match Dict.get scores name with
  | some score => .ok score
  | none => .error (.keyError name)

def scoresOf (results : List JudgeResult) (name : String) : Except Raised (List ℚ) :=
  results.mapM fun result => item result.scores name

-- statistics.median.
def median (arithmetic : Arithmetic) (values : List ℚ) : Except Raised ℚ :=
  let data := values.insertionSort (· ≤ ·)
  let n := data.length
  if n = 0 then .error .statisticsError
  else if n % 2 = 1 then .ok (data.getD (n / 2) 0)
  else .ok (arithmetic.div (arithmetic.add (data.getD (n / 2 - 1) 0) (data.getD (n / 2) 0)) 2)

-- max(values) - min(values).
def spread (arithmetic : Arithmetic) (values : List ℚ) : Except Raised ℚ :=
  match values.max?,values.min? with
  | some high,some low => .ok (arithmetic.sub high low)
  | _,_ => .error (.valueError "max() iterable argument is empty")

def tally (arithmetic : Arithmetic) (results : List JudgeResult) :
    List RubricDimension → Dict String ℚ → ℚ → Except Raised (Dict String ℚ × ℚ)
  | [],scores,disagreement => .ok (scores,disagreement)
  | dimension :: rest,scores,disagreement => do
    let values ← scoresOf results dimension.name
    let middle ← median arithmetic values
    let wide ← spread arithmetic values
    tally arithmetic results rest (Dict.set scores dimension.name middle) (max disagreement wide)

def meets (scores : Dict String ℚ) (dimension : RubricDimension) : Bool :=
  match Dict.get scores dimension.name with
  | some score => decide (dimension.threshold ≤ score)
  | none => false

def verdictOf (injection : Bool) (disagreement : ℚ) (maximumDisagreement : PyFloat) (confidence minimumConfidence : ℚ)
    (thresholdsPass : Bool) : Verdict × String :=
  if injection then (.review,"judge-targeting prompt injection detected")
  else if maximumDisagreement.lt (.finite disagreement) then (.review,"judge disagreement exceeded policy")
  else if confidence < minimumConfidence then (.review,"ensemble confidence below rubric policy")
  else if thresholdsPass then (.pass,"all rubric thresholds passed")
  else (.fail,"one or more rubric thresholds failed")

def EnsembleJudge.answers (ensemble : EnsembleJudge) (call : Nat) (sample : JudgeSample) (rubric : Rubric) :
    Except Raised (List JudgeResult) :=
  ensemble.judges.mapM fun judge => judge.evaluate call sample rubric

def EnsembleJudge.evaluate (arithmetic : Arithmetic) (ensemble : EnsembleJudge) (call : Nat) (sample : JudgeSample)
    (rubric : Rubric) : Except Raised EnsembleResult := do
  let results ← ensemble.answers call sample rubric
  let (scores,disagreement) ← tally arithmetic results rubric.dimensions Table.empty 0
  let products ← rubric.dimensions.mapM fun dimension => do
    let score ← item scores dimension.name
    return arithmetic.mul score dimension.weight
  let weighted := arithmetic.div (arithmetic.sum products) (arithmetic.sum (rubric.dimensions.map RubricDimension.weight))
  let confidence ← median arithmetic (results.map JudgeResult.confidence)
  let decision := verdictOf (results.any JudgeResult.injectionDetected) disagreement
    ensemble.maximumDisagreement confidence rubric.minimumConfidence (rubric.dimensions.all (meets scores))
  return ⟨sample.sampleId,decision.1,scores,arithmetic.round6 weighted,confidence,arithmetic.round6 disagreement,
    results,decision.2⟩

structure Certain (arithmetic : Arithmetic) (maximumDisagreement : PyFloat) (rubric : Rubric)
    (results : List JudgeResult) : Prop where
  unflagged : ∀ result ∈ results, result.injectionDetected = false
  tolerant : maximumDisagreement.lt (.finite 0) = false
  agreed : ∀ dimension ∈ rubric.dimensions, ∀ values wide, scoresOf results dimension.name = .ok values →
    spread arithmetic values = .ok wide → maximumDisagreement.lt (.finite wide) = false
  confident : ∀ middle, median arithmetic (results.map JudgeResult.confidence) = .ok middle →
    rubric.minimumConfidence ≤ middle

def Short (arithmetic : Arithmetic) (rubric : Rubric) (results : List JudgeResult) : Prop :=
  ∃ dimension ∈ rubric.dimensions, ∃ values middle, scoresOf results dimension.name = .ok values ∧
    median arithmetic values = .ok middle ∧ middle < dimension.threshold

theorem item_exact : item scores name = .ok score ↔ Dict.get scores name = some score := by
  unfold item
  split <;> simp [*]

structure Tallied (arithmetic : Arithmetic) (results : List JudgeResult) (dimensions : List RubricDimension)
    (before after : Dict String ℚ) (low high : ℚ) : Prop where
  scored : ∀ dimension ∈ dimensions, ∃ values middle wide, scoresOf results dimension.name = .ok values ∧
    median arithmetic values = .ok middle ∧ spread arithmetic values = .ok wide ∧
    Dict.get after dimension.name = some middle ∧ wide ≤ high
  kept : ∀ name, name ∉ dimensions.map RubricDimension.name → Dict.get after name = Dict.get before name
  grown : low ≤ high
  reached : high = low ∨ ∃ dimension ∈ dimensions, ∃ values, scoresOf results dimension.name = .ok values ∧
    spread arithmetic values = .ok high

theorem tally_tallied (unique : (dimensions.map RubricDimension.name).Nodup)
    (done : tally arithmetic results dimensions before low = .ok (after,high)) :
    Tallied arithmetic results dimensions before after low high := by
  induction dimensions generalizing before low with
  | nil =>
    cases done
    exact ⟨fun _ member => (nomatch member),fun _ _ => rfl,le_refl _,.inl rfl⟩
  | cons dimension rest ih =>
    rw [List.map_cons,List.nodup_cons] at unique
    rw [tally] at done
    obtain ⟨values,read,done⟩ := bind_ok done
    obtain ⟨middle,halved,done⟩ := bind_ok done
    obtain ⟨wide,spanned,done⟩ := bind_ok done
    have later := ih unique.2 done
    refine ⟨?_,?_,le_trans (le_max_left _ _) later.grown,?_⟩
    · intro other member
      rcases List.mem_cons.mp member with rfl | member
      · refine ⟨values,middle,wide,read,halved,spanned,?_,le_trans (le_max_right _ _) later.grown⟩
        rw [later.kept _ unique.1,Dict.get_set_self]
      · exact later.scored other member
    · intro name absent
      rw [List.map_cons,List.mem_cons,not_or] at absent
      rw [later.kept name absent.2,Dict.get_set,if_neg absent.1]
    · rcases later.reached with same | ⟨other,member,found⟩
      · rcases max_choice low wide with first | second
        · exact .inl (same.trans first)
        · exact .inr ⟨dimension,List.mem_cons_self,values,read,by rw [same,second]; exact spanned⟩
      · exact .inr ⟨other,List.mem_cons_of_mem _ member,found⟩

theorem Tallied.within (tallied : Tallied arithmetic results dimensions before after low high) (limit : PyFloat) :
    limit.lt (.finite high) = false ↔ limit.lt (.finite low) = false ∧
      ∀ dimension ∈ dimensions, ∀ values wide, scoresOf results dimension.name = .ok values →
        spread arithmetic values = .ok wide → limit.lt (.finite wide) = false := by
  constructor
  · intro within
    have bounded : ∀ wide, wide ≤ high → limit.lt (.finite wide) = false := by
      intro wide ordered
      by_contra above
      rw [Bool.not_eq_false] at above
      rw [lt_finite_mono above ordered] at within
      cases within
    refine ⟨bounded low tallied.grown,?_⟩
    intro dimension member values wide read spanned
    obtain ⟨values',middle,wide',read',_,spanned',_,ordered⟩ := tallied.scored dimension member
    rw [read] at read'
    cases Except.ok.inj read'
    rw [spanned] at spanned'
    cases Except.ok.inj spanned'
    exact bounded wide ordered
  · rintro ⟨start,each⟩
    rcases tallied.reached with same | ⟨dimension,member,values,read,spanned⟩
    · rw [same]; exact start
    · exact each dimension member values high read spanned

theorem verdictOf_pass : (verdictOf injection disagreement limit confidence minimum passes).1 = .pass ↔
    injection = false ∧ limit.lt (.finite disagreement) = false ∧ minimum ≤ confidence ∧ passes = true := by
  unfold verdictOf
  cases injection with
  | true => simp
  | false =>
    cases apart : limit.lt (.finite disagreement) with
    | true => simp
    | false =>
      by_cases unsure : confidence < minimum
      · simp [unsure]
      · cases passes <;> simp [unsure,not_lt.mp unsure]

-- A verdict is PASS exactly when the judges are certain and no dimension is
-- short; the scores it comes with are the medians.
theorem evaluate_parts (done : EnsembleJudge.evaluate arithmetic ensemble call sample rubric = .ok result) :
    ∃ results, ensemble.answers call sample rubric = .ok results ∧
      (result.verdict = .pass ↔ Certain arithmetic ensemble.maximumDisagreement rubric results ∧
        ¬ Short arithmetic rubric results) ∧
      ((∀ dimension ∈ rubric.dimensions, meets result.scores dimension = true) ↔ ¬ Short arithmetic rubric results) ∧
      ∀ dimension ∈ rubric.dimensions, ∃ score, Dict.get result.scores dimension.name = some score := by
  unfold EnsembleJudge.evaluate at done
  obtain ⟨results,answered,done⟩ := bind_ok done
  obtain ⟨⟨scores,disagreement⟩,tallying,done⟩ := bind_ok done
  obtain ⟨_,_,done⟩ := bind_ok done
  obtain ⟨confidence,halved,done⟩ := bind_ok done
  obtain rfl := Except.ok.inj done
  have tallied := tally_tallied rubric.unique tallying
  have short : (∀ dimension ∈ rubric.dimensions, meets scores dimension = true) ↔ ¬ Short arithmetic rubric results := by
    constructor
    · rintro met ⟨dimension,member,values,middle,read,middling,below⟩
      obtain ⟨_,_,_,read',middling',_,found,_⟩ := tallied.scored dimension member
      rw [read] at read'
      cases Except.ok.inj read'
      rw [middling] at middling'
      cases Except.ok.inj middling'
      have here := met dimension member
      simp only [meets,found,decide_eq_true_eq] at here
      exact absurd below (not_lt.mpr here)
    · intro enough dimension member
      obtain ⟨values,middle,_,read,middling,_,found,_⟩ := tallied.scored dimension member
      simp only [meets,found,decide_eq_true_eq]
      by_contra below
      exact enough ⟨dimension,member,values,middle,read,middling,not_le.mp below⟩
  refine ⟨results,answered,?_,short,?_⟩
  · dsimp only
    rw [verdictOf_pass,List.all_eq_true,short,tallied.within,List.any_eq_false]
    simp only [Bool.not_eq_true]
    constructor
    · rintro ⟨unflagged,⟨tolerant,agreed⟩,sure,enough⟩
      refine ⟨⟨unflagged,tolerant,agreed,?_⟩,enough⟩
      intro middle found
      rw [halved] at found
      cases Except.ok.inj found
      exact sure
    · rintro ⟨certain,enough⟩
      exact ⟨certain.unflagged,⟨certain.tolerant,certain.agreed⟩,certain.confident _ halved,enough⟩
  · intro dimension member
    obtain ⟨_,middle,_,_,_,_,found,_⟩ := tallied.scored dimension member
    exact ⟨middle,found⟩

end OpenModelOps.JudgeEnsemble
