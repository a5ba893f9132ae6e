import OpenModelOps.KeyedTable
import OpenModelOps.PythonNumber
import OpenModelOps.PythonText

namespace OpenModelOps.DecisionContracts
open JsonText KeyedTable PythonFloat PythonNumber PythonText

-- What the platform takes from the language: the hex digest of SHA-256, the
-- text of a number in json.dumps, and the rounded sum and difference of floats.
structure Runtime where
  sha256 : List UInt8 → String
  number : PyNumber → Text
  sum : List PyFloat → PyFloat
  sub : PyFloat → PyFloat → PyFloat

inductive DecisionType where
  | choice
  | score
  | probability
  deriving DecidableEq

def DecisionType.name : DecisionType → String
  | .choice => "choice"
  | .score => "score"
  | .probability => "probability"

inductive RiskTier where
  | standard
  | high
  | critical
  deriving DecidableEq

def RiskTier.name : RiskTier → String
  | .standard => "standard"
  | .high => "high"
  | .critical => "critical"

structure QuestionFields where
  questionId : String
  version : String
  decisionType : DecisionType
  description : String
  owner : String
  requiredState : List String
  options : List String := []
  scoreLevels : List String := []
  minimumScore : PyFloat := .finite 0
  maximumScore : PyFloat := .finite 1
  -- the double nearest to 0.8
  confidenceThreshold : PyFloat := .finite (3602879701896397 / 4503599627370496)
  cacheable : Bool := false
  riskTier : RiskTier := .standard

def lengthWithin (lower upper : Nat) (length : Nat) : Bool := decide (lower ≤ length) && decide (length ≤ upper)

def unitInterval (x : PyFloat) : Bool := PyFloat.le (.finite 0) x && PyFloat.le x (.finite 1)

def lowercase (c : Char) : Bool := decide ('a' ≤ c) && decide (c ≤ 'z')

-- ^[a-z][a-z0-9_.-]{2,119}$
def questionName (s : String) : Bool :=
  match s.toList with
  | [] => false
  | first :: rest => lowercase first && lengthWithin 2 119 rest.length &&
      rest.all fun c => lowercase c || (decide ('0' ≤ c) && decide (c ≤ '9')) || ['_','.','-'].contains c

def QuestionFields.bounded (q : QuestionFields) : Bool :=
  questionName q.questionId && lengthWithin 1 40 q.version.length && lengthWithin 10 2000 q.description.length &&
    lengthWithin 1 120 q.owner.length && lengthWithin 1 100 q.requiredState.length &&
    lengthWithin 0 100 q.options.length && lengthWithin 0 100 q.scoreLevels.length && unitInterval q.confidenceThreshold

def validateTypeConfiguration (q : QuestionFields) : Except String Unit :=
  if q.decisionType = .choice ∧ q.options.length < 2 then
    .error "choice questions require at least two options"
  else if q.decisionType ≠ .choice ∧ q.options ≠ [] then
    .error "only choice questions may define options"
  else if q.decisionType = .score ∧ q.scoreLevels.length < 2 then
    .error "score questions require at least two ordered score_levels"
  else if q.decisionType ≠ .score ∧ q.scoreLevels ≠ [] then
    .error "only score questions may define score_levels"
  else if q.decisionType = .score ∧ PyFloat.le q.maximumScore q.minimumScore = true then
    .error "score questions require minimum_score below maximum_score"
  else if q.riskTier = .critical ∧ q.cacheable = true then
    .error "critical decisions cannot be cached"
  else .ok ()

structure QuestionDefinition extends QuestionFields where
  bounded : toQuestionFields.bounded = true
  configured : validateTypeConfiguration toQuestionFields = .ok ()

theorem critical_uncacheable (question : QuestionDefinition) (cacheable : question.cacheable = true) :
    question.riskTier ≠ .critical := by
  intro critical
  have configured := question.configured
  unfold validateTypeConfiguration at configured
  split at configured
  · cases configured
  · repeat (split at configured; cases configured)
    rename_i allowed
    exact allowed ⟨critical,cacheable⟩

theorem question_ext {q u : QuestionDefinition} (same : q.toQuestionFields = u.toQuestionFields) : q = u := by
  cases q
  cases u
  cases same
  rfl

def strings (texts : List String) : Json PyNumber := .arr (texts.map fun t => .str (text t))

def QuestionFields.modelDump (q : QuestionFields) : Json PyNumber :=
  .obj [(text "question_id",.str (text q.questionId)),(text "version",.str (text q.version)),
    (text "decision_type",.str (text q.decisionType.name)),(text "description",.str (text q.description)),
    (text "owner",.str (text q.owner)),(text "required_state",strings q.requiredState),
    (text "options",strings q.options),(text "score_levels",strings q.scoreLevels),
    (text "minimum_score",.num (.float q.minimumScore)),(text "maximum_score",.num (.float q.maximumScore)),
    (text "confidence_threshold",.num (.float q.confidenceThreshold)),(text "cacheable",.bool q.cacheable),
    (text "risk_tier",.str (text q.riskTier.name))]

def canonicalBytes (runtime : Runtime) (value : Json PyNumber) : List UInt8 :=
  asciiBytes (compactDumps runtime.number value)

def digestOf (runtime : Runtime) (value : Json PyNumber) : String :=
  "sha256:" ++ runtime.sha256 (canonicalBytes runtime value)

def QuestionFields.digest (runtime : Runtime) (q : QuestionFields) : String := digestOf runtime q.modelDump

-- A state that is a JSON object: a dictionary whose strings are those that a
-- reader of JSON can return.
structure State where
  fields : List (Text × Json PyNumber)
  unique : (fields.map Prod.fst).Nodup
  whole : WholeFields fields

def State.json (state : State) : Json PyNumber := .obj state.fields

-- Equal dictionaries: the order of the keys does not count, at any depth.
def State.Equal (state other : State) : Prop := sortKeys state.json = sortKeys other.json

def stateDigest (runtime : Runtime) (state : State) : String := digestOf runtime state.json

inductive Value where
  | text (s : String)
  | number (x : PyFloat)
  deriving DecidableEq

-- value in options
def Value.among (value : Value) (options : List String) : Bool :=
  match value with
  | .text s => options.contains s
  | .number _ => false

structure DecisionOutput where
  value : Value
  confidence : PyFloat
  probabilities : Dict String PyFloat
  rationale : String
  bounded : (unitInterval confidence && lengthWithin 0 2000 rationale.length) = true

inductive Disposition where
  | accepted
  | fallback
  | humanReview
  deriving DecidableEq

structure DecisionRecord where
  decisionId : String
  traceId : String
  provider : String
  providerRevision : String
  questionId : String
  questionVersion : String
  questionDigest : String
  policyVersion : String
  stateSchemaVersion : String
  stateDigest : String
  output : DecisionOutput
  disposition : Disposition
  timestamp : Instant

section Digests
variable {runtime : Runtime}

theorem strings_sorted (texts : List String) : sortKeys (strings texts) = strings texts := by
  have items : sortItems (texts.map fun t => (.str (text t) : Json PyNumber)) = texts.map fun t => .str (text t) := by
    induction texts with
    | nil => rfl
    | cons t rest ih => rw [List.map_cons,sortItems,ih]; rfl
  rw [strings,sortKeys,items]

theorem strings_injective {texts others : List String} (same : strings texts = strings others) : texts = others := by
  have items := Json.arr.inj same
  refine List.map_injective_iff.mpr (fun t u equal => ?_) items
  exact text_injective (Json.str.inj equal)

theorem strings_whole (texts : List String) : WholeTexts (strings texts) := by
  change WholeItems _
  induction texts with
  | nil => trivial
  | cons t rest ih => exact ⟨text_whole t,ih⟩

theorem DecisionType.name_injective : Function.Injective DecisionType.name := by
  intro left right
  cases left <;> cases right <;> decide

theorem RiskTier.name_injective : Function.Injective RiskTier.name := by
  intro left right
  cases left <;> cases right <;> decide

theorem modelDump_sorted (q : QuestionFields) : sortKeys q.modelDump =
    .obj [(text "cacheable",.bool q.cacheable),(text "confidence_threshold",.num (.float q.confidenceThreshold)),
      (text "decision_type",.str (text q.decisionType.name)),(text "description",.str (text q.description)),
      (text "maximum_score",.num (.float q.maximumScore)),(text "minimum_score",.num (.float q.minimumScore)),
      (text "options",strings q.options),(text "owner",.str (text q.owner)),
      (text "question_id",.str (text q.questionId)),(text "required_state",strings q.requiredState),
      (text "risk_tier",.str (text q.riskTier.name)),(text "score_levels",strings q.scoreLevels),
      (text "version",.str (text q.version))] := by
  rw [← strings_sorted q.options,← strings_sorted q.requiredState,← strings_sorted q.scoreLevels]
  rfl

theorem modelDump_injective {q u : QuestionFields} (same : sortKeys q.modelDump = sortKeys u.modelDump) : q = u := by
  rw [modelDump_sorted,modelDump_sorted] at same
  have fields := Json.obj.inj same
  simp only [List.cons.injEq,Prod.mk.injEq,true_and,and_true,Json.bool.injEq,Json.num.injEq,Json.str.injEq,
    PyNumber.float.injEq,text_injective.eq_iff,DecisionType.name_injective.eq_iff,RiskTier.name_injective.eq_iff] at fields
  obtain ⟨cacheable,threshold,type,description,maximum,minimum,options,owner,id,required,tier,levels,version⟩ := fields
  have optionTexts := strings_injective options
  have requiredTexts := strings_injective required
  have levelTexts := strings_injective levels
  cases q
  cases u
  simp_all

theorem modelDump_whole (q : QuestionFields) : WholeTexts q.modelDump := by
  simp only [QuestionFields.modelDump,WholeTexts,WholeFields,text_whole,strings_whole,and_self]

theorem digestOf_injective (numbering : Numbering runtime.number) {v w : Json PyNumber} (left : WholeTexts v)
    (right : WholeTexts w) (collisionFree : runtime.sha256 (canonicalBytes runtime v) =
      runtime.sha256 (canonicalBytes runtime w) → canonicalBytes runtime v = canonicalBytes runtime w)
    (same : digestOf runtime v = digestOf runtime w) : sortKeys v = sortKeys w := by
  have hashes : runtime.sha256 (canonicalBytes runtime v) = runtime.sha256 (canonicalBytes runtime w) := by
    apply String.toList_injective
    have lists := congrArg String.toList same
    simp only [digestOf,String.toList_append] at lists
    exact List.append_cancel_left lists
  exact compactDumps_injective numbering left right (collisionFree hashes)

end Digests
end OpenModelOps.DecisionContracts
