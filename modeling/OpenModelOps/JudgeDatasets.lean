import OpenModelOps.AriaIntelligence
import OpenModelOps.JudgeAnnotation

namespace OpenModelOps.JudgeDatasets
open JsonText PythonLines JudgeAnnotation
open JudgeEnsemble (Verdict)
open AriaIntelligence (dumps)

def value : Verdict → String
  | .pass => "pass"
  | .fail => "fail"
  | .review => "human_review"

-- A sample as it is read from JSON. The contexts and the tools have no bounds of
-- their own and can hold surrogates.
structure JudgeSample where
  sampleId : Text
  question : Text
  candidateAnswer : Text
  referenceAnswer : Option Text
  contexts : List Text
  expectedTools : List Text
  riskTier : Text
  deriving DecidableEq

def strOf : Json Number → Option Text
  | .str t => some t
  | _ => none

-- A str with bounds is copied, and a surrogate cannot be.
def constrained (low high : Nat) (t : Text) : Option Text :=
  if low ≤ t.length ∧ t.length ≤ high ∧ ∀ c ∈ t, Scalar c then some t else none

def required (low high : Nat) (found : Option (Json Number)) : Option Text :=
  (found.bind strOf).bind (constrained low high)

def reference : Option (Json Number) → Option (Option Text)
  | none => some none
  | some .null => some none
  | some found => ((strOf found).bind (constrained 0 200000)).map some

def strList : Option (Json Number) → Option (List Text)
  | none => some []
  | some (.arr items) => if items.length ≤ 100 then items.mapM strOf else none
  | some _ => none

-- ^(standard|high|critical)$
def tier : Option (Json Number) → Option Text
  | none => some (text "standard")
  | some found => (strOf found).bind fun t =>
    if t = text "standard" ∨ t = text "high" ∨ t = text "critical" then some t else none

-- JudgeSample.model_validate; other fields are ignored.
def modelValidate : Json Number → Option JudgeSample
  | .obj fields => do
    let sampleId ← required 1 120 (field fields (text "sample_id"))
    let question ← required 1 100000 (field fields (text "question"))
    let candidateAnswer ← required 1 200000 (field fields (text "candidate_answer"))
    let referenceAnswer ← reference (field fields (text "reference_answer"))
    let contexts ← strList (field fields (text "contexts"))
    let expectedTools ← strList (field fields (text "expected_tools"))
    let riskTier ← tier (field fields (text "risk_tier"))
    some ⟨sampleId,question,candidateAnswer,referenceAnswer,contexts,expectedTools,riskTier⟩
  | _ => none

structure GoldenCase where
  sample : JudgeSample
  humanVerdict : Verdict
  labelSource : Text
  labelStatus : Text
  deriving DecidableEq

inductive LoadFailure where
  | valueError (message : Text)
  | typeError
  deriving DecidableEq

-- Verdict(...) of a value that is not one of its three raises a ValueError.
def verdictOf : Option (Json Number) → Option Verdict
  | some (.str t) => [Verdict.pass,.fail,.review].find? fun v => decide (text (value v) = t)
  | _ => none

def verdictField (payload : List (Text × Json Number)) : Option (Json Number) :=
  (field payload (text "human_verdict")).or (field payload (text "expected_verdict"))

-- The part of the loop under try.
def parsedCase (number : Nat) (line : Text) :
    Except LoadFailure (List (Text × Json Number) × JudgeSample × Verdict) :=
  let invalid := .error (.valueError (text ("invalid golden case at line " ++ toString number)))
  match loadsText line with
  | some (.obj payload) =>
    match (field payload (text "sample")).bind modelValidate,verdictOf (verdictField payload) with
    | some sample,some verdict => .ok (payload,sample,verdict)
    | _,_ => invalid
  | some _ => .error .typeError
  | none => invalid

-- str(payload.get(key, expected)) == expected.
def labelledAs (expected : Text) : Option (Json Number) → Bool
  | none => true
  | some (.str t) => decide (t = expected)
  | some _ => false

def loadCases (number : Nat) (identifiers : List Text) : List Text → Except LoadFailure (List GoldenCase)
  | [] => .ok []
  | line :: rest =>
    if blankLine line then loadCases (number + 1) identifiers rest
    else match parsedCase number line with
      | .error failure => .error failure
      | .ok (payload,sample,verdict) =>
        if verdict = .review then .error (.valueError (text "golden cases require resolved pass/fail human labels"))
        else if identifiers.any fun identifier => decide (identifier = sample.sampleId) then
          .error (.valueError (text "duplicate golden sample ID: " ++ sample.sampleId))
        else if (labelledAs (text "human") (field payload (text "label_source")) &&
            labelledAs (text "verified") (field payload (text "label_status"))) = false then
          .error (.valueError (text "golden datasets require independently verified human labels"))
        else (loadCases (number + 1) (sample.sampleId :: identifiers) rest).map
          (⟨sample,verdict,text "human",text "verified"⟩ :: ·)

def loadGoldenDataset (file : Text) : Except LoadFailure (List GoldenCase) :=
  match loadCases 1 [] (lines file) with
  | .error failure => .error failure
  | .ok cases =>
    if cases.length < 2 then .error (.valueError (text "golden dataset requires at least two labelled cases"))
    else .ok cases

-- The text of a number in json.dumps, and the text that the driver compares a
-- sample id with.
structure Driver where
  numberText : Number → Text
  bind : Json Number → Option Text

inductive Outcome where
  | promoted (payload : List (Text × Json Number))
  | conflict
  | pending

-- labels[0]; a consensus has labels.
def humanVerdict : List Annotation → Text
  | [] => []
  | first :: _ => text (value first.verdict)

-- The assigned keys come last: a repeated key keeps its last value.
def verified (payload : List (Text × Json Number)) (labels : List Annotation) : List (Text × Json Number) :=
  payload.filter (fun entry => decide (entry.1 ≠ text "expected_verdict")) ++
    [(text "human_verdict",.str (humanVerdict labels)),(text "label_source",.str (text "human")),
      (text "label_status",.str (text "verified")),(text "reviewers",.arr (labels.map fun a => .str a.reviewer))]

-- One line of the candidates; none is an exception.
def exportLine (driver : Driver) (ledger : AnnotationLedger) (line : Text) : Option Outcome :=
  match loadsText line with
  | some (.obj payload) => match field payload (text "sample") with
    | some (.obj sample) => ((field sample (text "sample_id")).bind driver.bind).map fun sampleId =>
      let state := status ledger sampleId
      match state.status with
      | .consensus => .promoted (verified payload state.labels)
      | .conflict => .conflict
      | .pending => .pending
    | _ => none
  | _ => none

structure Report where
  promoted : Nat
  pending : Nat
  conflicts : Nat
  deriving DecidableEq

def Outcome.payload : Outcome → Option (List (Text × Json Number))
  | .promoted payload => some payload
  | _ => none

def Outcome.isConflict : Outcome → Bool
  | .conflict => true
  | _ => false

def Outcome.isPending : Outcome → Bool
  | .pending => true
  | _ => false

def candidateLines (file : Text) : List Text := (lines file).filter fun line => !blankLine line

-- AnnotationLedger.export_consensus, with the text it writes.
def exportConsensus (driver : Driver) (ledger : AnnotationLedger) (file : Text) : Option (Report × Text) :=
  ((candidateLines file).mapM (exportLine driver ledger)).map fun outcomes =>
    let promoted := outcomes.filterMap Outcome.payload
    (⟨promoted.length,outcomes.countP Outcome.isPending,outcomes.countP Outcome.isConflict⟩,
      unlines (promoted.map (dumps driver.numberText)))

end OpenModelOps.JudgeDatasets
