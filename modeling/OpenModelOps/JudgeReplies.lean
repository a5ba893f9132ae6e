import OpenModelOps.JsonNesting
import OpenModelOps.JsonRecords
import OpenModelOps.JudgeDatasets
import OpenModelOps.JudgeProviders

namespace OpenModelOps.JudgeReplies
open JsonText KeyedTable PythonFloat JudgeEnsemble
open JudgeAnnotation (strip)
open JudgeDatasets (verdictOf)
open JudgeGate (listRepr)
open JudgeProviders (Digests names injectedRationale injected_explained)
open PythonText (maxStrDigits)

-- What evaluate raises. A ValidationError and the error of int() on too many
-- digits are ValueErrors, and a RecursionError is a RuntimeError.
inductive Raised where
  | validationError
  | valueError (message : String)
  | tooManyDigits
  | typeError
  | recursionError
  deriving DecidableEq

def Raised.isValueError : Raised → Bool
  | .validationError => true
  | .valueError _ => true
  | .tooManyDigits => true
  | _ => false

def Raised.isRuntimeError : Raised → Bool
  | .recursionError => true
  | _ => false

structure Response where
  status : Nat
  counted : Bool
  deriving DecidableEq

-- The except clause of the endpoint. The ensemble lets an exception of a judge
-- through, and one that the clause does not name is answered by the server.
def respond (raised : Raised) : Response :=
  if raised.isRuntimeError || raised.isValueError then ⟨502,true⟩ else ⟨500,false⟩

def fence : Text := [0x60,0x60,0x60]

-- The letters of json without their case; the long s is an s.
def jsonLetters : List (List Nat) := [[0x6a,0x4a],[0x73,0x53,0x17f],[0x6f,0x4f],[0x6e,0x4e]]

def dropJson (cs : Text) : Text :=
  if decide (4 ≤ cs.length) && (jsonLetters.zip cs).all fun (letters,c) => letters.contains c then cs.drop 4 else cs

-- The first alternative of the pattern, at the start of the text.
def opening (cs : Text) : Text :=
  if fence.isPrefixOf cs then (dropJson (cs.drop 3)).dropWhile PythonText.spaces.contains else cs

-- The second one, in what the first has left.
def closing (cs : Text) : Text :=
  if fence.isSuffixOf cs then
    ((cs.take (cs.length - 3)).reverse.dropWhile PythonText.spaces.contains).reverse
  else cs

def cleaned (raw : Text) : Text := closing (opening (strip raw))

example : cleaned (fence ++ text "JSON \x7b\"verdict\": 1\x7d\n" ++ fence ++ text " ") = text "\x7b\"verdict\": 1\x7d" := by
  decide +kernel

-- What pydantic makes of a value where a float or a bool is asked for, and the
-- floats that ge=0 and le=1 let through.
structure Pydantic where
  float : Json Number → Option PyFloat
  boolean : Json Number → Option Bool
  between : PyFloat → Bool

def bounded (low high : Nat) (v : Json Number) : Option {s : String // lengthWithin low high s = true} :=
  v.asString.bind fun s => if within : lengthWithin low high s = true then some ⟨s,within⟩ else none

def claimOf (pydantic : Pydantic) (v : Json Number) : Option ClaimAssessment := do
  let fields ← v.asObject
  let claim ← item fields "claim" (bounded 1 2000)
  let supported ← item fields "supported" pydantic.boolean
  let evidence ← itemOr fields "evidence" ⟨"",by decide⟩ (bounded 0 2000)
  some ⟨claim.1,supported,evidence.1,claim.2,evidence.2⟩

def claimsOf (pydantic : Pydantic) (v : Json Number) : Option {claims : List ClaimAssessment // claims.length ≤ 100} := do
  let claims ← (← v.asArray).mapM (claimOf pydantic)
  if short : claims.length ≤ 100 then some ⟨claims,short⟩ else none

def scoresOf (pydantic : Pydantic) (v : Json Number) : Option (Dict Text PyFloat) := do
  let fields ← v.asObject
  let scores ← readItems some pydantic.float (Dict.ofRows fields).rows
  some (Dict.ofRows scores)

-- 0 <= score <= 1.
def probable (score : PyFloat) : Bool := PyFloat.le (.finite 0) score && PyFloat.le score (.finite 1)

structure Opinion where
  verdict : Verdict
  scores : Dict Text PyFloat
  confidence : PyFloat
  rationale : String
  claims : List ClaimAssessment
  injectionDetected : Bool
  explained : lengthWithin 1 5000 rationale = true ∧ claims.length ≤ 100
  scored : (Dict.values scores).all probable = true

def opinionKeys : List String := ["verdict","scores","confidence","rationale","claims","injection_detected"]

def opinionOf (pydantic : Pydantic) (fields : List (Text × Json Number)) : Option Opinion := do
  guard (onlyKeys opinionKeys fields)
  let verdict ← verdictOf (field fields (text "verdict"))
  let scores ← item fields "scores" (scoresOf pydantic)
  let confidence ← item fields "confidence" pydantic.float
  guard (pydantic.between confidence)
  let rationale ← item fields "rationale" (bounded 1 5000)
  let claims ← itemOr fields "claims" ⟨[],by decide⟩ (claimsOf pydantic)
  let injectionDetected ← itemOr fields "injection_detected" false pydantic.boolean
  if scored : (Dict.values scores).all probable = true then
    some ⟨verdict,scores,confidence,rationale.1,claims.1,injectionDetected,⟨rationale.2,claims.2⟩,scored⟩
  else none

structure JudgeResult extends Opinion where
  sampleId : String
  judgeId : String
  judgeRevision : String
  rubricId : String
  rubricDigest : String
  sampleDigest : String
  identified : lengthWithin 1 160 judgeId = true ∧ lengthWithin 1 160 judgeRevision = true
  digested : digestMatches rubricDigest = true ∧ digestMatches sampleDigest = true

structure OpenAIJudge where
  judgeId : String
  judgeRevision : String
  detect : JudgeSample → Bool

theorem digests_match (digests : Digests) (sample : JudgeSample) (rubric : Rubric) :
    digestMatches (digests.rubric rubric) = true ∧ digestMatches (digests.sample sample) = true :=
  ⟨digests.rubricMatches rubric,digests.sampleMatches sample⟩

-- JudgeResult(...) with the keywords of evaluate; none is a field that is missing
-- or invalid.
def judgeResult (digests : Digests) (judge : OpenAIJudge) (sample : JudgeSample) (rubric : Rubric) :
    Option Opinion → Except Raised JudgeResult
  | none => .error .validationError
  | some opinion =>
    if identified : lengthWithin 1 160 judge.judgeId = true ∧ lengthWithin 1 160 judge.judgeRevision = true then
      .ok ⟨opinion,sample.sampleId,judge.judgeId,judge.judgeRevision,rubric.rubricId,digests.rubric rubric,
        digests.sample sample,identified,digests_match digests sample rubric⟩
    else .error .validationError

def keywords : List Text :=
  ["sample_id","judge_id","judge_revision","rubric_id","rubric_digest","sample_digest"].map text

-- **parsed after the keywords.
def construct (pydantic : Pydantic) (digests : Digests) (judge : OpenAIJudge) (sample : JudgeSample) (rubric : Rubric) :
    Json Number → Except Raised JudgeResult
  | .obj fields =>
    if keywords.any fun key => (field fields key).isSome then .error .typeError
    else judgeResult digests judge sample rubric (opinionOf pydantic fields)
  | _ => .error .typeError

def sameNames (scores : Dict Text PyFloat) (rubric : Rubric) : Bool :=
  (names rubric).all (fun name => (Dict.get scores (text name)).isSome) &&
    scores.rows.all fun row => (names rubric).any fun name => decide (text name = row.1)

def validateResult (digests : Digests) (result : JudgeResult) (sample : JudgeSample) (rubric : Rubric) :
    Except Raised JudgeResult :=
  if sameNames result.scores rubric = false then
    .error (.valueError ("judge returned incorrect dimensions: expected " ++
      listRepr ((names rubric).insertionSort fun a b => a ≤ b)))
  else if result.sampleId ≠ sample.sampleId ∨ result.sampleDigest ≠ digests.sample sample then
    .error (.valueError "judge result does not match the evaluated sample")
  else if result.rubricId ≠ rubric.rubricId ∨ result.rubricDigest ≠ digests.rubric rubric then
    .error (.valueError "judge result does not match the rubric")
  else .ok result

def zeroScores (rubric : Rubric) : Dict Text PyFloat := Dict.ofRows ((names rubric).map fun name => (text name,.finite 0))

theorem named_unique {key : String → κ} (injective : Function.Injective key) (rubric : Rubric) (value : String → α) :
    (((names rubric).map fun name => (key name,value name)).map Prod.fst).Nodup := by
  rw [List.map_map]
  exact rubric.unique.map injective

theorem get_named {κ α : Type} [DecidableEq κ] {rubric : Rubric} {key : String → κ} (injective : Function.Injective key)
    (value : String → α) {name : String} (member : name ∈ names rubric) :
    Dict.get (Dict.ofRows ((names rubric).map fun name => (key name,value name))) (key name) = some (value name) := by
  rw [Dict.get_row,Dict.ofRows_rows (named_unique injective rubric value)]
  exact List.mem_map_of_mem (f := fun name => (key name,value name)) member

theorem zeroScores_rows (rubric : Rubric) :
    (zeroScores rubric).rows = (names rubric).map fun name => (text name,.finite 0) :=
  Dict.ofRows_rows (named_unique text_injective rubric _)

theorem zeroScores_scored (rubric : Rubric) : (Dict.values (zeroScores rubric)).all probable = true := by
  rw [Dict.values,zeroScores_rows,List.map_map,List.all_map,List.all_eq_true]
  intro name _
  show probable (.finite 0) = true
  decide +kernel

def injected (rubric : Rubric) : Opinion where
  verdict := .review
  scores := zeroScores rubric
  confidence := .finite 1
  rationale := injectedRationale
  claims := []
  injectionDetected := true
  explained := injected_explained
  scored := zeroScores_scored rubric

-- What the model answers is read only where no injection is detected. The
-- interpreter has stack for depth more brackets when it starts to decode.
def OpenAIJudge.evaluate (judge : OpenAIJudge) (pydantic : Pydantic) (digests : Digests) (depth : Nat) (raw : Text)
    (sample : JudgeSample) (rubric : Rubric) : Except Raised JudgeResult :=
  if judge.detect sample then judgeResult digests judge sample rubric (some (injected rubric))
  else match JsonNesting.loads maxStrDigits depth (cleaned raw) with
    | .error .malformed => .error (.valueError "judge returned invalid JSON")
    | .error .longInteger => .error .tooManyDigits
    | .error .tooDeep => .error .recursionError
    | .ok parsed => do
      let result ← construct pydantic digests judge sample rubric parsed
      validateResult digests result sample rubric

section Evaluation
variable {pydantic : Pydantic} {digests : Digests} {judge : OpenAIJudge} {sample : JudgeSample} {rubric : Rubric}

structure Identified (digests : Digests) (judge : OpenAIJudge) (sample : JudgeSample) (rubric : Rubric)
    (result : JudgeResult) : Prop where
  sample : result.sampleId = sample.sampleId ∧ result.sampleDigest = digests.sample sample
  judge : result.judgeId = judge.judgeId ∧ result.judgeRevision = judge.judgeRevision
  rubric : result.rubricId = rubric.rubricId ∧ result.rubricDigest = digests.rubric rubric

structure Valid (digests : Digests) (judge : OpenAIJudge) (sample : JudgeSample) (rubric : Rubric)
    (result : JudgeResult) : Prop where
  identified : Identified digests judge sample rubric result
  covers : ∀ name, (Dict.get result.scores name).isSome = true ↔ ∃ dimension ∈ rubric.dimensions, text dimension.name = name
  probable : ∀ name score, Dict.get result.scores name = some score →
    PyFloat.le (.finite 0) score = true ∧ PyFloat.le score (.finite 1) = true

def Promised (digests : Digests) (judge : OpenAIJudge) (sample : JudgeSample) (rubric : Rubric) :
    Except Raised JudgeResult → Prop
  | .ok result => Valid digests judge sample rubric result
  | .error raised => raised.isValueError = true ∧ respond raised = ⟨502,true⟩

theorem promised_valueError {raised : Raised} (kind : raised.isValueError = true) :
    Promised digests judge sample rubric (.error raised) := by
  refine ⟨kind,?_⟩
  rw [respond,kind,Bool.or_true]
  rfl

theorem promised_kind {raised : Raised} (promised : Promised digests judge sample rubric (.error raised)) :
    raised.isValueError = true := promised.1

theorem opinion_probable (opinion : Opinion) {name : Text} {score : PyFloat}
    (found : Dict.get opinion.scores name = some score) :
    PyFloat.le (.finite 0) score = true ∧ PyFloat.le score (.finite 1) = true := by
  have each := List.all_eq_true.mp opinion.scored score (Dict.mem_values_iff.mpr ⟨name,found⟩)
  exact Bool.and_eq_true_iff.mp each

theorem judgeResult_ok {opinion : Option Opinion} {result : JudgeResult}
    (made : judgeResult digests judge sample rubric opinion = .ok result) :
    opinion = some result.toOpinion ∧ Identified digests judge sample rubric result := by
  cases opinion with
  | none => cases made
  | some opinion =>
    rw [judgeResult] at made
    split at made
    · cases Except.ok.inj made
      exact ⟨rfl,⟨rfl,rfl⟩,⟨rfl,rfl⟩,⟨rfl,rfl⟩⟩
    · cases made

theorem judgeResult_error {opinion : Option Opinion} {raised : Raised}
    (failed : judgeResult digests judge sample rubric opinion = .error raised) : raised = .validationError := by
  cases opinion with
  | none => exact (Except.error.inj failed).symm
  | some opinion =>
    rw [judgeResult] at failed
    split at failed
    · cases failed
    · exact (Except.error.inj failed).symm

theorem sameNames_iff {scores : Dict Text PyFloat} : sameNames scores rubric = true ↔
    ∀ name, (Dict.get scores name).isSome = true ↔ ∃ dimension ∈ rubric.dimensions, text dimension.name = name := by
  rw [sameNames,Bool.and_eq_true,List.all_eq_true,List.all_eq_true]
  constructor
  · intro both name
    constructor
    · intro present
      obtain ⟨score,found⟩ := Option.isSome_iff_exists.mp present
      have listed := both.2 (name,score) (Dict.get_row.mp found)
      obtain ⟨known,member,same⟩ := List.any_eq_true.mp listed
      obtain ⟨dimension,inside,rfl⟩ := List.mem_map.mp member
      exact ⟨dimension,inside,of_decide_eq_true same⟩
    · intro named
      obtain ⟨dimension,inside,rfl⟩ := named
      exact both.1 dimension.name (List.mem_map_of_mem inside)
  · intro exactly
    constructor
    · intro name member
      obtain ⟨dimension,inside,rfl⟩ := List.mem_map.mp member
      exact (exactly _).mpr ⟨dimension,inside,rfl⟩
    · intro row member
      have present : (Dict.get scores row.1).isSome = true :=
        Option.isSome_iff_exists.mpr ⟨row.2,Dict.get_row.mpr member⟩
      obtain ⟨dimension,inside,same⟩ := (exactly row.1).mp present
      exact List.any_eq_true.mpr ⟨dimension.name,List.mem_map_of_mem inside,decide_eq_true same⟩

theorem zeroScores_names : sameNames (zeroScores rubric) rubric = true := by
  refine sameNames_iff.mpr fun name => ?_
  rw [Option.isSome_iff_exists]
  constructor
  · intro present
    obtain ⟨score,found⟩ := present
    have row := Dict.get_row.mp found
    rw [zeroScores_rows] at row
    obtain ⟨known,member,same⟩ := List.mem_map.mp row
    obtain ⟨dimension,inside,rfl⟩ := List.mem_map.mp member
    exact ⟨dimension,inside,congrArg Prod.fst same⟩
  · intro named
    obtain ⟨dimension,inside,rfl⟩ := named
    exact ⟨.finite 0,get_named text_injective _ (List.mem_map_of_mem inside)⟩

theorem validate_ok {result accepted : JudgeResult} (done : validateResult digests result sample rubric = .ok accepted) :
    accepted = result ∧ sameNames result.scores rubric = true := by
  unfold validateResult at done
  split at done
  · cases done
  rename_i covering
  split at done
  · cases done
  split at done
  · cases done
  exact ⟨(Except.ok.inj done).symm,Bool.eq_true_of_not_eq_false covering⟩

theorem validate_error {result : JudgeResult} {raised : Raised}
    (failed : validateResult digests result sample rubric = .error raised) : raised.isValueError = true := by
  unfold validateResult at failed
  split at failed
  · cases Except.error.inj failed; rfl
  split at failed
  · cases Except.error.inj failed; rfl
  split at failed
  · cases Except.error.inj failed; rfl
  · cases failed

theorem valid_of {result : JudgeResult} (identified : Identified digests judge sample rubric result)
    (covering : sameNames result.scores rubric = true) : Valid digests judge sample rubric result :=
  ⟨identified,sameNames_iff.mp covering,fun _ _ found => opinion_probable result.toOpinion found⟩

def Expandable (value : Json Number) : Prop :=
  ∃ fields, value = .obj fields ∧ ∀ key ∈ keywords, field fields key = none

theorem construct_expandable {value : Json Number} (expandable : Expandable value) :
    ∃ opinion, construct pydantic digests judge sample rubric value = judgeResult digests judge sample rubric opinion := by
  obtain ⟨fields,rfl,free⟩ := expandable
  refine ⟨opinionOf pydantic fields,if_neg ?_⟩
  rw [Bool.not_eq_true]
  refine List.any_eq_false.mpr fun key member => ?_
  rw [free key member]
  decide

theorem construct_stuck {value : Json Number} (stuck : ¬ Expandable value) :
    construct pydantic digests judge sample rubric value = .error .typeError := by
  cases value with
  | obj fields =>
    refine if_pos (List.any_eq_true.mpr ?_)
    by_contra none
    refine stuck ⟨fields,rfl,fun key member => ?_⟩
    refine Option.eq_none_iff_forall_not_mem.mpr fun found here => none ⟨key,member,?_⟩
    rw [Option.mem_def.mp here]
    rfl
  | _ => rfl

-- The reply, without its fence, that evaluate can handle: it does not open more
-- brackets than the stack has room for, and where it is JSON it is expandable.
structure Handled (depth : Nat) (cs : Text) : Prop where
  shallow : JsonNesting.loads maxStrDigits depth cs ≠ .error .tooDeep
  expandable : ∀ value, JsonNesting.loads maxStrDigits depth cs = .ok value → Expandable value

theorem handled_enough {depth : Nat} {cs : Text} (enough : cs.length ≤ depth) :
    Handled depth cs ↔ ∀ value, loadsText cs = some value → Expandable value := by
  constructor
  · intro handled value read
    exact handled.expandable value ((JsonNesting.loads_enough enough).mpr read)
  · intro shaped
    refine ⟨fun deep => ?_,fun value loaded => shaped value ((JsonNesting.loads_enough enough).mp loaded)⟩
    exact absurd ((JsonNesting.loads_stopped deep).1 rfl) (Nat.not_lt.mpr enough)

theorem injected_promised : Promised digests judge sample rubric
    (judgeResult digests judge sample rubric (some (injected rubric))) := by
  cases made : judgeResult digests judge sample rubric (some (injected rubric)) with
  | error raised =>
    cases judgeResult_error made
    exact promised_valueError rfl
  | ok result =>
    obtain ⟨same,identified⟩ := judgeResult_ok made
    refine valid_of identified ?_
    rw [← Option.some.inj same]
    exact zeroScores_names

theorem expandable_promised {opinion : Option Opinion} : Promised digests judge sample rubric
    (judgeResult digests judge sample rubric opinion >>= fun result => validateResult digests result sample rubric) := by
  cases made : judgeResult digests judge sample rubric opinion with
  | error raised =>
    cases judgeResult_error made
    exact promised_valueError rfl
  | ok result =>
    obtain ⟨_,identified⟩ := judgeResult_ok made
    show Promised _ _ _ _ (validateResult digests result sample rubric)
    cases checked : validateResult digests result sample rubric with
    | error raised => exact promised_valueError (validate_error checked)
    | ok accepted =>
      obtain ⟨rfl,covering⟩ := validate_ok checked
      exact valid_of identified covering

end Evaluation

-- Every reply ends in a valid result or in a ValueError, except one that is a
-- document of another shape, that names a keyword or that is nested too deep.
theorem evaluate_promised_iff (judge : OpenAIJudge) (pydantic : Pydantic) (digests : Digests) (depth : Nat) (raw : Text)
    (sample : JudgeSample) (rubric : Rubric) :
    Promised digests judge sample rubric (judge.evaluate pydantic digests depth raw sample rubric) ↔
      judge.detect sample = true ∨ Handled depth (cleaned raw) := by
  rw [OpenAIJudge.evaluate]
  by_cases flagged : judge.detect sample = true
  · rw [if_pos flagged]
    exact ⟨fun _ => .inl flagged,fun _ => injected_promised⟩
  rw [if_neg flagged]
  cases loaded : JsonNesting.loads maxStrDigits depth (cleaned raw) with
  | error stop =>
    cases stop with
    | malformed => exact ⟨fun _ => .inr ⟨by rw [loaded]; nofun,by rw [loaded]; nofun⟩,fun _ => promised_valueError rfl⟩
    | longInteger => exact ⟨fun _ => .inr ⟨by rw [loaded]; nofun,by rw [loaded]; nofun⟩,fun _ => promised_valueError rfl⟩
    | tooDeep =>
      constructor
      · intro promised
        cases promised_kind promised
      · intro either
        rcases either with found | handled
        · exact absurd found flagged
        · exact absurd loaded handled.shallow
  | ok parsed =>
    simp only
    by_cases expandable : Expandable parsed
    · obtain ⟨opinion,constructed⟩ := @construct_expandable pydantic digests judge sample rubric _ expandable
      rw [constructed]
      refine ⟨fun _ => .inr ⟨by rw [loaded]; nofun,?_⟩,fun _ => expandable_promised⟩
      intro value found
      rw [loaded] at found
      cases Except.ok.inj found
      exact expandable
    · rw [construct_stuck expandable]
      constructor
      · intro promised
        cases promised_kind promised
      · intro either
        rcases either with found | handled
        · exact absurd found flagged
        · exact absurd (handled.expandable parsed loaded) expandable

def rational : PyFloat → ℚ
  | .finite q => q
  | _ => 0

theorem probable_rational {score : PyFloat} (within : probable score = true) : probability (rational score) = true := by
  cases score with
  | finite q =>
    rw [rational,probability,Bool.and_eq_true,decide_eq_true_eq,decide_eq_true_eq]
    simpa [probable,PyFloat.le,PyFloat.rank] using within
  | negZero => decide +kernel
  | infinity => simp [probable,PyFloat.le,PyFloat.rank] at within
  | negInfinity => simp [probable,PyFloat.le,PyFloat.rank] at within
  | nan => simp [probable,PyFloat.le,PyFloat.rank] at within

def marks (rubric : Rubric) (scores : Dict Text PyFloat) : Dict String ℚ :=
  Dict.ofRows ((names rubric).map fun name => (name,((Dict.get scores (text name)).map rational).getD 0))

theorem marks_rows (rubric : Rubric) (scores : Dict Text PyFloat) : (marks rubric scores).rows =
    (names rubric).map fun name => (name,((Dict.get scores (text name)).map rational).getD 0) :=
  Dict.ofRows_rows (named_unique Function.injective_id rubric _)

theorem marks_scored (rubric : Rubric) {scores : Dict Text PyFloat} (scored : (Dict.values scores).all probable = true) :
    (Dict.values (marks rubric scores)).all probability = true := by
  rw [Dict.values,marks_rows,List.map_map,List.all_map,List.all_eq_true]
  intro name _
  show probability (((Dict.get scores (text name)).map rational).getD 0) = true
  cases found : Dict.get scores (text name) with
  | none => decide +kernel
  | some score => exact probable_rational (List.all_eq_true.mp scored score (Dict.mem_values_iff.mpr ⟨_,found⟩))

def replyOf (rubric : Rubric) (result : JudgeResult) (confidence : ℚ) (confident : probability confidence = true) :
    JudgeProviders.Reply :=
  ⟨result.verdict,marks rubric result.scores,confidence,result.rationale,result.claims,result.injectionDetected,
    confident,result.explained,marks_scored rubric result.scored⟩

theorem marks_get {rubric : Rubric} {scores : Dict Text PyFloat} (covering : sameNames scores rubric = true)
    {dimension : RubricDimension} (member : dimension ∈ rubric.dimensions) :
    Dict.get (marks rubric scores) dimension.name = (Dict.get scores (text dimension.name)).map rational := by
  obtain ⟨score,found⟩ := Option.isSome_iff_exists.mp ((sameNames_iff.mp covering _).mpr ⟨dimension,member,rfl⟩)
  have named : dimension.name ∈ names rubric := List.mem_map_of_mem member
  have here := get_named Function.injective_id
    (fun name => ((Dict.get scores (text name)).map rational).getD 0) named
  rw [found] at here ⊢
  exact here

theorem marks_accepted (rubric : Rubric) (scores : Dict Text PyFloat) :
    JudgeProviders.sameNames (marks rubric scores) rubric = true := by
  rw [JudgeProviders.sameNames,Bool.and_eq_true,List.all_eq_true,List.all_eq_true]
  constructor
  · intro name member
    have here := get_named Function.injective_id
      (fun name => ((Dict.get scores (text name)).map rational).getD 0) member
    exact Option.isSome_iff_exists.mpr ⟨_,here⟩
  · intro row member
    rw [marks_rows] at member
    obtain ⟨name,inside,rfl⟩ := List.mem_map.mp member
    exact List.any_eq_true.mpr ⟨name,inside,decide_eq_true rfl⟩

theorem zeroMarks_get {rubric : Rubric} {name : String} (member : name ∈ names rubric) :
    Dict.get (JudgeProviders.zeroScores rubric.dimensions) name = some 0 := by
  have built : JudgeProviders.zeroScores rubric.dimensions =
      Dict.ofRows ((names rubric).map fun name => (id name,(0 : ℚ))) := by
    rw [Dict.ofRows,names,List.map_map,List.foldl_map]
    rfl
  rw [built]
  exact get_named Function.injective_id _ member

theorem evaluate_ok {judge : OpenAIJudge} {pydantic : Pydantic} {digests : Digests} {depth : Nat} {raw : Text}
    {sample : JudgeSample} {rubric : Rubric} {result : JudgeResult}
    (accepted : judge.evaluate pydantic digests depth raw sample rubric = .ok result) :
    Identified digests judge sample rubric result ∧ sameNames result.scores rubric = true ∧
      (judge.detect sample = true → result.toOpinion = injected rubric) := by
  unfold OpenAIJudge.evaluate at accepted
  split at accepted
  · obtain ⟨same,identified⟩ := judgeResult_ok accepted
    have opinion := Option.some.inj same
    refine ⟨identified,?_,fun _ => opinion.symm⟩
    rw [← opinion]
    exact zeroScores_names
  · rename_i clear
    split at accepted
    · cases accepted
    · cases accepted
    · cases accepted
    · obtain ⟨made,constructed,checked⟩ := Raising.bind_ok accepted
      obtain ⟨rfl,covering⟩ := validate_ok checked
      refine ⟨?_,covering,fun found => absurd found clear⟩
      unfold construct at constructed
      split at constructed
      · split at constructed
        · cases constructed
        · exact (judgeResult_ok constructed).2
      · cases constructed

structure Abstracts (rubric : Rubric) (result : JudgeResult) (abstract : JudgeEnsemble.JudgeResult) : Prop where
  identity : abstract.sampleId = result.sampleId ∧ abstract.judgeId = result.judgeId ∧
    abstract.judgeRevision = result.judgeRevision ∧ abstract.rubricId = result.rubricId ∧
    abstract.rubricDigest = result.rubricDigest ∧ abstract.sampleDigest = result.sampleDigest
  opinion : abstract.verdict = result.verdict ∧ abstract.rationale = result.rationale ∧ abstract.claims = result.claims ∧
    abstract.injectionDetected = result.injectionDetected
  confidence : result.confidence = .finite abstract.confidence
  scores : ∀ dimension ∈ rubric.dimensions,
    Dict.get abstract.scores dimension.name = (Dict.get result.scores (text dimension.name)).map rational

theorem evaluate_abstract {judge : OpenAIJudge} {pydantic : Pydantic} {digests : Digests} {depth : Nat} {raw : Text}
    {sample : JudgeSample} {rubric : Rubric} {result : JudgeResult}
    (accepted : judge.evaluate pydantic digests depth raw sample rubric = .ok result)
    (finite : result.confidence = .finite confidence) (confident : probability confidence = true) (call : Nat) :
    ∃ identified abstract, (JudgeProviders.OpenAIJudge.mk judge.judgeId judge.judgeRevision judge.detect
        (fun _ _ _ => .ok (replyOf rubric result confidence confident)) identified).evaluate digests call sample rubric =
          .ok abstract ∧ Abstracts rubric result abstract := by
  obtain ⟨identified,covering,flagged⟩ := evaluate_ok accepted
  obtain ⟨⟨sampleId,sampleDigest⟩,⟨judgeId,judgeRevision⟩,⟨rubricId,rubricDigest⟩⟩ := identified
  have sized : lengthWithin 1 160 judge.judgeId = true ∧ lengthWithin 1 160 judge.judgeRevision = true := by
    rw [← judgeId,← judgeRevision]
    exact result.identified
  refine ⟨sized,?_⟩
  by_cases injection : judge.detect sample = true
  · have opinion := flagged injection
    refine ⟨(JudgeProviders.Reply.injected rubric).result digests judge.judgeId judge.judgeRevision sized sample rubric,
      if_pos injection,⟨sampleId.symm,judgeId.symm,judgeRevision.symm,rubricId.symm,rubricDigest.symm,
      sampleDigest.symm⟩,?_,?_,?_⟩
    · rw [opinion]
      exact ⟨rfl,rfl,rfl,rfl⟩
    · rw [opinion]
      rfl
    · intro dimension member
      have named := List.mem_map_of_mem (f := RubricDimension.name) member
      have zero : Dict.get result.scores (text dimension.name) = some (.finite 0) := by
        rw [opinion]
        exact get_named text_injective _ named
      rw [zero]
      exact zeroMarks_get named
  · refine ⟨(replyOf rubric result confidence confident).result digests judge.judgeId judge.judgeRevision sized sample
      rubric,?_,⟨sampleId.symm,judgeId.symm,judgeRevision.symm,rubricId.symm,rubricDigest.symm,sampleDigest.symm⟩,
      ⟨rfl,rfl,rfl,rfl⟩,finite,fun dimension member => marks_get covering member⟩
    rw [JudgeProviders.OpenAIJudge.evaluate,if_neg injection]
    show JudgeProviders.validateResult _ _ _ _ = _
    have named : JudgeProviders.sameNames ((replyOf rubric result confidence confident).result digests judge.judgeId
        judge.judgeRevision sized sample rubric).scores rubric = true := marks_accepted rubric result.scores
    rw [JudgeProviders.validateResult,named]
    simp [JudgeProviders.Reply.result]

-- A judge next to pydantic where it coerces nothing.
def plainJudge : OpenAIJudge := ⟨"judge-a","v1",fun _ => false⟩

def uncoerced : Pydantic where
  float := fun
    | .num (.int n) => some (.finite n)
    | .num (.real q) => some (.finite q)
    | _ => none
  boolean := Json.asBool
  between := probable

def answer (raw : Text) : Except Raised JudgeResult :=
  plainJudge.evaluate uncoerced JudgeProviders.fixedDigests 1000 raw JudgeConsensus.limitSample JudgeGate.supportRubric

def fencedReply : Text :=
  fence ++ text "json\n\x7b\"verdict\": \"pass\", \"scores\": \x7b\"accuracy\": 0.75\x7d, " ++
    text "\"confidence\": 1, \"rationale\": \"Supported.\"\x7d\n" ++ fence

example : (answer fencedReply).toOption.map (fun result => (result.verdict,result.scores.rows)) =
    some (.pass,[(text "accuracy",.finite (3/4))]) := by decide +kernel

def failure : Except ε α → Option ε
  | .error raised => some raised
  | .ok _ => none

theorem failure_some {outcome : Except ε α} (failed : failure outcome = some raised) : outcome = .error raised := by
  cases outcome with
  | error found => rw [Option.some.inj failed]
  | ok value => cases failed

def listReply : Text := text "[]"
def namingReply : Text := text "\x7b\"sample_id\": \"case-1\", \"verdict\": \"pass\"\x7d"

structure Crashes (raw : Text) : Prop where
  raised : answer raw = .error .typeError
  unhandled : respond .typeError = ⟨500,false⟩
  broken : ¬ Promised JudgeProviders.fixedDigests plainJudge JudgeConsensus.limitSample JudgeGate.supportRubric (answer raw)

theorem crashes_of {raw : Text} (failed : failure (answer raw) = some .typeError) : Crashes raw := by
  have raised := failure_some failed
  refine ⟨raised,rfl,?_⟩
  rw [raised]
  intro promised
  cases promised_kind promised

theorem replies_crash : Crashes listReply ∧ Crashes namingReply := by
  constructor
  · apply crashes_of
    decide +kernel
  · apply crashes_of
    decide +kernel

end OpenModelOps.JudgeReplies
