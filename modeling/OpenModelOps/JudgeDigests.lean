import OpenModelOps.DecisionContracts
import OpenModelOps.JudgeReplies

namespace OpenModelOps.JudgeDigests
open JsonText PythonNumber
open JudgeEnsemble (JudgeSample Rubric RubricDimension digestMatches)
open DecisionContracts (Runtime canonicalBytes digestOf digestOf_injective strings strings_injective strings_sorted
  strings_whole)
open JudgeProviders (Digests)
open JudgeReplies (JudgeResult OpenAIJudge Pydantic validateResult)

-- A float of a rubric; the negative zero, which pydantic lets pass as a
-- threshold, is not told from zero here.
def number (x : ℚ) : Json PyNumber := .num (.float (.finite x))

def dimensionDump (dimension : RubricDimension) : Json PyNumber :=
  .obj [(text "name",.str (text dimension.name)),(text "description",.str (text dimension.description)),
    (text "threshold",number dimension.threshold),(text "weight",number dimension.weight)]

def rubricDump (rubric : Rubric) : Json PyNumber :=
  .obj [(text "rubric_id",.str (text rubric.rubricId)),(text "version",.str (text rubric.version)),
    (text "dimensions",.arr (rubric.dimensions.map dimensionDump)),
    (text "minimum_confidence",number rubric.minimumConfidence)]

def optional : Option String → Json PyNumber
  | none => .null
  | some s => .str (text s)

def sampleDump (sample : JudgeSample) : Json PyNumber :=
  .obj [(text "sample_id",.str (text sample.sampleId)),(text "question",.str (text sample.question)),
    (text "candidate_answer",.str (text sample.candidateAnswer)),
    (text "reference_answer",optional sample.referenceAnswer),(text "contexts",strings sample.contexts),
    (text "expected_tools",strings sample.expectedTools),(text "risk_tier",.str (text sample.riskTier))]

-- hexdigest() gives 64 digits in lower case.
def Hexadecimal (runtime : Runtime) : Prop := ∀ bytes, digestMatches ("sha256:" ++ runtime.sha256 bytes) = true

def digests (runtime : Runtime) (hexadecimal : Hexadecimal runtime) : Digests :=
  ⟨fun rubric => digestOf runtime (rubricDump rubric),fun sample => digestOf runtime (sampleDump sample),
    fun _ => hexadecimal _,fun _ => hexadecimal _⟩

theorem dimensionDump_sorted (dimension : RubricDimension) : sortKeys (dimensionDump dimension) =
    .obj [(text "description",.str (text dimension.description)),(text "name",.str (text dimension.name)),
      (text "threshold",number dimension.threshold),(text "weight",number dimension.weight)] := rfl

theorem dimensionDump_injective {left right : RubricDimension}
    (same : sortKeys (dimensionDump left) = sortKeys (dimensionDump right)) : left = right := by
  rw [dimensionDump_sorted,dimensionDump_sorted] at same
  have fields := Json.obj.inj same
  simp only [number,List.cons.injEq,Prod.mk.injEq,true_and,and_true,Json.num.injEq,Json.str.injEq,PyNumber.float.injEq,
    PythonFloat.PyFloat.finite.injEq,text_injective.eq_iff] at fields
  obtain ⟨description,name,threshold,weight⟩ := fields
  cases left
  cases right
  simp_all

theorem dimensions_injective {left right : List RubricDimension}
    (same : sortItems (left.map dimensionDump) = sortItems (right.map dimensionDump)) : left = right := by
  rw [JsonText.sortItems_eq,JsonText.sortItems_eq,List.map_map,List.map_map] at same
  exact List.map_injective_iff.mpr (fun _ _ equal => dimensionDump_injective equal) same

theorem rubricDump_sorted (rubric : Rubric) : sortKeys (rubricDump rubric) =
    .obj [(text "dimensions",.arr (sortItems (rubric.dimensions.map dimensionDump))),
      (text "minimum_confidence",number rubric.minimumConfidence),(text "rubric_id",.str (text rubric.rubricId)),
      (text "version",.str (text rubric.version))] := rfl

theorem rubricDump_injective {left right : Rubric} (same : sortKeys (rubricDump left) = sortKeys (rubricDump right)) :
    left = right := by
  rw [rubricDump_sorted,rubricDump_sorted] at same
  have fields := Json.obj.inj same
  simp only [number,List.cons.injEq,Prod.mk.injEq,true_and,and_true,Json.arr.injEq,Json.num.injEq,Json.str.injEq,
    PyNumber.float.injEq,PythonFloat.PyFloat.finite.injEq,text_injective.eq_iff] at fields
  obtain ⟨dimensions,confidence,id,version⟩ := fields
  have each := dimensions_injective dimensions
  cases left
  cases right
  simp_all

theorem optional_injective : Function.Injective optional := by
  intro left right same
  cases left with
  | none => cases right with
    | none => rfl
    | some => cases same
  | some first => cases right with
    | none => cases same
    | some second => exact congrArg some (text_injective (Json.str.inj same))

theorem optional_sorted (s : Option String) : sortKeys (optional s) = optional s := by
  cases s <;> rfl

theorem sampleDump_sorted (sample : JudgeSample) : sortKeys (sampleDump sample) =
    .obj [(text "candidate_answer",.str (text sample.candidateAnswer)),(text "contexts",strings sample.contexts),
      (text "expected_tools",strings sample.expectedTools),(text "question",.str (text sample.question)),
      (text "reference_answer",optional sample.referenceAnswer),(text "risk_tier",.str (text sample.riskTier)),
      (text "sample_id",.str (text sample.sampleId))] := by
  rw [← strings_sorted sample.contexts,← strings_sorted sample.expectedTools,← optional_sorted sample.referenceAnswer]
  rfl

theorem sampleDump_injective {left right : JudgeSample} (same : sortKeys (sampleDump left) = sortKeys (sampleDump right)) :
    left = right := by
  rw [sampleDump_sorted,sampleDump_sorted] at same
  have fields := Json.obj.inj same
  simp only [List.cons.injEq,Prod.mk.injEq,true_and,and_true,Json.str.injEq,text_injective.eq_iff] at fields
  obtain ⟨answer,contexts,tools,question,reference,tier,id⟩ := fields
  have contextTexts := strings_injective contexts
  have toolTexts := strings_injective tools
  have references := optional_injective reference
  cases left
  cases right
  simp_all

theorem rubricDump_whole (rubric : Rubric) : WholeTexts (rubricDump rubric) := by
  have items : ∀ dimensions : List RubricDimension, WholeItems (dimensions.map dimensionDump) := by
    intro dimensions
    induction dimensions with
    | nil => trivial
    | cons dimension rest ih =>
      refine ⟨?_,ih⟩
      simp only [dimensionDump,number,WholeTexts,WholeFields,text_whole,and_self]
  simp only [rubricDump,number,WholeTexts,WholeFields,text_whole,items,and_self]

theorem sampleDump_whole (sample : JudgeSample) : WholeTexts (sampleDump sample) := by
  have reference : WholeTexts (optional sample.referenceAnswer) := by
    cases sample.referenceAnswer with
    | none => trivial
    | some s => exact text_whole s
  simp only [sampleDump,WholeTexts,WholeFields,text_whole,strings_whole,reference,and_self]

def Apart (runtime : Runtime) (left right : Json PyNumber) : Prop :=
  runtime.sha256 (canonicalBytes runtime left) = runtime.sha256 (canonicalBytes runtime right) →
    canonicalBytes runtime left = canonicalBytes runtime right

section Binding
variable {runtime : Runtime} {sample other : JudgeSample} {rubric otherRubric : Rubric}

theorem rubric_digest_iff (numbering : Numbering runtime.number)
    (apart : Apart runtime (rubricDump rubric) (rubricDump otherRubric)) :
    digestOf runtime (rubricDump rubric) = digestOf runtime (rubricDump otherRubric) ↔ otherRubric = rubric := by
  constructor
  · intro same
    exact (rubricDump_injective (digestOf_injective numbering (rubricDump_whole rubric) (rubricDump_whole otherRubric)
      apart same)).symm
  · intro same
    rw [same]

theorem sample_digest_iff (numbering : Numbering runtime.number)
    (apart : Apart runtime (sampleDump sample) (sampleDump other)) :
    digestOf runtime (sampleDump sample) = digestOf runtime (sampleDump other) ↔ other = sample := by
  constructor
  · intro same
    exact (sampleDump_injective (digestOf_injective numbering (sampleDump_whole sample) (sampleDump_whole other)
      apart same)).symm
  · intro same
    rw [same]

theorem result_binds {hexadecimal : Hexadecimal runtime} {judge : OpenAIJudge} {pydantic : Pydantic} {depth : Nat}
    {raw : Text} {result : JudgeResult} (numbering : Numbering runtime.number)
    (samplesApart : Apart runtime (sampleDump sample) (sampleDump other))
    (rubricsApart : Apart runtime (rubricDump rubric) (rubricDump otherRubric))
    (evaluated : judge.evaluate pydantic (digests runtime hexadecimal) depth raw sample rubric = .ok result) :
    (validateResult (digests runtime hexadecimal) result other otherRubric = .ok result ↔
      other = sample ∧ otherRubric = rubric) ∧
    ∀ (otherJudge : OpenAIJudge) (otherDepth : Nat) (otherRaw : Text) (otherResult : JudgeResult),
      otherJudge.evaluate pydantic (digests runtime hexadecimal) otherDepth otherRaw other otherRubric = .ok otherResult →
      (result.sampleDigest = otherResult.sampleDigest ↔ other = sample) ∧
      (result.rubricDigest = otherResult.rubricDigest ↔ otherRubric = rubric) := by
  obtain ⟨identified,covering,_⟩ := JudgeReplies.evaluate_ok evaluated
  have ownSample : result.sampleDigest = digestOf runtime (sampleDump sample) := identified.sample.2
  have ownRubric : result.rubricDigest = digestOf runtime (rubricDump rubric) := identified.rubric.2
  have samples := sample_digest_iff numbering samplesApart
  have rubrics := rubric_digest_iff numbering rubricsApart
  constructor
  · constructor
    · intro accepted
      unfold validateResult at accepted
      split at accepted
      · cases accepted
      split at accepted
      · cases accepted
      rename_i sampled
      split at accepted
      · cases accepted
      rename_i measured
      rw [not_or,not_not,not_not] at sampled measured
      exact ⟨samples.mp (ownSample.symm.trans sampled.2),rubrics.mp (ownRubric.symm.trans measured.2)⟩
    · intro same
      obtain ⟨rfl,rfl⟩ := same
      unfold validateResult
      rw [covering,if_neg nofun,if_neg,if_neg]
      · rw [not_or,not_not,not_not]
        exact identified.rubric
      · rw [not_or,not_not,not_not]
        exact identified.sample
  · intro otherJudge otherDepth otherRaw otherResult otherEvaluated
    obtain ⟨otherIdentified,_,_⟩ := JudgeReplies.evaluate_ok otherEvaluated
    rw [ownSample,ownRubric,otherIdentified.sample.2,otherIdentified.rubric.2]
    exact ⟨samples,rubrics⟩

end Binding

theorem one_probability : JudgeEnsemble.probability 1 = true := by decide +kernel

def strictAccuracy : RubricDimension := {JudgeGate.accuracy with threshold := 1, attainable := one_probability}

theorem strict_dimensioned : [strictAccuracy] ≠ [] ∧ [strictAccuracy].length ≤ 20 := by decide

def strictRubric : Rubric := {JudgeGate.supportRubric with
  dimensions := [strictAccuracy], minimumConfidence := 1, dimensioned := strict_dimensioned
  confident := one_probability, unique := List.nodup_singleton _}

def editedSample : JudgeSample := {JudgeConsensus.limitSample with candidateAnswer := "The limit is two."}

def hashing (bytes : List UInt8) : String :=
  if bytes = asciiBytes (compactDumps numberText (sampleDump JudgeConsensus.limitSample)) then
    "e8b59977c141900cd8dbcd26c4cb5eae0b4ed73febf79943a8abc5838b700c34"
  else if bytes = asciiBytes (compactDumps numberText (sampleDump editedSample)) then
    "5322fbf0bfb01c59a9992ad6ada4912a16db3503ebf2bfd013cb09aa2a2d4f95"
  else "9e0952bf2a298d363db0c8ad6bf5e9d9d6c0b83fe6d904cc90003044ff302cde"

def hashed : Runtime := ⟨hashing,numberText,fun _ => .nan,fun _ _ => .nan⟩

theorem hashed_hexadecimal : Hexadecimal hashed := by
  intro bytes
  show digestMatches ("sha256:" ++ hashing bytes) = true
  unfold hashing
  split
  · decide +kernel
  split
  · decide +kernel
  · decide +kernel

def strictReply : Text :=
  text "\x7b\"verdict\": \"pass\", \"scores\": \x7b\"accuracy\": 1\x7d, \"confidence\": 1, \"rationale\": \"Supported.\"\x7d"

theorem edited_sample_refused : ∃ result,
    JudgeReplies.plainJudge.evaluate JudgeReplies.uncoerced (digests hashed hashed_hexadecimal) 1000 strictReply
      JudgeConsensus.limitSample strictRubric = .ok result ∧
    validateResult (digests hashed hashed_hexadecimal) result editedSample strictRubric ≠ .ok result := by
  have answered : (JudgeReplies.plainJudge.evaluate JudgeReplies.uncoerced (digests hashed hashed_hexadecimal) 1000
      strictReply JudgeConsensus.limitSample strictRubric).toOption.isSome = true := by decide +kernel
  obtain ⟨result,found⟩ := Option.isSome_iff_exists.mp answered
  have evaluated := Raising.toOption_ok.mp found
  have samplesApart : Apart hashed (sampleDump JudgeConsensus.limitSample) (sampleDump editedSample) := by
    intro same
    exact absurd same (by decide +kernel)
  have binds := (result_binds numberText_numbering samplesApart (fun _ => rfl) evaluated).1
  refine ⟨result,evaluated,fun accepted => ?_⟩
  have answers := congrArg JudgeSample.candidateAnswer (binds.mp accepted).1
  exact absurd answers (by decide)

end OpenModelOps.JudgeDigests
