import OpenModelOps.PythonFloat
import Mathlib.Data.Rat.Floor

namespace OpenModelOps.MetalPlanner
open PythonFloat

-- Memory sizes are exact rational numbers of gigabytes here; the code computes
-- them in floats.

-- round(x, 3)
def round3 (x : ℚ) : ℚ := (roundHalfEven (x * 1000) : ℚ) / 1000

-- int(x), which cuts towards zero.
def truncate (x : ℚ) : Int := if 0 ≤ x then x.floor else -(-x).floor

structure ModelProfile where
  modelId : String
  parameterBillions : ℚ
  weightBits : Int := 4
  kvBytesPerTokenFp16 : Int := 65536
  kvBits : Int := 8
  visionReserveGb : ℚ := 3/2

def ModelProfile.estimatedWeightsGb (model : ModelProfile) : ℚ :=
  let raw := model.parameterBillions * model.weightBits / 8
  round3 (raw * (112/100))

def ModelProfile.kvBytesPerToken (model : ModelProfile) : Int :=
  max 1 (truncate (model.kvBytesPerTokenFp16 * model.kvBits / 16))

structure AdmissionRequest where
  promptTokens : Nat
  maximumGenerationTokens : Nat
  activeSlots : Nat := 0
  multimodal : Bool := false
  deriving DecidableEq

inductive Reason where
  | concurrencyLimit | insufficientMemory | admitted | generationClamped
  deriving DecidableEq

def Reason.value : Reason → String
  | .concurrencyLimit => "concurrency_limit"
  | .insufficientMemory => "insufficient_memory"
  | .admitted => "admitted"
  | .generationClamped => "generation_clamped"

structure AdmissionDecision where
  admitted : Bool
  requestedContext : Int
  grantedContext : Int
  estimatedMemoryGb : ℚ
  availableMemoryGb : ℚ
  reason : Reason
  deriving DecidableEq

structure MemoryPlanner where
  totalMemoryGb : ℚ
  model : ModelProfile
  systemReserveGb : ℚ := 6
  runtimeReserveGb : ℚ := 2
  maximumSlots : Int := 2

namespace MemoryPlanner
variable {planner : MemoryPlanner} {request : AdmissionRequest}

def cacheBudgetGb (planner : MemoryPlanner) : ℚ :=
  max 0 (planner.totalMemoryGb - planner.systemReserveGb - planner.runtimeReserveGb - planner.model.estimatedWeightsGb)

def available (planner : MemoryPlanner) (request : AdmissionRequest) : ℚ :=
  planner.cacheBudgetGb - (if request.multimodal then planner.model.visionReserveGb else 0)

def maximumContext (planner : MemoryPlanner) (request : AdmissionRequest) : Int :=
  let slots : Int := request.activeSlots + 1
  let bytesPerSlot := max 0 (planner.available request) * 1024^3 / slots
  truncate (bytesPerSlot / planner.model.kvBytesPerToken)

def decide (planner : MemoryPlanner) (request : AdmissionRequest) : AdmissionDecision :=
  let requested : Int := request.promptTokens + request.maximumGenerationTokens
  let slots : Int := request.activeSlots + 1
  let available := planner.available request
  if planner.maximumSlots < slots then ⟨false,requested,0,0,available,.concurrencyLimit⟩
  else
    let maximumContext := planner.maximumContext request
    let granted := min requested maximumContext
    let reserved := planner.model.estimatedWeightsGb + planner.systemReserveGb + planner.runtimeReserveGb
    let cached := reserved + granted * planner.model.kvBytesPerToken * slots / 1024^3
    let estimated := if request.multimodal then cached + planner.model.visionReserveGb else cached
    if maximumContext < request.promptTokens then
      ⟨false,requested,maximumContext,round3 estimated,available,.insufficientMemory⟩
    else ⟨true,requested,granted,round3 estimated,round3 available,
      if granted = requested then .admitted else .generationClamped⟩

theorem kvBytesPerToken_positive (model : ModelProfile) : 1 ≤ model.kvBytesPerToken := le_max_left _ _

theorem cacheBudget_nonneg (planner : MemoryPlanner) : 0 ≤ planner.cacheBudgetGb := le_max_left _ _

theorem truncate_le (nonneg : 0 ≤ x) : 0 ≤ truncate x ∧ (truncate x : ℚ) ≤ x := by
  rw [truncate,if_pos nonneg]
  exact ⟨Int.floor_nonneg.mpr nonneg,Int.floor_le x⟩

theorem decide_admitted (admitted : (planner.decide request).admitted = true) :
    request.activeSlots + 1 ≤ planner.maximumSlots ∧
    (planner.decide request).grantedContext =
      min (request.promptTokens + request.maximumGenerationTokens : Int) (planner.maximumContext request) := by
  unfold decide at *
  dsimp only at *
  split at admitted
  · cases admitted
  rename_i within
  split at admitted
  · cases admitted
  rename_i prompted
  rw [if_neg within,if_neg prompted]
  exact ⟨not_lt.mp within,rfl⟩

theorem maximumContext_share (planner : MemoryPlanner) (request : AdmissionRequest) :
    0 ≤ planner.maximumContext request ∧
    planner.maximumContext request * planner.model.kvBytesPerToken * (request.activeSlots + 1 : ℚ) ≤
      max 0 (planner.available request) * 1024^3 := by
  have tokens : (0 : ℚ) < planner.model.kvBytesPerToken := by
    exact_mod_cast kvBytesPerToken_positive planner.model
  have slots : (0 : ℚ) < request.activeSlots + 1 := by positivity
  have share : 0 ≤ max 0 (planner.available request) * 1024^3 / (request.activeSlots + 1 : ℚ) /
      planner.model.kvBytesPerToken := by positivity
  obtain ⟨nonneg,bound⟩ := truncate_le share
  have same : planner.maximumContext request = truncate (max 0 (planner.available request) * 1024^3 /
      (request.activeSlots + 1 : ℚ) / planner.model.kvBytesPerToken) := by
    simp [maximumContext]
  rw [same]
  refine ⟨nonneg,?_⟩
  rw [le_div_iff₀ tokens,le_div_iff₀ slots] at bound
  exact bound

end MemoryPlanner

end OpenModelOps.MetalPlanner
