import OpenModelOps.MetalPlanner
import Mathlib.Tactic.Linarith

namespace OpenModelOps.MetalFloats
open PythonFloat MetalPlanner

-- The planner as it computes in floats: every operation, every literal and
-- round(x, 3) gives the double that `fl` takes the exact result to.
variable (fl : ℚ → ℚ)

def estimatedWeightsGb (model : ModelProfile) : ℚ :=
  let raw := fl (fl (model.parameterBillions * model.weightBits) / 8)
  fl (round3 (fl (raw * fl (112/100))))

def kvBytesPerToken (model : ModelProfile) : Int :=
  max 1 (truncate (fl (model.kvBytesPerTokenFp16 * model.kvBits / 16)))

def cacheBudgetGb (planner : MemoryPlanner) : ℚ :=
  max 0 (fl (fl (fl (planner.totalMemoryGb - planner.systemReserveGb) - planner.runtimeReserveGb) -
    estimatedWeightsGb fl planner.model))

def available (planner : MemoryPlanner) (request : AdmissionRequest) : ℚ :=
  fl (cacheBudgetGb fl planner - (if request.multimodal then planner.model.visionReserveGb else 0))

def room (planner : MemoryPlanner) (request : AdmissionRequest) : ℚ :=
  let slots : Int := request.activeSlots + 1
  let bytesPerSlot := fl (fl (max 0 (available fl planner request) * 1024^3) / slots)
  fl (bytesPerSlot / kvBytesPerToken fl planner.model)

def maximumContext (planner : MemoryPlanner) (request : AdmissionRequest) : Int := truncate (room fl planner request)

def decide (planner : MemoryPlanner) (request : AdmissionRequest) : AdmissionDecision :=
  let requested : Int := request.promptTokens + request.maximumGenerationTokens
  let slots : Int := request.activeSlots + 1
  let available := available fl planner request
  if planner.maximumSlots < slots then ⟨false,requested,0,0,available,.concurrencyLimit⟩
  else
    let maximumContext := maximumContext fl planner request
    let granted := min requested maximumContext
    let reserved := fl (fl (estimatedWeightsGb fl planner.model + planner.systemReserveGb) + planner.runtimeReserveGb)
    let cached := fl (reserved + fl (granted * kvBytesPerToken fl planner.model * slots / 1024^3))
    let estimated := if request.multimodal then fl (cached + planner.model.visionReserveGb) else cached
    if maximumContext < request.promptTokens then
      ⟨false,requested,maximumContext,fl (round3 estimated),available,.insufficientMemory⟩
    else ⟨true,requested,granted,fl (round3 estimated),fl (round3 available),
      if granted = requested then .admitted else .generationClamped⟩

theorem decide_exact (planner : MemoryPlanner) : decide id planner = planner.decide := rfl

variable {fl} {planner : MemoryPlanner} {request : AdmissionRequest}

theorem decide_admitted_iff : (decide fl planner request).admitted = true ↔
    (request.activeSlots + 1 : Int) ≤ planner.maximumSlots ∧
      (request.promptTokens : Int) ≤ maximumContext fl planner request := by
  unfold decide
  dsimp only
  split
  · rename_i crowded
    simp [not_le.mpr crowded]
  rename_i within
  split
  · rename_i short
    simp [not_le.mpr short]
  · rename_i prompted
    simp [not_lt.mp within,not_lt.mp prompted]

theorem decide_granted (admitted : (decide fl planner request).admitted = true) :
    (decide fl planner request).grantedContext =
      min (request.promptTokens + request.maximumGenerationTokens : Int) (maximumContext fl planner request) := by
  obtain ⟨within,prompted⟩ := decide_admitted_iff.mp admitted
  unfold decide
  dsimp only
  rw [if_neg (not_lt.mpr within),if_neg (not_lt.mpr prompted)]

theorem lt_truncate_iff (nonneg : 0 ≤ n) : n < truncate x ↔ (n + 1 : ℚ) ≤ x := by
  unfold truncate
  split
  · rename_i positive
    rw [← Int.add_one_le_iff,Rat.le_floor_iff]
    push_cast
    rfl
  · rename_i negative
    have above : 0 ≤ (-x).floor := Rat.le_floor_iff.mpr (by push_cast; linarith)
    have real : (0 : ℚ) ≤ n := by exact_mod_cast nonneg
    refine iff_of_false (by omega) (by linarith)

end OpenModelOps.MetalFloats
