import OpenModelOps.MetalPlanner
import Mathlib.Tactic.GCongr
import Mathlib.Tactic.Positivity

namespace OpenModelOps.MetalAdmission
open MetalPlanner MemoryPlanner

variable {planner : MemoryPlanner} {request lighter : AdmissionRequest}

def reserved (planner : MemoryPlanner) (request : AdmissionRequest) : ℚ :=
  planner.model.estimatedWeightsGb + planner.systemReserveGb + planner.runtimeReserveGb +
    (if request.multimodal then planner.model.visionReserveGb else 0)

def footprint (planner : MemoryPlanner) (request : AdmissionRequest) (context : Int) : ℚ :=
  reserved planner request + context * planner.model.kvBytesPerToken * (request.activeSlots + 1 : ℚ) / 1024^3

theorem decide_admitted_iff : (planner.decide request).admitted = true ↔
    (request.activeSlots + 1 : Int) ≤ planner.maximumSlots ∧
      (request.promptTokens : Int) ≤ planner.maximumContext request := by
  unfold MemoryPlanner.decide
  dsimp only
  split
  · rename_i crowded
    simp [not_le.mpr crowded]
  rename_i within
  split
  · rename_i short
    simp [not_le.mpr short]
  · rename_i prompted
    simp [not_lt.mp within,not_lt.mp prompted]

theorem requestedContext_eq (planner : MemoryPlanner) (request : AdmissionRequest) :
    (planner.decide request).requestedContext = request.promptTokens + request.maximumGenerationTokens := by
  unfold MemoryPlanner.decide
  dsimp only
  split
  · rfl
  split <;> rfl

-- A context of one token is enough to know that the budget was not cut at zero.
theorem available_positive (roomy : 1 ≤ planner.maximumContext request) : 0 < planner.available request := by
  obtain ⟨_,share⟩ := maximumContext_share planner request
  by_contra spent
  rw [max_eq_left (not_lt.mp spent),zero_mul] at share
  have context : (0 : ℚ) < planner.maximumContext request := by exact_mod_cast roomy
  have tokens : (0 : ℚ) < planner.model.kvBytesPerToken := by
    exact_mod_cast kvBytesPerToken_positive planner.model
  have taken : (0 : ℚ) < planner.maximumContext request * planner.model.kvBytesPerToken * (request.activeSlots + 1 : ℚ) := by
    positivity
  linarith

theorem available_total (vision : 0 ≤ planner.model.visionReserveGb) (positive : 0 < planner.available request) :
    reserved planner request + planner.available request = planner.totalMemoryGb := by
  have budget : 0 < planner.cacheBudgetGb := by
    unfold available at positive
    split at positive <;> linarith
  have uncut : planner.cacheBudgetGb =
      planner.totalMemoryGb - planner.systemReserveGb - planner.runtimeReserveGb - planner.model.estimatedWeightsGb := by
    refine max_eq_right (not_lt.mp fun below => ?_)
    unfold cacheBudgetGb at budget
    rw [max_eq_left below.le] at budget
    exact lt_irrefl _ budget
  rw [available,uncut,reserved]
  ring

theorem footprint_fits (vision : 0 ≤ planner.model.visionReserveGb) (roomy : 1 ≤ planner.maximumContext request)
    (within : context ≤ planner.maximumContext request) :
    footprint planner request context ≤ planner.totalMemoryGb := by
  have positive := available_positive roomy
  obtain ⟨_,share⟩ := maximumContext_share planner request
  rw [max_eq_right positive.le] at share
  have tokens : (0 : ℚ) < planner.model.kvBytesPerToken := by
    exact_mod_cast kvBytesPerToken_positive planner.model
  have fewer : (context : ℚ) ≤ planner.maximumContext request := by exact_mod_cast within
  have cached : context * planner.model.kvBytesPerToken * (request.activeSlots + 1 : ℚ) / 1024^3 ≤
      planner.available request := by
    rw [div_le_iff₀ (by positivity)]
    refine le_trans ?_ share
    gcongr
  have total := available_total vision positive
  unfold footprint
  linarith

structure LighterThan (lighter request : AdmissionRequest) : Prop where
  prompt : lighter.promptTokens ≤ request.promptTokens
  slots : lighter.activeSlots ≤ request.activeSlots
  pictures : lighter.multimodal = true → request.multimodal = true

theorem available_lighter (vision : 0 ≤ planner.model.visionReserveGb) (light : LighterThan lighter request) :
    planner.available request ≤ planner.available lighter := by
  unfold available
  refine sub_le_sub_left ?_ _
  split
  · rename_i pictured
    rw [if_pos (light.pictures pictured)]
  · split
    · exact vision
    · exact le_rfl

theorem truncate_mono (nonneg : 0 ≤ x) (le : x ≤ y) : truncate x ≤ truncate y := by
  rw [truncate,truncate,if_pos nonneg,if_pos (nonneg.trans le)]
  exact Int.floor_le_floor le

theorem maximumContext_lighter (vision : 0 ≤ planner.model.visionReserveGb) (light : LighterThan lighter request) :
    planner.maximumContext request ≤ planner.maximumContext lighter := by
  have tokens : (0 : ℚ) < planner.model.kvBytesPerToken := by
    exact_mod_cast kvBytesPerToken_positive planner.model
  have budget := available_lighter vision light
  have slots : (lighter.activeSlots : ℚ) ≤ request.activeSlots := by exact_mod_cast light.slots
  unfold maximumContext
  push_cast
  refine truncate_mono (by positivity) ?_
  gcongr

theorem decide_lighter (vision : 0 ≤ planner.model.visionReserveGb) (light : LighterThan lighter request)
    (admitted : (planner.decide request).admitted = true) : (planner.decide lighter).admitted = true := by
  obtain ⟨slots,prompted⟩ := decide_admitted_iff.mp admitted
  have fewer : (lighter.activeSlots : Int) ≤ request.activeSlots := by exact_mod_cast light.slots
  have shorter : (lighter.promptTokens : Int) ≤ request.promptTokens := by exact_mod_cast light.prompt
  have context := maximumContext_lighter vision light
  exact decide_admitted_iff.mpr ⟨by omega,by omega⟩

structure Granted (planner : MemoryPlanner) (request : AdmissionRequest) : Prop where
  slots : (request.activeSlots + 1 : Int) ≤ planner.maximumSlots
  prompt : request.promptTokens ≤ (planner.decide request).grantedContext
  asked : (planner.decide request).grantedContext ≤ (planner.decide request).requestedContext
  memory : footprint planner request (planner.decide request).grantedContext ≤ planner.totalMemoryGb

theorem decide_granted (vision : 0 ≤ planner.model.visionReserveGb) (prompted : 1 ≤ request.promptTokens)
    (admitted : (planner.decide request).admitted = true) : Granted planner request := by
  obtain ⟨slots,granted⟩ := decide_admitted admitted
  obtain ⟨_,room⟩ := decide_admitted_iff.mp admitted
  have one : (1 : Int) ≤ request.promptTokens := by exact_mod_cast prompted
  refine ⟨by exact_mod_cast slots,?_,?_,?_⟩
  · rw [granted]
    exact le_min (by omega) room
  · rw [granted,requestedContext_eq]
    exact min_le_left _ _
  · rw [granted]
    exact footprint_fits vision (one.trans room) (min_le_right _ _)

theorem admission_within_memory (vision : 0 ≤ planner.model.visionReserveGb) (prompted : 1 ≤ request.promptTokens) :
    ((planner.decide request).admitted = true → Granted planner request) ∧
    ∀ lighter, LighterThan lighter request →
      ((planner.decide request).admitted = true → (planner.decide lighter).admitted = true) ∧
      planner.maximumContext request ≤ planner.maximumContext lighter :=
  ⟨decide_granted vision prompted,fun _ light => ⟨decide_lighter vision light,maximumContext_lighter vision light⟩⟩

def workstation : MemoryPlanner where
  totalMemoryGb := 36
  model := {modelId := "test-qwen", parameterBillions := 27, kvBits := 4}

theorem workstation_within_memory : Granted workstation ⟨64000,4096,1,true⟩ ∧
    (workstation.decide ⟨1000,4096,0,false⟩).admitted = true := by
  have vision : 0 ≤ workstation.model.visionReserveGb := by decide +kernel
  have admitted : (workstation.decide ⟨64000,4096,1,true⟩).admitted = true := by decide +kernel
  obtain ⟨granted,monotone⟩ := admission_within_memory vision (show 1 ≤ AdmissionRequest.promptTokens ⟨64000,4096,1,true⟩ by decide)
  exact ⟨granted admitted,(monotone ⟨1000,4096,0,false⟩ ⟨by decide,by decide,by decide⟩).1 admitted⟩

end OpenModelOps.MetalAdmission
