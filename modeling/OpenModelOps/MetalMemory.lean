import OpenModelOps.MetalScheduler
import Mathlib.Tactic.Linarith

namespace OpenModelOps.MetalMemory
open MetalPlanner MetalScheduler RunHistory SlotPool
variable {runtime : Runtime} {planner : MemoryPlanner} {s next : State runtime.slots} {item : WorkItem}

def reservedGb (planner : MemoryPlanner) : ℚ :=
  planner.model.estimatedWeightsGb + planner.systemReserveGb + planner.runtimeReserveGb

def cacheBytes (planner : MemoryPlanner) (item : WorkItem) : ℚ :=
  item.decision.grantedContext * planner.model.kvBytesPerToken

def Fits (planner : MemoryPlanner) (s : State slots) : Prop :=
  reservedGb planner * 1024^3 + load (cacheBytes planner) s.workers ≤ planner.totalMemoryGb * 1024^3

structure Provisioned (planner : MemoryPlanner) : Prop where
  holds : reservedGb planner ≤ planner.totalMemoryGb
  vision : 0 ≤ planner.model.visionReserveGb

def Shares (planner : MemoryPlanner) (active : Nat) (item : WorkItem) : Prop :=
  active ≤ item.admission.activeSlots ∨
    ((item.admission.promptTokens + item.admission.maximumGenerationTokens : Nat) : ℚ) *
      planner.model.kvBytesPerToken * (active + 1) ≤ planner.cacheBudgetGb * 1024^3

def Sharing (runtime : Runtime) (s : State runtime.slots) : Event runtime.slots → Prop
  | .start _ => ∀ item ∈ s.queue.head?, item.ticket ∉ s.cancelled →
      Shares runtime.planner s.active item ∧
        ∀ worker, ∀ other ∈ s.workers worker, Shares runtime.planner s.active other
  | _ => True

instance (planner : MemoryPlanner) (s : State slots) : Decidable (Fits planner s) := inferInstanceAs (Decidable (_ ≤ _))

instance (planner : MemoryPlanner) (active : Nat) (item : WorkItem) : Decidable (Shares planner active item) :=
  inferInstanceAs (Decidable (_ ∨ _))

instance (runtime : Runtime) (s : State runtime.slots) : (event : Event runtime.slots) →
    Decidable (Sharing runtime s event)
  | .start _ => inferInstanceAs (Decidable (∀ item ∈ s.queue.head?, _))
  | .arrive _ => .isTrue trivial
  | .expire _ => .isTrue trivial
  | .finish _ => .isTrue trivial

structure Admitted (planner : MemoryPlanner) (item : WorkItem) : Prop where
  decided : item.decision = planner.decide item.admission
  admitted : item.decision.admitted = true

theorem Admitted.granted (admitted : Admitted planner item) :
    item.decision.grantedContext = min (item.admission.promptTokens + item.admission.maximumGenerationTokens : Int)
      (planner.maximumContext item.admission) := by
  have passed := admitted.admitted
  rw [admitted.decided] at passed ⊢
  exact (MemoryPlanner.decide_admitted passed).2

theorem Admitted.nonneg (admitted : Admitted planner item) : 0 ≤ cacheBytes planner item := by
  have tokens : (0 : ℚ) ≤ planner.model.kvBytesPerToken := by
    exact_mod_cast (MemoryPlanner.kvBytesPerToken_positive planner.model).trans' zero_le_one
  have context : 0 ≤ item.decision.grantedContext := by
    rw [admitted.granted]
    exact le_min (by positivity) (MemoryPlanner.maximumContext_share planner item.admission).1
  exact mul_nonneg (by exact_mod_cast context) tokens

-- The number of slots that an admission divides by, and the number of requests
-- it later runs with, need not be the same. When they are, or when the request
-- is small, it keeps to its part of the cache.
theorem Admitted.share (admitted : Admitted planner item) (vision : 0 ≤ planner.model.visionReserveGb)
    (shares : Shares planner active item) :
    cacheBytes planner item * (active + 1 : Nat) ≤ planner.cacheBudgetGb * 1024^3 := by
  have tokens : (0 : ℚ) ≤ planner.model.kvBytesPerToken := by
    exact_mod_cast (MemoryPlanner.kvBytesPerToken_positive planner.model).trans' zero_le_one
  have granted := admitted.granted
  unfold cacheBytes
  rcases shares with counted | small
  · have context : (item.decision.grantedContext : ℚ) ≤ planner.maximumContext item.admission := by
      rw [granted]; exact_mod_cast min_le_right _ _
    have slots : ((active + 1 : Nat) : ℚ) ≤ item.admission.activeSlots + 1 := by exact_mod_cast Nat.succ_le_succ counted
    have room : max 0 (planner.available item.admission) ≤ planner.cacheBudgetGb := by
      refine max_le (MemoryPlanner.cacheBudget_nonneg planner) ?_
      unfold MemoryPlanner.available
      split <;> linarith
    obtain ⟨nonneg,share⟩ := MemoryPlanner.maximumContext_share planner item.admission
    have positive : (0 : ℚ) ≤ planner.maximumContext item.admission := by exact_mod_cast nonneg
    calc (item.decision.grantedContext : ℚ) * planner.model.kvBytesPerToken * (active + 1 : Nat)
        ≤ planner.maximumContext item.admission * planner.model.kvBytesPerToken *
            (item.admission.activeSlots + 1) := by gcongr
      _ ≤ max 0 (planner.available item.admission) * 1024^3 := share
      _ ≤ planner.cacheBudgetGb * 1024^3 := by gcongr
  · have context : (item.decision.grantedContext : ℚ) ≤
        (item.admission.promptTokens + item.admission.maximumGenerationTokens : Nat) := by
      rw [granted]; exact_mod_cast min_le_left _ _
    calc (item.decision.grantedContext : ℚ) * planner.model.kvBytesPerToken * (active + 1 : Nat)
        ≤ (item.admission.promptTokens + item.admission.maximumGenerationTokens : Nat) *
            planner.model.kvBytesPerToken * (active + 1 : Nat) := by gcongr
      _ ≤ planner.cacheBudgetGb * 1024^3 := by push_cast at small ⊢; exact small

structure Sound (runtime : Runtime) (s : State runtime.slots) : Prop where
  counted : s.active = (busy s.workers).card
  queued : ∀ item ∈ s.queue, Admitted runtime.planner item
  working : ∀ worker item, s.workers worker = some item → Admitted runtime.planner item
  within : load (cacheBytes runtime.planner) s.workers ≤ runtime.planner.cacheBudgetGb * 1024^3

theorem budget_nonneg (planner : MemoryPlanner) : 0 ≤ planner.cacheBudgetGb * 1024^3 :=
  mul_nonneg (MemoryPlanner.cacheBudget_nonneg planner) (by norm_num)

theorem initial_sound (runtime : Runtime) : Sound runtime (initial runtime.slots) := by
  refine ⟨by simp [initial,busy],fun _ member => (nomatch member),fun _ _ working => (nomatch working),?_⟩
  simpa [initial,load] using budget_nonneg runtime.planner

theorem Sound.arrived (sound : Sound runtime s) (done : chat runtime s request = .ok next) : Sound runtime next := by
  obtain ⟨item,rfl,_,decided,admitted⟩ := chat_parts done
  refine ⟨sound.counted,?_,sound.working,sound.within⟩
  intro other member
  rcases List.mem_append.mp member with old | new
  · exact sound.queued other old
  · cases List.mem_singleton.mp new
    exact ⟨decided,admitted⟩

theorem Sound.started (sound : Sound runtime s) (provisioned : Provisioned runtime.planner)
    (sharing : Sharing runtime s (.start worker)) (taken : step runtime s (.start worker) = some next) :
    Sound runtime next := by
  obtain ⟨item,rest,vacant,queued,⟨_,rfl⟩ | ⟨kept,rfl⟩⟩ := start_parts taken
  · exact ⟨sound.counted,fun other member => sound.queued other (by simp [queued,member]),sound.working,sound.within⟩
  obtain ⟨first,others⟩ := sharing item (by simp [queued]) kept
  have admitted : Admitted runtime.planner item := sound.queued item (by simp [queued])
  have working : ∀ slot other, Function.update s.workers worker (some item) slot = some other →
      Admitted runtime.planner other ∧ Shares runtime.planner s.active other := by
    refine @updated_all _ _ _ s.workers worker (some item) (fun held => ∀ other, held = some other →
      Admitted runtime.planner other ∧ Shares runtime.planner s.active other) ?_ ?_
    · exact fun slot other held => ⟨sound.working slot other held,others slot other held⟩
    · intro other held
      cases Option.some.inj held
      exact ⟨admitted,first⟩
  have count : (busy (Function.update s.workers worker (some item))).card = s.active + 1 := by
    rw [card_fill vacant,sound.counted]
  refine ⟨count.symm,fun other member => sound.queued other (by simp [queued,member]),
    fun slot other held => (working slot other held).1,?_⟩
  refine load_shared (budget_nonneg runtime.planner) fun slot other held => ?_
  rw [count]
  exact (working slot other held).1.share provisioned.vision (working slot other held).2

theorem Sound.finished (sound : Sound runtime s) (taken : step runtime s (.finish worker) = some next) :
    Sound runtime next := by
  obtain ⟨item,held,rfl⟩ := finish_parts taken
  have light : ∀ slot item, s.workers slot = some item → 0 ≤ cacheBytes runtime.planner item :=
    fun slot item there => (sound.working slot item there).nonneg
  refine ⟨by rw [card_clear held,sound.counted],sound.queued,?_,(load_clear light worker).trans sound.within⟩
  exact @updated_all _ _ _ s.workers worker none (fun held => ∀ item, held = some item → Admitted runtime.planner item)
    sound.working fun _ there => (nomatch there)

theorem step_sound (provisioned : Provisioned runtime.planner) (sound : Sound runtime s)
    (sharing : Sharing runtime s event) (taken : step runtime s event = some next) : Sound runtime next := by
  cases event with
  | arrive request =>
    cases Option.some.inj taken
    split
    · exact sound
    · rename_i done
      exact sound.arrived done
  | expire ticket =>
    simp only [step] at taken
    split at taken
    · cases Option.some.inj taken
      exact ⟨sound.counted,sound.queued,sound.working,sound.within⟩
    · cases taken
  | start worker => exact sound.started provisioned sharing taken
  | finish worker => exact sound.finished taken

theorem Sound.fits (sound : Sound runtime s) (provisioned : Provisioned runtime.planner) :
    Fits runtime.planner s := by
  have budget : runtime.planner.cacheBudgetGb = runtime.planner.totalMemoryGb - reservedGb runtime.planner := by
    have holds := provisioned.holds
    unfold MemoryPlanner.cacheBudgetGb
    rw [max_eq_right]
    · unfold reservedGb; ring
    · unfold reservedGb at holds; linarith
  have within := sound.within
  rw [budget] at within
  unfold Fits
  linarith

theorem memory_planned (runtime : Runtime) (events : List (Event runtime.slots)) (s : State runtime.slots)
    (path : Runs (step runtime) (initial runtime.slots) events s) (provisioned : Provisioned runtime.planner)
    (sharing : Throughout (step runtime) (Sharing runtime) (initial runtime.slots) events) :
    Fits runtime.planner s :=
  (path.invariant_under (step_sound provisioned) sharing (initial_sound runtime)).fits provisioned

-- A 27B model in 24 GB leaves 0.88 GB for the cache of two slots.
abbrev tight : Runtime where
  planner := ⟨24,⟨"qwen",27,4,65536,8,3/2⟩,6,2,2⟩
  slots := 2
  queueLimit := 20
  positive := by decide
  planned := rfl

def first : Fin tight.slots := ⟨0,by decide⟩

def second : Fin tight.slots := ⟨1,by decide⟩

def asking (maxTokens : Nat) (bounded : 1 ≤ maxTokens ∧ maxTokens ≤ 16384) : ChatCompletionRequest where
  model := "qwen"
  messages := [⟨.user,"hello",by decide⟩]
  maxTokens := maxTokens
  counted := by decide
  bounded := bounded

def staggered : List (Event tight.slots) :=
  [.arrive (asking 8192 (by decide)),.start first,.arrive (asking 16384 (by decide)),.start second,.finish first]

theorem memory_planned_staggered : ∃ s, Runs (step tight) (initial tight.slots) staggered s ∧
    (s.workers second).map (fun item => item.decision.reason) = some .generationClamped ∧ Fits tight.planner s := by
  have clamped : (consume (step tight) (initial tight.slots) staggered).bind (fun s =>
      (s.workers second).map fun item => item.decision.reason) = some .generationClamped := by decide +kernel
  obtain ⟨s,consumed,reason⟩ := Option.bind_eq_some_iff.mp clamped
  have path := consume_exact.mp consumed
  have provisioned : Provisioned tight.planner := ⟨by decide +kernel,by decide +kernel⟩
  have sharing : Throughout (step tight) (Sharing tight) (initial tight.slots) staggered := by decide +kernel
  exact ⟨s,path,reason,memory_planned tight staggered s path provisioned sharing⟩

def crowded : List (Event tight.slots) :=
  [.arrive (asking 16384 (by decide)),.start first,.arrive (asking 16384 (by decide)),.start second]

theorem memory_overplanned : ¬ ∀ (runtime : Runtime) (events : List (Event runtime.slots)) (s : State runtime.slots),
    Runs (step runtime) (initial runtime.slots) events s → Fits runtime.planner s := by
  intro fits
  have planned : (consume (step tight) (initial tight.slots) crowded).map (fun s =>
      Decidable.decide (Fits tight.planner s)) = some false := by decide +kernel
  obtain ⟨s,consumed,exceeds⟩ := Option.map_eq_some_iff.mp planned
  exact of_decide_eq_false exceeds (fits tight crowded s (consume_exact.mp consumed))

end OpenModelOps.MetalMemory
