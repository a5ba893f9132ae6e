import OpenModelOps.Binary64
import OpenModelOps.MetalFloats
import OpenModelOps.MetalScheduler

namespace OpenModelOps.MetalGrant
open Binary64 MetalPlanner MetalFloats MetalScheduler

def admission (active : Nat) (request : ChatCompletionRequest) : AdmissionRequest :=
  ⟨estimateTokens (prompt request.messages),request.maxTokens,active,request.multimodal⟩

def submission (fl : ℚ → ℚ) (runtime : Runtime) (s : State runtime.slots) (request : ChatCompletionRequest) :
    Except HTTPException WorkItem :=
  if request.stream then .error ⟨501,.message "streaming is planned for the native batch milestone"⟩
  else if request.model ≠ runtime.planner.model.modelId then .error ⟨404,.message "model not loaded"⟩
  else
    let promptTokens := estimateTokens (prompt request.messages)
    let decision := decide fl runtime.planner (admission s.active request)
    if decision.admitted = false then .error ⟨429,.rejected decision.reason decision⟩
    else
      let maximumTokens := min (request.maxTokens : Int) (max 1 (decision.grantedContext - promptTokens))
      .ok ⟨s.issued,prompt request.messages,maximumTokens,admission s.active request,decision⟩

variable {fl : ℚ → ℚ} {runtime : Runtime} {s : State runtime.slots} {request : ChatCompletionRequest} {item : WorkItem}

theorem chat_submission (runtime : Runtime) (s : State runtime.slots) (request : ChatCompletionRequest) :
    chat runtime s request = (submission id runtime s request).bind (submit runtime.queueLimit s) := by
  unfold chat submission
  rw [decide_exact]
  split
  · rfl
  split
  · rfl
  dsimp only [admission]
  split <;> rfl

theorem submission_item (submitted : submission fl runtime s request = .ok item) :
    let decision := decide fl runtime.planner (admission s.active request)
    decision.admitted = true ∧ item.decision = decision ∧ item.prompt = prompt request.messages ∧
      item.maximumTokens = min (request.maxTokens : Int) (max 1 (decision.grantedContext - estimateTokens item.prompt)) := by
  unfold submission at submitted
  split at submitted
  · cases submitted
  split at submitted
  · cases submitted
  dsimp only at submitted
  split at submitted
  · cases submitted
  rename_i admitted
  cases Except.ok.inj submitted
  exact ⟨by simpa using admitted,rfl,rfl,rfl⟩

theorem submission_admitted (whole : request.stream = false) (served : request.model = runtime.planner.model.modelId)
    (admitted : (decide fl runtime.planner (admission s.active request)).admitted = true) :
    ∃ item, submission fl runtime s request = .ok item := by
  simp [submission,whole,served,admitted]

structure WithinGrant (request : ChatCompletionRequest) (item : WorkItem) : Prop where
  granted : estimateTokens item.prompt + item.maximumTokens ≤ item.decision.grantedContext
  positive : 1 ≤ item.maximumTokens
  asked : item.maximumTokens ≤ request.maxTokens

-- The cache memory of one slot, divided by the bytes of a token in floats, has
-- room for one token more than the prompt.
def SpareToken (fl : ℚ → ℚ) (planner : MemoryPlanner) (admission : AdmissionRequest) : Prop :=
  (admission.promptTokens + 1 : ℚ) ≤
    fl (fl (fl (max 0 (available fl planner admission) * 1024^3) / (admission.activeSlots + 1)) /
      kvBytesPerToken fl planner.model)

theorem spareToken_iff (fl : ℚ → ℚ) (planner : MemoryPlanner) (admission : AdmissionRequest) :
    SpareToken fl planner admission ↔ (admission.promptTokens : Int) < maximumContext fl planner admission := by
  rw [maximumContext,lt_truncate_iff (Int.natCast_nonneg _),SpareToken,room]
  push_cast
  rfl

theorem spareToken_exact (planner : MemoryPlanner) (admission : AdmissionRequest) :
    SpareToken id planner admission ↔
      (admission.promptTokens + 1 : ℚ) * planner.model.kvBytesPerToken * (admission.activeSlots + 1) ≤
        max 0 (planner.available admission) * 1024^3 := by
  have tokens : (0 : ℚ) < planner.model.kvBytesPerToken := by
    exact_mod_cast MemoryPlanner.kvBytesPerToken_positive planner.model
  have slots : (0 : ℚ) < admission.activeSlots + 1 := by positivity
  rw [← le_div_iff₀ slots,← le_div_iff₀ tokens]
  rfl

theorem clamped_within {prompted asked context : Int} (wanted : 1 ≤ asked) (room : prompted ≤ context) :
    prompted + min asked (max 1 (min (prompted + asked) context - prompted)) ≤ min (prompted + asked) context ↔
      prompted < context := by omega

-- The planner admits a prompt that fills its slot to the last token, and chat
-- generates at least one token more.
theorem granted_iff (submitted : submission fl runtime s request = .ok item) :
    estimateTokens item.prompt + item.maximumTokens ≤ item.decision.grantedContext ↔
      SpareToken fl runtime.planner (admission s.active request) := by
  obtain ⟨admitted,decided,text,tokens⟩ := submission_item submitted
  obtain ⟨_,fits⟩ := decide_admitted_iff.mp admitted
  have asked : (1 : Int) ≤ request.maxTokens := by exact_mod_cast request.bounded.1
  rw [tokens,decided,decide_granted admitted,text,spareToken_iff]
  exact clamped_within asked fits

theorem maximumTokens_bounds (submitted : submission fl runtime s request = .ok item) :
    1 ≤ item.maximumTokens ∧ item.maximumTokens ≤ request.maxTokens := by
  obtain ⟨_,_,_,tokens⟩ := submission_item submitted
  have asked : (1 : Int) ≤ request.maxTokens := by exact_mod_cast request.bounded.1
  rw [tokens]
  exact ⟨le_min asked (le_max_left _ _),min_le_left _ _⟩

theorem submission_within_grant (submitted : submission fl runtime s request = .ok item) :
    WithinGrant request item ↔ SpareToken fl runtime.planner (admission s.active request) := by
  obtain ⟨positive,asked⟩ := maximumTokens_bounds submitted
  constructor
  · exact fun kept => (granted_iff submitted).mp kept.granted
  · exact fun spare => ⟨(granted_iff submitted).mpr spare,positive,asked⟩

theorem filled_positive : 1 ≤ 2 ∧ 1 ≤ 20 := by decide

-- A 25B model in 24 GB: 2 GB are left for the cache, 65536 tokens.
def filled : Runtime where
  planner := {totalMemoryGb := 24, model := {modelId := "qwen", parameterBillions := 25}}
  slots := 2
  queueLimit := 20
  positive := filled_positive
  planned := rfl

theorem letters_length (n : Nat) : (String.ofList (List.replicate n 'a')).length = n := by simp

theorem letters_size (n : Nat) : (String.ofList (List.replicate n 'a')).utf8ByteSize = n := by
  induction n with
  | zero => rfl
  | succ n ih =>
    have letter : "a".utf8ByteSize = 1 := by decide
    simp [List.replicate_succ,ih,letter,Nat.add_comm]

theorem single_size (message : ChatMessage) :
    (prompt [message]).utf8ByteSize = message.role.value.utf8ByteSize + 2 + message.content.utf8ByteSize := by
  have colon : ": ".utf8ByteSize = 2 := by decide
  simp [prompt,colon]

-- With its role the content takes 262144 bytes, 65536 tokens by the estimate.
def essayMessage : ChatMessage := ⟨.user,String.ofList (List.replicate 262138 'a'),by rw [letters_length]; decide⟩

def essay : ChatCompletionRequest where
  model := "qwen"
  messages := [essayMessage]
  counted := by decide
  bounded := by decide

theorem essay_tokens : estimateTokens (prompt [essayMessage]) = 65536 := by
  have content : essayMessage.content.utf8ByteSize = 262138 := letters_size 262138
  have role : essayMessage.role.value.utf8ByteSize = 4 := by decide
  rw [estimateTokens,single_size,content,role]
  decide

theorem essay_admission : admission 0 essay = ⟨65536,1024,0,false⟩ := by
  have tokens := essay_tokens
  simp only [admission,essay,tokens]

theorem essay_submitted : ∃ item, submission nearest filled (initial 2) essay = .ok item := by
  refine submission_admitted rfl rfl ?_
  rw [show (initial 2).active = 0 from rfl,essay_admission]
  decide +kernel

theorem essay_fills : ¬ SpareToken nearest filled.planner (admission 0 essay) := by
  rw [spareToken_iff,essay_admission]
  decide +kernel

theorem submission_over_grant : ¬ ∀ (runtime : Runtime) (s : State runtime.slots) (request : ChatCompletionRequest)
    (item : WorkItem), submission nearest runtime s request = .ok item → WithinGrant request item := by
  intro within
  obtain ⟨item,submitted⟩ := essay_submitted
  exact essay_fills ((granted_iff submitted).mp (within _ _ _ _ submitted).granted)

theorem hello_sized : 1 ≤ "hello".length ∧ "hello".length ≤ 2000000 := by decide

def greeting : ChatCompletionRequest where
  model := "qwen"
  messages := [⟨.user,"hello",hello_sized⟩]
  counted := by decide
  bounded := by decide

theorem greeting_within_grant :
    ∃ item, submission nearest filled (initial 2) greeting = .ok item ∧ WithinGrant greeting item := by
  obtain ⟨item,submitted⟩ : ∃ item, submission nearest filled (initial 2) greeting = .ok item :=
    submission_admitted rfl rfl (by decide +kernel)
  have spare : SpareToken nearest filled.planner (admission (initial 2).active greeting) := by
    rw [spareToken_iff]
    decide +kernel
  exact ⟨item,submitted,(submission_within_grant submitted).mpr spare⟩

-- Rounding takes a token from a 30B model with other reserves: the cache has
-- 2 GB in exact arithmetic.
example : maximumContext nearest ⟨24,{modelId := "qwen", parameterBillions := 30},nearest (41/10),nearest (11/10),2⟩
    ⟨1,1,0,false⟩ = 65535 := by decide +kernel

end OpenModelOps.MetalGrant
