import OpenModelOps.MetalPlanner
import OpenModelOps.RunHistory
import OpenModelOps.SlotPool

namespace OpenModelOps.MetalScheduler
open MetalPlanner RunHistory

inductive Role where
  | system | user | assistant | tool
  deriving DecidableEq

def Role.value : Role → String
  | .system => "system"
  | .user => "user"
  | .assistant => "assistant"
  | .tool => "tool"

structure ChatMessage where
  role : Role
  content : String
  sized : 1 ≤ content.length ∧ content.length ≤ 2000000

structure ChatCompletionRequest where
  model : String
  messages : List ChatMessage
  maxTokens : Nat := 1024
  stream : Bool := false
  multimodal : Bool := false
  counted : 1 ≤ messages.length ∧ messages.length ≤ 200
  bounded : 1 ≤ maxTokens ∧ maxTokens ≤ 16384

def prompt (messages : List ChatMessage) : String :=
  "\n".intercalate (messages.map fun message => message.role.value ++ ": " ++ message.content)

def estimateTokens (text : String) : Nat := max 1 (text.utf8ByteSize / 4)

-- The application: one planner and one scheduler, both made for the same
-- number of slots.
structure Runtime where
  planner : MemoryPlanner
  slots : Nat
  queueLimit : Nat
  positive : 1 ≤ slots ∧ 1 ≤ queueLimit
  planned : planner.maximumSlots = slots

-- A ticket stands for the future of an item. The last two fields are not in
-- the queue of the code: on what the item was admitted, and the decision.
structure WorkItem where
  ticket : Nat
  prompt : String
  maximumTokens : Int
  admission : AdmissionRequest
  decision : AdmissionDecision

structure State (slots : Nat) where
  queue : List WorkItem
  workers : Fin slots → Option WorkItem
  active : Nat
  cancelled : List Nat
  issued : Nat

def initial (slots : Nat) : State slots := ⟨[],fun _ => none,0,[],0⟩

inductive Detail where
  | message (text : String)
  | rejected (reason : Reason) (plan : AdmissionDecision)

structure HTTPException where
  statusCode : Nat
  detail : Detail

-- BoundedScheduler.submit up to the wait for the future. The queue is not full
-- when put is called, so put does not wait.
def submit (limit : Nat) (s : State slots) (item : WorkItem) : Except HTTPException (State slots) :=
  if limit ≤ s.queue.length then .error ⟨429,.message "inference queue is full"⟩
  else .ok {s with queue := s.queue ++ [item], issued := s.issued + 1}

-- chat up to the wait for the result. Nothing else runs between the decision
-- and the queue.
def chat (runtime : Runtime) (s : State runtime.slots) (request : ChatCompletionRequest) :
    Except HTTPException (State runtime.slots) :=
  if request.stream then .error ⟨501,.message "streaming is planned for the native batch milestone"⟩
  else if request.model ≠ runtime.planner.model.modelId then .error ⟨404,.message "model not loaded"⟩
  else
    let text := prompt request.messages
    let promptTokens := estimateTokens text
    let admission : AdmissionRequest := ⟨promptTokens,request.maxTokens,s.active,request.multimodal⟩
    let decision := runtime.planner.decide admission
    if decision.admitted = false then .error ⟨429,.rejected decision.reason decision⟩
    else
      let maximumTokens := min (request.maxTokens : Int) (max 1 (decision.grantedContext - promptTokens))
      submit runtime.queueLimit s ⟨s.issued,text,maximumTokens,admission,decision⟩

inductive Event (slots : Nat) where
  | arrive (request : ChatCompletionRequest)
  | expire (ticket : Nat)
  | start (worker : Fin slots)
  | finish (worker : Fin slots)

-- A worker that takes a cancelled item drops it at once. One that generates is
-- done with its item when the backend returns or raises, whatever became of
-- the future in between.
def step (runtime : Runtime) (s : State runtime.slots) : Event runtime.slots → Option (State runtime.slots)
  | .arrive request => some (match chat runtime s request with
    | .error _ => s
    | .ok next => next)
  | .expire ticket => if ticket < s.issued then some {s with cancelled := ticket :: s.cancelled} else none
  | .start worker => match s.workers worker,s.queue with
    | none,item :: rest =>
      if item.ticket ∈ s.cancelled then some {s with queue := rest}
      else some {s with queue := rest, workers := Function.update s.workers worker (some item), active := s.active + 1}
    | _,_ => none
  | .finish worker => match s.workers worker with
    | some _ => some {s with workers := Function.update s.workers worker none, active := s.active - 1}
    | none => none

variable {runtime : Runtime} {s next : State runtime.slots} {worker : Fin runtime.slots}

theorem chat_parts (done : chat runtime s request = .ok next) :
    ∃ item, next = {s with queue := s.queue ++ [item], issued := s.issued + 1} ∧
      item.admission.activeSlots = s.active ∧ item.decision = runtime.planner.decide item.admission ∧
      item.decision.admitted = true := by
  unfold chat at done
  split at done
  · cases done
  split at done
  · cases done
  dsimp only at done
  split at done
  · cases done
  rename_i admitted
  unfold submit at done
  split at done
  · cases done
  cases Except.ok.inj done
  exact ⟨_,rfl,rfl,rfl,by simpa using admitted⟩

theorem start_parts (taken : step runtime s (.start worker) = some next) :
    ∃ item rest, s.workers worker = none ∧ s.queue = item :: rest ∧
      ((item.ticket ∈ s.cancelled ∧ next = {s with queue := rest}) ∨
        (item.ticket ∉ s.cancelled ∧ next =
          {s with queue := rest, workers := Function.update s.workers worker (some item), active := s.active + 1})) := by
  simp only [step] at taken
  split at taken
  · rename_i item rest vacant queued
    split at taken
    · rename_i dropped
      exact ⟨item,rest,vacant,queued,.inl ⟨dropped,(Option.some.inj taken).symm⟩⟩
    · rename_i kept
      exact ⟨item,rest,vacant,queued,.inr ⟨kept,(Option.some.inj taken).symm⟩⟩
  · cases taken

theorem finish_parts (taken : step runtime s (.finish worker) = some next) : ∃ item, s.workers worker = some item ∧
      next = {s with workers := Function.update s.workers worker none, active := s.active - 1} := by
  simp only [step] at taken
  split at taken
  · rename_i item working
    exact ⟨item,working,(Option.some.inj taken).symm⟩
  · cases taken

end OpenModelOps.MetalScheduler
