import OpenModelOps.RunHistory
import OpenModelOps.SlotPool
import Mathlib.Tactic.Ring
import Mathlib.Tactic.Push

namespace OpenModelOps.MetalWorkers
open RunHistory SlotPool

-- What a call of backend.generate ends with: its value, or an exception that
-- derives from Exception.
inductive Outcome (ρ ξ : Type) where
  | returned (value : ρ)
  | raised (exception : ξ)

inductive Future (ρ ξ : Type) where
  | pending
  | resolved (value : ρ)
  | failed (exception : ξ)
  | cancelled

-- A ticket stands for the future of an item.
structure WorkItem where
  prompt : String
  maximumTokens : Int
  ticket : Nat
  deriving DecidableEq

-- A task of _worker at the await it is suspended at. Before its first step a
-- task is like one that waits for an item. The flag says that stop has asked
-- for its cancellation and the CancelledError has not been thrown into it yet.
inductive Worker where
  | ended
  | waiting (cancelling : Bool)
  | generating (item : WorkItem) (cancelling : Bool)
  deriving DecidableEq

def Worker.held : Worker → Option WorkItem
  | .generating item _ => some item
  | _ => none

-- worker.cancel(), which does nothing to a task that is done.
def Worker.cancel : Worker → Worker
  | .ended => .ended
  | .waiting _ => .waiting true
  | .generating item _ => .generating item true

structure Scheduler where
  slots : Nat
  queueLimit : Nat
  positive : 1 ≤ slots ∧ 1 ≤ queueLimit

def Scheduler.make (slots queueLimit : Int) : Except String Scheduler :=
  if positive : 1 ≤ slots ∧ 1 ≤ queueLimit then .ok ⟨slots.toNat,queueLimit.toNat,by omega⟩
  else .error "slots and queue_limit must be positive"

-- Where the last call of start or stop has left the list of workers: empty,
-- full, or full with stop waiting in gather.
inductive Phase where
  | stopped | running | stopping
  deriving DecidableEq

-- The last three fields are not in the code. They record which items were put
-- on the queue, for which of them generate was called, and what these calls
-- ended with.
structure State (ρ ξ : Type) (slots : Nat) where
  queue : List WorkItem
  unfinished : Int
  futures : Nat → Future ρ ξ
  workers : Fin slots → Worker
  phase : Phase
  active : Int
  accepted : List WorkItem
  started : List WorkItem
  outcomes : List (WorkItem × Outcome ρ ξ)

variable {ρ ξ : Type} {slots limit : Nat}

def initial (ρ ξ : Type) (slots : Nat) : State ρ ξ slots :=
  ⟨[],0,fun _ => .pending,fun _ => .ended,.stopped,0,[],[],[]⟩

-- One event is what runs between two awaits.
inductive Event (ρ ξ : Type) (slots : Nat) where
  | submit (prompt : String) (maximumTokens : Int)
  | expire (ticket : Nat)
  | take (slot : Fin slots)
  | finish (slot : Fin slots) (outcome : Outcome ρ ξ)
  | absorb (slot : Fin slots)
  | interrupt (slot : Fin slots)
  | start
  | stop
  | gathered

-- set_result, and set_exception in the handler. A cancelled future refuses the
-- result with an InvalidStateError, which the handler catches; any other
-- settled future refuses the exception as well, and that ends the worker.
def settle (future : Future ρ ξ) (outcome : Outcome ρ ξ) : Future ρ ξ × Bool :=
  match future,outcome with
  | .pending,.returned value => (.resolved value,true)
  | .pending,.raised exception => (.failed exception,true)
  | .cancelled,_ => (.cancelled,true)
  | settled,_ => (settled,false)

-- submit up to its wait for the future. The queue is not full when put is
-- called, so put does not wait.
def submit (limit : Nat) (s : State ρ ξ slots) (prompt : String) (maximumTokens : Int) :
    Except String (State ρ ξ slots) :=
  if limit ≤ s.queue.length then .error "inference queue is full"
  else
    let item : WorkItem := ⟨prompt,maximumTokens,s.accepted.length⟩
    .ok {s with queue := s.queue ++ [item], unfinished := s.unfinished + 1, accepted := s.accepted ++ [item]}

-- The finally block: task_done raises when no task is unfinished.
def released (s : State ρ ξ slots) (slot : Fin slots) (survives : Bool) : State ρ ξ slots :=
  let survives := survives && decide (0 < s.unfinished)
  {s with
    active := s.active - 1
    unfinished := if 0 < s.unfinished then s.unfinished - 1 else s.unfinished
    workers := Function.update s.workers slot (if survives then .waiting false else .ended)}

def step (limit : Nat) (s : State ρ ξ slots) : Event ρ ξ slots → Option (State ρ ξ slots)
  | .submit prompt maximumTokens => some (match submit limit s prompt maximumTokens with
    | .error _ => s
    | .ok next => next)
  -- wait_for gives up and cancels the future, unless it is settled.
  | .expire ticket =>
    if ticket < s.accepted.length then
      match s.futures ticket with
      | .pending => some {s with futures := Function.update s.futures ticket .cancelled}
      | _ => some s
    else none
  | .take slot => match s.workers slot,s.queue with
    | .waiting false,item :: rest =>
      let held := {s with queue := rest, active := s.active + 1}
      match s.futures item.ticket with
      | .cancelled => some (released held slot true)
      | _ => some {held with
          workers := Function.update s.workers slot (.generating item false)
          started := s.started ++ [item]}
    | _,_ => none
  | .finish slot outcome => match s.workers slot with
    | .generating item _ =>
      let (future,survives) := settle (s.futures item.ticket) outcome
      some (released {s with
        futures := Function.update s.futures item.ticket future
        outcomes := s.outcomes ++ [(item,outcome)]} slot survives)
    | _ => none
  -- The backend swallows the CancelledError and goes on.
  | .absorb slot => match s.workers slot with
    | .generating item true => some {s with workers := Function.update s.workers slot (.generating item false)}
    | _ => none
  -- The CancelledError passes through _worker, which has no handler for it.
  | .interrupt slot => match s.workers slot with
    | .waiting true => some {s with workers := Function.update s.workers slot .ended}
    | .generating _ true => some (released s slot false)
    | _ => none
  | .start => match s.phase with
    | .stopped => some {s with workers := fun _ => .waiting false, phase := .running}
    | .running => some s
    | .stopping => none
  | .stop => match s.phase with
    | .stopped => some s
    | .running => some {s with workers := fun slot => (s.workers slot).cancel, phase := .stopping}
    | .stopping => none
  | .gathered =>
    if s.phase = .stopping ∧ ∀ slot, s.workers slot = .ended then some {s with phase := .stopped} else none

def generating (s : State ρ ξ slots) : Finset (Fin slots) := busy fun slot => (s.workers slot).held

def Open (future : Future ρ ξ) : Prop := future = .pending ∨ future = .cancelled

structure Sound (limit : Nat) (s : State ρ ξ slots) : Prop where
  active : s.active = (generating s).card
  unfinished : s.unfinished = s.queue.length + (generating s).card
  queued : s.queue.length ≤ limit
  tickets : s.accepted.map WorkItem.ticket = List.range s.accepted.length
  known : ∀ item, item ∈ s.queue ∨ item ∈ s.started → item ∈ s.accepted
  once : (s.queue.map WorkItem.ticket ++ s.started.map WorkItem.ticket).Nodup
  waiting : ∀ item ∈ s.queue, Open (s.futures item.ticket)
  held : ∀ slot item, (s.workers slot).held = some item → item ∈ s.started ∧ Open (s.futures item.ticket)
  apart : ∀ slot other item, (s.workers slot).held = some item → (s.workers other).held = some item → slot = other
  resolved : ∀ ticket value, s.futures ticket = .resolved value →
    ∃ item ∈ s.started, item.ticket = ticket ∧ (item,.returned value) ∈ s.outcomes
  failed : ∀ ticket exception, s.futures ticket = .failed exception →
    ∃ item ∈ s.started, item.ticket = ticket ∧ (item,.raised exception) ∈ s.outcomes
  unissued : ∀ ticket, s.accepted.length ≤ ticket → s.futures ticket = .pending
  idle : s.phase = .stopped → ∀ slot, s.workers slot = .ended

-- What one event does to a sound state. The two ways in which a worker could
-- end by itself, a future that refuses its exception and a task_done too many,
-- are not among them.
inductive Moves (limit : Nat) (s : State ρ ξ slots) : Event ρ ξ slots → State ρ ξ slots → Prop where
  | refused : limit ≤ s.queue.length → Moves limit s (.submit prompt maximumTokens) s
  | submitted : s.queue.length < limit → item = ⟨prompt,maximumTokens,s.accepted.length⟩ →
      Moves limit s (.submit prompt maximumTokens) {s with
        queue := s.queue ++ [item], unfinished := s.unfinished + 1, accepted := s.accepted ++ [item]}
  | late : Moves limit s (.expire ticket) s
  | expired : ticket < s.accepted.length → s.futures ticket = .pending →
      Moves limit s (.expire ticket) {s with futures := Function.update s.futures ticket .cancelled}
  | dropped : s.workers slot = .waiting false → s.queue = item :: rest → s.futures item.ticket = .cancelled →
      Moves limit s (.take slot) {s with queue := rest, unfinished := s.unfinished - 1}
  | began : s.workers slot = .waiting false → s.queue = item :: rest → s.futures item.ticket = .pending →
      Moves limit s (.take slot) {s with
        queue := rest, active := s.active + 1
        workers := Function.update s.workers slot (.generating item false), started := s.started ++ [item]}
  | finished : s.workers slot = .generating item flag → Open (s.futures item.ticket) →
      Moves limit s (.finish slot outcome) {s with
        futures := Function.update s.futures item.ticket (settle (s.futures item.ticket) outcome).1
        outcomes := s.outcomes ++ [(item,outcome)], active := s.active - 1, unfinished := s.unfinished - 1
        workers := Function.update s.workers slot (.waiting false)}
  | absorbed : s.workers slot = .generating item true →
      Moves limit s (.absorb slot) {s with workers := Function.update s.workers slot (.generating item false)}
  | vacated : s.workers slot = .waiting true →
      Moves limit s (.interrupt slot) {s with workers := Function.update s.workers slot .ended}
  | interrupted : s.workers slot = .generating item true →
      Moves limit s (.interrupt slot) {s with
        active := s.active - 1, unfinished := s.unfinished - 1, workers := Function.update s.workers slot .ended}
  | started : s.phase = .stopped → Moves limit s .start {s with workers := fun _ => .waiting false, phase := .running}
  | present : Moves limit s .start s
  | absent : Moves limit s .stop s
  | stopping : s.phase = .running →
      Moves limit s .stop {s with workers := fun slot => (s.workers slot).cancel, phase := .stopping}
  | gathered : (∀ slot, s.workers slot = .ended) → Moves limit s .gathered {s with phase := .stopped}

variable {s next : State ρ ξ slots} {slot : Fin slots}

theorem Sound.unfinished_pos (sound : Sound limit s) (held : (s.workers slot).held = some item) : 0 < s.unfinished := by
  have member : slot ∈ generating s := mem_busy.mpr ⟨item,held⟩
  have some_ := Finset.card_pos.mpr ⟨slot,member⟩
  have counted := sound.unfinished
  omega

theorem settle_survives {future : Future ρ ξ} (still : Open future) (outcome : Outcome ρ ξ) :
    (settle future outcome).2 = true := by
  rcases still with rfl | rfl
  · cases outcome <;> rfl
  · rfl

theorem released_eq (positive : 0 < s.unfinished) (slot : Fin slots) (survives : Bool) : released s slot survives =
    {s with active := s.active - 1, unfinished := s.unfinished - 1,
            workers := Function.update s.workers slot (if survives then .waiting false else .ended)} := by
  simp only [released,positive,decide_true,Bool.and_true,if_true]

theorem take_moves (sound : Sound limit s) (taken : step limit s (.take slot) = some next) :
    Moves limit s (.take slot) next := by
  simp only [step] at taken
  split at taken
  · rename_i item rest vacant queued
    have still := sound.waiting item (by rw [queued]; exact List.mem_cons_self)
    split at taken
    · rename_i cancelled
      cases Option.some.inj taken
      have positive : 0 < s.unfinished := by
        have counted := sound.unfinished
        rw [queued,List.length_cons] at counted
        omega
      rw [released_eq (s := {s with queue := rest, active := s.active + 1}) positive,if_pos rfl,← vacant,
        Function.update_eq_self,add_sub_cancel_right]
      exact .dropped vacant queued cancelled
    · rename_i other
      cases Option.some.inj taken
      exact .began vacant queued (still.resolve_right other)
  · cases taken

theorem finish_moves (sound : Sound limit s) (taken : step limit s (.finish slot outcome) = some next) :
    Moves limit s (.finish slot outcome) next := by
  simp only [step] at taken
  split at taken
  · rename_i item flag working
    have holds : (s.workers slot).held = some item := by rw [working]; rfl
    have still := (sound.held slot item holds).2
    have positive := sound.unfinished_pos holds
    cases Option.some.inj taken
    rw [released_eq (s := {s with
      futures := Function.update s.futures item.ticket (settle (s.futures item.ticket) outcome).1
      outcomes := s.outcomes ++ [(item,outcome)]}) positive,settle_survives still,if_pos rfl]
    exact .finished working still
  · cases taken

theorem interrupt_moves (sound : Sound limit s) (taken : step limit s (.interrupt slot) = some next) :
    Moves limit s (.interrupt slot) next := by
  simp only [step] at taken
  split at taken
  · rename_i vacant
    cases Option.some.inj taken
    exact .vacated vacant
  · rename_i item working
    have holds : (s.workers slot).held = some item := by rw [working]; rfl
    cases Option.some.inj taken
    rw [released_eq (sound.unfinished_pos holds),if_neg Bool.false_ne_true]
    exact .interrupted working
  · cases taken

theorem step_moves (sound : Sound limit s) (taken : step limit s event = some next) : Moves limit s event next := by
  cases event with
  | submit prompt maximumTokens =>
    cases Option.some.inj taken
    by_cases full : limit ≤ s.queue.length
    · simp only [submit,if_pos full]
      exact .refused full
    · simp only [submit,if_neg full]
      exact .submitted (Nat.lt_of_not_le full) rfl
  | expire ticket =>
    simp only [step] at taken
    split at taken
    · rename_i issued
      split at taken
      · rename_i pending
        cases Option.some.inj taken
        exact .expired issued pending
      · cases Option.some.inj taken
        exact .late
    · cases taken
  | take slot => exact take_moves sound taken
  | finish slot outcome => exact finish_moves sound taken
  | absorb slot =>
    simp only [step] at taken
    split at taken
    · rename_i item working
      cases Option.some.inj taken
      exact .absorbed working
    · cases taken
  | interrupt slot => exact interrupt_moves sound taken
  | start =>
    simp only [step] at taken
    split at taken
    · rename_i phase
      cases Option.some.inj taken
      exact .started phase
    · cases Option.some.inj taken
      exact .present
    · cases taken
  | stop =>
    simp only [step] at taken
    split at taken
    · cases Option.some.inj taken
      exact .absent
    · rename_i phase
      cases Option.some.inj taken
      exact .stopping phase
    · cases taken
  | gathered =>
    simp only [step] at taken
    split at taken
    · rename_i ended
      cases Option.some.inj taken
      exact .gathered ended.2
    · cases taken

theorem held_update (workers : Fin slots → Worker) (slot : Fin slots) (worker : Worker) :
    (fun other => (Function.update workers slot worker other).held) =
      Function.update (fun other => (workers other).held) slot worker.held :=
  funext fun other => Function.apply_update (fun _ => Worker.held) workers slot worker other

theorem held_same {workers : Fin slots → Worker} {slot : Fin slots} {worker : Worker}
    (same : worker.held = (workers slot).held) (other : Fin slots) :
    (Function.update workers slot worker other).held = (workers other).held := by
  rw [congrFun (held_update workers slot worker) other,same]
  exact congrFun (Function.update_eq_self slot fun other => (workers other).held) other

theorem held_cancel (worker : Worker) : worker.cancel.held = worker.held := by cases worker <;> rfl

theorem Sound.replaced (sound : Sound limit s) {workers : Fin slots → Worker}
    (same : ∀ slot, (workers slot).held = (s.workers slot).held) {phase : Phase}
    (idle : phase = .stopped → ∀ slot, workers slot = .ended) :
    Sound limit {s with workers := workers, phase := phase} := by
  have heldEq : (fun slot => (workers slot).held) = fun slot => (s.workers slot).held := funext same
  exact {sound with
    active := by rw [sound.active]; exact congrArg (fun f => ((busy f).card : Int)) heldEq.symm
    unfinished := by
      rw [sound.unfinished]
      exact congrArg (fun f => ((s.queue.length : Int) + (busy f).card)) heldEq.symm
    held := fun other item holds => sound.held other item ((same other).symm.trans holds)
    apart := fun one other item first second =>
      sound.apart one other item ((same one).symm.trans first) ((same other).symm.trans second)
    idle := idle}

theorem Sound.exchanged (sound : Sound limit s) {worker : Worker} (same : worker.held = (s.workers slot).held)
    (running : s.phase ≠ .stopped) : Sound limit {s with workers := Function.update s.workers slot worker} :=
  sound.replaced (held_same same) fun stopped => absurd stopped running

theorem Sound.running (sound : Sound limit s) (live : s.workers slot ≠ .ended) : s.phase ≠ .stopped :=
  fun stopped => live (sound.idle stopped slot)

theorem Sound.ticket_lt (sound : Sound limit s) (member : item ∈ s.accepted) : item.ticket < s.accepted.length := by
  have listed : item.ticket ∈ s.accepted.map WorkItem.ticket := List.mem_map_of_mem member
  rw [sound.tickets] at listed
  exact List.mem_range.mp listed

theorem Sound.ticket_injective (sound : Sound limit s) (first : one ∈ s.accepted) (second : other ∈ s.accepted)
    (same : one.ticket = other.ticket) : one = other := by
  have unique : (s.accepted.map WorkItem.ticket).Nodup := by
    rw [sound.tickets]
    exact List.nodup_range
  exact List.inj_on_of_nodup_map unique first second same

theorem Sound.submitted (sound : Sound limit s) (room : s.queue.length < limit)
    (numbered : item.ticket = s.accepted.length) : Sound limit {s with
      queue := s.queue ++ [item], unfinished := s.unfinished + 1, accepted := s.accepted ++ [item]} := by
  have new : ∀ other, other ∈ s.queue ∨ other ∈ s.started → other.ticket ≠ item.ticket := by
    intro other member
    have older := sound.ticket_lt (sound.known other member)
    omega
  refine {sound with
    unfinished := ?_, queued := ?_, tickets := ?_, known := ?_, once := ?_, waiting := ?_, unissued := ?_}
  · change s.unfinished + 1 = ((s.queue ++ [item]).length : Int) + (generating s).card
    rw [sound.unfinished,List.length_append,List.length_singleton]
    push_cast
    ring
  · change (s.queue ++ [item]).length ≤ limit
    rw [List.length_append,List.length_singleton]
    omega
  · change (s.accepted ++ [item]).map WorkItem.ticket = List.range (s.accepted ++ [item]).length
    rw [List.map_append,sound.tickets,List.length_append,List.length_singleton,List.range_succ,List.map_singleton,
      numbered]
  · intro other member
    change other ∈ s.accepted ++ [item]
    rcases member with queued | begun
    · rcases List.mem_append.mp queued with old | last
      · exact List.mem_append_left _ (sound.known other (.inl old))
      · exact List.mem_append_right _ last
    · exact List.mem_append_left _ (sound.known other (.inr begun))
  · change ((s.queue ++ [item]).map WorkItem.ticket ++ s.started.map WorkItem.ticket).Nodup
    have shuffled : ((s.queue ++ [item]).map WorkItem.ticket ++ s.started.map WorkItem.ticket).Perm
        (item.ticket :: (s.queue.map WorkItem.ticket ++ s.started.map WorkItem.ticket)) := by
      rw [List.map_append,List.map_singleton,List.append_assoc]
      exact List.perm_middle
    refine shuffled.nodup_iff.mpr (List.nodup_cons.mpr ⟨?_,sound.once⟩)
    intro member
    rcases List.mem_append.mp member with queued | begun
    · obtain ⟨other,inside,same⟩ := List.mem_map.mp queued
      exact new other (.inl inside) same
    · obtain ⟨other,inside,same⟩ := List.mem_map.mp begun
      exact new other (.inr inside) same
  · intro other member
    rcases List.mem_append.mp member with old | last
    · exact sound.waiting other old
    · cases List.mem_singleton.mp last
      exact .inl (sound.unissued item.ticket (Nat.le_of_eq numbered.symm))
  · intro ticket later
    refine sound.unissued ticket ?_
    change (s.accepted ++ [item]).length ≤ ticket at later
    rw [List.length_append] at later
    omega

theorem future_read {futures : Nat → Future ρ ξ} {future value : Future ρ ξ}
    (found : Function.update futures ticket future other = value) :
    (other = ticket ∧ future = value) ∨ (other ≠ ticket ∧ futures other = value) :=
  @updated_read Nat (Future ρ ξ) (Future ρ ξ) _ futures ticket other future id value found

theorem Sound.expired (sound : Sound limit s) (issued : ticket < s.accepted.length) :
    Sound limit {s with futures := Function.update s.futures ticket .cancelled} := by
  have stays : ∀ other, Open (s.futures other) → Open (Function.update s.futures ticket .cancelled other) := by
    intro other still
    by_cases here : other = ticket
    · subst other
      rw [Function.update_self]
      exact .inr rfl
    · rw [Function.update_of_ne here]
      exact still
  refine {sound with
    waiting := fun item member => stays _ (sound.waiting item member)
    held := fun slot item holds => ⟨(sound.held slot item holds).1,stays _ (sound.held slot item holds).2⟩
    resolved := ?_, failed := ?_, unissued := ?_}
  · intro other value found
    rcases future_read found with ⟨_,found⟩ | ⟨_,found⟩
    · cases found
    · exact sound.resolved other value found
  · intro other exception found
    rcases future_read found with ⟨_,found⟩ | ⟨_,found⟩
    · cases found
    · exact sound.failed other exception found
  · intro other later
    have different : other ≠ ticket := by
      change s.accepted.length ≤ other at later
      omega
    change Function.update s.futures ticket .cancelled other = .pending
    rw [Function.update_of_ne different]
    exact sound.unissued other later

theorem Sound.dropped (sound : Sound limit s) (queued : s.queue = item :: rest) :
    Sound limit {s with queue := rest, unfinished := s.unfinished - 1} := by
  refine {sound with unfinished := ?_, queued := ?_, known := ?_, once := ?_, waiting := ?_}
  · change s.unfinished - 1 = (rest.length : Int) + (generating s).card
    rw [sound.unfinished,queued,List.length_cons]
    push_cast
    ring
  · have bound := sound.queued
    rw [queued,List.length_cons] at bound
    exact Nat.le_of_succ_le bound
  · intro other member
    refine sound.known other (member.imp_left fun inside => ?_)
    rw [queued]
    exact List.mem_cons_of_mem _ inside
  · have unique := sound.once
    rw [queued,List.map_cons,List.cons_append] at unique
    exact (List.nodup_cons.mp unique).2
  · intro other member
    refine sound.waiting other ?_
    rw [queued]
    exact List.mem_cons_of_mem _ member

theorem Sound.began (sound : Sound limit s) (vacant : s.workers slot = .waiting false)
    (queued : s.queue = item :: rest) : Sound limit {s with
      queue := rest, active := s.active + 1
      workers := Function.update s.workers slot (.generating item false), started := s.started ++ [item]} := by
  have idle : (s.workers slot).held = none := by rw [vacant]; rfl
  have counts : (busy fun other => (Function.update s.workers slot (.generating item false) other).held).card =
      (generating s).card + 1 := by
    rw [held_update]
    exact @card_fill (Fin slots) WorkItem _ _ (fun other => (s.workers other).held) slot idle item
  have first : item ∈ s.queue := by rw [queued]; exact List.mem_cons_self
  have unique : (item.ticket :: (rest.map WorkItem.ticket ++ s.started.map WorkItem.ticket)).Nodup := by
    have all := sound.once
    rwa [queued,List.map_cons,List.cons_append] at all
  have unstarted : item ∉ s.started := fun begun =>
    (List.nodup_cons.mp unique).1 (List.mem_append_right _ (List.mem_map_of_mem begun))
  have reads : ∀ other found, (Function.update s.workers slot (.generating item false) other).held = some found →
      (other = slot ∧ found = item) ∨ (other ≠ slot ∧ (s.workers other).held = some found) := by
    intro other found holds
    rcases updated_read holds with ⟨here,same⟩ | elsewhere
    · exact .inl ⟨here,(Option.some.inj same).symm⟩
    · exact .inr elsewhere
  refine {sound with
    active := ?_, unfinished := ?_, queued := ?_, known := ?_, once := ?_, waiting := ?_, held := ?_, apart := ?_,
    resolved := ?_, failed := ?_, idle := ?_}
  · change s.active + 1 = _
    rw [sound.active]
    exact_mod_cast counts.symm
  · change s.unfinished = (rest.length : Int) + (busy fun other => (Function.update s.workers slot _ other).held).card
    rw [counts,sound.unfinished,queued,List.length_cons]
    push_cast
    ring
  · have bound := sound.queued
    rw [queued,List.length_cons] at bound
    exact Nat.le_of_succ_le bound
  · intro other member
    rcases member with inside | begun
    · refine sound.known other (.inl ?_)
      rw [queued]
      exact List.mem_cons_of_mem _ inside
    · rcases List.mem_append.mp begun with old | last
      · exact sound.known other (.inr old)
      · cases List.mem_singleton.mp last
        exact sound.known item (.inl first)
  · change (rest.map WorkItem.ticket ++ (s.started ++ [item]).map WorkItem.ticket).Nodup
    rw [List.map_append,List.map_singleton,← List.append_assoc]
    exact (List.perm_append_singleton _ _).nodup_iff.mpr unique
  · intro other member
    refine sound.waiting other ?_
    rw [queued]
    exact List.mem_cons_of_mem _ member
  · intro other found holds
    rcases reads other found holds with ⟨_,rfl⟩ | ⟨_,holds⟩
    · exact ⟨List.mem_append_right _ List.mem_cons_self,sound.waiting found first⟩
    · obtain ⟨begun,still⟩ := sound.held other found holds
      exact ⟨List.mem_append_left _ begun,still⟩
  · intro one other found holds alsoHolds
    rcases reads one found holds with ⟨rfl,same⟩ | ⟨_,held⟩
    · rcases reads other found alsoHolds with ⟨rfl,_⟩ | ⟨_,alsoHeld⟩
      · rfl
      · exact absurd (sound.held other found alsoHeld).1 (by rw [same]; exact unstarted)
    · rcases reads other found alsoHolds with ⟨_,same⟩ | ⟨_,alsoHeld⟩
      · exact absurd (sound.held one found held).1 (by rw [same]; exact unstarted)
      · exact sound.apart one other found held alsoHeld
  · intro ticket value found
    obtain ⟨own,begun,rest⟩ := sound.resolved ticket value found
    exact ⟨own,List.mem_append_left _ begun,rest⟩
  · intro ticket exception found
    obtain ⟨own,begun,rest⟩ := sound.failed ticket exception found
    exact ⟨own,List.mem_append_left _ begun,rest⟩
  · intro stopped
    exact absurd stopped (sound.running (by rw [vacant]; exact Worker.noConfusion))

theorem Sound.left (sound : Sound limit s) (working : (s.workers slot).held = some item) {worker : Worker}
    (empty : worker.held = none) : Sound limit {s with
      active := s.active - 1, unfinished := s.unfinished - 1
      workers := Function.update s.workers slot worker} := by
  have present : 0 < (generating s).card := Finset.card_pos.mpr ⟨slot,mem_busy.mpr ⟨item,working⟩⟩
  have counts : (busy fun other => (Function.update s.workers slot worker other).held).card =
      (generating s).card - 1 := by
    rw [held_update,empty]
    exact @card_clear (Fin slots) WorkItem _ _ (fun other => (s.workers other).held) slot item working
  have reads : ∀ other found, (Function.update s.workers slot worker other).held = some found →
      (s.workers other).held = some found := by
    intro other found holds
    rcases updated_read holds with ⟨_,same⟩ | ⟨_,holds⟩
    · rw [empty] at same
      cases same
    · exact holds
  refine {sound with
    active := ?_, unfinished := ?_
    held := fun other found holds => sound.held other found (reads other found holds)
    apart := fun one other found holds alsoHolds =>
      sound.apart one other found (reads one found holds) (reads other found alsoHolds)
    idle := ?_}
  · change s.active - 1 = ((busy fun other => (Function.update s.workers slot worker other).held).card : Int)
    rw [counts,sound.active]
    omega
  · change s.unfinished - 1 = (s.queue.length : Int) +
      (busy fun other => (Function.update s.workers slot worker other).held).card
    rw [counts,sound.unfinished]
    omega
  · intro stopped
    have ended : s.workers slot = .ended := sound.idle stopped slot
    rw [ended] at working
    cases working

theorem settle_resolved {future : Future ρ ξ} (still : Open future)
    (settles : (settle future outcome).1 = .resolved value) : outcome = .returned value := by
  rcases still with rfl | rfl
  · cases outcome with
    | returned given => cases settles; rfl
    | raised exception => cases settles
  · cases settles

theorem settle_failed {future : Future ρ ξ} (still : Open future)
    (settles : (settle future outcome).1 = .failed exception) : outcome = .raised exception := by
  rcases still with rfl | rfl
  · cases outcome with
    | returned value => cases settles
    | raised given => cases settles; rfl
  · cases settles

theorem Sound.settled (sound : Sound limit s) (working : (s.workers slot).held = some item) (outcome : Outcome ρ ξ)
    {worker : Worker} (empty : worker.held = none) : Sound limit {s with
      futures := Function.update s.futures item.ticket (settle (s.futures item.ticket) outcome).1
      outcomes := s.outcomes ++ [(item,outcome)], active := s.active - 1, unfinished := s.unfinished - 1
      workers := Function.update s.workers slot worker} := by
  have cleared := sound.left working empty
  obtain ⟨begun,still⟩ := sound.held slot item working
  have owned := sound.known item (.inr begun)
  have elsewhere : ∀ other, other ≠ item.ticket → Open (s.futures other) →
      Open (Function.update s.futures item.ticket (settle (s.futures item.ticket) outcome).1 other) := by
    intro other different open_
    rw [Function.update_of_ne different]
    exact open_
  refine {cleared with waiting := ?_, held := ?_, resolved := ?_, failed := ?_, unissued := ?_}
  · intro other member
    refine elsewhere _ (fun same => ?_) (sound.waiting other member)
    have twice := List.disjoint_of_nodup_append sound.once (List.mem_map_of_mem member)
    exact twice (by rw [same]; exact List.mem_map_of_mem begun)
  · intro other found holds
    have earlier := cleared.held other found holds
    refine ⟨earlier.1,elsewhere _ (fun same => ?_) earlier.2⟩
    -- Another worker with the same future would hold the same item.
    have equal := sound.ticket_injective (sound.known found (.inr earlier.1)) owned same
    rcases updated_read holds with ⟨_,same⟩ | ⟨different,holds⟩
    · rw [empty] at same
      cases same
    · rw [equal] at holds
      exact different (sound.apart other slot item holds working)
  · intro ticket value found
    rcases future_read found with ⟨rfl,settles⟩ | ⟨_,found⟩
    · rw [settle_resolved still settles]
      exact ⟨item,begun,rfl,List.mem_append_right _ List.mem_cons_self⟩
    · obtain ⟨own,started,same,logged⟩ := sound.resolved ticket value found
      exact ⟨own,started,same,List.mem_append_left _ logged⟩
  · intro ticket exception found
    rcases future_read found with ⟨rfl,settles⟩ | ⟨_,found⟩
    · rw [settle_failed still settles]
      exact ⟨item,begun,rfl,List.mem_append_right _ List.mem_cons_self⟩
    · obtain ⟨own,started,same,logged⟩ := sound.failed ticket exception found
      exact ⟨own,started,same,List.mem_append_left _ logged⟩
  · intro ticket later
    have older := sound.ticket_lt owned
    change s.accepted.length ≤ ticket at later
    change Function.update s.futures item.ticket _ ticket = .pending
    rw [Function.update_of_ne (by omega)]
    exact sound.unissued ticket later

theorem Moves.sound (moves : Moves limit s event next) (sound : Sound limit s) : Sound limit next := by
  cases moves with
  | refused full => exact sound
  | submitted room numbered => exact sound.submitted room (by rw [numbered])
  | late => exact sound
  | expired issued _ => exact sound.expired issued
  | dropped _ queued _ => exact sound.dropped queued
  | began vacant queued _ => exact sound.began vacant queued
  | finished working _ => exact sound.settled (by rw [working]; rfl) _ rfl
  | absorbed working =>
    exact sound.exchanged (by rw [working]; rfl) (sound.running (by rw [working]; exact Worker.noConfusion))
  | vacated vacant =>
    exact sound.exchanged (by rw [vacant]; rfl) (sound.running (by rw [vacant]; exact Worker.noConfusion))
  | interrupted working => exact sound.left (by rw [working]; rfl) rfl
  | started stopped =>
    exact sound.replaced (fun slot => by rw [sound.idle stopped slot]; rfl) fun running => Phase.noConfusion running
  | present => exact sound
  | absent => exact sound
  | stopping _ => exact sound.replaced (fun slot => held_cancel _) fun stopping => Phase.noConfusion stopping
  | gathered ended => exact sound.replaced (fun _ => rfl) fun _ => ended

theorem initial_generating (ρ ξ : Type) (slots : Nat) : generating (initial ρ ξ slots) = ∅ :=
  Finset.filter_false_of_mem fun _ _ => Bool.noConfusion

theorem initial_sound (ρ ξ : Type) (slots limit : Nat) : Sound limit (initial ρ ξ slots) where
  active := by rw [initial_generating]; rfl
  unfinished := by rw [initial_generating]; rfl
  queued := Nat.zero_le _
  tickets := rfl
  known := fun item member => by rcases member with inside | inside <;> exact absurd inside List.not_mem_nil
  once := List.nodup_nil
  waiting := fun item inside => absurd inside List.not_mem_nil
  held := fun _ _ holds => by cases holds
  apart := fun _ _ _ holds => by cases holds
  resolved := fun _ _ found => by cases found
  failed := fun _ _ found => by cases found
  unissued := fun _ _ => rfl
  idle := fun _ _ => rfl

theorem step_sound (sound : Sound limit s) (taken : step limit s event = some next) : Sound limit next :=
  (step_moves sound taken).sound sound

theorem run_sound (path : Runs (step limit) (initial ρ ξ slots) events s) : Sound limit s :=
  path.invariant step_sound (initial_sound ρ ξ slots limit)

theorem update_live {workers : Fin slots → Worker} {slot other : Fin slots} {worker : Worker}
    (live : workers other ≠ .ended) (enters : worker ≠ .ended) : Function.update workers slot worker other ≠ .ended := by
  by_cases here : other = slot
  · subst other
    rw [Function.update_self]
    exact enters
  · rw [Function.update_of_ne here]
    exact live

theorem Moves.live (moves : Moves limit s event next) {other : Fin slots} (live : s.workers other ≠ .ended)
    (spared : event ≠ .interrupt other) : next.workers other ≠ .ended := by
  cases moves with
  | refused | submitted | late | expired | dropped | present | absent => exact live
  | began | finished | absorbed => exact update_live live Worker.noConfusion
  | vacated | interrupted =>
    change Function.update s.workers _ _ other ≠ .ended
    rw [Function.update_of_ne fun same => spared (by rw [same])]
    exact live
  | started => exact Worker.noConfusion
  | stopping =>
    change (s.workers other).cancel ≠ .ended
    cases state : s.workers other with
    | ended => exact absurd state live
    | waiting flag => exact Worker.noConfusion
    | generating item flag => exact Worker.noConfusion
  | gathered => exact live

theorem generating_le (s : State ρ ξ slots) : (generating s).card ≤ slots := by
  have bound := Finset.card_le_univ (generating s)
  rwa [Fintype.card_fin] at bound

theorem scheduler_sound (ρ ξ : Type) (scheduler : Scheduler) (events : List (Event ρ ξ scheduler.slots))
    (s : State ρ ξ scheduler.slots)
    (path : Runs (step scheduler.queueLimit) (initial ρ ξ scheduler.slots) events s) :
    (s.active = (generating s).card ∧ 0 ≤ s.active ∧ s.active ≤ scheduler.slots) ∧
      s.queue.length ≤ scheduler.queueLimit ∧
      ((s.started.map WorkItem.ticket).Nodup ∧ ∀ item ∈ s.started, item ∈ s.accepted) ∧
      (∀ item ∈ s.accepted,
        (∀ value, s.futures item.ticket = .resolved value → (item,.returned value) ∈ s.outcomes) ∧
        ∀ exception, s.futures item.ticket = .failed exception → (item,.raised exception) ∈ s.outcomes) ∧
      ∀ slot event next, step scheduler.queueLimit s event = some next → s.workers slot ≠ .ended →
        event ≠ .interrupt slot → next.workers slot ≠ .ended := by
  have sound := run_sound path
  refine ⟨⟨sound.active,?_,?_⟩,sound.queued,⟨?_,fun item begun => sound.known item (.inr begun)⟩,?_,?_⟩
  · rw [sound.active]
    omega
  · rw [sound.active]
    exact_mod_cast generating_le s
  · exact (List.nodup_append.mp sound.once).2.1
  · intro item member
    constructor
    · intro value found
      obtain ⟨own,begun,same,logged⟩ := sound.resolved _ _ found
      rwa [sound.ticket_injective (sound.known own (.inr begun)) member same] at logged
    · intro exception found
      obtain ⟨own,begun,same,logged⟩ := sound.failed _ _ found
      rwa [sound.ticket_injective (sound.known own (.inr begun)) member same] at logged
  · intro slot event next taken live spared
    exact (step_moves sound taken).live live spared

def firstSlot : Fin 2 := ⟨0,by decide⟩

def secondSlot : Fin 2 := ⟨1,by decide⟩

def restart : List (Event String String 2) :=
  [.start,.submit "first" 8,.submit "second" 8,.take firstSlot,.take secondSlot,.expire 0,
    .finish firstSlot (.returned "text"),.finish secondSlot (.raised "out of memory"),.stop,.interrupt firstSlot,
    .interrupt secondSlot,.gathered,.start,.submit "third" 8,.take secondSlot]

def pairOfSlots : Scheduler := ⟨2,2,by decide⟩

theorem restart_sound : ∃ s, Runs (step 2) (initial String String 2) restart s ∧ s.active = 1 ∧
    s.started.length = 3 ∧ s.queue.length ≤ 2 ∧ s.active ≤ 2 :=
  have path : Runs (step pairOfSlots.queueLimit) (initial String String pairOfSlots.slots) restart _ :=
    consume_exact.mp rfl
  have sound := scheduler_sound String String pairOfSlots restart _ path
  ⟨_,path,by decide +kernel,by decide +kernel,sound.2.1,sound.1.2.2⟩

end OpenModelOps.MetalWorkers
