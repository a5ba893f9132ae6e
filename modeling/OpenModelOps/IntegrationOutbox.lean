import OpenModelOps.KeyedTable
import OpenModelOps.PythonText
import OpenModelOps.RunHistory
import Mathlib.Algebra.Ring.Int.Defs

namespace OpenModelOps.IntegrationOutbox
open KeyedTable PythonText RunHistory

inductive Status where
  | pending | delivered | deadLetter
  deriving DecidableEq

-- A row of the table, and the OutboxMessage that is made from it. The payload
-- is the JSON text of the column.
structure OutboxMessage where
  messageId : String
  destination : String
  idempotencyKey : String
  payload : String
  status : Status
  attempts : Nat
  availableAt : Instant
  lastError : String
  deriving DecidableEq

abbrev Database := Table OutboxMessage.messageId

-- The INSERT of enqueue. The idempotency key is unique as well.
def insertMessage (db : Database) (messageId destination idempotencyKey payload : String) (now : Instant) :
    Option Database :=
  if db.rows.any fun row => decide (row.idempotencyKey = idempotencyKey) then none
  else db.insert ⟨messageId,destination,idempotencyKey,payload,.pending,0,now,""⟩

def due (now : Instant) (row : OutboxMessage) : Bool := decide (row.status = .pending) && decide (row.availableAt ≤ now)

-- The answers that the SELECT of pending can have: due rows, in the order of
-- available_at, none left out that is earlier. Ties are in any order.
def pendingAnswer (db : Database) (limit : Nat) (now : Instant) (messages : List OutboxMessage) : Bool :=
  decide (messages.Pairwise fun a b => a.availableAt ≤ b.availableAt) &&
  decide ((messages.map OutboxMessage.messageId).Nodup) &&
  messages.all (fun message => decide (message ∈ db.rows) && due now message) &&
  decide (messages.length = min limit (db.rows.countP (due now))) &&
  db.rows.all fun row => !due now row || decide (row ∈ messages) ||
    messages.all fun message => decide (message.availableAt ≤ row.availableAt)

def markDelivered : Assignment OutboxMessage.messageId where
  apply row := {row with status := .delivered}
  keeps _ := rfl

def seconds (n : Int) : Int := n * 1000000

def markFailed (error : String) (attempts : Nat) (now : Instant) : Assignment OutboxMessage.messageId where
  apply row := {row with
    status := if attempts ≥ 5 then .deadLetter else .pending
    attempts := attempts
    availableAt := now + seconds (min 300 (2^attempts))
    lastError := String.ofList (error.toList.take 256)}
  keeps _ := rfl

def delivered (db : Database) (messageId : String) : Database :=
  (db.update messageId (fun _ => true) markDelivered).1

def failed (db : Database) (messageId error : String) (attempts : Nat) (now : Instant) : Database :=
  (db.update messageId (fun _ => true) (markFailed error attempts now)).1

structure DispatchResult where
  delivered : Nat
  failed : Nat
  deadLettered : Nat
  deriving DecidableEq

def DispatchResult.zero : DispatchResult := ⟨0,0,0⟩

-- Where a call of run_once stands: between two messages, in a handler, or
-- before the write that reports what the handler did.
inductive Worker where
  | idle
  | looping (queue : List OutboxMessage) (result : DispatchResult)
  | calling (message : OutboxMessage) (rest : List OutboxMessage) (result : DispatchResult)
  | delivering (message : OutboxMessage) (rest : List OutboxMessage) (result : DispatchResult)
  | failing (message : OutboxMessage) (error : String) (rest : List OutboxMessage) (result : DispatchResult)

-- What a handler does: it returns, raises a RuntimeError or ValueError (with
-- the name of its class), or raises something that run_once does not catch.
inductive Outcome where
  | returns
  | raises (error : String)
  | escapes

-- With the rows and the calls in progress, the number of handler calls made
-- for each message and of those that failed.
structure State (n : Nat) where
  db : Database
  workers : Fin n → Worker
  calls : String → Nat
  failures : String → Nat

def initial (n : Nat) : State n := ⟨Table.empty,fun _ => .idle,fun _ => 0,fun _ => 0⟩

inductive Event (n : Nat) where
  | enqueue (messageId destination idempotencyKey payload : String) (now : Instant)
  | select (worker : Fin n) (limit : Nat) (now : Instant) (messages : List OutboxMessage)
  | discard (worker : Fin n) (now : Instant)
  | call (worker : Fin n)
  | settle (worker : Fin n) (outcome : Outcome)
  | deliver (worker : Fin n)
  | fail (worker : Fin n) (now : Instant)
  | finish (worker : Fin n)

def place (s : State n) (worker : Fin n) (next : Worker) : State n :=
  {s with workers := Function.update s.workers worker next}

def increment (counts : String → Nat) (messageId : String) : String → Nat :=
  Function.update counts messageId (counts messageId + 1)

-- handlers worker destination: whether the dispatcher of that call has one.
def step (handlers : Fin n → String → Bool) (s : State n) : Event n → Option (State n)
  | .enqueue messageId destination idempotencyKey payload now =>
    some (match insertMessage s.db messageId destination idempotencyKey payload now with
      | none => s
      | some db => {s with db := db})
  | .select worker limit now messages => match s.workers worker with
    | .idle => if pendingAnswer s.db limit now messages then some (place s worker (.looping messages .zero)) else none
    | _ => none
  | .discard worker now => match s.workers worker with
    | .looping (message :: rest) result => if handlers worker message.destination then none
      else some {place s worker (.looping rest {result with deadLettered := result.deadLettered + 1}) with
        db := failed s.db message.messageId "destination has no registered handler" 5 now}
    | _ => none
  | .call worker => match s.workers worker with
    | .looping (message :: rest) result => if handlers worker message.destination then
        some {place s worker (.calling message rest result) with calls := increment s.calls message.messageId}
      else none
    | _ => none
  | .settle worker outcome => match s.workers worker with
    | .calling message rest result => some (match outcome with
      | .returns => place s worker (.delivering message rest result)
      | .raises error => {place s worker (.failing message error rest result) with
          failures := increment s.failures message.messageId}
      | .escapes => {place s worker .idle with failures := increment s.failures message.messageId})
    | _ => none
  | .deliver worker => match s.workers worker with
    | .delivering message rest result =>
      some {place s worker (.looping rest {result with delivered := result.delivered + 1}) with
        db := delivered s.db message.messageId}
    | _ => none
  | .fail worker now => match s.workers worker with
    | .failing message error rest result =>
      let attempts := message.attempts + 1
      some {place s worker (.looping rest (if attempts ≥ 5 then {result with deadLettered := result.deadLettered + 1}
          else {result with failed := result.failed + 1})) with
        db := failed s.db message.messageId error attempts now}
    | _ => none
  | .finish worker => match s.workers worker with
    | .looping [] _ => some (place s worker .idle)
    | _ => none

def Worker.engaged : Worker → Option OutboxMessage
  | .idle => none
  | .looping _ _ => none
  | .calling message _ _ => some message
  | .delivering message _ _ => some message
  | .failing message _ _ _ => some message

def Untouched (s : State n) (worker : Fin n) (message : OutboxMessage) : Prop :=
  (s.db.find message.messageId).map (fun row => (row.status,row.attempts)) = some (.pending,message.attempts) ∧
    ∀ other, other ≠ worker → (s.workers other).engaged.map OutboxMessage.messageId ≠ some message.messageId

instance (s : State n) (worker : Fin n) (message : OutboxMessage) : Decidable (Untouched s worker message) :=
  inferInstanceAs (Decidable (_ ∧ _))

def Worker.front : Worker → Option OutboxMessage
  | .looping (message :: _) _ => some message
  | _ => none

-- A call of run_once turns only to messages that are untouched since its read,
-- and its handlers raise nothing but RuntimeError and ValueError.
def Exclusive (s : State n) : Event n → Prop
  | .discard worker _ => ∀ message ∈ (s.workers worker).front, Untouched s worker message
  | .call worker => ∀ message ∈ (s.workers worker).front, Untouched s worker message
  | .settle _ .escapes => False
  | _ => True

instance decideExclusive (s : State n) : (event : Event n) → Decidable (Exclusive s event)
  | .discard worker _ => inferInstanceAs (Decidable (∀ message ∈ (s.workers worker).front, Untouched s worker message))
  | .call worker => inferInstanceAs (Decidable (∀ message ∈ (s.workers worker).front, Untouched s worker message))
  | .settle _ .escapes => .isFalse id
  | .settle _ .returns => .isTrue trivial
  | .settle _ (.raises _) => .isTrue trivial
  | .enqueue .. => .isTrue trivial
  | .select .. => .isTrue trivial
  | .deliver _ => .isTrue trivial
  | .fail _ _ => .isTrue trivial
  | .finish _ => .isTrue trivial

end OpenModelOps.IntegrationOutbox
