import OpenModelOps.IntegrationDelivery

namespace OpenModelOps.IntegrationDispatch
open KeyedTable PythonText RunHistory IntegrationOutbox IntegrationDelivery

-- A call of run_once with nothing beside it. What the handler does with a
-- message, and the time of the write that reports it.
structure Visit where
  outcome : Outcome
  now : Instant

-- What happened to the messages, oldest entry first. A message is taken with
-- the call of its handler, or with none where it has no handler.
inductive Entry where
  | enqueued (messageId : String)
  | taken (messageId : String) (call : Option Outcome) (offered now : Instant)
  | returned (result : Option DispatchResult) (batch : Nat)

structure Progress where
  db : Database
  log : List Entry
  result : DispatchResult

variable {handles : String → Bool} {visit : OutboxMessage → Visit} {offered now : Instant} {p next : Progress}
  {message other : OutboxMessage} {messages rest : List OutboxMessage} {db : Database} {limit : Nat} {messageId : String} {log : List Entry}

-- One message of the loop; none is an exception that leaves run_once.
def settle (handles : String → Bool) (visit : OutboxMessage → Visit) (offered : Instant) (p : Progress)
    (message : OutboxMessage) : Option Progress :=
  let now := (visit message).now
  if handles message.destination then
    match (visit message).outcome with
    | .returns => some {
        db := delivered p.db message.messageId
        log := p.log ++ [.taken message.messageId (some .returns) offered now]
        result := {p.result with delivered := p.result.delivered + 1}}
    | .raises error =>
      let attempts := message.attempts + 1
      some {
        db := failed p.db message.messageId error attempts now
        log := p.log ++ [.taken message.messageId (some (.raises error)) offered now]
        result := if attempts ≥ 5 then {p.result with deadLettered := p.result.deadLettered + 1}
          else {p.result with failed := p.result.failed + 1}}
    | .escapes => none
  else some {
    db := failed p.db message.messageId "destination has no registered handler" 5 now
    log := p.log ++ [.taken message.messageId none offered now]
    result := {p.result with deadLettered := p.result.deadLettered + 1}}

def dispatch (handles : String → Bool) (visit : OutboxMessage → Visit) (offered : Instant) :
    Progress → List OutboxMessage → Bool × Progress
  | p,[] => (true,p)
  | p,message :: rest => match settle handles visit offered p message with
    | some next => dispatch handles visit offered next rest
    | none => (false,{p with log := p.log ++
        [.taken message.messageId (some .escapes) offered (visit message).now]})

-- run_once for the messages that pending gave it; none for the result is an
-- exception.
def runOnce (handles : String → Bool) (visit : OutboxMessage → Visit) (offered : Instant) (db : Database)
    (log : List Entry) (messages : List OutboxMessage) : Option DispatchResult × Progress :=
  let (complete,p) := dispatch handles visit offered ⟨db,log,.zero⟩ messages
  (if complete then some p.result else none,p)

def tally (result : DispatchResult) : Nat := result.delivered + result.failed + result.deadLettered

def Caught (handles : String → Bool) (visit : OutboxMessage → Visit) (message : OutboxMessage) : Prop :=
  handles message.destination = true → (visit message).outcome ≠ .escapes

def called (handles : String → Bool) (visit : OutboxMessage → Visit) (message : OutboxMessage) : Option Outcome :=
  if handles message.destination then some (visit message).outcome else none

def entryOf (handles : String → Bool) (visit : OutboxMessage → Visit) (offered : Instant) (message : OutboxMessage) :
    Entry :=
  .taken message.messageId (called handles visit message) offered (visit message).now

structure Settles (handles : String → Bool) (visit : OutboxMessage → Visit) (offered : Instant) (p : Progress)
    (message : OutboxMessage) (next : Progress) : Prop where
  tallied : tally next.result = tally p.result + 1
  log : next.log = p.log ++ [entryOf handles visit offered message]
  others : ∀ j, j ≠ message.messageId → next.db.find j = p.db.find j
  raised : ∀ row error, handles message.destination = true → (visit message).outcome = .raises error →
    p.db.find message.messageId = some row → ∃ written, next.db.find message.messageId = some written ∧
      written.attempts = message.attempts + 1

theorem settle_settles (settled : settle handles visit offered p message = some next) :
    Settles handles visit offered p message next := by
  have finds := write_finds p.db message.messageId
  unfold settle at settled
  dsimp only at settled
  split at settled
  · rename_i handled
    split at settled
    · rename_i outcome
      cases settled
      refine ⟨?_,by simp [entryOf,called,handled,outcome],?_,?_⟩
      · simp only [tally]
        omega
      · intro j other
        exact (finds markDelivered j).trans (if_neg other)
      · intro row error _ raises
        rw [outcome] at raises
        cases raises
    · rename_i error outcome
      cases settled
      refine ⟨?_,by simp [entryOf,called,handled,outcome],?_,?_⟩
      · dsimp only
        split <;> simp only [tally] <;> omega
      · intro j other
        exact (finds (markFailed error (message.attempts + 1) (visit message).now) j).trans (if_neg other)
      · intro row _ _ _ found
        refine ⟨(markFailed error (message.attempts + 1) (visit message).now).apply row,?_,rfl⟩
        refine (finds (markFailed error (message.attempts + 1) (visit message).now) message.messageId).trans ?_
        rw [if_pos rfl,found]
        rfl
    · cases settled
  · rename_i unhandled
    cases settled
    refine ⟨?_,by simp [entryOf,called,unhandled],?_,?_⟩
    · simp only [tally]
      omega
    · intro j other
      exact (finds (markFailed "destination has no registered handler" 5 (visit message).now) j).trans (if_neg other)
    · intro row error handled
      exact absurd handled unhandled

theorem settle_isSome_iff : (∃ next, settle handles visit offered p message = some next) ↔ Caught handles visit message := by
  unfold settle Caught
  dsimp only
  split
  · rename_i handled
    split <;> simp_all
  · rename_i unhandled
    simp [unhandled]

theorem dispatch_complete_iff : (dispatch handles visit offered p messages).1 = true ↔
    ∀ message ∈ messages, Caught handles visit message := by
  induction messages generalizing p with
  | nil => simp [dispatch]
  | cons message rest ih =>
    unfold dispatch
    rw [List.forall_mem_cons]
    cases settled : settle handles visit offered p message with
    | some next =>
      have caught := settle_isSome_iff.mp ⟨next,settled⟩
      simp [ih,caught]
    | none =>
      have loose : ¬ Caught handles visit message := by
        intro caught
        obtain ⟨next,done⟩ := (@settle_isSome_iff handles visit offered p message).mpr caught
        rw [settled] at done
        cases done
      simp [loose]

theorem runOnce_complete_iff : (∃ result, (runOnce handles visit offered db log messages).1 = some result) ↔
    ∀ message ∈ messages, Caught handles visit message := by
  rw [← @dispatch_complete_iff handles visit offered ⟨db,log,.zero⟩]
  unfold runOnce
  dsimp only
  split <;> simp_all

structure Batch (db : Database) (messages : List OutboxMessage) : Prop where
  rows : ∀ message ∈ messages, db.find message.messageId = some message
  distinct : (messages.map OutboxMessage.messageId).Nodup

theorem Batch.tail (batch : Batch p.db (message :: rest)) (settles : Settles handles visit offered p message next) :
    Batch next.db rest := by
  have distinct := List.nodup_cons.mp batch.distinct
  refine ⟨?_,distinct.2⟩
  intro later member
  have apart : later.messageId ≠ message.messageId := by
    intro same
    exact distinct.1 (same ▸ List.mem_map_of_mem member)
  rw [settles.others _ apart]
  exact batch.rows later (List.mem_cons_of_mem _ member)

theorem pendingAnswer_batch (answered : pendingAnswer db limit offered messages = true) : Batch db messages := by
  refine ⟨fun _ => pendingAnswer_rows answered,?_⟩
  simp only [pendingAnswer,Bool.and_eq_true,decide_eq_true_eq] at answered
  exact answered.1.1.1.2

theorem dispatch_total : (dispatch handles visit offered p messages).1 = true →
    tally (dispatch handles visit offered p messages).2.result =
      tally p.result + messages.length := by
  induction messages generalizing p with
  | nil => simp [dispatch]
  | cons message rest ih =>
    unfold dispatch
    cases settled : settle handles visit offered p message with
    | some next =>
      intro complete
      have tallied := (settle_settles settled).tallied
      rw [ih complete,List.length_cons]
      omega
    | none => simp

theorem dispatch_others (apart : messageId ∉ messages.map OutboxMessage.messageId) :
    (dispatch handles visit offered p messages).2.db.find messageId = p.db.find messageId := by
  induction messages generalizing p with
  | nil => rfl
  | cons message rest ih =>
    rw [List.map_cons,List.mem_cons,not_or] at apart
    unfold dispatch
    cases settled : settle handles visit offered p message with
    | some next => exact (ih apart.2).trans ((settle_settles settled).others messageId apart.1)
    | none => rfl

theorem dispatch_log (complete : (dispatch handles visit offered p messages).1 = true) :
    (dispatch handles visit offered p messages).2.log = p.log ++ messages.map (entryOf handles visit offered) := by
  induction messages generalizing p with
  | nil => simp [dispatch]
  | cons message rest ih =>
    unfold dispatch at complete ⊢
    cases settled : settle handles visit offered p message with
    | some next =>
      rw [settled] at complete
      simp [ih complete,(settle_settles settled).log]
    | none =>
      rw [settled] at complete
      cases complete

theorem dispatch_raised (batch : Batch p.db messages) (complete : (dispatch handles visit offered p messages).1 = true)
    (member : message ∈ messages) (handled : handles message.destination = true)
    (raised : (visit message).outcome = .raises error) :
    ∃ row, (dispatch handles visit offered p messages).2.db.find message.messageId = some row ∧
      row.attempts = message.attempts + 1 := by
  induction messages generalizing p with
  | nil => cases member
  | cons first rest ih =>
    unfold dispatch at complete ⊢
    cases settled : settle handles visit offered p first with
    | some next =>
      rw [settled] at complete
      have settles := settle_settles settled
      rcases List.mem_cons.mp member with rfl | later
      · obtain ⟨row,written,attempts⟩ := settles.raised message error handled raised (batch.rows message member)
        have elsewhere := (List.nodup_cons.mp batch.distinct).1
        exact ⟨row,(dispatch_others elsewhere).trans written,attempts⟩
      · exact ih (batch.tail settles) complete later
    | none =>
      rw [settled] at complete
      cases complete

section Alone
variable {n : Nat} {handlers : Fin n → String → Bool} {worker : Fin n} {s : State n}

def Reaches (handlers : Fin n → String → Bool) (worker : Fin n) (s : State n) (db : Database) (w : Worker) : Prop :=
  ∃ events t, Runs (step handlers) s events t ∧ t.db = db ∧ t.workers worker = w

theorem reaches_of (events : List (Event n))
    (consumed : (consume (step handlers) s events).map (fun t => (t.db,t.workers worker)) = some (db,w)) :
    Reaches handlers worker s db w := by
  obtain ⟨t,ran,same⟩ := Option.map_eq_some_iff.mp consumed
  exact ⟨events,t,consume_exact.mp ran,congrArg Prod.fst same,congrArg Prod.snd same⟩

theorem settle_reaches (settled : settle (handlers worker) visit offered p message = some next) (database : s.db = p.db)
    (looping : s.workers worker = .looping (message :: rest) p.result) :
    Reaches handlers worker s next.db (.looping rest next.result) := by
  unfold settle at settled
  dsimp only at settled
  split at settled
  · rename_i handled
    split at settled
    · cases settled
      apply reaches_of [.call worker,.settle worker .returns,.deliver worker]
      simp [consume,step,place,looping,handled,database]
    · rename_i error outcome
      cases settled
      apply reaches_of [.call worker,.settle worker (.raises error),.fail worker (visit message).now]
      simp [consume,step,place,looping,handled,database]
    · cases settled
  · rename_i unhandled
    cases settled
    apply reaches_of [.discard worker (visit message).now]
    simp [consume,step,place,looping,unhandled,database]

theorem escaped_reaches (settled : settle (handlers worker) visit offered p message = none) (database : s.db = p.db)
    (looping : s.workers worker = .looping (message :: rest) p.result) : Reaches handlers worker s p.db .idle := by
  unfold settle at settled
  dsimp only at settled
  split at settled
  · rename_i handled
    split at settled
    · cases settled
    · cases settled
    · apply reaches_of [.call worker,.settle worker .escapes]
      simp [consume,step,place,looping,handled,database]
  · cases settled

theorem dispatch_reaches (database : s.db = p.db) (looping : s.workers worker = .looping messages p.result) :
    Reaches handlers worker s (dispatch (handlers worker) visit offered p messages).2.db .idle := by
  induction messages generalizing p s with
  | nil =>
    apply reaches_of [.finish worker]
    simp [consume,step,place,looping,database,dispatch]
  | cons message rest ih =>
    unfold dispatch
    cases settled : settle (handlers worker) visit offered p message with
    | some next =>
      obtain ⟨events,t,ran,same,later⟩ := settle_reaches settled database looping
      obtain ⟨more,u,on,finished⟩ := ih same later
      exact ⟨events ++ more,u,ran.trans on,finished⟩
    | none =>
      have escaped := escaped_reaches settled database looping
      exact escaped

theorem runOnce_reaches (idle : s.workers worker = .idle)
    (answered : pendingAnswer s.db limit offered messages = true) :
    Reaches handlers worker s (runOnce (handlers worker) visit offered s.db log messages).2.db .idle := by
  have selected : step handlers s (.select worker limit offered messages) =
      some (place s worker (.looping messages .zero)) := by
    simp [step,idle,answered]
  have placed : (place s worker (.looping messages .zero)).workers worker = .looping messages .zero := by
    simp [place]
  have reached : Reaches handlers worker (place s worker (.looping messages .zero))
      (dispatch (handlers worker) visit offered ⟨s.db,log,.zero⟩ messages).2.db .idle := dispatch_reaches rfl placed
  obtain ⟨events,t,ran,finished⟩ := reached
  exact ⟨_,t,.take selected ran,finished⟩

end Alone

structure Isolates (handles : String → Bool) (visit : OutboxMessage → Visit) (offered : Instant)
    (messages : List OutboxMessage) (outcome : Option DispatchResult × Progress) : Prop where
  attempted : ∀ message ∈ messages, entryOf handles visit offered message ∈ outcome.2.log
  recorded : ∀ message ∈ messages, handles message.destination = true → (visit message).outcome ≠ .returns →
    ∃ row, outcome.2.db.find message.messageId = some row ∧
      (row.attempts = message.attempts + 1 ∨ row.status = .deadLetter)
  counted : ∃ result, outcome.1 = some result ∧ tally result = messages.length

theorem run_once_isolates_iff (answered : pendingAnswer db limit offered messages = true) :
    Isolates handles visit offered messages (runOnce handles visit offered db [] messages) ↔
      ∀ message ∈ messages, Caught handles visit message := by
  constructor
  · intro isolates
    obtain ⟨result,returned,_⟩ := isolates.counted
    exact runOnce_complete_iff.mp ⟨result,returned⟩
  · intro caught
    have complete := (@dispatch_complete_iff handles visit offered ⟨db,[],.zero⟩ messages).mpr caught
    refine ⟨?_,?_,?_⟩
    · intro message member
      have log := dispatch_log complete
      simp only [runOnce,log]
      exact List.mem_append_right _ (List.mem_map_of_mem member)
    · intro message member handled unreturned
      cases outcome : (visit message).outcome with
      | returns => exact absurd outcome unreturned
      | raises error =>
        obtain ⟨row,written,attempts⟩ := dispatch_raised (pendingAnswer_batch answered) complete member handled outcome
        exact ⟨row,written,.inl attempts⟩
      | escapes => exact absurd outcome (caught message member handled)
    · refine ⟨(dispatch handles visit offered ⟨db,[],.zero⟩ messages).2.result,?_,?_⟩
      · simp [runOnce,complete]
      · rw [dispatch_total complete]
        simp [tally,DispatchResult.zero]

def queued (messageId : String) : OutboxMessage := ⟨messageId,"aria",messageId,"\x7b\x7d",.pending,0,0,""⟩

def twoQueued : Database := ⟨[queued "m-1",queued "m-2"],by decide⟩

def toAria (destination : String) : Bool := destination = "aria"

-- The first handler call fails with a connection that was closed without an
-- answer, which is neither a RuntimeError nor a ValueError.
def disconnected (message : OutboxMessage) : Visit := ⟨if message.messageId = "m-1" then .escapes else .returns,1⟩

theorem run_once_blocked : ¬ ∀ (handles : String → Bool) (visit : OutboxMessage → Visit) (db : Database) (limit : Nat)
    (offered : Instant) (messages : List OutboxMessage), pendingAnswer db limit offered messages = true →
      Isolates handles visit offered messages (runOnce handles visit offered db [] messages) := by
  intro isolates
  have all := isolates toAria disconnected twoQueued 100 1 twoQueued.rows (by decide +kernel)
  obtain ⟨result,returned,_⟩ := all.counted
  have raised : (runOnce toAria disconnected 1 twoQueued [] twoQueued.rows).1 = none := by decide +kernel
  rw [raised] at returned
  cases returned

def refused (message : OutboxMessage) : Visit := ⟨if message.messageId = "m-1" then .raises "IntegrationError" else .returns,1⟩

theorem run_once_isolated : Isolates toAria refused 1 twoQueued.rows (runOnce toAria refused 1 twoQueued [] twoQueued.rows) := by
  have answered : pendingAnswer twoQueued 100 1 twoQueued.rows = true := by decide +kernel
  refine (run_once_isolates_iff answered).mpr ?_
  intro message _ _ escapes
  unfold refused at escapes
  dsimp only at escapes
  split at escapes <;> cases escapes

end OpenModelOps.IntegrationDispatch
