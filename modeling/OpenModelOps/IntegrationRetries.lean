import OpenModelOps.IntegrationDispatch
import OpenModelOps.IntegrationEnqueue
import Mathlib.Tactic.Positivity

namespace OpenModelOps.IntegrationRetries
open KeyedTable PythonNumber PythonText PythonValue JsonText RunHistory IntegrationOutbox IntegrationDelivery IntegrationEnqueue IntegrationDispatch

def Entry.failure (messageId : String) : Entry → Bool
  | .taken _ (some .returns) _ _ => false
  | .taken j (some _) _ _ => decide (j = messageId)
  | _ => false

def Entry.final (messageId : String) : Entry → Bool
  | .taken j (some .returns) _ _ => decide (j = messageId)
  | .taken j none _ _ => decide (j = messageId)
  | _ => false

def failures (log : List Entry) (messageId : String) : Nat := log.countP (Entry.failure messageId)

def finished (log : List Entry) (messageId : String) : Bool := log.any (Entry.final messageId)

def backoff (attempts : Nat) : Int := seconds (min 300 (2^attempts))

def Rested (messageId : String) (time : Instant) (log : List Entry) : Prop :=
  EachAfter (fun earlier entry => ∀ call offered written, entry = .taken messageId call offered written →
    Entry.failure messageId entry = true → written + backoff (failures earlier messageId + 1) ≤ time) log

-- A message is taken only while it may be: not after a success, a dead-lettering
-- or five failures, and not before the wait after each failure is over.
def Orderly (log : List Entry) : Prop :=
  EachAfter (fun earlier entry => ∀ messageId call offered written, entry = .taken messageId call offered written →
    failures earlier messageId ≤ 4 ∧ finished earlier messageId = false ∧ Rested messageId offered earlier) log

structure Unfinished (log : List Entry) (row : OutboxMessage) : Prop where
  attempts : row.attempts ≤ 4
  unsettled : finished log row.messageId = false
  rested : Rested row.messageId row.availableAt log

structure Accounted (handles : String → Bool) (log : List Entry) (row : OutboxMessage) : Prop where
  pending : row.status = .pending → Unfinished log row
  attempts : row.attempts = failures log row.messageId ∨
    (handles row.destination = false ∧ row.status = .deadLetter ∧ row.attempts = 5)
  bounded : failures log row.messageId ≤ 5
  dead : row.status = .deadLetter → row.attempts = 5

structure Sound (handles : String → Bool) (db : Database) (log : List Entry) : Prop where
  kept : ∀ messageId, .enqueued messageId ∈ log → ∃ row, db.find messageId = some row
  accounted : ∀ messageId row, db.find messageId = some row → Accounted handles log row
  unseen : ∀ messageId call offered written, .taken messageId call offered written ∈ log →
    ∃ row, db.find messageId = some row
  orderly : Orderly log

variable {handles : String → Bool} {db : Database} {log : List Entry} {entry : Entry} {messageId : String}
  {row message : OutboxMessage} {time later : Instant}

theorem backoff_nonneg (attempts : Nat) : 0 ≤ backoff attempts := by
  have positive : (0 : Int) ≤ min 300 (2^attempts) := le_min (by decide) (by positivity)
  simp only [backoff,seconds]
  omega

theorem failures_snoc (log : List Entry) (entry : Entry) (messageId : String) :
    failures (log ++ [entry]) messageId = failures log messageId + if Entry.failure messageId entry then 1 else 0 := by
  simp [failures,List.countP_append,List.countP_singleton]

theorem finished_snoc (log : List Entry) (entry : Entry) (messageId : String) :
    finished (log ++ [entry]) messageId = (finished log messageId || Entry.final messageId entry) := by
  simp [finished]

theorem Rested.mono (rested : Rested messageId time log) (le : time ≤ later) : Rested messageId later log :=
  EachAfter.imp (fun meets call offered written same failed => (meets call offered written same failed).trans le) rested

theorem rested_snoc : Rested messageId time (log ++ [entry]) ↔ Rested messageId time log ∧
    ∀ call offered written, entry = .taken messageId call offered written → Entry.failure messageId entry = true →
      written + backoff (failures log messageId + 1) ≤ time := eachAfter_snoc

theorem rested_passing (rested : Rested messageId time log) (passing : Entry.failure messageId entry = false) :
    Rested messageId time (log ++ [entry]) :=
  rested_snoc.mpr ⟨rested,fun _ _ _ _ failed => absurd failed (by simp [passing])⟩

theorem Accounted.passing (accounted : Accounted handles log row) (passing : Entry.failure row.messageId entry = false)
    (going : Entry.final row.messageId entry = false) : Accounted handles (log ++ [entry]) row := by
  have count : failures (log ++ [entry]) row.messageId = failures log row.messageId := by
    simp [failures_snoc,passing]
  refine ⟨?_,?_,?_,accounted.dead⟩
  · intro pending
    obtain ⟨attempts,unfinished,rested⟩ := accounted.pending pending
    refine ⟨attempts,?_,rested_passing rested passing⟩
    rw [finished_snoc,unfinished,going]
    rfl
  · rw [count]
    exact accounted.attempts
  · rw [count]
    exact accounted.bounded

theorem taken_other {messageId j : String} {call : Option Outcome} {offered written : Instant}
    (apart : messageId ≠ j) : Entry.failure messageId (.taken j call offered written) = false ∧
    Entry.final messageId (.taken j call offered written) = false := by
  cases call with
  | none => simp [Entry.failure,Entry.final,Ne.symm apart]
  | some outcome => cases outcome <;> simp [Entry.failure,Entry.final,Ne.symm apart]

theorem Accounted.failures_pending (accounted : Accounted handles log row) (pending : row.status = .pending) :
    failures log row.messageId = row.attempts := by
  rcases accounted.attempts with same | ⟨_,dead,_⟩
  · exact same.symm
  · rw [pending] at dead
    cases dead

section Writes
variable {offered written : Instant} {call : Option Outcome} {error : String}

theorem Accounted.delivered (accounted : Accounted handles log message) (pending : message.status = .pending) :
    Accounted handles (log ++ [.taken message.messageId (some .returns) offered written]) (markDelivered.apply message) := by
  have count := accounted.failures_pending pending
  have bounded := accounted.bounded
  have unchanged : failures (log ++ [.taken message.messageId (some .returns) offered written]) message.messageId =
      failures log message.messageId := by simp [failures_snoc,Entry.failure]
  refine ⟨?_,.inl ?_,?_,?_⟩
  · intro still
    cases still
  · exact (unchanged.trans count).symm
  · exact unchanged.trans_le bounded
  · intro dead
    cases dead

theorem Accounted.failed (accounted : Accounted handles log message) (pending : message.status = .pending)
    (due : message.availableAt ≤ offered) (timely : offered ≤ written) :
    Accounted handles (log ++ [.taken message.messageId (some (.raises error)) offered written])
      ((markFailed error (message.attempts + 1) written).apply message) := by
  obtain ⟨attempts,unsettled,rested⟩ := accounted.pending pending
  have count := accounted.failures_pending pending
  have grown : failures (log ++ [.taken message.messageId (some (.raises error)) offered written]) message.messageId =
      message.attempts + 1 := by simp [failures_snoc,Entry.failure,count]
  have waits := backoff_nonneg (message.attempts + 1)
  refine ⟨?_,.inl grown.symm,?_,?_⟩
  · intro still
    have few : ¬ message.attempts + 1 ≥ 5 := by
      intro many
      simp [markFailed,many] at still
    refine ⟨by simp only [markFailed]; omega,?_,?_⟩
    · simpa [finished_snoc,Entry.final,markFailed] using unsettled
    · refine rested_snoc.mpr ⟨rested.mono ?_,?_⟩
      · exact (due.trans timely).trans (Int.le_add_of_nonneg_right waits)
      · intro call offered again same _
        cases same
        change written + backoff (failures log message.messageId + 1) ≤ written + backoff (message.attempts + 1)
        rw [count]
  · rw [show ((markFailed error (message.attempts + 1) written).apply message).messageId = message.messageId from rfl,grown]
    omega
  · intro dead
    change message.attempts + 1 = 5
    have many : message.attempts + 1 ≥ 5 := by
      by_contra few
      simp [markFailed,few] at dead
    omega

theorem Accounted.discarded (accounted : Accounted handles log message)
    (unhandled : handles message.destination = false) :
    Accounted handles (log ++ [.taken message.messageId none offered written])
      ((markFailed error 5 written).apply message) := by
  have unchanged : failures (log ++ [.taken message.messageId none offered written]) message.messageId =
      failures log message.messageId := by simp [failures_snoc,Entry.failure]
  refine ⟨?_,.inr ⟨unhandled,rfl,rfl⟩,?_,fun _ => rfl⟩
  · intro still
    cases still
  · exact unchanged.trans_le accounted.bounded

theorem Sound.taken {change : Assignment OutboxMessage.messageId} (sound : Sound handles db log)
    (found : db.find message.messageId = some message) (pending : message.status = .pending)
    (due : message.availableAt ≤ offered)
    (accounted : Accounted handles (log ++ [.taken message.messageId call offered written]) (change.apply message)) :
    Sound handles (db.update message.messageId (fun _ => true) change).1
      (log ++ [.taken message.messageId call offered written]) := by
  have finds := write_finds db message.messageId change
  have present : ∀ {j}, (∃ row, db.find j = some row) →
      ∃ row, (db.update message.messageId (fun _ => true) change).1.find j = some row := by
    intro j stored
    obtain ⟨row,there⟩ := stored
    rw [finds]
    split
    · exact ⟨_,by rw [found]; rfl⟩
    · exact ⟨row,there⟩
  refine ⟨?_,?_,?_,eachAfter_snoc.mpr ⟨sound.orderly,?_⟩⟩
  · intro j member
    simp only [List.mem_append,List.mem_singleton,reduceCtorEq,or_false] at member
    exact present (sound.kept j member)
  · intro j row now
    rw [finds] at now
    split at now
    · rw [found] at now
      cases Option.some.inj now
      exact accounted
    · rename_i apart
      have named : row.messageId = j := Table.find_key now
      obtain ⟨passing,going⟩ := @taken_other row.messageId message.messageId call offered written (named ▸ apart)
      exact (sound.accounted j row now).passing passing going
  · intro j other first second member
    rcases List.mem_append.mp member with old | new
    · exact present (sound.unseen j other first second old)
    · cases List.mem_singleton.mp new
      exact present ⟨message,found⟩
  · intro j other first second same
    cases same
    have before := sound.accounted message.messageId message found
    obtain ⟨attempts,unsettled,rested⟩ := before.pending pending
    exact ⟨(before.failures_pending pending).trans_le attempts,unsettled,rested.mono due⟩

end Writes

section Loop
variable {visit : OutboxMessage → Visit} {offered : Instant} {p next : Progress} {messages : List OutboxMessage}

theorem settle_sound (sound : Sound handles p.db p.log) (found : p.db.find message.messageId = some message)
    (due : IntegrationOutbox.due offered message = true) (timely : offered ≤ (visit message).now)
    (settled : settle handles visit offered p message = some next) : Sound handles next.db next.log := by
  simp only [IntegrationOutbox.due,Bool.and_eq_true,decide_eq_true_eq] at due
  obtain ⟨pending,available⟩ := due
  have accounted := sound.accounted message.messageId message found
  unfold settle at settled
  dsimp only at settled
  split at settled
  · split at settled
    · cases settled
      exact sound.taken found pending available (accounted.delivered pending)
    · cases settled
      exact sound.taken found pending available (accounted.failed pending available timely)
    · cases settled
  · rename_i unhandled
    cases settled
    exact sound.taken found pending available (accounted.discarded (Bool.eq_false_iff.mpr unhandled))

theorem dispatch_sound (sound : Sound handles p.db p.log) (batch : Batch p.db messages)
    (dues : ∀ message ∈ messages, IntegrationOutbox.due offered message = true)
    (timely : ∀ message ∈ messages, offered ≤ (visit message).now)
    (caught : ∀ message ∈ messages, Caught handles visit message) :
    Sound handles (dispatch handles visit offered p messages).2.db (dispatch handles visit offered p messages).2.log := by
  induction messages generalizing p with
  | nil => exact sound
  | cons message rest ih =>
    rw [List.forall_mem_cons] at dues timely caught
    obtain ⟨next,settled⟩ := (@settle_isSome_iff handles visit offered p message).mpr caught.1
    have after := settle_sound sound (batch.rows message List.mem_cons_self) dues.1 timely.1 settled
    rw [dispatch,settled]
    exact ih after (batch.tail (settle_settles settled)) dues.2 timely.2 caught.2

end Loop

section Runs
variable {ω : Type} {number : PyNumber → Text} {request : Request ω} {next : Database}

structure State where
  db : Database
  log : List Entry

def initial : State := ⟨Table.empty,[]⟩

inductive Op (ω : Type) where
  | enqueue (request : Request ω)
  | runOnce (limit : Nat) (now : Instant) (messages : List OutboxMessage) (visit : OutboxMessage → Visit)

-- A call of enqueue that raises leaves the table. The messages of run_once are
-- an answer of its SELECT.
def step (number : PyNumber → Text) (handles : String → Bool) (s : State) : Op ω → Option State
  | .enqueue request => some (match enqueue number s.db request with
    | some (messageId,db) => ⟨db,s.log ++ [.enqueued messageId]⟩
    | none => s)
  | .runOnce limit now messages visit => if pendingAnswer s.db limit now messages then
      let (result,p) := runOnce handles visit now s.db s.log messages
      some ⟨p.db,p.log ++ [.returned result messages.length]⟩
    else none

def Op.Caught (handles : String → Bool) : Op ω → Prop
  | .enqueue _ => True
  | .runOnce _ _ messages visit => ∀ message ∈ messages, IntegrationDispatch.Caught handles visit message

def Op.Timely : Op ω → Prop
  | .enqueue _ => True
  | .runOnce _ now messages visit => ∀ message ∈ messages, now ≤ (visit message).now

theorem Sound.noted (sound : Sound handles db log) (silent : ∀ j call offered written, entry ≠ .taken j call offered written)
    (kept : ∀ j, entry = .enqueued j → ∃ row, db.find j = some row) : Sound handles db (log ++ [entry]) := by
  have unmentioned : ∀ j, Entry.failure j entry = false ∧ Entry.final j entry = false := by
    intro j
    cases entry with
    | taken i call offered written => exact absurd rfl (silent i call offered written)
    | enqueued _ => exact ⟨rfl,rfl⟩
    | returned _ _ => exact ⟨rfl,rfl⟩
  refine ⟨?_,?_,?_,eachAfter_snoc.mpr ⟨sound.orderly,?_⟩⟩
  · intro j member
    rcases List.mem_append.mp member with old | new
    · exact sound.kept j old
    · exact kept j (List.mem_singleton.mp new).symm
  · intro j row found
    exact (sound.accounted j row found).passing (unmentioned _).1 (unmentioned _).2
  · intro j call offered written member
    rcases List.mem_append.mp member with old | new
    · exact sound.unseen j call offered written old
    · exact absurd (List.mem_singleton.mp new).symm (silent j call offered written)
  · intro j call offered written same
    exact absurd same (silent j call offered written)

theorem untaken (absent : ∀ call offered written, .taken messageId call offered written ∉ log) :
    ∀ entry ∈ log, Entry.failure messageId entry = false ∧ Entry.final messageId entry = false := by
  intro entry member
  cases entry with
  | enqueued _ => exact ⟨rfl,rfl⟩
  | returned _ _ => exact ⟨rfl,rfl⟩
  | taken j call offered written =>
    apply taken_other
    intro same
    exact absent call offered written (same ▸ member)

theorem enqueue_parts (enqueued : enqueue number db request = some (messageId,next)) :
    (next = db ∧ ∃ row, db.find messageId = some row) ∨ (messageId = request.messageId ∧ ∃ payload,
      insertMessage db request.messageId request.destination request.idempotencyKey payload request.now = some next) := by
  unfold enqueue at enqueued
  dsimp only at enqueued
  split at enqueued
  · rename_i row found
    split at enqueued
    · cases enqueued
      exact .inl ⟨rfl,row,Table.find_of_mem (List.mem_of_find?_eq_some found)⟩
    · obtain ⟨payload,_,made⟩ := Option.bind_eq_some_iff.mp enqueued
      obtain ⟨after,inserted,same⟩ := Option.map_eq_some_iff.mp made
      cases same
      exact .inr ⟨rfl,payload,inserted⟩
  · obtain ⟨payload,_,made⟩ := Option.bind_eq_some_iff.mp enqueued
    obtain ⟨after,inserted,same⟩ := Option.map_eq_some_iff.mp made
    cases same
    exact .inr ⟨rfl,payload,inserted⟩

theorem Sound.inserted {destination key payload : String} (sound : Sound handles db log)
    (inserted : insertMessage db messageId destination key payload time = some next) : Sound handles next log := by
  obtain ⟨fresh,finds⟩ := insertMessage_parts inserted
  have present : ∀ {j}, (∃ row, db.find j = some row) → ∃ row, next.find j = some row := by
    intro j stored
    obtain ⟨row,there⟩ := stored
    exact ⟨row,insertMessage_kept inserted there⟩
  have silent := @untaken log messageId fun call offered written member => by
    obtain ⟨row,there⟩ := sound.unseen messageId call offered written member
    rw [fresh] at there
    cases there
  have none_failed : failures log messageId = 0 :=
    List.countP_eq_zero.mpr fun entry member => by simp [silent entry member]
  refine ⟨fun j member => present (sound.kept j member),?_,
    fun j call offered written member => present (sound.unseen j call offered written member),sound.orderly⟩
  intro j row found
  rw [finds] at found
  split at found
  · cases Option.some.inj found
    refine ⟨fun _ => ⟨Nat.zero_le 4,?_,?_⟩,.inl none_failed.symm,none_failed.trans_le (by decide),?_⟩
    · exact List.any_eq_false.mpr fun entry member => by simp [silent entry member]
    · intro earlier entry later split call offered written _ failed
      have member : entry ∈ log := by simp [split]
      rw [(silent entry member).1] at failed
      cases failed
    · intro dead
      cases dead
  · exact sound.accounted j row found

def Counted (log : List Entry) : Prop :=
  ∀ result batch, .returned result batch ∈ log → ∃ counts, result = some counts ∧ tally counts = batch

theorem Counted.noted (counted : Counted log) (same : ∀ result batch, entry = .returned result batch →
    ∃ counts, result = some counts ∧ tally counts = batch) : Counted (log ++ [entry]) := by
  intro result batch member
  rcases List.mem_append.mp member with old | new
  · exact counted result batch old
  · exact same result batch (List.mem_singleton.mp new).symm

theorem Counted.dispatched (counted : Counted log) (handles : String → Bool) (visit : OutboxMessage → Visit)
    (offered : Instant) (messages : List OutboxMessage) :
    Counted (log ++ messages.map (entryOf handles visit offered)) := by
  intro result batch member
  rcases List.mem_append.mp member with old | new
  · exact counted result batch old
  · obtain ⟨message,_,same⟩ := List.mem_map.mp new
    cases same

structure Dispatched (handles : String → Bool) (s : State) : Prop extends Sound handles s.db s.log where
  counted : Counted s.log

theorem initial_dispatched (handles : String → Bool) : Dispatched handles initial where
  kept := by
    intro messageId member
    cases member
  accounted := by
    intro messageId row found
    cases found
  unseen := by
    intro messageId call offered written member
    cases member
  orderly := eachAfter_nil
  counted := by
    intro result batch member
    cases member

theorem enqueue_dispatched {s : State} (dispatched : Dispatched handles s)
    (enqueued : enqueue number s.db request = some (messageId,next)) :
    Dispatched handles ⟨next,s.log ++ [.enqueued messageId]⟩ := by
  have sound : Sound handles next s.log ∧ ∃ row, next.find messageId = some row := by
    rcases enqueue_parts enqueued with ⟨rfl,stored⟩ | ⟨rfl,_,inserted⟩
    · exact ⟨dispatched.toSound,stored⟩
    · obtain ⟨_,finds⟩ := insertMessage_parts inserted
      exact ⟨dispatched.toSound.inserted inserted,_,(finds request.messageId).trans (if_pos rfl)⟩
  refine ⟨sound.1.noted ?_ ?_,dispatched.counted.noted ?_⟩
  · intro j call offered written same
    cases same
  · intro j same
    cases same
    exact sound.2
  · intro result batch same
    cases same

theorem step_dispatched {s t : State} {op : Op ω} (dispatched : Dispatched handles s) (caught : op.Caught handles)
    (timely : op.Timely) (taken : step number handles s op = some t) : Dispatched handles t := by
  cases op with
  | enqueue request =>
    simp only [step,Option.some.injEq] at taken
    subst taken
    split
    · rename_i messageId next enqueued
      exact enqueue_dispatched dispatched enqueued
    · exact dispatched
  | runOnce limit now messages visit =>
    simp only [step] at taken
    split at taken
    · rename_i answered
      cases taken
      have complete := (@dispatch_complete_iff handles visit now ⟨s.db,s.log,.zero⟩ messages).mpr caught
      have dues : ∀ message ∈ messages, due now message = true := by
        simp only [pendingAnswer,Bool.and_eq_true,List.all_eq_true] at answered
        exact fun message member => (answered.1.1.2 message member).2
      have sound := dispatch_sound (show Sound handles (Progress.mk s.db s.log .zero).db _ from dispatched.toSound)
        (pendingAnswer_batch answered) dues timely caught
      refine ⟨sound.noted ?_ ?_,Counted.noted ?_ ?_⟩
      · intro j call offered written same
        cases same
      · intro j same
        cases same
      · simp only [runOnce,dispatch_log complete]
        exact dispatched.counted.dispatched handles visit now messages
      · intro result batch same
        cases same
        refine ⟨(dispatch handles visit now ⟨s.db,s.log,.zero⟩ messages).2.result,by simp [runOnce,complete],?_⟩
        rw [dispatch_total complete]
        simp [tally,DispatchResult.zero]
    · cases taken

theorem single_dispatcher (number : PyNumber → Text) (handles : String → Bool) (ops : List (Op ω)) (s : State)
    (path : Runs (step number handles) initial ops s) (caught : ∀ op ∈ ops, op.Caught handles)
    (timely : ∀ op ∈ ops, op.Timely) : Dispatched handles s := by
  have conditions : Throughout (step number handles) (fun _ op => op.Caught handles ∧ op.Timely) initial ops := by
    intro earlier op later middle split _
    exact ⟨caught op (by simp [split]),timely op (by simp [split])⟩
  exact path.invariant_under (fun dispatched meets taken => step_dispatched dispatched meets.1 meets.2 taken)
    conditions (initial_dispatched handles)

end Runs

def alert : Request Empty := ⟨"m-1","aria","k-1",.dict [],0⟩

def waiting : OutboxMessage := ⟨"m-1","aria","k-1","\x7b\x7d",.pending,0,0,""⟩

def waitingAgain : OutboxMessage :=
  {waiting with attempts := 1, availableAt := 5 + backoff 1, lastError := "IntegrationError"}

def retried : List (Op Empty) :=
  [.enqueue alert,.runOnce 100 1 [waiting] (fun _ => ⟨.raises "IntegrationError",5⟩),
    .runOnce 100 (5 + backoff 1) [waitingAgain] (fun _ => ⟨.returns,5 + backoff 2⟩)]

theorem retried_dispatched : ∃ s, Runs (step numberText toAria) initial retried s ∧
    (s.db.find "m-1").map (fun row => (row.status,row.attempts)) = some (.delivered,1) ∧ Dispatched toAria s := by
  have consumed : ((consume (step numberText toAria) initial retried).bind fun s => s.db.find "m-1").map
      (fun row => (row.status,row.attempts)) = some (.delivered,1) := by decide +kernel
  obtain ⟨row,found,fields⟩ := Option.map_eq_some_iff.mp consumed
  obtain ⟨s,taken,stored⟩ := Option.bind_eq_some_iff.mp found
  have path := consume_exact.mp taken
  have caught : ∀ op ∈ retried, op.Caught toAria := by
    simp [retried,Op.Caught,Caught]
  have timely : ∀ op ∈ retried, op.Timely := by
    simp [retried,Op.Timely,backoff,seconds]
  refine ⟨s,path,?_,single_dispatcher numberText toAria retried s path caught timely⟩
  rw [stored]
  exact congrArg some fields

end OpenModelOps.IntegrationRetries
