import OpenModelOps.IntegrationDelivery
import OpenModelOps.KeyedEffects

namespace OpenModelOps.IntegrationEffects
open KeyedTable KeyedEffects IntegrationOutbox IntegrationDelivery RunHistory

-- The outbox with its dispatchers, and the systems that the handlers call, by
-- destination.
structure State (n : Nat) (ρ : Type) where
  outbox : IntegrationOutbox.State n
  receivers : String → ρ

-- A handler settles with the number of times that the receiver got the
-- request. A process can stop at any point.
inductive Event (n : Nat) where
  | outbox (event : IntegrationOutbox.Event n)
  | settle (worker : Fin n) (outcome : Outcome) (times : Nat)
  | crash (worker : Fin n)

variable {n : Nat} {ρ : Type}

def initial (receiver : Receiver ρ String String) (n : Nat) : State n ρ := ⟨IntegrationOutbox.initial n,fun _ => receiver.start⟩

def told (receiver : Receiver ρ String String) (receivers : String → ρ) (message : OutboxMessage) (times : Nat) :
    String → ρ :=
  Function.update receivers message.destination
    (receiver.told (receivers message.destination) message.idempotencyKey message.payload times)

-- A handler that returns has had its answer; one that raises need not.
def step (receiver : Receiver ρ String String) (handlers : Fin n → String → Bool) (s : State n ρ) :
    Event n → Option (State n ρ)
  | .outbox (.settle _ _) => none
  | .outbox event => (IntegrationOutbox.step handlers s.outbox event).map fun next => ⟨next,s.receivers⟩
  | .settle worker outcome times => match s.outbox.workers worker,outcome,times with
    | .calling _ _ _,.returns,0 => none
    | .calling message _ _,_,_ => (IntegrationOutbox.step handlers s.outbox (.settle worker outcome)).map fun next =>
      ⟨next,told receiver s.receivers message times⟩
    | _,_,_ => none
  | .crash worker => some {s with outbox := place s.outbox worker .idle}

structure Names (row message : OutboxMessage) : Prop where
  destination : row.destination = message.destination
  key : row.idempotencyKey = message.idempotencyKey
  payload : row.payload = message.payload

def Faithful (db : Database) (w : Worker) : Prop :=
  ∀ message ∈ held w, ∃ row, db.find message.messageId = some row ∧ Names row message

def Effected (receiver : Receiver ρ String String) (receivers : String → ρ) (message : OutboxMessage) : Prop :=
  (message.idempotencyKey,message.payload) ∈ receiver.effects (receivers message.destination)

structure Sound (receiver : Receiver ρ String String) (db : Database) (workers : Fin n → Worker) (receivers : String → ρ) :
    Prop where
  copied : ∀ worker, Faithful db (workers worker)
  distinct : ∀ {first second row other}, db.find first = some row → db.find second = some other →
    row.idempotencyKey = other.idempotencyKey → first = second
  asked : ∀ destination key payload, (key,payload) ∈ receiver.effects (receivers destination) → ∃ id row,
    db.find id = some row ∧ row.destination = destination ∧ row.idempotencyKey = key ∧ row.payload = payload
  single : ∀ destination, ((receiver.effects (receivers destination)).map Prod.fst).Nodup
  answered : ∀ worker message rest result, workers worker = .delivering message rest result →
    Effected receiver receivers message
  delivered : ∀ id row, db.find id = some row → row.status = .delivered → Effected receiver receivers row

variable {receiver : Receiver ρ String String} {handlers : Fin n → String → Bool} {db after : Database}
  {workers : Fin n → Worker} {receivers : String → ρ} {worker : Fin n} {message : OutboxMessage}

theorem Names.effected {row : OutboxMessage} (names : Names row message) :
    Effected receiver receivers row ↔ Effected receiver receivers message := by
  unfold Effected
  rw [names.destination,names.key,names.payload]

theorem initial_sound (receiver : Receiver ρ String String) (n : Nat) :
    Sound receiver (initial receiver n).outbox.db (initial receiver n).outbox.workers (initial receiver n).receivers := by
  refine ⟨fun _ _ member => (nomatch member),fun found => (nomatch found),?_,?_,fun _ _ _ _ busy => (nomatch busy),
    fun _ _ found => (nomatch found)⟩
  · intro destination key payload member
    have untold : (key,payload) ∈ receiver.effects receiver.start := member
    rw [receiver.untold] at untold
    cases untold
  · intro destination
    have untold : receiver.effects ((initial receiver n).receivers destination) = [] := receiver.untold
    rw [untold]
    exact List.nodup_nil

theorem Sound.moved (sound : Sound receiver db workers receivers) (worker : Fin n) (next : Worker)
    (copies : Faithful db next)
    (reached : ∀ message rest result, next = .delivering message rest result → Effected receiver receivers message) :
    Sound receiver db (Function.update workers worker next) receivers := by
  refine ⟨updated_all sound.copied copies,sound.distinct,sound.asked,sound.single,?_,sound.delivered⟩
  intro slot message rest result busy
  by_cases here : slot = worker
  · subst here
    rw [Function.update_self] at busy
    exact reached message rest result busy
  · rw [Function.update_of_ne here] at busy
    exact sound.answered slot message rest result busy

theorem Sound.rewritten (sound : Sound receiver db workers receivers)
    (back : ∀ id row, after.find id = some row → ∃ old, db.find id = some old ∧ Names row old)
    (forth : ∀ id old, db.find id = some old → ∃ row, after.find id = some row ∧ Names row old)
    (justified : ∀ id row, after.find id = some row → row.status = .delivered → Effected receiver receivers row) :
    Sound receiver after workers receivers := by
  refine ⟨?_,?_,?_,sound.single,sound.answered,justified⟩
  · intro worker message member
    obtain ⟨old,found,names⟩ := sound.copied worker message member
    obtain ⟨row,there,same⟩ := forth _ old found
    exact ⟨row,there,same.destination.trans names.destination,same.key.trans names.key,same.payload.trans names.payload⟩
  · intro first second row other here there keys
    obtain ⟨old,found,names⟩ := back first row here
    obtain ⟨older,also,named⟩ := back second other there
    exact sound.distinct found also (names.key.symm.trans (keys.trans named.key))
  · intro destination key payload member
    obtain ⟨id,old,found,toward,keyed,carried⟩ := sound.asked destination key payload member
    obtain ⟨row,there,names⟩ := forth id old found
    exact ⟨id,row,there,names.destination.trans toward,names.key.trans keyed,names.payload.trans carried⟩

theorem Sound.enqueued (sound : Sound receiver db workers receivers)
    (inserted : insertMessage db messageId destination key payload now = some after) :
    Sound receiver after workers receivers := by
  obtain ⟨fresh,finds⟩ := insertMessage_parts inserted
  have unused : ∀ id row, db.find id = some row → row.idempotencyKey ≠ key := by
    intro id row found same
    unfold insertMessage at inserted
    split at inserted
    · cases inserted
    · rename_i none
      exact none (List.any_eq_true.mpr ⟨row,Table.find_mem found,decide_eq_true same⟩)
  refine ⟨?_,?_,?_,sound.single,sound.answered,?_⟩
  · intro worker message member
    obtain ⟨row,found,names⟩ := sound.copied worker message member
    exact ⟨row,insertMessage_kept inserted found,names⟩
  · intro first second row other here there keys
    rw [finds] at here there
    split at here
    · split at there
      · rename_i same also
        exact same.trans also.symm
      · cases Option.some.inj here
        exact absurd keys.symm (unused second other there)
    · split at there
      · cases Option.some.inj there
        exact absurd keys (unused first row here)
      · exact sound.distinct here there keys
  · intro destination key payload member
    obtain ⟨id,row,found,names⟩ := sound.asked destination key payload member
    exact ⟨id,row,insertMessage_kept inserted found,names⟩
  · intro id row found status
    rw [finds] at found
    split at found
    · cases Option.some.inj found
      cases status
    · exact sound.delivered id row found status

theorem Sound.told (sound : Sound receiver db workers receivers) (listed : db.find message.messageId = some row)
    (names : Names row message) (times : Nat) : Sound receiver db workers (told receiver receivers message times) := by
  have kept : ∀ {destination entry}, entry ∈ receiver.effects (receivers destination) →
      entry ∈ receiver.effects (IntegrationEffects.told receiver receivers message times destination) := by
    intro destination entry member
    unfold IntegrationEffects.told
    by_cases here : destination = message.destination
    · subst here
      rw [Function.update_self]
      exact told_kept times member
    · rw [Function.update_of_ne here]
      exact member
  refine ⟨sound.copied,sound.distinct,?_,?_,fun worker copy rest result busy => kept (sound.answered worker copy rest result busy),
    fun id row found status => kept (sound.delivered id row found status)⟩
  · intro destination key payload member
    unfold IntegrationEffects.told at member
    by_cases here : destination = message.destination
    · subst here
      rw [Function.update_self] at member
      rcases told_parts times member with before | same
      · exact sound.asked _ _ _ before
      · cases same
        exact ⟨_,row,listed,names.destination,names.key,names.payload⟩
    · rw [Function.update_of_ne here] at member
      exact sound.asked _ _ _ member
  · intro destination
    unfold IntegrationEffects.told
    by_cases here : destination = message.destination
    · subst here
      rw [Function.update_self]
      exact told_nodup times (sound.single _)
    · rw [Function.update_of_ne here]
      exact sound.single destination

theorem Sound.effected (sound : Sound receiver db workers receivers) (listed : db.find message.messageId = some row)
    (names : Names row message) (known : ∃ first, (message.idempotencyKey,first) ∈
      receiver.effects (receivers message.destination)) : Effected receiver receivers message := by
  obtain ⟨first,member⟩ := known
  obtain ⟨id,other,found,_,keyed,carried⟩ := sound.asked _ _ _ member
  have same := sound.distinct listed found (names.key.trans keyed.symm)
  subst same
  rw [listed] at found
  cases Option.some.inj found
  unfold Effected
  rw [← names.payload,carried]
  exact member

theorem Sound.updated {id : String} {change : Assignment OutboxMessage.messageId}
    (sound : Sound receiver db workers receivers) (keeps : ∀ row, Names (change.apply row) row)
    (justified : ∀ row, db.find id = some row → (change.apply row).status = .delivered → Effected receiver receivers row) :
    Sound receiver (db.update id (fun _ => true) change).1 workers receivers := by
  have finds := fun other => db.find_update id other (fun _ => true) change
  refine sound.rewritten ?_ ?_ ?_
  · intro other row found
    rw [finds] at found
    split at found
    · rename_i here
      obtain ⟨old,there,rfl⟩ := Option.map_eq_some_iff.mp found
      exact ⟨old,by rw [here]; exact there,keeps old⟩
    · exact ⟨row,found,rfl,rfl,rfl⟩
  · intro other old found
    rw [finds]
    by_cases here : other = id
    · subst here
      rw [if_pos rfl,found]
      exact ⟨_,rfl,keeps old⟩
    · rw [if_neg here]
      exact ⟨old,found,rfl,rfl,rfl⟩
  · intro other row found status
    rw [finds] at found
    split at found
    · obtain ⟨old,there,rfl⟩ := Option.map_eq_some_iff.mp found
      exact (keeps old).effected.mpr (justified old there status)
    · exact sound.delivered other row found status

theorem Sound.failed (sound : Sound receiver db workers receivers) (id error : String) (attempts : Nat)
    (now : PythonText.Instant) : Sound receiver (IntegrationOutbox.failed db id error attempts now) workers receivers := by
  refine sound.updated (fun row => ⟨rfl,rfl,rfl⟩) fun row found status => ?_
  have never : ((markFailed error attempts now).apply row).status ≠ .delivered := by
    unfold markFailed
    dsimp only
    split <;> simp
  exact absurd status never

theorem Sound.marked (sound : Sound receiver db workers receivers) (listed : db.find message.messageId = some row)
    (names : Names row message) (effected : Effected receiver receivers message) :
    Sound receiver (IntegrationOutbox.delivered db message.messageId) workers receivers := by
  refine sound.updated (fun row => ⟨rfl,rfl,rfl⟩) fun other found _ => ?_
  rw [listed] at found
  cases Option.some.inj found
  exact names.effected.mpr effected

theorem outbox_sound {s next : IntegrationOutbox.State n} {event : IntegrationOutbox.Event n}
    (sound : Sound receiver s.db s.workers receivers) (quiet : ∀ worker outcome, event ≠ .settle worker outcome)
    (taken : IntegrationOutbox.step handlers s event = some next) : Sound receiver next.db next.workers receivers := by
  cases event with
  | enqueue messageId destination key payload now =>
    cases Option.some.inj taken
    split
    · exact sound
    · rename_i db inserted
      exact sound.enqueued inserted
  | select worker limit now messages =>
    simp only [IntegrationOutbox.step] at taken
    split at taken
    · split at taken
      · rename_i answered
        cases Option.some.inj taken
        refine sound.moved worker (.looping messages .zero) (fun message member => ?_) fun _ _ _ same => by cases same
        exact ⟨message,pendingAnswer_rows answered member,rfl,rfl,rfl⟩
      · cases taken
    · cases taken
  | discard worker now =>
    simp only [IntegrationOutbox.step] at taken
    split at taken
    · rename_i message rest result looping
      have copies := sound.copied worker
      rw [looping] at copies
      split at taken
      · cases taken
      · cases Option.some.inj taken
        have moved := sound.moved worker (.looping rest {result with deadLettered := result.deadLettered + 1})
          (fun copy member => copies copy (List.mem_cons_of_mem _ member)) fun _ _ _ same => by cases same
        exact moved.failed _ _ _ _
    · cases taken
  | call worker =>
    simp only [IntegrationOutbox.step] at taken
    split at taken
    · rename_i message rest result looping
      have copies := sound.copied worker
      rw [looping] at copies
      split at taken
      · cases Option.some.inj taken
        exact sound.moved worker (.calling message rest result) copies fun _ _ _ same => by cases same
      · cases taken
    · cases taken
  | settle worker outcome => exact absurd rfl (quiet worker outcome)
  | deliver worker =>
    simp only [IntegrationOutbox.step] at taken
    split at taken
    · rename_i message rest result delivering
      have copies := sound.copied worker
      rw [delivering] at copies
      obtain ⟨row,listed,names⟩ := copies message List.mem_cons_self
      cases Option.some.inj taken
      have moved := sound.moved worker (.looping rest {result with delivered := result.delivered + 1})
        (fun copy member => copies copy (List.mem_cons_of_mem _ member)) fun _ _ _ same => by cases same
      exact moved.marked listed names (sound.answered worker message rest result delivering)
    · cases taken
  | fail worker now =>
    simp only [IntegrationOutbox.step] at taken
    split at taken
    · rename_i message error rest result failing
      have copies := sound.copied worker
      rw [failing] at copies
      cases Option.some.inj taken
      refine Sound.failed (sound.moved worker _ ?_ ?_) _ _ _ _
      · split <;> exact fun copy member => copies copy (List.mem_cons_of_mem _ member)
      · split <;> exact fun _ _ _ same => by cases same
    · cases taken
  | finish worker =>
    simp only [IntegrationOutbox.step] at taken
    split at taken
    · cases Option.some.inj taken
      exact sound.moved worker .idle (fun _ member => by cases member) fun _ _ _ same => by cases same
    · cases taken

theorem settle_sound {s next : IntegrationOutbox.State n} (sound : Sound receiver s.db s.workers receivers)
    (calling : s.workers worker = .calling message rest result) (reached : outcome = .returns → 0 < times)
    (taken : IntegrationOutbox.step handlers s (.settle worker outcome) = some next) :
    Sound receiver next.db next.workers (told receiver receivers message times) := by
  have copies := sound.copied worker
  rw [calling] at copies
  obtain ⟨row,listed,names⟩ := copies message List.mem_cons_self
  have informed := sound.told listed names times
  simp only [IntegrationOutbox.step,calling] at taken
  cases Option.some.inj taken
  cases outcome with
  | returns =>
    refine informed.moved worker (.delivering message rest result) copies fun copy later total same => ?_
    cases same
    refine informed.effected listed names ?_
    unfold IntegrationEffects.told
    rw [Function.update_self]
    exact told_known (reached rfl)
  | raises error => exact informed.moved worker (.failing message error rest result) copies fun _ _ _ same => by cases same
  | escapes => exact informed.moved worker .idle (fun _ member => by cases member) fun _ _ _ same => by cases same

theorem step_sound {s next : State n ρ} {event : Event n} (sound : Sound receiver s.outbox.db s.outbox.workers s.receivers)
    (taken : step receiver handlers s event = some next) : Sound receiver next.outbox.db next.outbox.workers next.receivers := by
  cases event with
  | outbox event =>
    unfold step at taken
    split at taken
    · cases taken
    · rename_i inner quiet same
      cases same
      obtain ⟨after,moved,rfl⟩ := Option.map_eq_some_iff.mp taken
      exact outbox_sound sound quiet moved
    · rename_i same
      cases same
    · rename_i same
      cases same
  | settle worker outcome times =>
    simp only [step] at taken
    split at taken
    · cases taken
    · rename_i message rest result calling silent
      obtain ⟨after,moved,rfl⟩ := Option.map_eq_some_iff.mp taken
      refine settle_sound sound calling (fun returned => ?_) moved
      refine Nat.pos_of_ne_zero fun none => ?_
      exact silent returned none
    · cases taken
  | crash worker =>
    cases Option.some.inj taken
    exact sound.moved worker .idle (fun _ member => by cases member) fun _ _ _ same => by cases same

-- Whatever the dispatchers do at a time, and however often a call is repeated,
-- cut off or left unanswered: no message has an effect twice, none that was not
-- enqueued has any, and one that is marked delivered has had its effect.
theorem effects_exactly_once (receiver : Receiver ρ String String) (handlers : Fin n → String → Bool)
    (events : List (Event n)) (s : State n ρ) (path : Runs (step receiver handlers) (initial receiver n) events s) :
    (∀ destination, ((receiver.effects (s.receivers destination)).map Prod.fst).Nodup) ∧
    (∀ destination key payload, (key,payload) ∈ receiver.effects (s.receivers destination) →
      ∃ row ∈ s.outbox.db.rows, row.destination = destination ∧ row.idempotencyKey = key ∧ row.payload = payload) ∧
    ∀ row ∈ s.outbox.db.rows, row.status = .delivered →
      (receiver.effects (s.receivers row.destination)).count (row.idempotencyKey,row.payload) = 1 := by
  have sound : Sound receiver s.outbox.db s.outbox.workers s.receivers :=
    @Runs.invariant _ _ _ _ _ _ (fun t : State n ρ => Sound receiver t.outbox.db t.outbox.workers t.receivers)
      step_sound path (initial_sound receiver n)
  refine ⟨sound.single,?_,?_⟩
  · intro destination key payload member
    obtain ⟨id,row,found,names⟩ := sound.asked destination key payload member
    exact ⟨row,Table.find_mem found,names⟩
  · intro row listed status
    have effected := sound.delivered row.messageId row (Table.find_of_mem listed) status
    exact List.count_eq_one_of_mem (List.Nodup.of_map _ (sound.single row.destination)) effected

def tell (known : List (String × String)) (key payload : String) : List (String × String) :=
  if key ∈ known.map Prod.fst then known else known ++ [(key,payload)]

theorem tell_remembers (known : List (String × String)) (key payload : String) : tell known key payload =
    if key ∈ known.map Prod.fst then known else known ++ [(key,payload)] := rfl

def ledger : Receiver (List (String × String)) String String := ⟨[],tell,id,rfl,tell_remembers⟩

def signal : OutboxMessage := ⟨"m-1","aria","key-1","signal",.pending,0,0,""⟩

def early : Fin 2 := ⟨0,Nat.two_pos⟩
def late : Fin 2 := ⟨1,Nat.one_lt_two⟩

-- Two dispatchers read the same message. The first tells the receiver twice,
-- gets no answer and stops before it has written that.
def repeated : List (Event 2) :=
  [.outbox (.enqueue "m-1" "aria" "key-1" "signal" 0),.outbox (.select early 10 0 [signal]),
    .outbox (.select late 10 0 [signal]),.outbox (.call early),.settle early (.raises "TimeoutError") 2,.crash early,
    .outbox (.call late),.settle late .returns 1,.outbox (.deliver late)]

theorem repeated_once : ∃ s, Runs (step ledger fun _ _ => true) (initial ledger 2) repeated s ∧
    s.outbox.calls "m-1" = 2 ∧ s.outbox.db.rows.map OutboxMessage.status = [.delivered] ∧
    ∀ row ∈ s.outbox.db.rows, row.status = .delivered →
      (ledger.effects (s.receivers row.destination)).count (row.idempotencyKey,row.payload) = 1 := by
  have reached : (consume (step ledger fun _ _ => true) (initial ledger 2) repeated).map
      (fun s => (s.outbox.calls "m-1",s.outbox.db.rows.map OutboxMessage.status)) = some (2,[.delivered]) := by
    decide +kernel
  obtain ⟨s,consumed,fields⟩ := Option.map_eq_some_iff.mp reached
  obtain ⟨calls,statuses⟩ := Prod.mk.inj fields
  have path := consume_exact.mp consumed
  exact ⟨s,path,calls,statuses,(effects_exactly_once ledger (fun _ _ => true) repeated s path).2.2⟩

end OpenModelOps.IntegrationEffects
