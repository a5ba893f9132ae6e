import OpenModelOps.IntegrationOutbox

namespace OpenModelOps.IntegrationDelivery
open KeyedTable PythonText IntegrationOutbox RunHistory
variable {n : Nat} {handlers : Fin n → String → Bool} {db : Database} {workers : Fin n → Worker}
  {failures : String → Nat} {s next : State n} {event : Event n} {worker : Fin n} {message : OutboxMessage}
  {events : List (Event n)}

def held : Worker → List OutboxMessage
  | .idle => []
  | .looping queue _ => queue
  | .calling message rest _ => message :: rest
  | .delivering message rest _ => message :: rest
  | .failing message _ rest _ => message :: rest

def reports : Worker → Option String
  | .failing message _ _ _ => some message.messageId
  | _ => none

theorem reports_engaged (reporting : reports w = some messageId) :
    ∃ message, w.engaged = some message ∧ message.messageId = messageId := by
  cases w with
  | failing message error rest result => exact ⟨message,rfl,Option.some.inj reporting⟩
  | _ => cases reporting

def Handled (handlers : Fin n → String → Bool) (destination : String) : Prop :=
  ∀ worker, handlers worker destination = true

def Copied (db : Database) (w : Worker) : Prop :=
  ∀ message ∈ held w, ∃ row, db.find message.messageId = some row ∧ row.destination = message.destination

structure Counted (workers : Fin n → Worker) (failures : String → Nat) (messageId : String) (row : OutboxMessage) :
    Prop where
  unfinished : row.status = .pending → row.attempts < 5
  waiting : ∀ worker, reports (workers worker) = some messageId → failures messageId = row.attempts + 1
  written : (∀ worker, reports (workers worker) ≠ some messageId) → failures messageId = row.attempts

structure Sound (handlers : Fin n → String → Bool) (db : Database) (workers : Fin n → Worker)
    (failures : String → Nat) : Prop where
  copied : ∀ worker, Copied db (workers worker)
  engaged : ∀ worker message, (workers worker).engaged = some message →
    ∃ row, db.find message.messageId = some row ∧ row.status = .pending ∧ row.attempts = message.attempts
  single : ∀ worker other message copy, (workers worker).engaged = some message →
    (workers other).engaged = some copy → message.messageId = copy.messageId → worker = other
  unseen : ∀ messageId, db.find messageId = none → failures messageId = 0
  counted : ∀ messageId row, db.find messageId = some row → Handled handlers row.destination →
    Counted workers failures messageId row

theorem initial_sound (handlers : Fin n → String → Bool) :
    Sound handlers (initial n).db (initial n).workers (initial n).failures :=
  ⟨fun _ _ member => (nomatch member),fun _ _ busy => (nomatch busy),fun _ _ _ _ busy => (nomatch busy),
    fun _ _ => rfl,fun _ _ found => (nomatch found)⟩

theorem Counted.unmoved {after : Worker} (counted : Counted workers failures messageId row)
    (silent : reports (workers worker) = some messageId ↔ reports after = some messageId) :
    Counted (Function.update workers worker after) failures messageId row := by
  have reporting : ∀ slot, reports (Function.update workers worker after slot) = some messageId ↔
      reports (workers slot) = some messageId := by
    intro slot
    by_cases here : slot = worker
    · subst slot; rw [Function.update_self]; exact silent.symm
    · rw [Function.update_of_ne here]
  refine ⟨counted.unfinished,fun slot report => counted.waiting slot ((reporting slot).mp report),fun none => ?_⟩
  exact counted.written fun slot report => none slot ((reporting slot).mpr report)

theorem Sound.moved (sound : Sound handlers db workers failures) (after : Worker) (copies : Copied db after)
    (busy : ∀ message, after.engaged = some message → (workers worker).engaged = some message)
    (silent : reports (workers worker) = none ∧ reports after = none) :
    Sound handlers db (Function.update workers worker after) failures := by
  have engaged : ∀ {slot message}, (Function.update workers worker after slot).engaged = some message →
      (workers slot).engaged = some message := by
    intro slot message present
    rcases updated_read present with ⟨rfl,here⟩ | ⟨_,there⟩
    · exact busy message here
    · exact there
  refine ⟨updated_all sound.copied copies,?_,?_,sound.unseen,?_⟩
  · exact fun slot message present => sound.engaged slot message (engaged present)
  · exact fun slot other message copy first second =>
      sound.single slot other message copy (engaged first) (engaged second)
  · intro messageId row found handled
    exact (sound.counted messageId row found handled).unmoved (by rw [silent.1,silent.2])

theorem insertMessage_parts (inserted : insertMessage db messageId destination key payload now = some after) :
    db.find messageId = none ∧ ∀ j, after.find j =
      if j = messageId then some ⟨messageId,destination,key,payload,.pending,0,now,""⟩ else db.find j := by
  unfold insertMessage at inserted
  split at inserted
  · cases inserted
  · exact ⟨Table.insert_fresh inserted,Table.find_insert inserted⟩

theorem insertMessage_kept (inserted : insertMessage db messageId destination key payload now = some after)
    (found : db.find j = some row) : after.find j = some row := by
  obtain ⟨fresh,finds⟩ := insertMessage_parts inserted
  rw [finds,if_neg]
  · exact found
  · rintro rfl; rw [fresh] at found; cases found

theorem Sound.enqueued (sound : Sound handlers db workers failures)
    (inserted : insertMessage db messageId destination key payload now = some after) :
    Sound handlers after workers failures := by
  obtain ⟨fresh,finds⟩ := insertMessage_parts inserted
  refine ⟨?_,?_,sound.single,?_,?_⟩
  · intro worker message member
    obtain ⟨row,found,same⟩ := sound.copied worker message member
    exact ⟨row,insertMessage_kept inserted found,same⟩
  · intro worker message busy
    obtain ⟨row,found,status⟩ := sound.engaged worker message busy
    exact ⟨row,insertMessage_kept inserted found,status⟩
  · intro j absent
    refine sound.unseen j ?_
    cases found : db.find j with
    | none => rfl
    | some row => rw [insertMessage_kept inserted found] at absent; cases absent
  · intro j row found handled
    rw [finds] at found
    split at found
    · rename_i here
      subst j
      cases Option.some.inj found
      refine ⟨fun _ => Nat.zero_lt_succ 4,fun worker report => ?_,fun _ => sound.unseen messageId fresh⟩
      obtain ⟨message,busy,same⟩ := reports_engaged report
      obtain ⟨row,present,_⟩ := sound.engaged worker message busy
      rw [same,fresh] at present
      cases present
    · exact sound.counted j row found handled

theorem pendingAnswer_rows (answered : pendingAnswer db limit now messages = true) (member : message ∈ messages) :
    db.find message.messageId = some message := by
  simp only [pendingAnswer,Bool.and_eq_true,List.all_eq_true,decide_eq_true_eq] at answered
  exact Table.find_of_mem (answered.1.1.2 message member).1

theorem untouched_row (untouched : Untouched s worker message) :
    ∃ row, s.db.find message.messageId = some row ∧ row.status = .pending ∧ row.attempts = message.attempts := by
  obtain ⟨row,found,fields⟩ := Option.map_eq_some_iff.mp untouched.1
  obtain ⟨status,attempts⟩ := Prod.mk.inj fields
  exact ⟨row,found,status,attempts⟩

theorem untouched_apart (untouched : Untouched s worker message) (apart : slot ≠ worker)
    (busy : (s.workers slot).engaged = some copy) : copy.messageId ≠ message.messageId := by
  intro same
  refine untouched.2 slot apart ?_
  rw [busy,Option.map_some,same]

theorem Sound.called (sound : Sound handlers s.db s.workers s.failures)
    (looping : s.workers worker = .looping (message :: rest) result) (untouched : Untouched s worker message) :
    Sound handlers s.db (Function.update s.workers worker (.calling message rest result)) s.failures := by
  have copies := sound.copied worker
  rw [looping] at copies
  refine ⟨updated_all sound.copied copies,?_,?_,sound.unseen,?_⟩
  · intro slot copy busy
    rcases updated_read busy with ⟨_,here⟩ | ⟨_,there⟩
    · cases Option.some.inj here
      exact untouched_row untouched
    · exact sound.engaged slot copy there
  · intro slot other copy twin first second same
    rcases updated_read first with ⟨rfl,here⟩ | ⟨apart,there⟩
    · cases Option.some.inj here
      rcases updated_read second with ⟨rfl,_⟩ | ⟨apart,there⟩
      · rfl
      · exact absurd same.symm (untouched_apart untouched apart there)
    · rcases updated_read second with ⟨rfl,here⟩ | ⟨_,also⟩
      · cases Option.some.inj here
        exact absurd same (untouched_apart untouched apart there)
      · exact sound.single slot other copy twin there also same
  · intro messageId row found handled
    exact (sound.counted messageId row found handled).unmoved (by rw [looping]; rfl)

theorem Sound.raised (sound : Sound handlers db workers failures)
    (calling : workers worker = .calling message rest result) (error : String) :
    Sound handlers db (Function.update workers worker (.failing message error rest result))
      (increment failures message.messageId) := by
  have copies := sound.copied worker
  rw [calling] at copies
  have busy : (workers worker).engaged = some message := by rw [calling]; rfl
  obtain ⟨present,found,_,_⟩ := sound.engaged worker message busy
  have engaged : ∀ {slot copy}, (Function.update workers worker (.failing message error rest result) slot).engaged =
      some copy → (workers slot).engaged = some copy := by
    intro slot copy held
    rcases updated_read held with ⟨rfl,here⟩ | ⟨_,there⟩
    · cases Option.some.inj here; exact busy
    · exact there
  refine ⟨updated_all sound.copied copies,?_,?_,?_,?_⟩
  · exact fun slot copy held => sound.engaged slot copy (engaged held)
  · exact fun slot other copy twin first second =>
      sound.single slot other copy twin (engaged first) (engaged second)
  · intro messageId absent
    have apart : messageId ≠ message.messageId := by
      rintro rfl; rw [found] at absent; cases absent
    rw [increment,Function.update_of_ne apart]
    exact sound.unseen messageId absent
  · intro messageId row there handled
    have counted := sound.counted messageId row there handled
    by_cases here : messageId = message.messageId
    · subst messageId
      -- Nobody else can have a failure of this message to report.
      have alone : ∀ slot, reports (workers slot) ≠ some message.messageId := by
        intro slot report
        obtain ⟨copy,occupied,same⟩ := reports_engaged report
        cases sound.single slot worker copy message occupied busy same
        rw [calling] at report
        cases report
      have count := counted.written alone
      refine ⟨counted.unfinished,fun slot _ => ?_,fun none => absurd ?_ (none worker)⟩
      · rw [increment,Function.update_self,count]
      · rw [Function.update_self]; rfl
    · have same : increment failures message.messageId messageId = failures messageId := by
        rw [increment,Function.update_of_ne here]
      have unmoved := @Counted.unmoved n workers failures worker messageId row
        (.failing message error rest result) counted (by
          rw [calling]
          exact ⟨(nomatch ·),fun report => absurd (Option.some.inj report).symm here⟩)
      exact ⟨unmoved.unfinished,fun slot report => by rw [same]; exact unmoved.waiting slot report,
        fun none => by rw [same]; exact unmoved.written none⟩

theorem write_finds (db : Database) (messageId : String) (change : Assignment OutboxMessage.messageId) (j : String) :
    (db.update messageId (fun _ => true) change).1.find j =
      if j = messageId then (db.find messageId).map change.apply else db.find j := by
  rw [Table.find_update]
  simp

theorem Sound.wrote {change : Assignment OutboxMessage.messageId} (sound : Sound handlers db workers failures)
    (found : db.find message.messageId = some row)
    (apart : ∀ slot copy, slot ≠ worker → (workers slot).engaged = some copy → copy.messageId ≠ message.messageId)
    (queued : ∀ copy ∈ rest, copy ∈ held (workers worker))
    (reporting : ∀ messageId, reports (workers worker) = some messageId → messageId = message.messageId)
    (same : (change.apply row).destination = row.destination)
    (counted : Handled handlers row.destination →
      Counted (Function.update workers worker (.looping rest result)) failures message.messageId (change.apply row)) :
    Sound handlers (db.update message.messageId (fun _ => true) change).1
      (Function.update workers worker (.looping rest result)) failures := by
  have finds := write_finds db message.messageId change
  have present : ∀ {j old}, db.find j = some old →
      ∃ new, (db.update message.messageId (fun _ => true) change).1.find j = some new ∧
        new.destination = old.destination := by
    intro j old there
    rw [finds]
    split
    · rename_i here
      rw [here,found] at there
      cases Option.some.inj there
      exact ⟨change.apply row,by rw [found]; rfl,same⟩
    · exact ⟨old,there,rfl⟩
  have copies : ∀ {w}, Copied db w → Copied (db.update message.messageId (fun _ => true) change).1 w := by
    intro w before copy member
    obtain ⟨old,there,destination⟩ := before copy member
    obtain ⟨new,now,kept⟩ := present there
    exact ⟨new,now,kept.trans destination⟩
  have others : ∀ {slot copy}, (Function.update workers worker (.looping rest result) slot).engaged = some copy →
      slot ≠ worker ∧ (workers slot).engaged = some copy := by
    intro slot copy busy
    rcases updated_read busy with ⟨_,here⟩ | there
    · cases here
    · exact there
  refine ⟨?_,?_,?_,?_,?_⟩
  · exact updated_all (fun slot => copies (sound.copied slot))
      (copies fun copy member => sound.copied worker copy (queued copy member))
  · intro slot copy busy
    obtain ⟨away,there⟩ := others busy
    obtain ⟨old,before,status⟩ := sound.engaged slot copy there
    exact ⟨old,by rw [finds,if_neg (apart slot copy away there)]; exact before,status⟩
  · exact fun slot other copy twin first second =>
      sound.single slot other copy twin (others first).2 (others second).2
  · intro j absent
    refine sound.unseen j ?_
    cases there : db.find j with
    | none => rfl
    | some old =>
      obtain ⟨new,now,_⟩ := present there
      rw [now] at absent
      cases absent
  · intro j new now handled
    rw [finds] at now
    split at now
    · rename_i here
      subst j
      rw [found] at now
      cases Option.some.inj now
      exact counted (by rwa [same] at handled)
    · rename_i away
      refine (sound.counted j new now handled).unmoved ⟨fun report => absurd (reporting j report) away,?_⟩
      intro report
      cases report

theorem Sound.apart (sound : Sound handlers db workers failures) (busy : (workers worker).engaged = some message)
    (slot : Fin n) (copy : OutboxMessage) (away : slot ≠ worker) (other : (workers slot).engaged = some copy) :
    copy.messageId ≠ message.messageId :=
  fun same => away (sound.single slot worker copy message other busy same)

theorem Sound.quiet (sound : Sound handlers db workers failures) (busy : (workers worker).engaged = some message)
    (silent : reports after = none) :
    ∀ slot, reports (Function.update workers worker after slot) ≠ some message.messageId := by
  intro slot report
  by_cases here : slot = worker
  · subst slot
    rw [Function.update_self,silent] at report
    cases report
  · rw [Function.update_of_ne here] at report
    obtain ⟨copy,other,same⟩ := reports_engaged report
    exact sound.apart busy slot copy here other same

theorem Sound.delivered (sound : Sound handlers db workers failures)
    (delivering : workers worker = .delivering message rest result) (counts : DispatchResult) :
    Sound handlers (delivered db message.messageId) (Function.update workers worker (.looping rest counts)) failures := by
  have busy : (workers worker).engaged = some message := by rw [delivering]; rfl
  obtain ⟨row,found,_,_⟩ := sound.engaged worker message busy
  refine sound.wrote found (sound.apart busy) ?_ ?_ rfl ?_
  · intro copy member
    rw [delivering]
    exact List.mem_cons_of_mem _ member
  · intro messageId report
    rw [delivering] at report
    cases report
  · intro handled
    have unmoved := @Counted.unmoved n workers failures worker message.messageId row (.looping rest counts)
      (sound.counted _ row found handled) (by rw [delivering]; rfl)
    exact ⟨(nomatch ·),unmoved.waiting,unmoved.written⟩

theorem Sound.failed (sound : Sound handlers db workers failures)
    (failing : workers worker = .failing message error rest result) (counts : DispatchResult) (now : Instant) :
    Sound handlers (failed db message.messageId error (message.attempts + 1) now)
      (Function.update workers worker (.looping rest counts)) failures := by
  have busy : (workers worker).engaged = some message := by rw [failing]; rfl
  obtain ⟨row,found,_,attempts⟩ := sound.engaged worker message busy
  refine sound.wrote found (sound.apart busy) ?_ ?_ rfl ?_
  · intro copy member
    rw [failing]
    exact List.mem_cons_of_mem _ member
  · intro messageId report
    rw [failing] at report
    exact (Option.some.inj report).symm
  · intro handled
    have counted := (sound.counted _ row found handled).waiting worker (by rw [failing]; rfl)
    have quiet := @Sound.quiet n handlers db workers failures worker message (.looping rest counts) sound busy rfl
    refine ⟨fun open_ => ?_,fun slot report => absurd report (quiet slot),fun _ => by rw [counted,attempts]; rfl⟩
    by_contra enough
    have terminal : message.attempts + 1 ≥ 5 := Nat.le_of_not_lt enough
    simp only [markFailed,if_pos terminal] at open_
    cases open_

theorem Sound.discarded (sound : Sound handlers s.db s.workers s.failures)
    (looping : s.workers worker = .looping (message :: rest) result) (untouched : Untouched s worker message)
    (unhandled : handlers worker message.destination = false) (error : String) (counts : DispatchResult)
    (now : Instant) : Sound handlers (IntegrationOutbox.failed s.db message.messageId error 5 now)
      (Function.update s.workers worker (.looping rest counts)) s.failures := by
  obtain ⟨row,found,destination⟩ := sound.copied worker message (by rw [looping]; exact List.mem_cons_self)
  refine sound.wrote found (fun slot copy away busy => untouched_apart untouched away busy) ?_ ?_ rfl ?_
  · intro copy member
    rw [looping]
    exact List.mem_cons_of_mem _ member
  · intro messageId report
    rw [looping] at report
    cases report
  · intro handled
    have registered := handled worker
    rw [destination,unhandled] at registered
    cases registered

structure Lawful (handlers : Fin n → String → Bool) (s : State n) (event : Event n) (next : State n) : Prop where
  final : ∀ messageId row, s.db.find messageId = some row → row.status ≠ .pending →
    next.db.find messageId = some row ∧ next.calls messageId = s.calls messageId
  fifth : ∀ messageId row after, s.db.find messageId = some row → row.status ≠ .deadLetter →
    next.db.find messageId = some after → after.status = .deadLetter → Handled handlers row.destination →
    s.failures messageId = 5 ∧ ∃ worker now message error rest result, event = .fail worker now ∧
      s.workers worker = .failing message error rest result ∧ message.messageId = messageId

theorem Lawful.quiet (rows : ∀ messageId row, s.db.find messageId = some row → next.db.find messageId = some row)
    (calls : ∀ messageId row, s.db.find messageId = some row → row.status ≠ .pending →
      next.calls messageId = s.calls messageId) : Lawful handlers s event next := by
  refine ⟨fun messageId row found settled => ⟨rows messageId row found,calls messageId row found settled⟩,?_⟩
  intro messageId row after found alive there dead
  rw [rows messageId row found] at there
  cases Option.some.inj there
  exact absurd dead alive

theorem Lawful.wrote {change : Assignment OutboxMessage.messageId}
    (rows : next.db = (s.db.update message.messageId (fun _ => true) change).1) (calls : next.calls = s.calls)
    (found : s.db.find message.messageId = some row) (pending : row.status = .pending)
    (fifth : (change.apply row).status = .deadLetter → Handled handlers row.destination →
      s.failures message.messageId = 5 ∧ ∃ worker now copy error rest result, event = .fail worker now ∧
        s.workers worker = .failing copy error rest result ∧ copy.messageId = message.messageId) :
    Lawful handlers s event next := by
  have finds := write_finds s.db message.messageId change
  refine ⟨?_,?_⟩
  · intro messageId other there settled
    have away : messageId ≠ message.messageId := by
      rintro rfl
      rw [found] at there
      cases Option.some.inj there
      exact settled pending
    rw [rows,finds,if_neg away,calls]
    exact ⟨there,rfl⟩
  · intro messageId other after there alive now dead handled
    rw [rows,finds] at now
    split at now
    · rename_i here
      subst messageId
      rw [found] at there now
      cases Option.some.inj there
      cases Option.some.inj now
      exact fifth dead handled
    · rw [there] at now
      cases Option.some.inj now
      exact absurd dead alive

def Good (handlers : Fin n → String → Bool) (s : State n) : Prop := Sound handlers s.db s.workers s.failures

theorem step_enqueue (sound : Good handlers s)
    (taken : step handlers s (.enqueue messageId destination key payload now) = some next) :
    Good handlers next ∧ Lawful handlers s (.enqueue messageId destination key payload now) next := by
  cases Option.some.inj taken
  split
  · exact ⟨sound,.quiet (fun _ _ found => found) fun _ _ _ _ => rfl⟩
  · rename_i after inserted
    exact ⟨sound.enqueued inserted,.quiet (fun _ _ found => insertMessage_kept inserted found) fun _ _ _ _ => rfl⟩

theorem step_moved (sound : Good handlers s) (after : Worker) (copies : Copied s.db after)
    (busy : ∀ message, after.engaged = some message → (s.workers worker).engaged = some message)
    (silent : reports (s.workers worker) = none ∧ reports after = none) :
    Good handlers (place s worker after) ∧ Lawful handlers s event (place s worker after) :=
  ⟨sound.moved after copies busy silent,.quiet (fun _ _ found => found) fun _ _ _ _ => rfl⟩

theorem step_select (sound : Good handlers s)
    (taken : step handlers s (.select worker limit now messages) = some next) :
    Good handlers next ∧ Lawful handlers s (.select worker limit now messages) next := by
  simp only [step] at taken
  split at taken
  · rename_i idle
    split at taken
    · rename_i answered
      cases Option.some.inj taken
      refine step_moved sound _ ?_ (fun _ busy => (nomatch busy)) ⟨by rw [idle]; rfl,rfl⟩
      exact fun message member => ⟨message,pendingAnswer_rows answered member,rfl⟩
    · cases taken
  · cases taken

theorem step_discard (sound : Good handlers s) (exclusive : Exclusive s (.discard worker now))
    (taken : step handlers s (.discard worker now) = some next) :
    Good handlers next ∧ Lawful handlers s (.discard worker now) next := by
  simp only [step] at taken
  split at taken
  · rename_i message rest result looping
    have untouched : Untouched s worker message := exclusive message (by rw [looping]; rfl)
    obtain ⟨row,found,pending,_⟩ := untouched_row untouched
    split at taken
    · cases taken
    · rename_i missing
      have unhandled : handlers worker message.destination = false := by simpa using missing
      cases Option.some.inj taken
      refine ⟨sound.discarded looping untouched unhandled _ _ now,.wrote rfl rfl found pending ?_⟩
      intro _ handled
      obtain ⟨copied,there,destination⟩ := sound.copied worker message (by rw [looping]; exact List.mem_cons_self)
      rw [found] at there
      cases Option.some.inj there
      have registered := handled worker
      rw [destination,unhandled] at registered
      cases registered
  · cases taken

theorem step_call (sound : Good handlers s) (exclusive : Exclusive s (.call worker))
    (taken : step handlers s (.call worker) = some next) :
    Good handlers next ∧ Lawful handlers s (.call worker) next := by
  simp only [step] at taken
  split at taken
  · rename_i message rest result looping
    have untouched : Untouched s worker message := exclusive message (by rw [looping]; rfl)
    obtain ⟨row,found,pending,_⟩ := untouched_row untouched
    split at taken
    · cases Option.some.inj taken
      refine ⟨sound.called looping untouched,.quiet (fun _ _ there => there) ?_⟩
      intro messageId other there settled
      have away : messageId ≠ message.messageId := by
        rintro rfl
        rw [found] at there
        cases Option.some.inj there
        exact settled pending
      exact Function.update_of_ne away _ _
    · cases taken
  · cases taken

theorem step_settle (sound : Good handlers s) (exclusive : Exclusive s (.settle worker outcome))
    (taken : step handlers s (.settle worker outcome) = some next) :
    Good handlers next ∧ Lawful handlers s (.settle worker outcome) next := by
  simp only [step] at taken
  split at taken
  · rename_i message rest result calling
    have copies := sound.copied worker
    rw [calling] at copies
    cases Option.some.inj taken
    cases outcome with
    | returns => exact step_moved sound _ copies (by rw [calling]; exact fun _ busy => busy) ⟨by rw [calling]; rfl,rfl⟩
    | raises error =>
      exact ⟨sound.raised calling error,.quiet (fun _ _ found => found) fun _ _ _ _ => rfl⟩
    | escapes => exact absurd exclusive id
  · cases taken

theorem step_deliver (sound : Good handlers s) (taken : step handlers s (.deliver worker) = some next) :
    Good handlers next ∧ Lawful handlers s (.deliver worker) next := by
  simp only [step] at taken
  split at taken
  · rename_i message rest result delivering
    obtain ⟨row,found,pending,_⟩ := sound.engaged worker message (by rw [delivering]; rfl)
    cases Option.some.inj taken
    exact ⟨sound.delivered delivering _,.wrote rfl rfl found pending fun dead => (nomatch dead)⟩
  · cases taken

theorem step_fail (sound : Good handlers s) (taken : step handlers s (.fail worker now) = some next) :
    Good handlers next ∧ Lawful handlers s (.fail worker now) next := by
  simp only [step] at taken
  split at taken
  · rename_i message error rest result failing
    obtain ⟨row,found,pending,attempts⟩ := sound.engaged worker message (by rw [failing]; rfl)
    cases Option.some.inj taken
    refine ⟨sound.failed failing _ now,.wrote rfl rfl found pending ?_⟩
    intro dead handled
    have counted := sound.counted message.messageId row found handled
    have below := counted.unfinished pending
    have failures := counted.waiting worker (by rw [failing]; rfl)
    have enough : message.attempts + 1 ≥ 5 := by
      by_contra early
      simp only [markFailed,if_neg early] at dead
      cases dead
    exact ⟨by omega,worker,now,message,error,rest,result,rfl,failing,rfl⟩
  · cases taken

theorem step_finish (sound : Good handlers s) (taken : step handlers s (.finish worker) = some next) :
    Good handlers next ∧ Lawful handlers s (.finish worker) next := by
  simp only [step] at taken
  split at taken
  · rename_i result looping
    cases Option.some.inj taken
    exact step_moved sound _ (fun _ member => (nomatch member)) (fun _ busy => (nomatch busy))
      ⟨by rw [looping]; rfl,rfl⟩
  · cases taken

theorem step_lawful (sound : Good handlers s) (exclusive : Exclusive s event)
    (taken : step handlers s event = some next) : Good handlers next ∧ Lawful handlers s event next := by
  cases event with
  | enqueue messageId destination key payload now => exact step_enqueue sound taken
  | select worker limit now messages => exact step_select sound taken
  | discard worker now => exact step_discard sound exclusive taken
  | call worker => exact step_call sound exclusive taken
  | settle worker outcome => exact step_settle sound exclusive taken
  | deliver worker => exact step_deliver sound taken
  | fail worker now => exact step_fail sound taken
  | finish worker => exact step_finish sound taken

theorem run_good (path : Runs (step handlers) (initial n) events s)
    (exclusive : Throughout (step handlers) Exclusive (initial n) events) : Good handlers s :=
  path.invariant_under (fun good meets taken => (step_lawful good meets taken).1) exclusive (initial_sound handlers)

theorem settled_unselected (taken : step handlers s (.select worker limit now messages) = some next)
    (found : s.db.find messageId = some row) (settled : row.status ≠ .pending) :
    ∀ message ∈ messages, message.messageId ≠ messageId := by
  intro message member same
  simp only [step] at taken
  split at taken
  · split at taken
    · rename_i answered
      have there := pendingAnswer_rows answered member
      simp only [pendingAnswer,Bool.and_eq_true,List.all_eq_true,due,decide_eq_true_eq] at answered
      rw [same,found] at there
      cases Option.some.inj there
      exact settled (answered.1.1.2 row member).2.1
    · cases taken
  · cases taken

theorem run_settled (path : Runs (step handlers) s events last) (good : Good handlers s)
    (exclusive : Throughout (step handlers) Exclusive s events) (found : s.db.find messageId = some row)
    (settled : row.status ≠ .pending) :
    last.db.find messageId = some row ∧ last.calls messageId = s.calls messageId ∧
      ∀ worker limit now messages, .select worker limit now messages ∈ events →
        ∀ message ∈ messages, message.messageId ≠ messageId := by
  induction path with
  | stop => exact ⟨found,rfl,fun _ _ _ _ member => (nomatch member)⟩
  | @take s t u event rest taken remaining ih =>
    obtain ⟨nextGood,lawful⟩ := step_lawful good exclusive.head taken
    obtain ⟨there,calls⟩ := lawful.final messageId row found settled
    obtain ⟨finally_,stillCalls,unselected⟩ := ih nextGood (exclusive.tail taken) there
    refine ⟨finally_,stillCalls.trans calls,?_⟩
    intro worker limit now messages member
    rcases List.mem_cons.mp member with rfl | later
    · exact settled_unselected taken found settled
    · exact unselected worker limit now messages later

structure Delivery (handlers : Fin n → String → Bool) (events : List (Event n)) (last : State n) : Prop where
  delivered : ∀ earlier later middle messageId row, events = earlier ++ later →
    Runs (step handlers) (initial n) earlier middle → middle.db.find messageId = some row →
    row.status = .delivered →
    (∃ final, last.db.find messageId = some final ∧ final.status = .delivered) ∧
      ∀ worker limit now messages, .select worker limit now messages ∈ later →
        ∀ message ∈ messages, message.messageId ≠ messageId
  deadLettered : ∀ earlier event later before after messageId row dead, events = earlier ++ event :: later →
    Runs (step handlers) (initial n) earlier before → step handlers before event = some after →
    before.db.find messageId = some row → row.status ≠ .deadLetter → after.db.find messageId = some dead →
    dead.status = .deadLetter → Handled handlers row.destination →
    before.failures messageId = 5 ∧ ∃ worker now message error rest result, event = .fail worker now ∧
      before.workers worker = .failing message error rest result ∧ message.messageId = messageId
  silent : ∀ earlier later middle messageId row, events = earlier ++ later →
    Runs (step handlers) (initial n) earlier middle → middle.db.find messageId = some row →
    row.status = .deadLetter → last.calls messageId = middle.calls messageId

theorem delivery_final (n : Nat) (handlers : Fin n → String → Bool) (events : List (Event n)) (last : State n)
    (path : Runs (step handlers) (initial n) events last)
    (exclusive : Throughout (step handlers) Exclusive (initial n) events) : Delivery handlers events last := by
  have settled : ∀ {earlier later middle messageId row}, events = earlier ++ later →
      Runs (step handlers) (initial n) earlier middle → middle.db.find messageId = some row →
      row.status ≠ .pending → last.db.find messageId = some row ∧
        last.calls messageId = middle.calls messageId ∧
        ∀ worker limit now messages, .select worker limit now messages ∈ later →
          ∀ message ∈ messages, message.messageId ≠ messageId := by
    intro earlier later middle messageId row split left found done
    subst events
    obtain ⟨state,again,right⟩ := path.parts
    cases again.unique left
    exact run_settled right (run_good left exclusive.before) (exclusive.after left) found done
  refine ⟨?_,?_,?_⟩
  · intro earlier later middle messageId row split left found delivered
    obtain ⟨there,_,unselected⟩ := settled split left found (by rw [delivered]; decide)
    exact ⟨⟨row,there,delivered⟩,unselected⟩
  · intro earlier event later before after messageId row dead split left taken found alive there terminal handled
    subst events
    have good := run_good left exclusive.before
    have lawful := (step_lawful good (exclusive.after left).head taken).2
    exact lawful.fifth messageId row dead found alive there terminal handled
  · intro earlier later middle messageId row split left found dead
    exact (settled split left found (by rw [dead]; decide)).2.1

def queued : OutboxMessage := ⟨"m-1","aria","key-1","\x7b\x7d",.pending,0,0,""⟩

def retried : OutboxMessage := {queued with attempts := 1, availableAt := 2000000, lastError := "RuntimeError"}

def inTurn : List (Event 2) :=
  [.enqueue "m-1" "aria" "key-1" "\x7b\x7d" 0,.select 0 100 0 [queued],.call 0,.settle 0 (.raises "RuntimeError"),
    .fail 0 0,.finish 0,.select 1 100 2000000 [retried],.call 1,.settle 1 .returns,.deliver 1]

theorem delivery_final_inTurn : ∃ last row, Runs (step fun _ _ => true) (initial 2) inTurn last ∧
    last.db.find "m-1" = some row ∧ row.status = .delivered ∧ Delivery (fun _ _ => true) inTurn last := by
  have statuses : ((consume (step fun _ _ => true) (initial 2) inTurn).bind fun s => s.db.find "m-1").map
      OutboxMessage.status = some .delivered := by decide +kernel
  obtain ⟨row,found,status⟩ := Option.map_eq_some_iff.mp statuses
  obtain ⟨last,consumed,present⟩ := Option.bind_eq_some_iff.mp found
  have path := consume_exact.mp consumed
  have exclusive : Throughout (step fun _ _ => true) Exclusive (initial 2) inTurn := by decide +kernel
  exact ⟨last,row,path,present,status,delivery_final 2 (fun _ _ => true) inTurn last path exclusive⟩

-- Both calls read the message before either handles it. The second one fails
-- after the first has delivered.
def overlapping : List (Event 2) :=
  [.enqueue "m-1" "aria" "key-1" "\x7b\x7d" 0,.select 0 100 0 [queued],.select 1 100 0 [queued],
    .call 0,.settle 0 .returns,.deliver 0,.call 1,.settle 1 (.raises "RuntimeError"),.fail 1 0]

theorem delivery_undone : ¬ ∀ (n : Nat) (handlers : Fin n → String → Bool) (events : List (Event n)) (last : State n),
    Runs (step handlers) (initial n) events last → Delivery handlers events last := by
  intro holds
  have statuses : (((consume (step fun _ _ => true) (initial 2) (overlapping.take 6)).bind fun s =>
        s.db.find "m-1").map OutboxMessage.status = some .delivered) ∧
      (((consume (step fun _ _ => true) (initial 2) overlapping).bind fun s =>
        s.db.find "m-1").map OutboxMessage.status = some .pending) := by decide +kernel
  obtain ⟨row,found,delivered⟩ := Option.map_eq_some_iff.mp statuses.1
  obtain ⟨middle,early,there⟩ := Option.bind_eq_some_iff.mp found
  obtain ⟨row',found',pending⟩ := Option.map_eq_some_iff.mp statuses.2
  obtain ⟨last,late,here⟩ := Option.bind_eq_some_iff.mp found'
  obtain ⟨⟨final,same,still⟩,_⟩ := (holds 2 _ overlapping last (consume_exact.mp late)).delivered
    (overlapping.take 6) (overlapping.drop 6) middle "m-1" row (List.take_append_drop 6 overlapping).symm
    (consume_exact.mp early) there delivered
  rw [here] at same
  cases Option.some.inj same
  rw [pending] at still
  cases still

end OpenModelOps.IntegrationDelivery
