import OpenModelOps.IntegrationRetries
import OpenModelOps.TableCounts

namespace OpenModelOps.IntegrationFairness
open KeyedTable PythonNumber PythonText PythonValue JsonText RunHistory IntegrationOutbox IntegrationDelivery IntegrationEnqueue IntegrationDispatch
open IntegrationRetries

def rival (waiting row : OutboxMessage) : Bool :=
  decide (row.status = .pending) && decide (row.availableAt ≤ waiting.availableAt) &&
    decide (row.messageId ≠ waiting.messageId)

def rivals (db : Database) (waiting : OutboxMessage) : Nat := db.rows.countP (rival waiting)

def Since {ω : Type} (waiting : OutboxMessage) (width : Nat) : Op ω → Prop
  | .enqueue request => waiting.availableAt < request.now
  | .runOnce limit now _ _ => waiting.availableAt ≤ now ∧ width ≤ limit

def serves {ω : Type} : Op ω → Bool
  | .enqueue _ => false
  | .runOnce _ _ _ _ => true

variable {ω : Type} {number : PyNumber → Text} {handles : String → Bool} {visit : OutboxMessage → Visit} {offered : Instant}
  {p next : Progress} {waiting message : OutboxMessage} {messages : List OutboxMessage} {s t : IntegrationRetries.State}

theorem rival_iff {row : OutboxMessage} : rival waiting row = true ↔
    row.status = .pending ∧ row.availableAt ≤ waiting.availableAt ∧ row.messageId ≠ waiting.messageId := by
  simp [rival,and_assoc]

theorem failed_no_rival (error : String) (attempts : Nat) {now : Instant} (row : OutboxMessage)
    (due : waiting.availableAt ≤ now) : rival waiting ((markFailed error attempts now).apply row) = false := by
  have later : waiting.availableAt < now + seconds (min 300 (2^attempts)) := by
    have positive : (0 : Int) < min 300 (2^attempts) := lt_min (by decide) (by positivity)
    have waits : 0 < seconds (min 300 (2^attempts)) := Int.mul_pos positive (by decide)
    exact due.trans_lt (Int.lt_add_of_pos_right now waits)
  apply Bool.eq_false_iff.mpr
  intro rivals
  have early := (rival_iff.mp rivals).2.1
  exact absurd early (not_le.mpr later)

theorem delivered_no_rival (row : OutboxMessage) : rival waiting (markDelivered.apply row) = false := rfl

theorem settle_rivals (settled : settle handles visit offered p message = some next)
    (found : p.db.find message.messageId = some message) (ahead : rival waiting message = true)
    (due : waiting.availableAt ≤ (visit message).now) : rivals next.db waiting + 1 = rivals p.db waiting := by
  unfold settle at settled
  dsimp only at settled
  split at settled
  · split at settled
    · cases settled
      have counts := Table.countP_update found markDelivered (rival waiting)
      rw [ahead,delivered_no_rival] at counts
      exact counts
    · rename_i error _
      cases settled
      have counts := Table.countP_update found (markFailed error (message.attempts + 1) (visit message).now) (rival waiting)
      rw [ahead,failed_no_rival error _ message due] at counts
      exact counts
    · cases settled
  · cases settled
    have counts := Table.countP_update found
      (markFailed "destination has no registered handler" 5 (visit message).now) (rival waiting)
    rw [ahead,failed_no_rival _ 5 message due] at counts
    exact counts

theorem dispatch_rivals (batch : Batch p.db messages) (ahead : ∀ message ∈ messages, rival waiting message = true)
    (due : ∀ message ∈ messages, waiting.availableAt ≤ (visit message).now)
    (caught : ∀ message ∈ messages, Caught handles visit message) :
    rivals (dispatch handles visit offered p messages).2.db waiting + messages.length = rivals p.db waiting := by
  induction messages generalizing p with
  | nil => rfl
  | cons message rest ih =>
    rw [List.forall_mem_cons] at ahead due caught
    obtain ⟨next,settled⟩ := (@settle_isSome_iff handles visit offered p message).mpr caught.1
    have first := settle_rivals settled (batch.rows message List.mem_cons_self) ahead.1 due.1
    have others := ih (batch.tail (settle_settles settled)) ahead.2 due.2 caught.2
    rw [dispatch,settled,List.length_cons]
    dsimp only
    omega

theorem left_out {db : Database} {limit : Nat} {now : Instant} (answered : pendingAnswer db limit now messages = true)
    (stored : db.find waiting.messageId = some waiting) (pending : waiting.status = .pending)
    (due : waiting.availableAt ≤ now) (absent : waiting ∉ messages) :
    messages.length = limit ∧ ∀ message ∈ messages, rival waiting message = true := by
  simp only [pendingAnswer,Bool.and_eq_true,decide_eq_true_eq,List.all_eq_true,Bool.or_eq_true,Bool.not_eq_true'] at answered
  obtain ⟨⟨⟨⟨_,distinct⟩,rows⟩,size⟩,earliest⟩ := answered
  have dueRow : IntegrationOutbox.due now waiting = true := by simp [IntegrationOutbox.due,pending,due]
  have inside : waiting ∈ db.rows := Table.find_mem stored
  have before : ∀ message ∈ messages, message.availableAt ≤ waiting.availableAt := by
    rcases earliest waiting inside with (undue | chosen) | earlier
    · rw [dueRow] at undue
      cases undue
    · exact absurd chosen absent
    · exact earlier
  have named : ∀ message ∈ messages, message.messageId ≠ waiting.messageId := by
    intro message member same
    have found := Table.find_of_mem (rows message member).1
    rw [same,stored] at found
    exact absent (Option.some.inj found ▸ member)
  refine ⟨?_,fun message member => rival_iff.mpr ⟨?_,before message member,named message member⟩⟩
  · -- The batch and the waiting message are different due rows of the table.
    have fits : (waiting :: messages).Subperm (db.rows.filter (IntegrationOutbox.due now)) := by
      apply List.Nodup.subperm
      · exact List.nodup_cons.mpr ⟨absent,List.Nodup.of_map _ distinct⟩
      · intro message member
        rw [List.mem_filter]
        rcases List.mem_cons.mp member with rfl | member
        · exact ⟨inside,dueRow⟩
        · exact rows message member
    have larger := fits.length_le
    rw [List.length_cons,← List.countP_eq_length_filter] at larger
    omega
  · have dueMessage := (rows message member).2
    simp only [IntegrationOutbox.due,Bool.and_eq_true,decide_eq_true_eq] at dueMessage
    exact dueMessage.1

def Served (waiting : OutboxMessage) (before after : List Entry) : Prop :=
  ∃ new call offered written, after = before ++ new ∧ .taken waiting.messageId call offered written ∈ new

theorem step_log {op : Op ω} (caught : op.Caught handles) (taken : step number handles s op = some t) :
    ∃ new, t.log = s.log ++ new := by
  cases op with
  | enqueue request =>
    simp only [IntegrationRetries.step,Option.some.injEq] at taken
    subst taken
    split
    · exact ⟨_,rfl⟩
    · exact ⟨[],(List.append_nil _).symm⟩
  | runOnce limit now messages visit =>
    simp only [IntegrationRetries.step] at taken
    split at taken
    · cases taken
      have complete := (@dispatch_complete_iff handles visit now ⟨s.db,s.log,.zero⟩ messages).mpr caught
      simp only [runOnce,dispatch_log complete,List.append_assoc]
      exact ⟨_,rfl⟩
    · cases taken

theorem run_log {ops : List (Op ω)} (path : Runs (step number handles) s ops t) (caught : ∀ op ∈ ops, op.Caught handles) :
    ∃ new, t.log = s.log ++ new := by
  induction path with
  | stop => exact ⟨[],(List.append_nil _).symm⟩
  | take taken _ ih =>
    rw [List.forall_mem_cons] at caught
    obtain ⟨first,middle⟩ := step_log caught.1 taken
    obtain ⟨rest,final⟩ := ih caught.2
    exact ⟨first ++ rest,by rw [final,middle,List.append_assoc]⟩

theorem enqueue_waits {request : Request ω} (stored : s.db.find waiting.messageId = some waiting)
    (later : waiting.availableAt < request.now) (taken : step number handles s (.enqueue request) = some t) :
    t.db.find waiting.messageId = some waiting ∧ rivals t.db waiting = rivals s.db waiting := by
  simp only [IntegrationRetries.step,Option.some.injEq] at taken
  subst taken
  split
  · rename_i messageId db enqueued
    rcases enqueue_parts enqueued with ⟨rfl,_⟩ | ⟨_,_,inserted⟩
    · exact ⟨stored,rfl⟩
    · refine ⟨insertMessage_kept inserted stored,?_⟩
      unfold insertMessage at inserted
      split at inserted
      · cases inserted
      · refine (Table.countP_insert inserted (rival waiting)).trans ?_
        have behind : ¬ request.now ≤ waiting.availableAt := not_le.mpr later
        simp [rivals,rival,behind]
  · exact ⟨stored,rfl⟩

theorem runOnce_waits {limit : Nat} {now : Instant} (stored : s.db.find waiting.messageId = some waiting)
    (pending : waiting.status = .pending) (since : waiting.availableAt ≤ now)
    (caught : ∀ message ∈ messages, Caught handles visit message)
    (timely : ∀ message ∈ messages, now ≤ (visit message).now)
    (taken : step number handles s (.runOnce limit now messages visit : Op ω) = some t) :
    Served waiting s.log t.log ∨
      (t.db.find waiting.messageId = some waiting ∧ rivals t.db waiting + limit = rivals s.db waiting) := by
  simp only [IntegrationRetries.step] at taken
  split at taken
  · rename_i answered
    cases taken
    have complete := (@dispatch_complete_iff handles visit now ⟨s.db,s.log,.zero⟩ messages).mpr caught
    by_cases chosen : waiting ∈ messages
    · have visited : entryOf handles visit now waiting ∈ messages.map (entryOf handles visit now) :=
        List.mem_map_of_mem chosen
      simp only [runOnce,dispatch_log complete,List.append_assoc]
      exact .inl ⟨_,_,_,_,rfl,List.mem_append_left _ visited⟩
    · obtain ⟨full,ahead⟩ := left_out answered stored pending since chosen
      refine .inr ⟨?_,?_⟩
      · refine (dispatch_others ?_).trans stored
        intro named
        obtain ⟨message,member,same⟩ := List.mem_map.mp named
        exact (rival_iff.mp (ahead message member)).2.2 same
      · have batch : Batch (Progress.mk s.db s.log .zero).db messages := pendingAnswer_batch answered
        have counts := @dispatch_rivals handles visit now _ waiting messages batch ahead
          (fun message member => since.trans (timely message member)) caught
        rw [full] at counts
        exact counts
  · cases taken

-- A due message is taken after at most as many calls of run_once as it takes to
-- empty the queue before it, whatever becomes of the messages there.
theorem waiting_message_served (number : PyNumber → Text) (handles : String → Bool) (s t : IntegrationRetries.State)
    (ops : List (Op ω)) (waiting : OutboxMessage) (width : Nat) (path : Runs (step number handles) s ops t)
    (stored : s.db.find waiting.messageId = some waiting) (pending : waiting.status = .pending)
    (caught : ∀ op ∈ ops, op.Caught handles) (timely : ∀ op ∈ ops, op.Timely)
    (since : ∀ op ∈ ops, Since waiting width op) (enough : rivals s.db waiting < width * ops.countP serves) :
    Served waiting s.log t.log := by
  induction path with
  | stop => simp at enough
  | @take s middle t op rest taken remaining ih =>
    rw [List.forall_mem_cons] at caught timely since
    -- What is taken later is taken since the start as well.
    have carry : ∀ {new}, middle.log = s.log ++ new → Served waiting middle.log t.log → Served waiting s.log t.log := by
      intro new first served
      obtain ⟨more,call,offered,written,second,member⟩ := served
      exact ⟨new ++ more,call,offered,written,by rw [second,first,List.append_assoc],List.mem_append_right _ member⟩
    obtain ⟨new,grown⟩ := step_log caught.1 taken
    cases op with
    | enqueue request =>
      obtain ⟨still,rank⟩ := enqueue_waits stored since.1 taken
      refine carry grown (ih still caught.2 timely.2 since.2 ?_)
      rw [rank]
      simpa [serves] using enough
    | runOnce limit now messages visit =>
      obtain ⟨due,room⟩ := since.1
      rcases runOnce_waits stored pending due caught.1 timely.1 taken with served | ⟨still,rank⟩
      · obtain ⟨first,call,offered,written,same,member⟩ := served
        obtain ⟨more,final⟩ := run_log remaining caught.2
        exact ⟨first ++ more,call,offered,written,by rw [final,same,List.append_assoc],List.mem_append_left _ member⟩
      · refine carry grown (ih still caught.2 timely.2 since.2 ?_)
        simp only [List.countP_cons,serves,if_true,Nat.mul_add] at enough
        omega

def early : OutboxMessage := ⟨"m-1","aria","k-1","\x7b\x7d",.pending,0,0,""⟩

def late : OutboxMessage := ⟨"m-2","aria","k-2","\x7b\x7d",.pending,0,1,""⟩

def twoWaiting : IntegrationRetries.State := ⟨⟨[early,late],by decide⟩,[]⟩

def afterwards : Request Empty := ⟨"m-3","aria","k-3",.dict [],4⟩

def narrow : List (Op Empty) :=
  [.runOnce 1 2 [early] (fun _ => ⟨.raises "IntegrationError",3⟩),.enqueue afterwards,
    .runOnce 1 5 [late] (fun _ => ⟨.returns,6⟩)]

theorem late_served : ∃ t, Runs (IntegrationRetries.step numberText toAria) twoWaiting narrow t ∧ Served late [] t.log := by
  have consumed : (consume (IntegrationRetries.step numberText toAria) twoWaiting narrow).isSome = true := by decide +kernel
  obtain ⟨t,taken⟩ := Option.isSome_iff_exists.mp consumed
  have path := consume_exact.mp taken
  refine ⟨t,path,waiting_message_served numberText toAria twoWaiting t narrow late 1 path rfl rfl ?_ ?_ ?_ (by decide)⟩
  · simp [narrow,Op.Caught,Caught]
  · simp [narrow,Op.Timely]
  · simp [narrow,Since,late,afterwards]

end OpenModelOps.IntegrationFairness
