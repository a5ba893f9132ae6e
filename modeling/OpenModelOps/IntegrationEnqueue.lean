import OpenModelOps.IntegrationOutbox
import OpenModelOps.JsonQuoting
import OpenModelOps.PythonValue

namespace OpenModelOps.IntegrationEnqueue
open KeyedTable PythonNumber PythonText PythonValue JsonText IntegrationOutbox
variable {ω : Type}

def lowercase (c : Char) : Bool := decide ('a' ≤ c) && decide (c ≤ 'z')

-- [a-z]+(?:\.[a-z0-9_-]+)+
def eventTypeMatches (eventType : String) : Bool :=
  match eventType.toList.splitOn '.' with
  | first :: second :: rest => !first.isEmpty && first.all lowercase &&
      (second :: rest).all fun part => !part.isEmpty &&
        part.all fun c => lowercase c || (decide ('0' ≤ c) && decide (c ≤ '9')) || c == '_' || c == '-'
  | _ => false

structure FactoryEvent (ω : Type) where
  eventType : String
  source : String
  tenant : String
  subject : String
  data : List (Key ω × Value ω)
  schemaVersion : String
  namespaced : eventTypeMatches eventType = true
  attributed : source ≠ "" ∧ tenant ≠ "" ∧ subject ≠ ""

def str (s : String) : Str := ⟨text s,text_coded s⟩

-- json.dumps(value, sort_keys=True): the document that it writes, unless it
-- raises for an object of another type, a key, or an int with too many digits.
def documented (number : PyNumber → Text) (value : Value ω) : Option (Json PyNumber) :=
  document number (fun _ => none) value

-- sha256 is the hex digest; number writes a number of the data.
def FactoryEvent.idempotencyKey (sha256 : List UInt8 → String) (number : PyNumber → Text) (event : FactoryEvent ω) :
    Option String :=
  (documented number (.dict
    [(.str (str "event_type"),.str (str event.eventType)),(.str (str "source"),.str (str event.source)),
     (.str (str "tenant"),.str (str event.tenant)),(.str (str "subject"),.str (str event.subject)),
     (.str (str "data"),.dict event.data),(.str (str "schema_version"),.str (str event.schemaVersion))])).map
    fun canonical => sha256 (asciiBytes (write number [0x2c] [0x3a] canonical))

-- With the default separators.
def dumps (number : PyNumber → Text) (payload : Value ω) : Option String :=
  (documented number payload).map fun v => String.ofList ((write number (text ", ") (text ": ") v).map Char.ofNat)

structure Request (ω : Type) where
  messageId : String
  destination : String
  idempotencyKey : String
  payload : Value ω
  now : Instant

-- The payload is written between the two statements. none is an exception: of
-- json.dumps, or the IntegrityError of the INSERT.
def enqueue (number : PyNumber → Text) (db : Database) (request : Request ω) : Option (String × Database) :=
  let inserted := (dumps number request.payload).bind fun payload =>
    (insertMessage db request.messageId request.destination request.idempotencyKey payload request.now).map
      fun next => (request.messageId,next)
  match db.rows.find? fun row => decide (row.idempotencyKey = request.idempotencyKey) with
  | some row => if row.messageId ≠ "" then some (row.messageId,db) else inserted
  | none => inserted

def enqueueAll (number : PyNumber → Text) (db : Database) : List (Request ω) → Database
  | [] => db
  | request :: rest => enqueueAll number (((enqueue number db request).map Prod.snd).getD db) rest

def message (number : PyNumber → Text) (request : Request ω) : Option OutboxMessage :=
  (dumps number request.payload).map fun payload =>
    ⟨request.messageId,request.destination,request.idempotencyKey,payload,.pending,0,request.now,""⟩

-- uuid4 gives identifiers that are not empty and do not repeat.
structure Identified (requests : List (Request ω)) : Prop where
  nonempty : ∀ request ∈ requests, request.messageId ≠ ""
  distinct : (requests.map (·.messageId)).Nodup

def firstOf (number : PyNumber → Text) (requests : List (Request ω)) (key : String) : Option OutboxMessage :=
  requests.findSome? fun request => if request.idempotencyKey = key then message number request else none

def firstOfPair (number : PyNumber → Text) (requests : List (Request ω)) (destination key : String) :
    Option OutboxMessage :=
  requests.findSome? fun request =>
    if request.destination = destination ∧ request.idempotencyKey = key then message number request else none

def withKey (db : Database) (key : String) : List OutboxMessage :=
  db.rows.filter fun row => decide (row.idempotencyKey = key)

def withPair (db : Database) (destination key : String) : List OutboxMessage :=
  db.rows.filter fun row => decide (row.destination = destination ∧ row.idempotencyKey = key)

def KeepsPair (number : PyNumber → Text) (requests : List (Request ω)) (db : Database) (destination key : String) :
    Prop :=
  ∃ kept first, withPair db destination key = [kept] ∧ firstOfPair number requests destination key = some first ∧
    kept.payload = first.payload

structure Holds (number : PyNumber → Text) (done : List (Request ω)) (db : Database) : Prop where
  rows : ∀ key, withKey db key = (firstOf number done key).toList
  named : ∀ row ∈ db.rows, ∃ request ∈ done, message number request = some row

theorem find_withKey (db : Database) (key : String) :
    (db.rows.find? fun row => decide (row.idempotencyKey = key)) = (withKey db key).head? :=
  (List.head?_filter ..).symm

section Calls
variable {number : PyNumber → Text} {done rest requests : List (Request ω)} {db : Database} {request : Request ω}
  {row : OutboxMessage} {key : String}

theorem message_fields (made : message number request = some row) : row.messageId = request.messageId ∧
    row.destination = request.destination ∧ row.idempotencyKey = request.idempotencyKey ∧
    dumps number request.payload = some row.payload := by
  obtain ⟨payload,written,rfl⟩ := Option.map_eq_some_iff.mp made
  exact ⟨rfl,rfl,rfl,written⟩

theorem firstOf_snoc (number : PyNumber → Text) (requests : List (Request ω)) (request : Request ω) (key : String) :
    firstOf number (requests ++ [request]) key =
      (firstOf number requests key).or (if request.idempotencyKey = key then message number request else none) := by
  unfold firstOf
  rw [List.findSome?_append]
  simp

theorem firstOf_some (found : firstOf number requests key = some row) :
    ∃ request ∈ requests, request.idempotencyKey = key ∧ message number request = some row := by
  obtain ⟨request,member,made⟩ := List.exists_of_findSome?_eq_some found
  split at made
  · rename_i named
    exact ⟨request,member,named,made⟩
  · cases made

theorem Holds.more (holds : Holds number done db)
    (same : firstOf number (done ++ [request]) = firstOf number done) : Holds number (done ++ [request]) db := by
  refine ⟨fun key => by rw [same]; exact holds.rows key,fun row member => ?_⟩
  obtain ⟨earlier,inside,made⟩ := holds.named row member
  exact ⟨earlier,List.mem_append_left _ inside,made⟩

theorem enqueue_known (holds : Holds number done db) (nonempty : ∀ request ∈ done, request.messageId ≠ "")
    (known : firstOf number done request.idempotencyKey = some row) :
    enqueue number db request = some (row.messageId,db) ∧ Holds number (done ++ [request]) db := by
  have stored := holds.rows request.idempotencyKey
  rw [known] at stored
  constructor
  · obtain ⟨first,member,_,made⟩ := firstOf_some known
    have named : row.messageId ≠ "" := by
      rw [(message_fields made).1]
      exact nonempty first member
    simp only [enqueue,find_withKey,stored]
    exact if_pos named
  · refine holds.more (funext fun key => ?_)
    rw [firstOf_snoc]
    by_cases same : request.idempotencyKey = key
    · subst key; simp [known]
    · simp [same]

theorem enqueue_absent (holds : Holds number done db) (unknown : firstOf number done request.idempotencyKey = none) :
    enqueue number db request = (dumps number request.payload).bind fun payload =>
      (insertMessage db request.messageId request.destination request.idempotencyKey payload request.now).map
        fun next => (request.messageId,next) := by
  have empty := holds.rows request.idempotencyKey
  rw [unknown] at empty
  simp only [enqueue,find_withKey,empty,Option.toList_none,List.head?_nil]

theorem enqueue_unwritten (holds : Holds number done db) (unknown : firstOf number done request.idempotencyKey = none)
    (unwritten : message number request = none) :
    enqueue number db request = none ∧ Holds number (done ++ [request]) db := by
  have refused : dumps number request.payload = none := Option.map_eq_none_iff.mp unwritten
  constructor
  · rw [enqueue_absent holds unknown,refused]
    rfl
  · refine holds.more (funext fun key => ?_)
    rw [firstOf_snoc,unwritten]
    simp

theorem enqueue_new (holds : Holds number done db) (fresh : request.messageId ∉ done.map (·.messageId))
    (unknown : firstOf number done request.idempotencyKey = none) (made : message number request = some row) :
    ∃ next, enqueue number db request = some (request.messageId,next) ∧ Holds number (done ++ [request]) next := by
  have absent : (db.rows.any fun row => decide (row.idempotencyKey = request.idempotencyKey)) = false := by
    have empty := holds.rows request.idempotencyKey
    rw [unknown] at empty
    rw [List.any_eq_false]
    exact List.filter_eq_nil_iff.mp empty
  have unused : db.find row.messageId = none := by
    rw [Table.find_none_iff]
    intro member
    obtain ⟨other,inside,same⟩ := List.mem_map.mp member
    obtain ⟨earlier,before,also⟩ := holds.named other inside
    have shared : earlier.messageId = request.messageId :=
      (message_fields also).1.symm.trans (same.trans (message_fields made).1)
    exact fresh (List.mem_map.mpr ⟨earlier,before,shared⟩)
  obtain ⟨next,inserted⟩ := Table.insert_of_fresh unused
  have rows : next.rows = db.rows ++ [row] := by
    unfold Table.insert at inserted
    split at inserted
    · cases Option.some.inj inserted; rfl
    · cases inserted
  refine ⟨next,?_,fun key => ?_,fun other member => ?_⟩
  · obtain ⟨payload,written,rfl⟩ := Option.map_eq_some_iff.mp made
    rw [enqueue_absent holds unknown,written,Option.bind_some,insertMessage,absent]
    exact congrArg (Option.map fun next => (request.messageId,next)) inserted
  · have before := holds.rows key
    have keyed := (message_fields made).2.2.1
    unfold withKey at before ⊢
    rw [rows,List.filter_append,before,firstOf_snoc]
    by_cases same : request.idempotencyKey = key
    · subst key
      simp [unknown,made,keyed]
    · simp [same,keyed]
  · rw [rows] at member
    rcases List.mem_append.mp member with inside | last
    · obtain ⟨earlier,before,also⟩ := holds.named other inside
      exact ⟨earlier,List.mem_append_left _ before,also⟩
    · rw [List.mem_singleton.mp last]
      exact ⟨request,List.mem_append_right _ List.mem_cons_self,made⟩

theorem enqueue_holds (holds : Holds number done db) (identified : Identified (done ++ [request])) :
    (enqueue number db request).map Prod.fst =
        (firstOf number (done ++ [request]) request.idempotencyKey).map OutboxMessage.messageId ∧
      Holds number (done ++ [request]) (((enqueue number db request).map Prod.snd).getD db) := by
  rw [firstOf_snoc,if_pos rfl]
  cases known : firstOf number done request.idempotencyKey with
  | some row =>
    obtain ⟨called,held⟩ :=
      enqueue_known holds (fun earlier member => identified.nonempty earlier (List.mem_append_left _ member)) known
    rw [called]
    exact ⟨rfl,held⟩
  | none =>
    cases made : message number request with
    | none =>
      obtain ⟨called,held⟩ := enqueue_unwritten holds known made
      rw [called]
      exact ⟨rfl,held⟩
    | some row =>
      have fresh : request.messageId ∉ done.map (·.messageId) := by
        intro member
        have distinct := identified.distinct
        rw [List.map_append,List.nodup_append] at distinct
        exact distinct.2.2 _ member _ (by simp) rfl
      obtain ⟨next,called,held⟩ := enqueue_new holds fresh known made
      rw [called,Option.none_or,Option.map_some,Option.map_some,(message_fields made).1]
      exact ⟨rfl,held⟩

theorem Identified.initial (identified : Identified (done ++ rest)) : Identified done := by
  refine ⟨fun request member => identified.nonempty request (List.mem_append_left _ member),?_⟩
  have distinct := identified.distinct
  rw [List.map_append] at distinct
  exact (List.nodup_append.mp distinct).1

theorem enqueueAll_holds (holds : Holds number done db) (identified : Identified (done ++ rest)) :
    Holds number (done ++ rest) (enqueueAll number db rest) := by
  induction rest generalizing done db with
  | nil =>
    rw [List.append_nil]
    exact holds
  | cons request rest ih =>
    have split : done ++ request :: rest = (done ++ [request]) ++ rest := by simp
    rw [split] at identified ⊢
    exact ih (enqueue_holds holds identified.initial).2 identified

theorem holds_start : Holds number ([] : List (Request ω)) Table.empty :=
  ⟨fun _ => rfl,fun _ member => (nomatch member)⟩

theorem withPair_eq (db : Database) (destination key : String) :
    withPair db destination key = (withKey db key).filter fun row => decide (row.destination = destination) := by
  unfold withPair withKey
  rw [List.filter_filter]
  simp

theorem firstOfPair_of_firstOf (found : firstOf number requests key = some row) :
    firstOfPair number requests row.destination key = some row := by
  unfold firstOf at found
  unfold firstOfPair
  induction requests with
  | nil => cases found
  | cons request rest ih =>
    rw [List.findSome?_cons] at found ⊢
    by_cases named : request.idempotencyKey = key
    · rw [if_pos named] at found
      cases made : message number request with
      | none =>
        rw [made] at found
        rw [ite_self]
        exact ih found
      | some first =>
        rw [made] at found
        cases Option.some.inj found
        rw [if_pos ⟨(message_fields made).2.1.symm,named⟩]
    · rw [if_neg named] at found
      rw [if_neg fun both => named both.2]
      exact ih found

theorem keepsPair_iff (holds : Holds number requests db) (destination key : String) :
    KeepsPair number requests db destination key ↔
      ∃ first, firstOf number requests key = some first ∧ first.destination = destination := by
  have stored := holds.rows key
  unfold KeepsPair
  rw [withPair_eq,stored]
  constructor
  · rintro ⟨kept,_,pair,_⟩
    cases found : firstOf number requests key with
    | none => rw [found] at pair; cases pair
    | some first =>
      refine ⟨first,rfl,?_⟩
      by_contra other
      simp [found,other] at pair
  · rintro ⟨first,found,rfl⟩
    refine ⟨first,first,?_,firstOfPair_of_firstOf found,rfl⟩
    simp [found]

end Calls

-- Each call returns the identifier of its key's message, or raises when no
-- payload of the key could be written so far. After all of them each key has
-- the message of its first call that can be written, and no other; the message
-- of a pair is kept exactly when that call has its destination.
theorem first_call_of_each_key_is_kept (number : PyNumber → Text) (requests : List (Request ω))
    (identified : Identified requests) :
    (∀ earlier request later, requests = earlier ++ request :: later →
      (enqueue number (enqueueAll number Table.empty earlier) request).map Prod.fst =
        (firstOf number (earlier ++ [request]) request.idempotencyKey).map OutboxMessage.messageId) ∧
    ∀ key, withKey (enqueueAll number Table.empty requests) key = (firstOf number requests key).toList ∧
      ∀ destination, KeepsPair number requests (enqueueAll number Table.empty requests) destination key ↔
        ∃ first, firstOf number requests key = some first ∧ first.destination = destination := by
  constructor
  · intro earlier request later split
    have upTo : Identified (earlier ++ [request]) := by
      rw [split,← List.singleton_append,← List.append_assoc] at identified
      exact identified.initial
    exact (enqueue_holds (enqueueAll_holds holds_start (by simpa using upTo.initial)) upTo).1
  · intro key
    have holds : Holds number requests (enqueueAll number Table.empty requests) :=
      enqueueAll_holds holds_start identified
    exact ⟨holds.rows key,fun destination => keepsPair_iff holds destination key⟩

def stage : List (Key Empty × Value Empty) := [(.str (str "stage"),.str (str "released"))]

def released : FactoryEvent Empty :=
  ⟨"factory.release","factory","tenant-a","w-1",stage,"1.0",by decide +kernel,by decide⟩

def releasedKey : String := (released.idempotencyKey
  (fun _ => "b8cfb156f1d102d03fb6f06a0e21763f09ec05f3d6a22dd836c78b064343337d") numberText).getD ""

def fanOut : List (Request Empty) :=
  [⟨"m-1","aria",releasedKey,.dict stage,0⟩,⟨"m-2","agent-gateway",releasedKey,.dict stage,0⟩]

theorem fanOut_identified : Identified fanOut := ⟨by decide,by decide⟩

theorem stage_written : ∃ payload, dumps numberText (.dict stage) = some payload := ⟨_,rfl⟩

theorem fanOut_first : ∃ payload, firstOf numberText fanOut releasedKey =
    some ⟨"m-1","aria",releasedKey,payload,.pending,0,0,""⟩ := by
  obtain ⟨payload,written⟩ := stage_written
  exact ⟨payload,by simp [firstOf,fanOut,message,written]⟩

theorem fanOut_keeps_first :
    KeepsPair numberText fanOut (enqueueAll numberText Table.empty fanOut) "aria" releasedKey := by
  obtain ⟨payload,first⟩ := fanOut_first
  exact (((first_call_of_each_key_is_kept numberText fanOut fanOut_identified).2 releasedKey).2 "aria").mpr ⟨_,first,rfl⟩

theorem fanOut_loses_second :
    ∃ request ∈ fanOut, ¬ KeepsPair numberText fanOut (enqueueAll numberText Table.empty fanOut) request.destination
      request.idempotencyKey := by
  refine ⟨⟨"m-2","agent-gateway",releasedKey,.dict stage,0⟩,by simp [fanOut],?_⟩
  have holds : Holds numberText fanOut (enqueueAll numberText Table.empty fanOut) :=
    enqueueAll_holds holds_start fanOut_identified
  obtain ⟨payload,first⟩ := fanOut_first
  rw [keepsPair_iff holds]
  rintro ⟨other,found,sent⟩
  cases Option.some.inj (first.symm.trans found)
  simp at sent

end OpenModelOps.IntegrationEnqueue
