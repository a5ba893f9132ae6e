import OpenModelOps.IntegrationDelivery
import OpenModelOps.IntegrationEnqueue

namespace OpenModelOps.IntegrationIdempotence
open KeyedTable PythonNumber PythonText PythonValue JsonText RunHistory IntegrationOutbox IntegrationDelivery IntegrationEnqueue

-- Calls of enqueue that run side by side with one destination, key and payload.
-- The payload is what json.dumps makes of it: none if it raises. uuid4 gives
-- each call its own identifier.
structure Calls (n : Nat) where
  destination : String
  idempotencyKey : String
  payload : Option String
  messageId : Fin n → String

inductive Caller where
  | waiting | inserting
  | returned (messageId : String)
  | raised
  deriving DecidableEq

structure State (n : Nat) where
  db : Database
  callers : Fin n → Caller

inductive Event (n : Nat) where
  | lookup (caller : Fin n)
  | insert (caller : Fin n) (now : Instant)

def start (n : Nat) (db : Database) : State n := ⟨db,fun _ => .waiting⟩

def place (s : State n) (caller : Fin n) (next : Caller) : State n :=
  {s with callers := Function.update s.callers caller next}

-- scalar_one_or_none, and whether its answer is a text that is not empty.
def existing (db : Database) (key : String) : Caller :=
  match db.rows.find? fun row => decide (row.idempotencyKey = key) with
  | some row => if row.messageId ≠ "" then .returned row.messageId else .inserting
  | none => .inserting

def step (calls : Calls n) (s : State n) : Event n → Option (State n)
  | .lookup caller => match s.callers caller with
    | .waiting => some (place s caller (existing s.db calls.idempotencyKey))
    | _ => none
  | .insert caller now => match s.callers caller with
    | .inserting =>
      some (match calls.payload.bind fun payload =>
          insertMessage s.db (calls.messageId caller) calls.destination calls.idempotencyKey payload now with
        | some db => ⟨db,Function.update s.callers caller (.returned (calls.messageId caller))⟩
        | none => place s caller .raised)
    | _ => none

variable {n : Nat} {calls : Calls n} {s next : State n} {event : Event n} {events : List (Event n)} {db : Database}
  {caller : Fin n} {key : String}

@[simp] theorem place_db (s : State n) (caller : Fin n) (after : Caller) : (place s caller after).db = s.db := rfl

@[simp] theorem place_self (s : State n) (caller : Fin n) (after : Caller) : (place s caller after).callers caller = after := by
  simp [place]

theorem place_other {other : Fin n} (s : State n) (after : Caller) (apart : other ≠ caller) :
    (place s caller after).callers other = s.callers other := by
  simp [place,apart]

theorem place_place (s : State n) (caller : Fin n) (before after : Caller) (db : Database) :
    place {place s caller before with db := db} caller after = place {s with db := db} caller after := by
  simp [place]

def answered (s : State n) (caller : Fin n) : Option (String × Database) → State n
  | some (messageId,db) => place {s with db := db} caller (.returned messageId)
  | none => place s caller .raised

theorem enqueue_existing {ω : Type} (number : PyNumber → Text) (db : Database) (request : Request ω) :
    (∃ stored, existing db request.idempotencyKey = .returned stored ∧ enqueue number db request = some (stored,db)) ∨
    (existing db request.idempotencyKey = .inserting ∧ enqueue number db request =
      ((dumps number request.payload).bind fun payload => insertMessage db request.messageId request.destination
        request.idempotencyKey payload request.now).map fun next => (request.messageId,next)) := by
  unfold existing enqueue
  rw [Option.map_bind]
  cases db.rows.find? fun row => decide (row.idempotencyKey = request.idempotencyKey) with
  | none => exact .inr ⟨rfl,rfl⟩
  | some row =>
    by_cases named : row.messageId ≠ ""
    · exact .inl ⟨row.messageId,if_pos named,if_pos named⟩
    · exact .inr ⟨if_neg named,if_neg named⟩

theorem enqueue_alone {ω : Type} (number : PyNumber → Text) (request : Request ω) (messageId : Fin n → String)
    (drawn : messageId caller = request.messageId) (waiting : s.callers caller = .waiting) :
    ∃ events, Runs (step ⟨request.destination,request.idempotencyKey,dumps number request.payload,messageId⟩) s events
      (answered s caller (enqueue number s.db request)) := by
  rcases enqueue_existing number s.db request with ⟨stored,found,enqueued⟩ | ⟨missing,enqueued⟩
  · refine ⟨[.lookup caller],.single ?_⟩
    simp only [step,waiting,found,enqueued,answered]
  · refine ⟨[.lookup caller,.insert caller request.now],.take (t := place s caller .inserting) ?_ (.single ?_)⟩
    · simp only [step,waiting,missing]
    · have inserting := place_self s caller .inserting
      simp only [step,inserting,drawn,place_db,enqueued]
      cases (dumps number request.payload).bind fun payload => insertMessage s.db request.messageId request.destination
        request.idempotencyKey payload request.now with
      | some db => exact congrArg some (place_place s caller .inserting _ db)
      | none => exact congrArg some (place_place s caller .inserting _ s.db)

structure Sound (calls : Calls n) (s : State n) : Prop where
  single : (withKey s.db calls.idempotencyKey).length ≤ 1
  named : ∀ row ∈ s.db.rows, row.messageId ≠ ""
  unused : ∀ caller, s.callers caller = .waiting ∨ s.callers caller = .inserting →
    s.db.find (calls.messageId caller) = none
  nonempty : ∀ caller, calls.messageId caller ≠ ""
  distinct : Function.Injective calls.messageId

inductive Steps (calls : Calls n) (s : State n) : Event n → State n → Prop where
  | missed {caller : Fin n} : s.callers caller = .waiting → withKey s.db calls.idempotencyKey = [] →
      Steps calls s (.lookup caller) (place s caller .inserting)
  | found {caller : Fin n} {row : OutboxMessage} : s.callers caller = .waiting → withKey s.db calls.idempotencyKey = [row] →
      Steps calls s (.lookup caller) (place s caller (.returned row.messageId))
  | inserted {caller : Fin n} {row : OutboxMessage} {db : Database} {now : Instant} : s.callers caller = .inserting →
      calls.payload.isSome = true → withKey s.db calls.idempotencyKey = [] → row.messageId = calls.messageId caller →
      row.idempotencyKey = calls.idempotencyKey → db.rows = s.db.rows ++ [row] →
      Steps calls s (.insert caller now) (place {s with db := db} caller (.returned (calls.messageId caller)))
  | refused {caller : Fin n} {now : Instant} : s.callers caller = .inserting →
      calls.payload = none ∨ (∃ row, withKey s.db calls.idempotencyKey = [row]) →
      Steps calls s (.insert caller now) (place s caller .raised)

theorem withKey_cases (single : (withKey db key).length ≤ 1) :
    withKey db key = [] ∨ ∃ row, withKey db key = [row] := by
  match shown : withKey db key with
  | [] => exact .inl rfl
  | [row] => exact .inr ⟨row,rfl⟩
  | _ :: _ :: _ =>
    rw [shown] at single
    simp at single

theorem insertMessage_absent {messageId destination payload : String} {now : Instant} (absent : withKey db key = [])
    (unused : db.find messageId = none) : ∃ after row, insertMessage db messageId destination key payload now = some after ∧
      row.messageId = messageId ∧ row.idempotencyKey = key ∧ after.rows = db.rows ++ [row] := by
  have unkeyed : (db.rows.any fun row => decide (row.idempotencyKey = key)) = false := by
    rw [List.any_eq_false]
    exact List.filter_eq_nil_iff.mp absent
  have fresh := Table.find_none_iff.mp unused
  refine ⟨⟨_,snoc_unique db.unique fresh⟩,⟨messageId,destination,key,payload,.pending,0,now,""⟩,?_,rfl,rfl,rfl⟩
  rw [insertMessage,unkeyed]
  exact dif_pos fresh

theorem insertMessage_present {messageId destination payload : String} {now : Instant} (present : withKey db key = [row]) :
    insertMessage db messageId destination key payload now = none := by
  have member : row ∈ withKey db key := by simp [present]
  obtain ⟨inside,keyed⟩ := List.mem_filter.mp member
  exact if_pos (List.any_eq_true.mpr ⟨row,inside,keyed⟩)

theorem existing_absent (absent : withKey db key = []) : existing db key = .inserting := by
  simp [existing,find_withKey,absent]

theorem existing_present (present : withKey db key = [row]) (named : row.messageId ≠ "") :
    existing db key = .returned row.messageId := by
  simp [existing,find_withKey,present,named]

theorem step_steps (sound : Sound calls s) (taken : step calls s event = some next) : Steps calls s event next := by
  rcases withKey_cases sound.single with absent | ⟨row,present⟩
  · cases event with
    | lookup caller =>
      simp only [step] at taken
      split at taken
      · rename_i waiting
        rw [existing_absent absent] at taken
        cases taken
        exact .missed waiting absent
      · cases taken
    | insert caller now =>
      simp only [step] at taken
      split at taken
      · rename_i inserting
        cases written : calls.payload with
        | none =>
          rw [written] at taken
          cases taken
          exact .refused inserting (.inl written)
        | some payload =>
          obtain ⟨after,row,inserted,named,keyed,rows⟩ := @insertMessage_absent s.db calls.idempotencyKey
            (calls.messageId caller) calls.destination payload now absent (sound.unused caller (.inr inserting))
          rw [written,Option.bind_some,inserted] at taken
          cases taken
          exact .inserted inserting (by rw [written]; rfl) absent named keyed rows
      · cases taken
  · cases event with
    | lookup caller =>
      have named : row.messageId ≠ "" :=
        sound.named row (List.mem_filter.mp (show row ∈ withKey s.db calls.idempotencyKey by simp [present])).1
      simp only [step] at taken
      split at taken
      · rename_i waiting
        rw [existing_present present named] at taken
        cases taken
        exact .found waiting present
      · cases taken
    | insert caller now =>
      simp only [step] at taken
      split at taken
      · rename_i inserting
        simp only [insertMessage_present present,Option.bind_fun_none] at taken
        cases taken
        exact .refused inserting (.inr ⟨row,present⟩)
      · cases taken

theorem withKey_extended {row : OutboxMessage} {after : Database} (absent : withKey db key = []) (keyed : row.idempotencyKey = key)
    (rows : after.rows = db.rows ++ [row]) : withKey after key = [row] := by
  unfold withKey at absent ⊢
  rw [rows,List.filter_append,absent]
  simp [keyed]

theorem Sound.placed {after : Caller} (sound : Sound calls s) (waits : after = .waiting ∨ after = .inserting →
    s.db.find (calls.messageId caller) = none) : Sound calls (place s caller after) := by
  refine ⟨sound.single,sound.named,?_,sound.nonempty,sound.distinct⟩
  intro slot busy
  by_cases here : slot = caller
  · subst slot
    rw [place_self] at busy
    exact waits busy
  · rw [place_other s after here] at busy
    exact sound.unused slot busy

theorem steps_sound (sound : Sound calls s) (steps : Steps calls s event next) : Sound calls next := by
  cases steps with
  | missed waiting _ => exact sound.placed fun _ => sound.unused _ (.inl waiting)
  | found _ _ => exact sound.placed (by simp)
  | @inserted caller row db now _ _ absent named keyed rows =>
    refine ⟨?_,?_,?_,sound.nonempty,sound.distinct⟩
    · rw [place_db,withKey_extended absent keyed rows]
      exact Nat.le_refl 1
    · intro other member
      rw [place_db,rows] at member
      rcases List.mem_append.mp member with old | new
      · exact sound.named other old
      · rw [List.mem_singleton.mp new,named]
        exact sound.nonempty caller
    · intro slot busy
      have apart : slot ≠ caller := by
        intro same
        subst slot
        simp at busy
      rw [place_other _ _ apart] at busy
      have absent := Table.find_none_iff.mp (sound.unused slot busy)
      rw [place_db,Table.find_none_iff,rows,List.map_append,List.mem_append,not_or]
      refine ⟨absent,?_⟩
      rw [List.map_singleton,List.mem_singleton,named]
      exact fun same => apart (sound.distinct same)
  | refused _ _ => exact sound.placed (by simp)

def Idempotent (calls : Calls n) (s : State n) : Prop :=
  ∃ row, withKey s.db calls.idempotencyKey = [row] ∧ ∀ caller, s.callers caller = .returned row.messageId

def Settled (s : State n) : Prop := ∀ caller, s.callers caller ≠ .waiting ∧ s.callers caller ≠ .inserting

-- No call looks the key up while another stands between a look that found
-- nothing and its INSERT.
def Alone (s : State n) : Event n → Prop
  | .lookup _ => ∀ other, s.callers other ≠ .inserting
  | .insert _ _ => True

def Storable (calls : Calls n) (db : Database) : Prop :=
  calls.payload.isSome = true ∨ ∃ row, withKey db calls.idempotencyKey = [row]

inductive Quiet (calls : Calls n) (s : State n) : Prop where
  | absent : calls.payload.isSome = true → withKey s.db calls.idempotencyKey = [] →
      (∀ caller, s.callers caller = .waiting ∨ s.callers caller = .inserting) →
      (∀ caller other, s.callers caller = .inserting → s.callers other = .inserting → caller = other) → Quiet calls s
  | present {row : OutboxMessage} : withKey s.db calls.idempotencyKey = [row] →
      (∀ caller, s.callers caller = .waiting ∨ s.callers caller = .returned row.messageId) → Quiet calls s

theorem steps_quiet (quiet : Quiet calls s) (alone : Alone s event) (steps : Steps calls s event next) :
    Quiet calls next := by
  cases quiet with
  | absent written missing busy single =>
    cases steps with
    | @missed caller waiting _ =>
      refine .absent written missing ?_ ?_
      · intro slot
        by_cases here : slot = caller
        · exact .inr (by rw [here,place_self])
        · rw [place_other s _ here]
          exact busy slot
      · have only : ∀ slot, (place s caller .inserting).callers slot = .inserting → slot = caller := by
          intro slot inserting
          by_contra apart
          rw [place_other s _ apart] at inserting
          exact alone slot inserting
        exact fun left right first second => (only left first).trans (only right second).symm
    | found _ present => rw [missing] at present; cases present
    | @inserted caller row db now inserting _ _ named keyed rows =>
      refine .present (withKey_extended missing keyed rows) ?_
      intro slot
      by_cases here : slot = caller
      · exact .inr (by rw [here,place_self,named])
      · rw [place_other _ _ here]
        rcases busy slot with waiting | also
        · exact .inl waiting
        · exact absurd (single slot caller also inserting) here
    | refused _ either =>
      rcases either with unwritten | ⟨row,present⟩
      · rw [unwritten] at written; cases written
      · rw [missing] at present; cases present
  | @present row stored settled =>
    have idle : ∀ slot, s.callers slot ≠ .inserting := by
      intro slot inserting
      rcases settled slot with busy | busy <;> rw [inserting] at busy <;> cases busy
    cases steps with
    | missed _ missing => rw [stored] at missing; cases missing
    | @found caller other waiting present =>
      rw [stored] at present
      cases present
      refine .present stored ?_
      intro slot
      by_cases here : slot = caller
      · exact .inr (by rw [here,place_self])
      · rw [place_other s _ here]
        exact settled slot
    | inserted inserting _ => exact absurd inserting (idle _)
    | refused inserting _ => exact absurd inserting (idle _)

inductive Doomed (calls : Calls n) (s : State n) : Prop where
  | failed (caller : Fin n) : s.callers caller = .raised → Doomed calls s
  | late (caller : Fin n) {row : OutboxMessage} : s.callers caller = .inserting →
      withKey s.db calls.idempotencyKey = [row] → Doomed calls s
  | rivals (caller other : Fin n) : caller ≠ other → s.callers caller = .inserting → s.callers other = .inserting →
      Doomed calls s

theorem steps_doomed (doomed : Doomed calls s) (steps : Steps calls s event next) : Doomed calls next := by
  have kept : ∀ {caller slot : Fin n} {before after : Caller} {db : Database}, s.callers caller = before →
      s.callers slot ≠ before → (place {s with db := db} slot after).callers caller = before := by
    intro caller slot before after db held other
    have apart : caller ≠ slot := fun same => other (same ▸ held)
    rw [place_other _ _ apart]
    exact held
  cases doomed with
  | failed caller raised =>
    cases steps with
    | missed waiting _ => exact .failed caller (kept raised (by simp [waiting]))
    | found waiting _ => exact .failed caller (kept raised (by simp [waiting]))
    | inserted inserting _ _ _ _ _ => exact .failed caller (kept raised (by simp [inserting]))
    | refused inserting _ => exact .failed caller (kept raised (by simp [inserting]))
  | late caller inserting present =>
    cases steps with
    | missed _ missing => rw [present] at missing; cases missing
    | found waiting _ => exact .late caller (kept inserting (by simp [waiting])) present
    | inserted _ _ missing _ _ _ => rw [present] at missing; cases missing
    | @refused slot _ _ _ => exact .failed slot (place_self s slot .raised)
  | rivals caller other apart first second =>
    cases steps with
    | missed waiting _ =>
      exact .rivals caller other apart (kept first (by simp [waiting])) (kept second (by simp [waiting]))
    | found waiting _ =>
      exact .rivals caller other apart (kept first (by simp [waiting])) (kept second (by simp [waiting]))
    | @inserted slot row db now _ _ missing named keyed rows =>
      have present := withKey_extended missing keyed rows
      by_cases here : caller = slot
      · subst slot
        exact .late other (by rw [place_other _ _ (Ne.symm apart)]; exact second) present
      · exact .late caller (by rw [place_other _ _ here]; exact first) present
    | @refused slot _ _ _ => exact .failed slot (place_self s slot .raised)

-- The step that breaks the promise: a look next to a call that is about to insert.
theorem steps_rivals {other : Fin n} (inserting : s.callers other = .inserting)
    (steps : Steps calls s (.lookup caller) next) : Doomed calls next := by
  have apart : ∀ {slot}, s.callers slot = .waiting → other ≠ slot := by
    intro slot waiting same
    subst slot
    rw [inserting] at waiting
    cases waiting
  cases steps with
  | missed waiting _ =>
    exact .rivals other caller (apart waiting) (by rw [place_other s _ (apart waiting)]; exact inserting) (place_self s _ _)
  | found waiting present =>
    exact .late other (by rw [place_other s _ (apart waiting)]; exact inserting) present

theorem doomed_ends (doomed : Doomed calls s) (settled : Settled s) : ¬ Idempotent calls s := by
  intro idempotent
  obtain ⟨row,_,returned⟩ := idempotent
  cases doomed with
  | failed caller raised =>
    rw [returned caller] at raised
    cases raised
  | late caller inserting _ => exact (settled caller).2 inserting
  | rivals caller other _ inserting _ => exact (settled caller).2 inserting

structure Ready (calls : Calls n) (db : Database) : Prop where
  single : (withKey db calls.idempotencyKey).length ≤ 1
  named : ∀ row ∈ db.rows, row.messageId ≠ ""
  unused : ∀ caller, db.find (calls.messageId caller) = none
  nonempty : ∀ caller, calls.messageId caller ≠ ""
  distinct : Function.Injective calls.messageId

theorem Ready.sound (ready : Ready calls db) : Sound calls (start n db) :=
  ⟨ready.single,ready.named,fun caller _ => ready.unused caller,ready.nonempty,ready.distinct⟩

theorem Ready.quiet (ready : Ready calls db) (storable : Storable calls db) : Quiet calls (start n db) := by
  rcases withKey_cases ready.single with absent | ⟨row,present⟩
  · have written : calls.payload.isSome = true := by
      rcases storable with written | ⟨row,present⟩
      · exact written
      · rw [absent] at present; cases present
    refine .absent written absent (fun _ => .inl rfl) ?_
    intro caller other inserting
    cases inserting
  · exact .present present fun _ => .inl rfl

theorem run_sound (ready : Ready calls db) (path : Runs (step calls) (start n db) events s) : Sound calls s :=
  path.invariant (fun sound taken => steps_sound sound (step_steps sound taken)) ready.sound

theorem run_quiet (ready : Ready calls db) (storable : Storable calls db) (path : Runs (step calls) (start n db) events s)
    (alone : Throughout (step calls) Alone (start n db) events) : Quiet calls s := by
  have preserved : ∀ {before event after}, Sound calls before ∧ Quiet calls before → Alone before event →
      step calls before event = some after → Sound calls after ∧ Quiet calls after := by
    intro before event after held meets taken
    have steps := step_steps held.1 taken
    exact ⟨steps_sound held.1 steps,steps_quiet held.2 meets steps⟩
  exact (path.invariant_under preserved alone ⟨ready.sound,ready.quiet storable⟩).2

theorem run_unwritten (ready : Ready calls db) (unwritten : calls.payload = none)
    (absent : withKey db calls.idempotencyKey = []) (path : Runs (step calls) (start n db) events s) :
    withKey s.db calls.idempotencyKey = [] := by
  have preserved : ∀ {before event after}, Sound calls before ∧ withKey before.db calls.idempotencyKey = [] →
      step calls before event = some after → Sound calls after ∧ withKey after.db calls.idempotencyKey = [] := by
    intro before event after held taken
    have steps := step_steps held.1 taken
    refine ⟨steps_sound held.1 steps,?_⟩
    cases steps with
    | missed _ _ => exact held.2
    | found _ _ => exact held.2
    | inserted _ written _ _ _ _ => rw [unwritten] at written; cases written
    | refused _ _ => exact held.2
  exact (path.invariant preserved ⟨ready.sound,absent⟩).2

theorem run_doomed (sound : Sound calls s) (doomed : Doomed calls s) (path : Runs (step calls) s events next) :
    Doomed calls next := by
  have preserved : ∀ {before event after}, Sound calls before ∧ Doomed calls before →
      step calls before event = some after → Sound calls after ∧ Doomed calls after := by
    intro before event after held taken
    have steps := step_steps held.1 taken
    exact ⟨steps_sound held.1 steps,steps_doomed held.2 steps⟩
  exact (path.invariant preserved ⟨sound,doomed⟩).2

theorem quiet_ends {calls : Calls (n + 1)} {s : State (n + 1)} (quiet : Quiet calls s) (settled : Settled s) :
    Idempotent calls s := by
  cases quiet with
  | absent _ _ busy _ =>
    rcases busy 0 with waiting | inserting
    · exact absurd waiting (settled 0).1
    · exact absurd inserting (settled 0).2
  | @present row stored answered =>
    refine ⟨row,stored,?_⟩
    intro caller
    rcases answered caller with waiting | returned
    · exact absurd waiting (settled caller).1
    · exact returned

theorem idempotent_storable {calls : Calls n} (ready : Ready calls db) (path : Runs (step calls) (start n db) events s)
    (idempotent : Idempotent calls s) : Storable calls db := by
  rcases withKey_cases ready.single with absent | present
  · cases written : calls.payload with
    | none =>
      obtain ⟨row,stored,_⟩ := idempotent
      rw [run_unwritten ready written absent path] at stored
      cases stored
    | some payload => exact .inl (by rw [written]; rfl)
  · exact .inr present

theorem idempotent_alone {calls : Calls n} (ready : Ready calls db) (path : Runs (step calls) (start n db) events s)
    (settled : Settled s) (idempotent : Idempotent calls s) : Throughout (step calls) Alone (start n db) events := by
  intro earlier event later middle split before
  cases event with
  | insert caller now => trivial
  | lookup caller =>
    intro other inserting
    subst split
    obtain ⟨reached,first,rest⟩ := path.parts
    cases first.unique before
    cases rest with
    | take taken remaining =>
      have sound := run_sound ready before
      have steps := step_steps sound taken
      have doomed := run_doomed (steps_sound sound steps) (steps_rivals inserting steps) remaining
      exact doomed_ends doomed settled idempotent

theorem enqueue_idempotent_iff {calls : Calls (n + 1)} (ready : Ready calls db) (events : List (Event (n + 1)))
    (s : State (n + 1)) (path : Runs (step calls) (start (n + 1) db) events s) (settled : Settled s) :
    Idempotent calls s ↔ Storable calls db ∧ Throughout (step calls) Alone (start (n + 1) db) events := by
  constructor
  · intro idempotent
    exact ⟨idempotent_storable ready path idempotent,idempotent_alone ready path settled idempotent⟩
  · rintro ⟨storable,alone⟩
    exact quiet_ends (run_quiet ready storable path alone) settled

def earlier : Fin 2 := ⟨0,Nat.two_pos⟩
def later : Fin 2 := ⟨1,Nat.one_lt_two⟩

def pair : Calls 2 := ⟨"aria","k-1",some "\x7b\x7d",fun caller => if caller = earlier then "m-1" else "m-2"⟩

theorem pair_ready : Ready pair Table.empty where
  single := by decide
  named := by
    intro row member
    cases member
  unused := fun _ => rfl
  nonempty := by decide
  distinct := by
    unfold Function.Injective
    decide

def inTurn : List (Event 2) := [.lookup earlier,.insert earlier 1,.lookup later]

def crossed : List (Event 2) := [.lookup earlier,.lookup later,.insert earlier 1,.insert later 2]

instance decideAlone (s : State n) : (event : Event n) → Decidable (Alone s event)
  | .lookup _ => inferInstanceAs (Decidable (∀ other, s.callers other ≠ .inserting))
  | .insert _ _ => .isTrue trivial

instance decideSettled (s : State n) : Decidable (Settled s) :=
  inferInstanceAs (Decidable (∀ _, _ ∧ _))

theorem in_turn_idempotent : ∃ s, Runs (step pair) (start 2 Table.empty) inTurn s ∧ Idempotent pair s := by
  have consumed : (consume (step pair) (start 2 Table.empty) inTurn).map (fun s => decide (Settled s)) = some true := by
    decide +kernel
  obtain ⟨s,taken,settled⟩ := Option.map_eq_some_iff.mp consumed
  have path := consume_exact.mp taken
  have alone : Throughout (step pair) Alone (start 2 Table.empty) inTurn := by decide +kernel
  exact ⟨s,path,(enqueue_idempotent_iff pair_ready inTurn s path (of_decide_eq_true settled)).mpr
    ⟨.inl rfl,alone⟩⟩

theorem crossed_raises : ¬ ∀ (n : Nat) (calls : Calls (n + 1)) (db : Database), Ready calls db →
    ∀ (events : List (Event (n + 1))) (s : State (n + 1)), Runs (step calls) (start (n + 1) db) events s → Settled s →
      Idempotent calls s := by
  intro idempotent
  have consumed : (consume (step pair) (start 2 Table.empty) crossed).map
      (fun s => (decide (Settled s),s.callers later)) = some (true,.raised) := by decide +kernel
  obtain ⟨s,taken,ends⟩ := Option.map_eq_some_iff.mp consumed
  obtain ⟨settled,raised⟩ := Prod.mk.inj ends
  obtain ⟨row,_,returned⟩ := idempotent 1 pair Table.empty pair_ready crossed s (consume_exact.mp taken)
    (of_decide_eq_true settled)
  rw [returned later] at raised
  cases raised

end OpenModelOps.IntegrationIdempotence
