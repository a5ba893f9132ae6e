import OpenModelOps.MlopsConcurrency
import OpenModelOps.Raising

namespace OpenModelOps.MlopsRequests
open KeyedTable PythonFloat PythonText MlopsDomain MlopsStore RunHistory

structure CreateRun where
  modelName : String
  datasetDigest : String
  codeRevision : String
  owner : String

def CreateRun.run (request : CreateRun) (runId : String) : ModelRun :=
  .fresh runId request.modelName request.datasetDigest request.codeRevision request.owner

-- A request on a run that exists, with its If-Match header.
structure Post where
  runId : String
  call : Call
  ifMatch : Int

-- The method of the run behind the endpoint. What raises is not saved.
def attempt (repr : PyFloat → String) (run : ModelRun) : Call → Except String ModelRun
  | .transition target actor reason now => run.transition target actor reason now
  | .recordEvaluation metrics artifactDigest policy actor now =>
    let (next,result) := run.recordEvaluation repr metrics artifactDigest policy actor now
    result.map fun _ => next

inductive Client where
  | idle
  | changed (run : ModelRun) (revision : Int)
  | saving (run : ModelRun) (plan : Plan)

structure State where
  db : Database
  clients : Nat → Client

def initial : State := ⟨Table.empty,fun _ => .idle⟩

-- One event is one SQL statement with the code around it.
inductive Event where
  | create (client : Nat) (request : CreateRun) (runId : String)
  | post (client : Nat) (request : Post)
  | select (client : Nat)
  | write (client : Nat)

inductive Outcome where
  | waiting
  | answered (run : ModelRun) (revision : Int)
  | failed (status : Nat) (detail : String)

def put (s : State) (client : Nat) (next : Client) : State := {s with clients := Function.update s.clients client next}

-- create_run up to the SELECT of save.
def respondCreate (s : State) (client : Nat) (request : CreateRun) (runId : String) : State × Outcome :=
  match savePlan s.db (request.run runId) none with
  | .error _ => (s,.failed 500 "Internal Server Error")
  | .ok plan => (put s client (.saving (request.run runId) plan),.waiting)

-- transition_run and record_evaluation up to save.
def respondPost (repr : PyFloat → String) (s : State) (client : Nat) (request : Post) : State × Outcome :=
  match get s.db request.runId with
  | none => (s,.failed 404 "run not found")
  | some (run,revision) =>
    if revision ≠ request.ifMatch then (s,.failed 409 "stale revision")
    else match attempt repr run request.call with
      | .error message => (s,.failed 422 message)
      | .ok next => (put s client (.changed next revision),.waiting)

-- The RuntimeError of save is caught nowhere.
def respondSelect (s : State) (client : Nat) (run : ModelRun) (revision : Int) : State × Outcome :=
  match savePlan s.db run (some revision) with
  | .error _ => (put s client .idle,.failed 500 "Internal Server Error")
  | .ok plan => (put s client (.saving run plan),.waiting)

def respondWrite (s : State) (client : Nat) (run : ModelRun) (plan : Plan) : State × Outcome :=
  match saveWrite s.db run plan with
  | none => (put s client .idle,.failed 500 "Internal Server Error")
  | some (db,revision) => (put {s with db := db} client .idle,.answered run revision)

-- none: the client has no request at that point of the function.
def respond (repr : PyFloat → String) (s : State) : Event → Option (State × Outcome)
  | .create client request runId => match s.clients client with
    | .idle => some (respondCreate s client request runId)
    | _ => none
  | .post client request => match s.clients client with
    | .idle => some (respondPost repr s client request)
    | _ => none
  | .select client => match s.clients client with
    | .changed run revision => some (respondSelect s client run revision)
    | _ => none
  | .write client => match s.clients client with
    | .saving run plan => some (respondWrite s client run plan)
    | _ => none

def step (repr : PyFloat → String) (s : State) (event : Event) : Option State := (respond repr s event).map Prod.fst

-- uuid4 hands out identifiers that no row has.
def FreshIds (s : State) : Event → Prop
  | .create _ _ runId => s.db.find runId = none
  | _ => True

instance decideFreshIds (s : State) : (event : Event) → Decidable (FreshIds s event)
  | .create _ _ runId => inferInstanceAs (Decidable (s.db.find runId = none))
  | .post .. => .isTrue trivial
  | .select _ => .isTrue trivial
  | .write _ => .isTrue trivial

def accept (repr : PyFloat → String) (run : ModelRun) (call : Call) : Option ModelRun := (attempt repr run call).toOption

-- A run with a revision: from its creation by accepted calls only, of which
-- each was sent for the revision that the ones before it had made.
structure Lineage (repr : PyFloat → String) (events : List Event) (run : ModelRun) (revision : Int) (calls : List Call) :
    Prop where
  made : ∃ client request, Event.create client request run.runId ∈ events ∧
    Runs (accept repr) (request.run run.runId) calls run
  sent : ∀ (n : Nat) (call : Call), calls[n]? = some call → ∃ client, Event.post client ⟨run.runId,call,n + 1⟩ ∈ events
  counted : revision = calls.length + 1

structure Kept (run : ModelRun) (revision : Int) : Prop where
  audited : (run.history.length : Int) + 1 = revision
  separated : ∀ approver, run.approver = some approver → approver ≠ run.owner

variable {repr : PyFloat → String} {s next : State} {event : Event} {events : List Event} {run : ModelRun}

theorem accept_ok (accepted : accept repr run call = some after) : attempt repr run call = .ok after :=
  Raising.toOption_ok.mp accepted

structure Advances (run next : ModelRun) : Prop where
  runId : next.runId = run.runId
  owner : next.owner = run.owner
  history : next.history.length = run.history.length + 1
  approver : next.approver = run.approver ∨ ∃ actor, next.approver = some actor ∧ actor ≠ run.owner

theorem transition_advances (done : run.transition target actor reason now = .ok after) : Advances run after := by
  unfold ModelRun.transition at done
  split at done
  · cases done
  · split at done
    · cases done
    · rename_i other
      split at done
      · cases done
      · cases Except.ok.inj done
        refine ⟨rfl,rfl,by simp,?_⟩
        by_cases approving : target = .approved
        · exact .inr ⟨actor,if_pos approving,fun same => other ⟨approving,same⟩⟩
        · exact .inl (if_neg approving)

theorem attempt_advances (done : attempt repr run call = .ok after) : Advances run after := by
  cases call with
  | transition target actor reason now => exact transition_advances done
  | recordEvaluation metrics artifactDigest policy actor now =>
    simp only [attempt,ModelRun.recordEvaluation] at done
    split at done
    · cases done
    · split at done
      · cases done
      · split at done
        · cases done
        · rename_i moved
          cases Except.ok.inj done
          obtain ⟨runId,owner,history,approver⟩ := transition_advances moved
          exact ⟨runId,owner,history,approver⟩

theorem runs_kept (path : Runs (accept repr) run calls after) (kept : Kept run revision) :
    Kept after (revision + calls.length) := by
  induction path generalizing revision with
  | stop => simpa using kept
  | @take run middle after call calls taken _ ih =>
    obtain ⟨_,owner,history,approver⟩ := attempt_advances (accept_ok taken)
    have later : Kept middle (revision + 1) := by
      refine ⟨by have audited := kept.audited; omega,fun name given => ?_⟩
      rw [owner]
      rcases approver with same | ⟨actor,named,other⟩
      · exact kept.separated name (same.symm.trans given)
      · cases Option.some.inj (named.symm.trans given)
        exact other
    have final := ih later
    rw [List.length_cons]
    rwa [show revision + ((calls.length + 1 : Nat) : Int) = revision + 1 + calls.length by omega]

theorem Lineage.kept (lineage : Lineage repr events run revision calls) : Kept run revision := by
  obtain ⟨_,request,_,path⟩ := lineage.made
  have fresh : Kept (request.run run.runId) 1 := ⟨rfl,fun approver given => nomatch given⟩
  have kept := runs_kept path fresh
  rwa [lineage.counted,Int.add_comm]

theorem Lineage.extend (lineage : Lineage repr events run revision calls) (done : attempt repr run call = .ok after)
    (posted : Event.post client ⟨run.runId,call,revision⟩ ∈ events) :
    Lineage repr events after (revision + 1) (calls ++ [call]) := by
  obtain ⟨⟨creator,request,created,path⟩,sent,counted⟩ := lineage
  have runId := (attempt_advances done).runId
  have taken : accept repr run call = some after := Raising.toOption_ok.mpr done
  refine ⟨⟨creator,request,?_,?_⟩,?_,by rw [counted]; simp⟩
  · rw [runId]
    exact created
  · rw [runId]
    exact path.trans (.single taken)
  · intro n other listed
    rw [runId]
    rcases Nat.lt_or_ge n calls.length with inside | above
    · rw [List.getElem?_append_left inside] at listed
      exact sent n other listed
    · rw [List.getElem?_append_right above] at listed
      obtain ⟨last,rfl⟩ : n - calls.length = 0 ∧ other = call := by
        cases place : n - calls.length with
        | zero => rw [place] at listed; exact ⟨rfl,(Option.some.inj listed).symm⟩
        | succ further => rw [place] at listed; cases listed
      obtain rfl : n = calls.length := by omega
      rw [← counted]
      exact ⟨client,posted⟩

def writes : Plan → Int
  | .insert => 1
  | .update revision => revision

def Bound (repr : PyFloat → String) (events : List Event) : Client → Prop
  | .idle => True
  | .changed run revision => 0 < revision ∧ ∃ calls, Lineage repr events run (revision + 1) calls
  | .saving run plan => ∃ calls, Lineage repr events run (writes plan) calls

structure Explained (repr : PyFloat → String) (events : List Event) (s : State) : Prop where
  rows : ∀ runId row, s.db.find runId = some row → row.payload.runId = runId ∧
    ∃ calls, Lineage repr events row.payload row.revision calls
  clients : ∀ client, Bound repr events (s.clients client)

theorem initial_explained (repr : PyFloat → String) (events : List Event) : Explained repr events initial :=
  ⟨fun _ _ found => (nomatch found),fun _ => trivial⟩

theorem saveWrite_finds {db next : Database} (saved : saveWrite db run plan = some (next,revision)) :
    revision = writes plan ∧ ∀ runId row, next.find runId = some row →
      db.find runId = some row ∨ (runId = run.runId ∧ row.payload = run ∧ row.revision = writes plan) := by
  cases plan with
  | insert =>
    obtain ⟨table,inserted,same⟩ := Option.map_eq_some_iff.mp saved
    cases same
    refine ⟨rfl,fun runId row found => ?_⟩
    rw [Table.find_insert inserted] at found
    split at found
    · rename_i here
      cases Option.some.inj found
      exact .inr ⟨here,rfl,rfl⟩
    · exact .inl found
  | update target =>
    cases Option.some.inj saved
    refine ⟨rfl,fun runId row found => ?_⟩
    rw [Table.find_update] at found
    split at found
    · rename_i here
      obtain ⟨old,_,same⟩ := Option.map_eq_some_iff.mp found
      cases same
      exact .inr ⟨here,rfl,rfl⟩
    · exact .inl found

theorem Explained.put (explained : Explained repr events s) (bound : Bound repr events after) (client : Nat) :
    Explained repr events (MlopsRequests.put s client after) :=
  ⟨explained.rows,updated_all explained.clients bound⟩

theorem created_lineage {request : CreateRun} (listed : Event.create client request runId ∈ events) :
    Lineage repr events (request.run runId) 1 [] :=
  ⟨⟨client,request,listed,.stop⟩,fun _ _ found => (nomatch found),rfl⟩

theorem savePlan_fresh {db : Database} (fresh : db.find run.runId = none) (planned : savePlan db run none = .ok plan) :
    plan = .insert := by
  unfold savePlan at planned
  rw [fresh] at planned
  cases planned
  rfl

theorem savePlan_writes {db : Database} (later : 0 < revision) (planned : savePlan db run (some revision) = .ok plan) :
    writes plan = revision + 1 := by
  cases plan with
  | update target =>
    obtain ⟨_,_,_,next⟩ := MlopsConcurrency.savePlan_update planned
    exact next
  | insert =>
    have absent := MlopsConcurrency.savePlan_insert planned
    unfold savePlan at planned
    rw [absent] at planned
    have other : revision ≠ 0 := by omega
    simp [other] at planned

def Accounted (repr : PyFloat → String) (events : List Event) : Outcome → Prop
  | .answered run revision => ∃ calls, Lineage repr events run revision calls
  | _ => True

theorem create_explained {request : CreateRun} (explained : Explained repr events s) (fresh : s.db.find runId = none)
    (listed : Event.create client request runId ∈ events) :
    Explained repr events (respondCreate s client request runId).1 ∧
      Accounted repr events (respondCreate s client request runId).2 := by
  unfold respondCreate
  split
  · exact ⟨explained,trivial⟩
  · rename_i plan planned
    obtain rfl := @savePlan_fresh (request.run runId) _ _ fresh planned
    have bound : Bound repr events (.saving (request.run runId) .insert) := ⟨[],created_lineage listed⟩
    exact ⟨explained.put bound client,trivial⟩

theorem post_explained {request : Post} (explained : Explained repr events s)
    (listed : Event.post client request ∈ events) : Explained repr events (respondPost repr s client request).1 ∧
      Accounted repr events (respondPost repr s client request).2 := by
  unfold respondPost
  split
  · exact ⟨explained,trivial⟩
  · rename_i run revision selected
    obtain ⟨row,found,same⟩ := Option.map_eq_some_iff.mp selected
    cases same
    obtain ⟨named,calls,lineage⟩ := explained.rows _ row found
    split
    · exact ⟨explained,trivial⟩
    · rename_i matching
      split
      · exact ⟨explained,trivial⟩
      · rename_i after done
        have posted : Event.post client ⟨row.payload.runId,request.call,row.revision⟩ ∈ events := by
          rw [named,not_not.mp matching]
          exact listed
        have later : 0 < row.revision := by rw [lineage.counted]; omega
        have bound : Bound repr events (.changed after row.revision) := ⟨later,_,lineage.extend done posted⟩
        exact ⟨explained.put bound client,trivial⟩

theorem select_explained (explained : Explained repr events s) (held : s.clients client = .changed run revision) :
    Explained repr events (respondSelect s client run revision).1 ∧
      Accounted repr events (respondSelect s client run revision).2 := by
  have bound := explained.clients client
  rw [held] at bound
  obtain ⟨later,calls,lineage⟩ := bound
  unfold respondSelect
  split
  · exact ⟨@Explained.put _ _ _ .idle explained trivial client,trivial⟩
  · rename_i plan planned
    have bound : Bound repr events (.saving run plan) := ⟨calls,by rw [savePlan_writes later planned]; exact lineage⟩
    exact ⟨explained.put bound client,trivial⟩

theorem write_explained (explained : Explained repr events s) (held : s.clients client = .saving run plan) :
    Explained repr events (respondWrite s client run plan).1 ∧
      Accounted repr events (respondWrite s client run plan).2 := by
  have bound := explained.clients client
  rw [held] at bound
  obtain ⟨calls,lineage⟩ := bound
  unfold respondWrite
  split
  · exact ⟨@Explained.put _ _ _ .idle explained trivial client,trivial⟩
  · rename_i db revision saved
    obtain ⟨written,finds⟩ := saveWrite_finds saved
    subst written
    refine ⟨⟨?_,updated_all explained.clients trivial⟩,calls,lineage⟩
    intro runId row found
    rcases finds runId row found with before | ⟨rfl,rfl,same⟩
    · exact explained.rows runId row before
    · rw [same]
      exact ⟨rfl,calls,lineage⟩

theorem respond_explained (explained : Explained repr events s) (fresh : FreshIds s event) (listed : event ∈ events)
    (answered : respond repr s event = some (next,outcome)) :
    Explained repr events next ∧ Accounted repr events outcome := by
  cases event with
  | create client request runId =>
    simp only [respond] at answered
    split at answered
    · have made := create_explained explained fresh listed
      rwa [Option.some.inj answered] at made
    · cases answered
  | post client request =>
    simp only [respond] at answered
    split at answered
    · have posted := post_explained explained listed
      rwa [Option.some.inj answered] at posted
    · cases answered
  | select client =>
    simp only [respond] at answered
    split at answered
    · rename_i held
      have selected := select_explained explained held
      rwa [Option.some.inj answered] at selected
    · cases answered
  | write client =>
    simp only [respond] at answered
    split at answered
    · rename_i held
      have written := write_explained explained held
      rwa [Option.some.inj answered] at written
    · cases answered

theorem run_explained {taken : List Event} (path : Runs (step repr) s taken next)
    (fresh : Throughout (step repr) FreshIds s taken) (listed : ∀ event ∈ taken, event ∈ events)
    (explained : Explained repr events s) : Explained repr events next := by
  induction path with
  | stop => exact explained
  | take first _ ih =>
    obtain ⟨⟨after,outcome⟩,answered,rfl⟩ := Option.map_eq_some_iff.mp first
    refine ih (fresh.tail first) (fun event inside => listed event (List.mem_cons_of_mem _ inside)) ?_
    exact (respond_explained explained fresh.head (listed _ List.mem_cons_self) answered).1

-- However the requests interleave, and though the store can lose updates: what
-- is stored or answered with revision n is the work of n - 1 accepted requests
-- on one run, in turn sent for the revisions 1 to n - 1.
theorem runs_explained (repr : PyFloat → String) (events : List Event) (s : State)
    (path : Runs (step repr) initial events s) (fresh : Throughout (step repr) FreshIds initial events) :
    (∀ runId row, s.db.find runId = some row → row.payload.runId = runId ∧ Kept row.payload row.revision ∧
      ∃ calls, Lineage repr events row.payload row.revision calls) ∧
    ∀ earlier event later before next run revision, events = earlier ++ event :: later →
      Runs (step repr) initial earlier before → respond repr before event = some (next,.answered run revision) →
      Kept run revision ∧ ∃ calls, Lineage repr events run revision calls := by
  constructor
  · intro runId row found
    have explained := run_explained path fresh (fun _ inside => inside) (initial_explained repr events)
    obtain ⟨named,calls,lineage⟩ := explained.rows runId row found
    exact ⟨named,lineage.kept,calls,lineage⟩
  · intro earlier event later before next run revision split reached answered
    subst split
    have explained := run_explained reached fresh.before
      (fun _ inside => List.mem_append_left _ inside) (initial_explained repr (earlier ++ event :: later))
    obtain ⟨_,calls,lineage⟩ := respond_explained explained (fresh.after reached).head
      (List.mem_append_right _ List.mem_cons_self) answered
    exact ⟨lineage.kept,calls,lineage⟩

def fraudRisk : CreateRun := ⟨"fraud-risk","sha256:aa","abc1234","trainer"⟩

def training (actor : String) : Post := ⟨"run-1",.transition .training actor "start" 0,1⟩

def overwritten : List Event :=
  [.create 0 fraudRisk "run-1",.write 0,.post 1 (training "first"),.post 2 (training "second"),.select 1,.select 2,
    .write 1,.write 2]

theorem overwritten_explained : ∃ s row, Runs (step fun _ => "0.9") initial overwritten s ∧
    s.db.find "run-1" = some row ∧ row.revision = 2 ∧ row.payload.history.map (·.actor) = ["second"] ∧
    Kept row.payload row.revision ∧ ∃ calls, Lineage (fun _ => "0.9") overwritten row.payload row.revision calls := by
  have reached : ((consume (step fun _ => "0.9") initial overwritten).bind fun s => s.db.find "run-1").map
      (fun row => (row.revision,row.payload.history.map (·.actor))) = some (2,["second"]) := by decide +kernel
  obtain ⟨row,found,fields⟩ := Option.map_eq_some_iff.mp reached
  obtain ⟨s,consumed,present⟩ := Option.bind_eq_some_iff.mp found
  obtain ⟨revision,actors⟩ := Prod.mk.inj fields
  have path := consume_exact.mp consumed
  have fresh : Throughout (step fun _ => "0.9") FreshIds initial overwritten := by decide +kernel
  obtain ⟨_,kept,lineage⟩ := (runs_explained (fun _ => "0.9") overwritten s path fresh).1 "run-1" row present
  exact ⟨s,row,path,present,revision,actors,kept,lineage⟩

end OpenModelOps.MlopsRequests
