import OpenModelOps.MlopsDomain
import Mathlib.Data.List.Nodup
import Mathlib.Logic.Function.Basic

namespace OpenModelOps.MlopsStore
open KeyedTable PythonFloat PythonText MlopsDomain RunHistory

-- The payload column is the JSON text of the run; reading it back gives the
-- run that was written.
structure Row where
  runId : String
  payload : ModelRun
  revision : Int

abbrev Database := Table Row.runId

-- What save does after its SELECT: one of two statements, in a transaction
-- that begins there.
inductive Plan where
  | insert
  | update (revision : Int)

def written (run : ModelRun) (revision : Int) : Assignment Row.runId where
  apply row := {row with payload := run, revision := revision}
  keeps _ := rfl

-- RunStore.get; none is the KeyError.
def get (db : Database) (runId : String) : Option (ModelRun × Int) :=
  (db.find runId).map fun row => (row.payload,row.revision)

def savePlan (db : Database) (run : ModelRun) (expectedRevision : Option Int) : Except String Plan :=
  match db.find run.runId with
  | none => if expectedRevision ≠ none ∧ expectedRevision ≠ some 0 then .error "concurrent update detected"
      else .ok .insert
  | some row => if expectedRevision ≠ none ∧ expectedRevision ≠ some row.revision then
      .error "concurrent update detected" else .ok (.update (row.revision + 1))

-- none is the integrity error of an INSERT. The UPDATE names the run only.
def saveWrite (db : Database) (run : ModelRun) : Plan → Option (Database × Int)
  | .insert => (db.insert ⟨run.runId,run,1⟩).map fun next => (next,1)
  | .update revision => some ((db.update run.runId (fun _ => true) (written run revision)).1,revision)

-- What a client makes of the run it read.
structure Change where
  apply : ModelRun → ModelRun
  keeps : ∀ run, (apply run).runId = run.runId

def called (repr : PyFloat → String) (call : Call) : Change := ⟨(perform repr · call),(perform_runId repr · call)⟩

inductive Client where
  | idle
  | holding (run : ModelRun) (revision : Int)
  | saving (read : Option (Int × ModelRun)) (run : ModelRun) (plan : Plan)

-- A successful save: the revision and the run its client had read (none for a
-- new run), what it wrote and the revision it returned.
structure Commit where
  runId : String
  read : Option (Int × ModelRun)
  payload : ModelRun
  revision : Int

structure State where
  db : Database
  clients : Nat → Client
  log : List Commit

def initial : State := ⟨Table.empty,fun _ => .idle,[]⟩

-- One event is one SQL statement with the code around it.
inductive Event where
  | create (client : Nat) (run : ModelRun)
  | read (client : Nat) (runId : String)
  | select (client : Nat) (change : Change)
  | write (client : Nat)

def place (s : State) (client : Nat) (next : Client) : State :=
  {s with clients := Function.update s.clients client next}

-- A new run has an identifier from uuid4, which no row has.
def stepCreate (s : State) (client : Nat) (run : ModelRun) : Option State :=
  match s.clients client,savePlan s.db run none with
  | .idle,.ok .insert => some (place s client (.saving none run .insert))
  | _,_ => none

def stepRead (s : State) (client : Nat) (runId : String) : Option State :=
  match s.clients client with
  | .idle => some (match get s.db runId with
    | none => s
    | some (run,revision) => place s client (.holding run revision))
  | _ => none

def stepSelect (s : State) (client : Nat) (change : Change) : Option State :=
  match s.clients client with
  | .holding run revision => some (match savePlan s.db (change.apply run) (some revision) with
    | .error _ => place s client .idle
    | .ok plan => place s client (.saving (some (revision,run)) (change.apply run) plan))
  | _ => none

def stepWrite (s : State) (client : Nat) : Option State :=
  match s.clients client with
  | .saving read run plan => some (match saveWrite s.db run plan with
    | none => place s client .idle
    | some (db,revision) =>
      ⟨db,Function.update s.clients client .idle,s.log ++ [⟨run.runId,read,run,revision⟩]⟩)
  | _ => none

def step (s : State) : Event → Option State
  | .create client run => stepCreate s client run
  | .read client runId => stepRead s client runId
  | .select client change => stepSelect s client change
  | .write client => stepWrite s client

def commitsOf (runId : String) (log : List Commit) : List Commit := log.filter fun c => decide (c.runId = runId)

def latest (previous : Option (Int × ModelRun)) : List Commit → Option (Int × ModelRun)
  | [] => previous
  | c :: rest => latest (some (c.revision,c.payload)) rest

def Chained (previous : Option (Int × ModelRun)) : List Commit → Prop
  | [] => True
  | c :: rest => c.revision = (previous.map Prod.fst).getD 0 + 1 ∧ c.read.map Prod.snd = previous.map Prod.snd ∧
      Chained (some (c.revision,c.payload)) rest

structure Serial (log : List Commit) : Prop where
  once : ∀ runId, ((commitsOf runId log).map fun c => c.read.map Prod.fst).Nodup
  chained : ∀ runId, Chained none (commitsOf runId log)

def Unmoved (db : Database) : Client → Prop
  | .saving _ run (.update revision) => (db.find run.runId).map (fun row => row.revision + 1) = some revision
  | .saving _ _ .insert => True
  | .holding _ _ => True
  | .idle => True

instance (db : Database) : (client : Client) → Decidable (Unmoved db client)
  | .saving _ run (.update revision) =>
    inferInstanceAs (Decidable ((db.find run.runId).map (fun row => row.revision + 1) = some revision))
  | .saving _ _ .insert => .isTrue trivial
  | .holding _ _ => .isTrue trivial
  | .idle => .isTrue trivial

def Current (s : State) : Event → Prop
  | .write client => Unmoved s.db (s.clients client)
  | .create _ _ => True
  | .read _ _ => True
  | .select _ _ => True

instance (s : State) : (event : Event) → Decidable (Current s event)
  | .write client => inferInstanceAs (Decidable (Unmoved s.db (s.clients client)))
  | .create _ _ => .isTrue trivial
  | .read _ _ => .isTrue trivial
  | .select _ _ => .isTrue trivial

theorem latest_concat (previous : Option (Int × ModelRun)) (log : List Commit) (c : Commit) :
    latest previous (log ++ [c]) = some (c.revision,c.payload) := by
  induction log generalizing previous with
  | nil => rfl
  | cons head rest ih => exact ih _

theorem chained_append : Chained previous (first ++ last) ↔
    Chained previous first ∧ Chained (latest previous first) last := by
  induction first generalizing previous with
  | nil => simp [Chained,latest]
  | cons head rest ih => simp only [List.cons_append,Chained,latest,ih,and_assoc]

theorem chained_bound (chained : Chained previous log) :
    ∀ c ∈ log, (previous.map Prod.fst).getD 0 < c.revision := by
  induction log generalizing previous with
  | nil => intro c member; cases member
  | cons head rest ih =>
    obtain ⟨revision,_,later⟩ := chained
    intro c member
    rcases List.mem_cons.mp member with rfl | member
    · omega
    · have above := ih later c member
      simp only [Option.map_some,Option.getD_some] at above
      omega

theorem chained_nodup (chained : Chained previous log) : (log.map Commit.revision).Nodup := by
  induction log generalizing previous with
  | nil => simp
  | cons head rest ih =>
    obtain ⟨_,_,later⟩ := chained
    rw [List.map_cons,List.nodup_cons]
    refine ⟨?_,ih later⟩
    intro member
    obtain ⟨c,inside,same⟩ := List.mem_map.mp member
    have above := chained_bound later c inside
    simp only [Option.map_some,Option.getD_some] at above
    omega

theorem commitsOf_append (runId : String) (log more : List Commit) :
    commitsOf runId (log ++ more) = commitsOf runId log ++ commitsOf runId more := List.filter_append ..

theorem commitsOf_single (runId : String) (c : Commit) :
    commitsOf runId [c] = if c.runId = runId then [c] else [] := by
  by_cases same : c.runId = runId <;> simp [commitsOf,same]

end OpenModelOps.MlopsStore
