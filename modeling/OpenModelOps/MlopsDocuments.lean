import OpenModelOps.FactoryStorage
import OpenModelOps.MlopsRequests
import OpenModelOps.Simulation

namespace OpenModelOps.MlopsDocuments
open JsonText KeyedTable PythonFloat PythonText Raising RunHistory Simulation MlopsDomain
open FactoryStorage (FloatFormat seventeen)
open MlopsRequests (CreateRun Post Client Event Outcome attempt)
open MlopsStore (Plan)

def states : List RunState :=
  [.created,.training,.evaluating,.rejected,.candidate,.approved,.deploying,.canary,.production,.rolledBack,.retired]

-- The payload of save. A negative zero has a text with a sign; no metric that
-- arrives is one.

def number : PyFloat → Number
  | .finite q => .real q
  | .negZero => .real 0
  | .infinity => .infinity
  | .negInfinity => .negInfinity
  | .nan => .nan

def metric (x : PyFloat) : Json Number := .num (number x)

def historyFields (entry : HistoryEntry) : List (Text × Json Number) :=
  [(text "from",str entry.source.value),(text "to",str entry.target.value),(text "actor",str entry.actor),
   (text "reason",str entry.reason),(text "at",str entry.at_)]

def documentFields (run : ModelRun) : List (Text × Json Number) :=
  [(text "run_id",str run.runId),(text "model_name",str run.modelName),(text "dataset_digest",str run.datasetDigest),
   (text "code_revision",str run.codeRevision),(text "owner",str run.owner),(text "state",str run.state.value),
   (text "artifact_digest",.ofOption str run.artifactDigest),(text "metrics",.obj (dictFields metric run.metrics)),
   (text "approver",.ofOption str run.approver),
   (text "history",.arr (run.history.map fun entry => .obj (historyFields entry)))]

def document (run : ModelRun) : Json Number := .obj (documentFields run)

-- There is no integer in a document, so json.dumps does not raise.
def payload (run : ModelRun) : Text := sortedText (document run)

-- What get makes of it; none is an exception.

def metricOf (format : FloatFormat) : Json Number → Option PyFloat
  | .num (.real q) => some (.finite (format.rounds q))
  | .num .infinity => some .infinity
  | .num .negInfinity => some .negInfinity
  | .num .nan => some .nan
  | _ => none

def metricsOf (format : FloatFormat) (v : Json Number) : Option Metrics := do
  return Dict.ofRows (← readItems untext (metricOf format) (← v.asObject))

def historyOf (v : Json Number) : Option HistoryEntry := do
  let fields ← v.asObject
  let source ← (← item fields "from" Json.asString) |> enumOf states RunState.value
  let target ← (← item fields "to" Json.asString) |> enumOf states RunState.value
  let actor ← item fields "actor" Json.asString
  let reason ← item fields "reason" Json.asString
  let at_ ← item fields "at" Json.asString
  return ⟨source,target,actor,reason,at_⟩

def historiesOf (v : Json Number) : Option (List HistoryEntry) := do
  (← v.asArray).mapM historyOf

def names : List String :=
  ["run_id","model_name","dataset_digest","code_revision","owner","state","artifact_digest","metrics","approver","history"]

def runOf (format : FloatFormat) (v : Json Number) : Option ModelRun := do
  let data ← v.asObject
  let state ← (← item data "state" Json.asString) |> enumOf states RunState.value
  let runId ← item data "run_id" Json.asString
  let modelName ← item data "model_name" Json.asString
  let datasetDigest ← item data "dataset_digest" Json.asString
  let codeRevision ← item data "code_revision" Json.asString
  let owner ← item data "owner" Json.asString
  let artifactDigest ← itemOr data "artifact_digest" none (Json.nullable Json.asString)
  let metrics ← itemOr data "metrics" Table.empty (metricsOf format)
  let approver ← itemOr data "approver" none (Json.nullable Json.asString)
  let history ← itemOr data "history" [] historiesOf
  if onlyKeys names data then
    return ⟨runId,modelName,datasetDigest,codeRevision,owner,state,artifactDigest,metrics,approver,history⟩
  else none

-- RunStore with its JSON column.

structure Row where
  runId : String
  payload : Text
  revision : Int

abbrev Database := Table Row.runId

def written (cs : Text) (revision : Int) : Assignment Row.runId where
  apply row := {row with payload := cs, revision := revision}
  keeps _ := rfl

-- The outer none is an exception of the decoder, the inner one the KeyError.
def get (format : FloatFormat) (db : Database) (runId : String) : Option (Option (ModelRun × Int)) :=
  match db.find runId with
  | none => some none
  | some row => ((loadsText row.payload).bind (runOf format)).map fun run => some (run,row.revision)

def savePlan (db : Database) (run : ModelRun) (expectedRevision : Option Int) : Except String Plan :=
  match db.find run.runId with
  | none => if expectedRevision ≠ none ∧ expectedRevision ≠ some 0 then .error "concurrent update detected"
      else .ok .insert
  | some row => if expectedRevision ≠ none ∧ expectedRevision ≠ some row.revision then
      .error "concurrent update detected" else .ok (.update (row.revision + 1))

def saveWrite (db : Database) (run : ModelRun) : Plan → Option (Database × Int)
  | .insert => (db.insert ⟨run.runId,MlopsDocuments.payload run,1⟩).map fun next => (next,1)
  | .update revision =>
    some ((db.update run.runId (fun _ => true) (written (MlopsDocuments.payload run) revision)).1,revision)

-- The service over that store.

structure State where
  db : Database
  clients : Nat → Client

def initial : State := ⟨Table.empty,fun _ => .idle⟩

def put (s : State) (client : Nat) (next : Client) : State := {s with clients := Function.update s.clients client next}

def respondCreate (s : State) (client : Nat) (request : CreateRun) (runId : String) : State × Outcome :=
  match savePlan s.db (request.run runId) none with
  | .error _ => (s,.failed 500 "Internal Server Error")
  | .ok plan => (put s client (.saving (request.run runId) plan),.waiting)

def respondPost (repr : PyFloat → String) (format : FloatFormat) (s : State) (client : Nat) (request : Post) :
    State × Outcome :=
  match get format s.db request.runId with
  -- A payload that cannot be read; there is none.
  | none => (s,.failed 500 "Internal Server Error")
  | some none => (s,.failed 404 "run not found")
  | some (some (run,revision)) =>
    if revision ≠ request.ifMatch then (s,.failed 409 "stale revision")
    else match attempt repr run request.call with
      | .error message => (s,.failed 422 message)
      | .ok next => (put s client (.changed next revision),.waiting)

def respondSelect (s : State) (client : Nat) (run : ModelRun) (revision : Int) : State × Outcome :=
  match savePlan s.db run (some revision) with
  | .error _ => (put s client .idle,.failed 500 "Internal Server Error")
  | .ok plan => (put s client (.saving run plan),.waiting)

def respondWrite (s : State) (client : Nat) (run : ModelRun) (plan : Plan) : State × Outcome :=
  match saveWrite s.db run plan with
  | none => (put s client .idle,.failed 500 "Internal Server Error")
  | some (db,revision) => (put {s with db := db} client .idle,.answered run revision)

def respond (repr : PyFloat → String) (format : FloatFormat) (s : State) : Event → Option (State × Outcome)
  | .create client request runId => match s.clients client with
    | .idle => some (respondCreate s client request runId)
    | _ => none
  | .post client request => match s.clients client with
    | .idle => some (respondPost repr format s client request)
    | _ => none
  | .select client => match s.clients client with
    | .changed run revision => some (respondSelect s client run revision)
    | _ => none
  | .write client => match s.clients client with
    | .saving run plan => some (respondWrite s client run plan)
    | _ => none

def step (repr : PyFloat → String) (format : FloatFormat) : State → Event → Option State := advance (respond repr format)

-- An answer as a JSON text with its keys in order.
inductive Shown where
  | waiting
  | answered (body : Text) (revision : Int)
  | failed (status : Nat) (detail : String)

def shown : Outcome → Shown
  | .waiting => .waiting
  | .answered run revision => .answered (payload run) revision
  | .failed status detail => .failed status detail

def Floats (format : FloatFormat) (metrics : Metrics) : Prop :=
  ∀ name x, Dict.get metrics name = some x → x ≠ .negZero ∧ ∀ q, x = .finite q → format.IsFloat q

def Arrives (format : FloatFormat) : Event → Prop
  | .post _ ⟨_,.recordEvaluation metrics _ _ _ _,_⟩ => Floats format metrics
  | _ => True

-- Equality of runs: dictionaries are equal when they have the same items.
structure Same (v w : ModelRun) : Prop where
  runId : v.runId = w.runId
  modelName : v.modelName = w.modelName
  datasetDigest : v.datasetDigest = w.datasetDigest
  codeRevision : v.codeRevision = w.codeRevision
  owner : v.owner = w.owner
  state : v.state = w.state
  artifactDigest : v.artifactDigest = w.artifactDigest
  metrics : ∀ name, Dict.get v.metrics name = Dict.get w.metrics name
  approver : v.approver = w.approver
  history : v.history = w.history

theorem state_read (state : RunState) : enumOf states RunState.value state.value = some state := by
  cases state <;> decide

section Records
variable {format : FloatFormat} {v w run : ModelRun}

theorem metric_read {x : PyFloat} (signed : x ≠ .negZero) (floats : ∀ q, x = .finite q → format.IsFloat q) :
    metricOf format (sortedRead (metric x)) = some x := by
  cases x with
  | finite q =>
    have float := floats q rfl
    have terminating : Terminating q := float ▸ format.terminating q
    rw [metric,number,sortedRead_real terminating]
    exact congrArg (fun r => some (PyFloat.finite r)) float
  | negZero => exact absurd rfl signed
  | infinity => rfl
  | negInfinity => rfl
  | nan => rfl

theorem metricsOf_read (floats : Floats format run.metrics) : ∃ read,
    metricsOf format (sortedRead (.obj (dictFields metric run.metrics))) = some read ∧
      ∀ name, Dict.get read name = Dict.get run.metrics name := by
  have inverse : ∀ row ∈ run.metrics.rows, metricOf format (sortedRead (metric row.2)) = some row.2 := by
    intro row member
    obtain ⟨signed,float⟩ := floats row.1 row.2 (Dict.get_row.mpr member)
    exact metric_read signed float
  obtain ⟨moved,permuted,read⟩ := readItems_sorted inverse
  refine ⟨Dict.ofRows moved,?_,Dict.get_ofRows permuted⟩
  rw [metricsOf,sortedRead_obj]
  exact bind_read rfl (bind_read read rfl)

theorem historyOf_read (entry : HistoryEntry) : historyOf (sortedRead (.obj (historyFields entry))) = some entry := by
  have keys : (historyFields entry).map Prod.fst = ["from","to","actor","reason","at"].map text := rfl
  have unique := named_unique keys (by decide)
  have source := item_readFields unique 0 rfl Json.asString
  have target := item_readFields unique 1 rfl Json.asString
  have actor := item_readFields unique 2 rfl Json.asString
  have reason := item_readFields unique 3 rfl Json.asString
  have at_ := item_readFields unique 4 rfl Json.asString
  rw [historyOf,sortedRead_obj]
  refine bind_read rfl (bind_read (source.trans (str_read _)) (bind_read (state_read _) ?_))
  refine bind_read (target.trans (str_read _)) (bind_read (state_read _) ?_)
  refine bind_read (actor.trans (str_read _)) (bind_read (reason.trans (str_read _)) ?_)
  exact bind_read (at_.trans (str_read _)) rfl

theorem history_read (entries : List HistoryEntry) :
    historiesOf (sortedRead (.arr (entries.map fun entry => .obj (historyFields entry)))) = some entries := by
  rw [historiesOf,sortedRead_arr,List.map_map]
  exact mapM_exact fun entry _ => historyOf_read entry

theorem runOf_read (floats : Floats format run.metrics) :
    ∃ read, runOf format (sortedRead (document run)) = some read ∧ Same read run := by
  have keys : (documentFields run).map Prod.fst = names.map text := rfl
  have unique := named_unique keys (by decide)
  have runId := item_readFields unique 0 rfl Json.asString
  have modelName := item_readFields unique 1 rfl Json.asString
  have datasetDigest := item_readFields unique 2 rfl Json.asString
  have codeRevision := item_readFields unique 3 rfl Json.asString
  have owner := item_readFields unique 4 rfl Json.asString
  have state := item_readFields unique 5 rfl Json.asString
  have artifactDigest := itemOr_readFields unique 6 rfl none (Json.nullable Json.asString)
  have metrics := itemOr_readFields unique 7 rfl Table.empty (metricsOf format)
  have approver := itemOr_readFields unique 8 rfl none (Json.nullable Json.asString)
  have history := itemOr_readFields unique 9 rfl [] historiesOf
  obtain ⟨measured,metricsRead,equal⟩ := metricsOf_read floats
  refine ⟨⟨run.runId,run.modelName,run.datasetDigest,run.codeRevision,run.owner,run.state,run.artifactDigest,measured,
    run.approver,run.history⟩,?_,⟨rfl,rfl,rfl,rfl,rfl,rfl,rfl,equal,rfl,rfl⟩⟩
  rw [runOf,document,sortedRead_obj]
  refine bind_read rfl (bind_read (state.trans (str_read _)) (bind_read (state_read _) ?_))
  refine bind_read (runId.trans (str_read _)) (bind_read (modelName.trans (str_read _)) ?_)
  refine bind_read (datasetDigest.trans (str_read _)) (bind_read (codeRevision.trans (str_read _)) ?_)
  refine bind_read (owner.trans (str_read _)) (bind_read (artifactDigest.trans (nullable_sortedRead _)) ?_)
  refine bind_read (metrics.trans metricsRead) (bind_read (approver.trans (nullable_sortedRead _)) ?_)
  exact bind_read (history.trans (history_read _)) (if_pos (onlyKeys_readFields keys))

theorem entry_whole (entry : HistoryEntry) : WholeTexts (.obj (historyFields entry)) := by
  simp only [historyFields,str,WholeTexts,WholeFields,text_whole,and_self]

theorem history_whole (entries : List HistoryEntry) :
    WholeItems (entries.map fun entry => (.obj (historyFields entry) : Json Number)) := by
  induction entries with
  | nil => trivial
  | cons entry rest ih => exact ⟨entry_whole entry,ih⟩

theorem metrics_whole (metrics : Metrics) : WholeFields (dictFields metric metrics) := by
  refine wholeFields_iff.mpr fun entry member => ?_
  obtain ⟨row,_,rfl⟩ := List.mem_map.mp member
  exact ⟨text_whole _,trivial⟩

theorem document_whole (run : ModelRun) : WholeTexts (document run) := by
  rw [document,WholeTexts,documentFields]
  simp only [WholeFields,text_whole,str_whole,nullable_whole,true_and,and_true]
  exact ⟨metrics_whole run.metrics,history_whole run.history⟩

theorem metrics_short (digits : Nat) (metrics : Metrics) : EachField (Short digits) (dictFields metric metrics) := by
  refine eachField_iff.mpr fun entry member => ?_
  obtain ⟨row,_,rfl⟩ := List.mem_map.mp member
  cases row.2 <;> exact rfl

theorem history_short (digits : Nat) (entries : List HistoryEntry) :
    EachItem (Short digits) (entries.map fun entry => .obj (historyFields entry)) := by
  induction entries with
  | nil => trivial
  | cons entry rest ih => exact ⟨⟨trivial,trivial,trivial,trivial,trivial,trivial⟩,ih⟩

theorem document_short (run : ModelRun) : intsWithin maxStrDigits (document run) = true := by
  rw [intsWithin_iff,document,documentFields]
  simp only [EachNumber,EachField,str,nullable_each,true_and,and_true]
  exact ⟨metrics_short _ run.metrics,history_short _ run.history⟩

theorem payload_read (floats : Floats format run.metrics) :
    ∃ read, (loadsText (payload run)).bind (runOf format) = some read ∧ Same read run := by
  obtain ⟨read,back,same⟩ := runOf_read floats
  exact ⟨read,bind_read (loads_sortedText (document_whole run) (document_short run)) back,same⟩

theorem document_sorted (run : ModelRun) : sortKeys (document run) =
    .obj [(text "approver",sortKeys (.ofOption str run.approver)),
      (text "artifact_digest",sortKeys (.ofOption str run.artifactDigest)),(text "code_revision",str run.codeRevision),
      (text "dataset_digest",str run.datasetDigest),
      (text "history",sortKeys (.arr (run.history.map fun entry => .obj (historyFields entry)))),
      (text "metrics",sortKeys (.obj (dictFields metric run.metrics))),(text "model_name",str run.modelName),
      (text "owner",str run.owner),(text "run_id",str run.runId),(text "state",str run.state.value)] := rfl

theorem same_payload (same : Same v w) : payload v = payload w := by
  have metrics : sortKeys (.obj (dictFields metric v.metrics)) = sortKeys (.obj (dictFields metric w.metrics)) :=
    dictFields_moved (Dict.rows_perm_iff.mpr same.metrics)
  rw [payload,payload,sortedText,sortedText,document_sorted,document_sorted,metrics,same.approver,same.artifactDigest,
    same.codeRevision,same.datasetDigest,same.history,same.modelName,same.owner,same.runId,same.state]

end Records

section Equal
variable {v w : ModelRun}

theorem transition_alike (same : Same v w) (target : RunState) (actor reason : String) (now : Instant) :
    Alike Same (v.transition target actor reason now) (w.transition target actor reason now) := by
  unfold ModelRun.transition
  rw [same.state,same.owner]
  refine .guard Iff.rfl _ (.guard Iff.rfl _ (.guard Iff.rfl _ (.ok ?_)))
  refine ⟨same.runId,same.modelName,same.datasetDigest,same.codeRevision,rfl,rfl,same.artifactDigest,same.metrics,?_,?_⟩
  · dsimp only
    rw [same.approver]
  · dsimp only
    rw [same.history]

theorem attempt_evaluation (repr : PyFloat → String) (run : ModelRun) (metrics : Metrics) (artifactDigest : String)
    (policy : EvaluationPolicy) (actor : String) (now : Instant) :
    attempt repr run (.recordEvaluation metrics artifactDigest policy actor now) =
      if run.state ≠ .evaluating then .error "evaluation results can only be recorded in evaluating state"
      else if startsWith artifactDigest "sha256:" = false then .error "artifact must use a sha256 digest"
      else ({run with metrics := metrics, artifactDigest := some artifactDigest} : ModelRun).transition
        (if (policy.evaluate repr metrics).1 then .candidate else .rejected) actor
        (if (policy.evaluate repr metrics).1 then "quality gates passed"
          else String.intercalate "; " (policy.evaluate repr metrics).2) now := by
  unfold MlopsRequests.attempt ModelRun.recordEvaluation
  dsimp only
  split
  · rfl
  · split
    · rfl
    · generalize ModelRun.transition _ _ _ _ _ = moved
      cases moved <;> rfl

theorem attempt_alike (repr : PyFloat → String) (same : Same v w) (call : Call) :
    Alike Same (attempt repr v call) (attempt repr w call) := by
  cases call with
  | transition target actor reason now => exact transition_alike same target actor reason now
  | recordEvaluation metrics artifactDigest policy actor now =>
    rw [attempt_evaluation,attempt_evaluation]
    refine .guard (by rw [same.state]) _ (.guard Iff.rfl _ (transition_alike ?_ _ _ _ _))
    exact ⟨same.runId,same.modelName,same.datasetDigest,same.codeRevision,same.owner,same.state,rfl,fun _ => rfl,
      same.approver,same.history⟩

end Equal

def encoded (row : MlopsStore.Row) : Row := ⟨row.runId,payload row.payload,row.revision⟩

theorem encoded_key (row : MlopsStore.Row) : (encoded row).runId = row.runId := rfl

def encode (db : MlopsStore.Database) : Database := db.recode encoded encoded_key

inductive Carries (format : FloatFormat) : Client → Client → Prop where
  | idle : Carries format .idle .idle
  | changed (same : Same v w) (floats : Floats format w.metrics) :
      Carries format (.changed v revision) (.changed w revision)
  | saving (same : Same v w) (floats : Floats format w.metrics) : Carries format (.saving v plan) (.saving w plan)

structure Coded (format : FloatFormat) (s : State) (u : MlopsRequests.State) : Prop where
  rows : s.db = encode u.db
  floats : ∀ runId row, u.db.find runId = some row → Floats format row.payload.metrics
  clients : ∀ client, Carries format (s.clients client) (u.clients client)

section Steps
variable {format : FloatFormat} {repr : PyFloat → String} {s t : State} {u : MlopsRequests.State} {v w : ModelRun}

theorem savePlan_encode (db : MlopsStore.Database) (same : Same v w) (expectedRevision : Option Int) :
    savePlan (encode db) v expectedRevision = MlopsStore.savePlan db w expectedRevision := by
  unfold savePlan MlopsStore.savePlan
  rw [same.runId,encode,Table.find_recode]
  cases db.find w.runId <;> rfl

theorem saveWrite_encode (db : MlopsStore.Database) (same : Same v w) (plan : Plan) :
    saveWrite (encode db) v plan = (MlopsStore.saveWrite db w plan).map fun result => (encode result.1,result.2) := by
  cases plan with
  | insert =>
    have inserted := @Table.insert_recode _ _ _ _ _ _ encoded encoded_key db ⟨w.runId,w,1⟩
    unfold saveWrite MlopsStore.saveWrite
    have row : (⟨w.runId,payload w,1⟩ : Row) = encoded ⟨w.runId,w,1⟩ := rfl
    rw [same_payload same,same.runId,encode,row,inserted]
    cases db.insert ⟨w.runId,w,1⟩ <;> rfl
  | update revision =>
    have updated := @Table.update_recode _ _ _ _ _ _ encoded encoded_key db w.runId (fun _ => true) (fun _ => true)
      (MlopsStore.written w revision) (written (payload w) revision) (fun _ => rfl) (fun _ => rfl)
    unfold saveWrite MlopsStore.saveWrite
    dsimp only
    rw [same_payload same,same.runId,encode,updated]
    rfl

theorem Coded.get (coded : Coded format s u) (runId : String) : match MlopsStore.get u.db runId with
    | none => MlopsDocuments.get format s.db runId = some none
    | some (w,revision) => ∃ v, MlopsDocuments.get format s.db runId = some (some (v,revision)) ∧ Same v w ∧
        Floats format w.metrics := by
  unfold MlopsStore.get MlopsDocuments.get
  rw [coded.rows,encode,Table.find_recode]
  cases found : u.db.find runId with
  | none => rfl
  | some row =>
    have floats := coded.floats runId row found
    obtain ⟨v,back,same⟩ := payload_read floats
    refine ⟨v,?_,same,floats⟩
    exact congrArg (Option.map fun run => some (run,row.revision)) back

theorem Coded.placed (coded : Coded format s u) (client : Nat) (carries : Carries format after other) :
    Coded format (put s client after) (MlopsRequests.put u client other) :=
  ⟨coded.rows,coded.floats,related_update coded.clients client carries⟩

theorem transition_metrics (done : w.transition target actor reason now = .ok next) : next.metrics = w.metrics :=
  (transition_parts done).2.2.2.1

theorem attempt_floats (done : attempt repr w call = .ok next) (floats : Floats format w.metrics)
    (arrives : Arrives format (.post client ⟨runId,call,ifMatch⟩)) : Floats format next.metrics := by
  cases call with
  | transition target actor reason now =>
    rw [transition_metrics done]
    exact floats
  | recordEvaluation metrics artifactDigest policy actor now =>
    rw [attempt_evaluation] at done
    split at done
    · cases done
    · split at done
      · cases done
      · rw [transition_metrics done]
        exact arrives

theorem saved_floats {db next : MlopsStore.Database}
    (all : ∀ runId row, db.find runId = some row → Floats format row.payload.metrics)
    (floats : Floats format w.metrics) (saved : MlopsStore.saveWrite db w plan = some (next,revision)) :
    ∀ runId row, next.find runId = some row → Floats format row.payload.metrics := by
  intro runId row found
  cases plan with
  | insert =>
    obtain ⟨after,inserted,same⟩ := Option.map_eq_some_iff.mp saved
    cases same
    rw [Table.find_insert inserted] at found
    split at found
    · cases Option.some.inj found
      exact floats
    · exact all runId row found
  | update number =>
    cases Option.some.inj saved
    rw [Table.find_update] at found
    split at found
    · obtain ⟨old,_,rfl⟩ := Option.map_eq_some_iff.mp found
      exact floats
    · exact all runId row found

structure Answers (format : FloatFormat) (left : State × Outcome) (right : MlopsRequests.State × Outcome) : Prop where
  shown : shown left.2 = shown right.2
  coded : Coded format left.1 right.1

theorem create_answers (coded : Coded format s u) (client : Nat) (request : CreateRun) (runId : String) :
    Answers format (respondCreate s client request runId) (MlopsRequests.respondCreate u client request runId) := by
  have same : Same (request.run runId) (request.run runId) := ⟨rfl,rfl,rfl,rfl,rfl,rfl,rfl,fun _ => rfl,rfl,rfl⟩
  unfold respondCreate MlopsRequests.respondCreate
  rw [coded.rows,savePlan_encode u.db same]
  cases MlopsStore.savePlan u.db (request.run runId) none with
  | error message => exact ⟨rfl,coded⟩
  | ok plan => exact ⟨rfl,coded.placed client (.saving same fun _ _ found => (by cases found))⟩

theorem post_answers (coded : Coded format s u) (client : Nat) (request : Post)
    (arrives : Arrives format (.post client request)) :
    Answers format (respondPost repr format s client request) (MlopsRequests.respondPost repr u client request) := by
  have read := coded.get request.runId
  unfold respondPost MlopsRequests.respondPost
  cases found : MlopsStore.get u.db request.runId with
  | none =>
    rw [found] at read
    rw [read]
    exact ⟨rfl,coded⟩
  | some pair =>
    obtain ⟨w,revision⟩ := pair
    rw [found] at read
    obtain ⟨v,back,same,floats⟩ := read
    rw [back]
    dsimp only
    split
    · exact ⟨rfl,coded⟩
    · have alike := attempt_alike repr same request.call
      generalize attempt repr v request.call = left at alike ⊢
      generalize done : attempt repr w request.call = right at alike ⊢
      cases alike with
      | error message => exact ⟨rfl,coded⟩
      | ok equal => exact ⟨rfl,coded.placed client (.changed equal (attempt_floats done floats arrives))⟩

theorem select_answers (coded : Coded format s u) (client : Nat) (same : Same v w) (floats : Floats format w.metrics)
    (revision : Int) :
    Answers format (respondSelect s client v revision) (MlopsRequests.respondSelect u client w revision) := by
  unfold respondSelect MlopsRequests.respondSelect
  rw [coded.rows,savePlan_encode u.db same]
  cases MlopsStore.savePlan u.db w (some revision) with
  | error message => exact ⟨rfl,coded.placed client .idle⟩
  | ok plan => exact ⟨rfl,coded.placed client (.saving same floats)⟩

theorem write_answers (coded : Coded format s u) (client : Nat) (same : Same v w) (floats : Floats format w.metrics)
    (plan : Plan) : Answers format (respondWrite s client v plan) (MlopsRequests.respondWrite u client w plan) := by
  unfold respondWrite MlopsRequests.respondWrite
  rw [coded.rows,saveWrite_encode u.db same]
  cases saved : MlopsStore.saveWrite u.db w plan with
  | none => exact ⟨rfl,coded.placed client .idle⟩
  | some pair =>
    have kept := saved_floats coded.floats floats saved
    have idled := coded.placed client .idle
    exact ⟨congrArg (fun body => Shown.answered body pair.2) (same_payload same),rfl,kept,idled.clients⟩

theorem respond_coded (coded : Coded format s u) (arrives : Arrives format event)
    (answered : respond repr format s event = some (t,outcome)) :
    ∃ after also, MlopsRequests.respond repr u event = some (after,also) ∧ shown outcome = shown also ∧
      Coded format t after := by
  have finish : ∀ {left : State × Outcome} {right : MlopsRequests.State × Outcome}, Answers format left right →
      some left = some (t,outcome) → MlopsRequests.respond repr u event = some right →
      ∃ after also, MlopsRequests.respond repr u event = some (after,also) ∧ shown outcome = shown also ∧
        Coded format t after := by
    intro left right answers taken responds
    cases Option.some.inj taken
    exact ⟨right.1,right.2,responds,answers.shown,answers.coded⟩
  cases event with
  | create client request runId =>
    have carries := coded.clients client
    simp only [respond] at answered
    split at answered
    · rename_i idle
      rw [idle] at carries
      generalize there : u.clients client = other at carries
      cases carries
      refine finish (create_answers coded client request runId) answered ?_
      simp only [MlopsRequests.respond,there]
    · cases answered
  | post client request =>
    have carries := coded.clients client
    simp only [respond] at answered
    split at answered
    · rename_i idle
      rw [idle] at carries
      generalize there : u.clients client = other at carries
      cases carries
      refine finish (post_answers coded client request arrives) answered ?_
      simp only [MlopsRequests.respond,there]
    · cases answered
  | select client =>
    have carries := coded.clients client
    simp only [respond] at answered
    split at answered
    · rename_i changed
      rw [changed] at carries
      generalize there : u.clients client = other at carries
      cases carries with
      | changed same floats =>
        refine finish (select_answers coded client same floats _) answered ?_
        simp only [MlopsRequests.respond,there]
    · cases answered
  | write client =>
    have carries := coded.clients client
    simp only [respond] at answered
    split at answered
    · rename_i saving
      rw [saving] at carries
      generalize there : u.clients client = other at carries
      cases carries with
      | saving same floats =>
        refine finish (write_answers coded client same floats _) answered ?_
        simp only [MlopsRequests.respond,there]
    · cases answered

end Steps

theorem documents_simulate (repr : PyFloat → String) (format : FloatFormat) :
    Simulates (through shown (respond repr format)) (through shown (MlopsRequests.respond repr)) (fun _ _ => True)
      (fun _ => Arrives format) (Coded format) := by
  constructor
  · intro s t u event outcome coded _ arrives answered
    obtain ⟨pair,responded,looked⟩ := Option.map_eq_some_iff.mp answered
    cases looked
    obtain ⟨after,also,responds,alike,together⟩ := respond_coded coded arrives responded
    refine ⟨after,?_,together⟩
    unfold through
    rw [responds,alike]
    rfl
  · intro s t u event outcome coded foreign
    exact absurd trivial foreign

-- The service over JSON texts answers every interleaving of requests as the
-- service over runs does, also where an update is lost, and a read of its table
-- gives the same run.
theorem run_documents_refine (repr : PyFloat → String) (format : FloatFormat) (events : List Event) (s : State)
    (path : Runs (step repr format) initial events s) (arrives : ∀ event ∈ events, Arrives format event) :
    ∃ u, Runs (MlopsRequests.step repr) MlopsRequests.initial events u ∧
      transcript (through shown (respond repr format)) initial events =
        transcript (through shown (MlopsRequests.respond repr)) MlopsRequests.initial events ∧
      ∀ runId, match MlopsStore.get u.db runId with
        | none => get format s.db runId = some none
        | some (w,revision) => ∃ v, get format s.db runId = some (some (v,revision)) ∧ Same v w := by
  have start : Coded format initial MlopsRequests.initial := ⟨rfl,fun _ _ found => (by cases found),fun _ => .idle⟩
  have looking := advance_through shown (respond repr format)
  have abstract := advance_through shown (MlopsRequests.respond repr)
  unfold step at path
  rw [← looking] at path
  obtain ⟨u,kept,same,coded⟩ := (documents_simulate repr format).run path (throughout_each arrives) start
  have everything := own_all path
  rw [everything,abstract] at kept
  rw [everything,observed_all] at same
  refine ⟨u,kept,same.symm,fun runId => ?_⟩
  have read := coded.get runId
  cases found : MlopsStore.get u.db runId with
  | none =>
    rw [found] at read
    exact read
  | some pair =>
    rw [found] at read
    obtain ⟨v,back,equal,_⟩ := read
    exact ⟨v,back,equal⟩

open MlopsRequests (fraudRisk)

def measured : Metrics := Dict.ofRows [("recall",.finite (9 / 10)),("drift",.infinity),("auc",.nan)]

def asked (call : Call) (ifMatch : Int) : Post := ⟨"run-1",call,ifMatch⟩

-- The metrics are sent in another order than that of their names. Of the two
-- decisions on the model that both clients answer, the store keeps the second.
def measuring : List Event :=
  [.create 0 fraudRisk "run-1",.write 0,.post 0 (asked (.transition .training "ci" "start" 0) 1),.select 0,.write 0,
    .post 0 (asked (.transition .evaluating "ci" "done" 0) 2),.select 0,.write 0,
    .post 0 (asked (.recordEvaluation measured "sha256:bb" ⟨Table.empty,Table.empty⟩ "ci" 0) 3),.select 0,.write 0,
    .post 1 (asked (.transition .approved "first" "good" 0) 4),.post 2 (asked (.transition .rejected "second" "bad" 0) 4),
    .select 1,.select 2,.write 1,.write 2]

theorem measured_floats : Floats seventeen measured := by
  intro name x found
  simp only [measured,Dict.ofRows,List.foldl_cons,List.foldl_nil,Dict.get_set] at found
  split at found
  · cases Option.some.inj found
    refine ⟨by decide,fun q finite => ?_⟩
    cases finite
  · split at found
    · cases Option.some.inj found
      refine ⟨by decide,fun q finite => ?_⟩
      cases finite
    · split at found
      · cases Option.some.inj found
        refine ⟨by decide,fun q finite => ?_⟩
        cases finite
        decide +kernel
      · cases found

theorem measuring_arrives : ∀ event ∈ measuring, Arrives seventeen event := by
  simp only [measuring,List.forall_mem_cons,asked,Arrives]
  simp [measured_floats]

theorem measuring_refined : ∃ s u v w, Runs (step (fun _ => "0.9") seventeen) initial measuring s ∧
    Runs (MlopsRequests.step fun _ => "0.9") MlopsRequests.initial measuring u ∧
    get seventeen s.db "run-1" = some (some (v,5)) ∧ MlopsStore.get u.db "run-1" = some (w,5) ∧ Same v w ∧
    w.history.map (·.actor) = ["ci","ci","ci","second"] := by
  have accepted : (consume (step (fun _ => "0.9") seventeen) initial measuring).isSome = true := by decide +kernel
  have reached : ((consume (MlopsRequests.step fun _ => "0.9") MlopsRequests.initial measuring).bind fun u =>
      MlopsStore.get u.db "run-1").map (fun pair => (pair.1.history.map (·.actor),pair.2)) =
        some (["ci","ci","ci","second"],5) := by decide +kernel
  obtain ⟨s,consumed⟩ := Option.isSome_iff_exists.mp accepted
  have path := consume_exact.mp consumed
  obtain ⟨u,kept,_,reads⟩ := run_documents_refine (fun _ => "0.9") seventeen measuring s path measuring_arrives
  rw [consume_exact.mpr kept] at reached
  obtain ⟨⟨w,revision⟩,found,fields⟩ := Option.map_eq_some_iff.mp reached
  obtain ⟨actors,rfl⟩ := Prod.mk.inj fields
  have read := reads "run-1"
  have stored : MlopsStore.get u.db "run-1" = some (w,5) := found
  rw [stored] at read
  obtain ⟨v,back,same⟩ := read
  exact ⟨s,u,v,w,path,kept,back,stored,same,actors⟩

end OpenModelOps.MlopsDocuments
