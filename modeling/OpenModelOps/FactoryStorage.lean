import OpenModelOps.FactoryAudit
import OpenModelOps.FactoryRequests
import OpenModelOps.JsonRecords
import OpenModelOps.PythonDatetime
import OpenModelOps.TableRecoding

namespace OpenModelOps.FactoryStorage
open JsonText KeyedTable PythonText PythonDatetime FactoryDomain RunHistory

-- What float() makes of a decimal. A float is given by the decimal that its repr
-- writes, so a float is a decimal that is not changed.
structure FloatFormat where
  rounds : ℚ → ℚ
  terminating : ∀ q, Terminating (rounds q)

def FloatFormat.IsFloat (format : FloatFormat) (q : ℚ) : Prop := format.rounds q = q

instance (format : FloatFormat) (q : ℚ) : Decidable (format.IsFloat q) :=
  inferInstanceAs (Decidable (format.rounds q = q))

def kinds : List WorkloadKind := [.model,.llm,.agent,.rag]
def stages : List WorkloadStage := [.draft,.validated,.approved,.provisioned,.released,.suspended,.retired]
def statuses : List GateStatus := [.pass,.fail]

def statusValue : GateStatus → String
  | .pass => "pass"
  | .fail => "fail"

-- _serialize.

def sloFields (slo : SLO) : List (Text × Json Number) :=
  [(text "availability_target",.num (.real slo.availabilityTarget)),(text "latency_p95_ms",.num (.int slo.latencyP95Ms)),
   (text "error_rate_target",.num (.real slo.errorRateTarget))]

def specFields (spec : FactorySpec) : List (Text × Json Number) :=
  [(text "name",str spec.name),(text "kind",str spec.kind.value),(text "owner",str spec.owner),
   (text "tenant",str spec.tenant),(text "environment",str spec.environment),
   (text "artifact_digest",str spec.artifactDigest),(text "data_classification",str spec.dataClassification),
   (text "slo",.obj (sloFields spec.slo)),(text "requires_gpu",.bool spec.requiresGpu),
   (text "internet_egress",.bool spec.internetEgress)]

def gateFields (result : GateResult) : List (Text × Json Number) :=
  [(text "gate",str result.gate),(text "status",str (statusValue result.status)),(text "evidence",str result.evidence),
   (text "evaluator",str result.evaluator),(text "evidence_digest",str result.evidenceDigest),
   (text "signing_key_id",str result.signingKeyId),(text "signature",str result.signature),
   (text "measured_at",str (isoformat result.measuredAt))]

def historyFields (entry : HistoryEntry) : List (Text × Json Number) :=
  [(text "from",str entry.source.value),(text "to",str entry.target.value),(text "actor",str entry.actor),
   (text "reason",str entry.reason),(text "at",str entry.at_)]

def gate (result : GateResult) : Json Number := .obj (gateFields result)

def documentFields (w : FactoryWorkload) : List (Text × Json Number) :=
  [(text "spec",.obj (specFields w.spec)),(text "workload_id",str w.workloadId),(text "stage",str w.stage.value),
   (text "gates",.obj (w.gates.rows.map fun row => (text row.1,gate row.2))),
   (text "approved_by",.ofOption str w.approvedBy),(text "policy_digest",.ofOption str w.policyDigest),
   (text "history",.arr (w.history.map fun entry => .obj (historyFields entry)))]

def document (w : FactoryWorkload) : Json Number := .obj (documentFields w)

-- none is the ValueError of json.dumps.
def serialize (w : FactoryWorkload) : Option Text := sortedDumps (document w)

-- _deserialize; none is an exception.

def asFloat (format : FloatFormat) : Json Number → Option ℚ
  | .num (.int n) => some n
  | .num (.real q) => some (format.rounds q)
  | _ => none

def sloNames : List String := ["availability_target","latency_p95_ms","error_rate_target"]

def sloOf (format : FloatFormat) (v : Json Number) : Option SLO := do
  let fields ← v.asObject
  let availabilityTarget ← item fields "availability_target" (asFloat format)
  let latencyP95Ms ← item fields "latency_p95_ms" Json.asInt
  let errorRateTarget ← item fields "error_rate_target" (asFloat format)
  if onlyKeys sloNames fields then
    (SLO.make availabilityTarget latencyP95Ms errorRateTarget).toOption
  else none

def specNames : List String :=
  ["name","kind","owner","tenant","environment","artifact_digest","data_classification","slo","requires_gpu","internet_egress"]

def specOf (format : FloatFormat) (v : Json Number) : Option FactorySpec := do
  let fields ← v.asObject
  let slo ← item fields "slo" (sloOf format)
  let kind ← (← item fields "kind" Json.asString) |> enumOf kinds WorkloadKind.value
  let name ← item fields "name" Json.asString
  let owner ← item fields "owner" Json.asString
  let tenant ← item fields "tenant" Json.asString
  let environment ← item fields "environment" Json.asString
  let artifactDigest ← item fields "artifact_digest" Json.asString
  let dataClassification ← item fields "data_classification" Json.asString
  let requiresGpu ← itemOr fields "requires_gpu" false Json.asBool
  let internetEgress ← itemOr fields "internet_egress" false Json.asBool
  if onlyKeys specNames fields then
    (FactorySpec.make name kind owner tenant environment artifactDigest dataClassification slo requiresGpu
      internetEgress).toOption
  else none

def gateOf (v : Json Number) : Option GateResult := do
  let fields ← v.asObject
  let gate ← item fields "gate" Json.asString
  let status ← (← item fields "status" Json.asString) |> enumOf statuses statusValue
  let evidence ← item fields "evidence" Json.asString
  let evaluator ← item fields "evaluator" Json.asString
  let evidenceDigest ← itemOr fields "evidence_digest" "" Json.asString
  let signingKeyId ← itemOr fields "signing_key_id" "" Json.asString
  let signature ← itemOr fields "signature" "" Json.asString
  let measuredAt ← fromisoformat (text (← item fields "measured_at" Json.asString))
  (GateResult.make gate status evidence evaluator evidenceDigest signingKeyId signature measuredAt).toOption

-- The history is taken as it stands; its entries are those of _move.
def historyOf (v : Json Number) : Option HistoryEntry := do
  let fields ← v.asObject
  let source ← (← item fields "from" Json.asString) |> enumOf stages WorkloadStage.value
  let target ← (← item fields "to" Json.asString) |> enumOf stages WorkloadStage.value
  let actor ← item fields "actor" Json.asString
  let reason ← item fields "reason" Json.asString
  let at_ ← item fields "at" Json.asString
  return ⟨source,target,actor,reason,at_⟩

def gatesOf (v : Json Number) : Option (List (String × GateResult)) := do
  readItems untext gateOf (← v.asObject)

def historiesOf (v : Json Number) : Option (List HistoryEntry) := do
  (← v.asArray).mapM historyOf

def workloadOf (format : FloatFormat) (v : Json Number) : Option FactoryWorkload := do
  let raw ← v.asObject
  let spec ← item raw "spec" (specOf format)
  let workloadId ← item raw "workload_id" Json.asString
  let stage ← (← item raw "stage" Json.asString) |> enumOf stages WorkloadStage.value
  let approvedBy ← item raw "approved_by" (Json.nullable Json.asString)
  let policyDigest ← itemOr raw "policy_digest" none (Json.nullable Json.asString)
  let history ← item raw "history" historiesOf
  let gates ← item raw "gates" gatesOf
  return ⟨spec,workloadId,stage,Dict.ofRows gates,approvedBy,policyDigest,history⟩

def deserialize (format : FloatFormat) (cs : Text) : Option FactoryWorkload := do
  workloadOf format (← loadsText cs)

theorem kind_read (kind : WorkloadKind) : enumOf kinds WorkloadKind.value kind.value = some kind := by
  cases kind <;> decide

theorem stage_read (stage : WorkloadStage) : enumOf stages WorkloadStage.value stage.value = some stage := by
  cases stage <;> decide

theorem status_read (status : GateStatus) : enumOf statuses statusValue (statusValue status) = some status := by
  cases status <;> decide

theorem float_read {format : FloatFormat} (float : format.IsFloat q) :
    asFloat format (sortedRead (.num (.real q))) = some q := by
  have terminating : Terminating q := float ▸ format.terminating q
  rw [sortedRead_real terminating]
  exact congrArg some float

section Records
variable {format : FloatFormat}

structure Floats (format : FloatFormat) (slo : SLO) : Prop where
  available : format.IsFloat slo.availabilityTarget
  accurate : format.IsFloat slo.errorRateTarget

theorem slo_make (slo : SLO) : SLO.make slo.availabilityTarget slo.latencyP95Ms slo.errorRateTarget = .ok slo := by
  rw [SLO.make,dif_pos slo.available,dif_pos slo.timely,dif_pos slo.accurate]

theorem sloOf_read (floats : Floats format slo) : sloOf format (sortedRead (.obj (sloFields slo))) = some slo := by
  have names : (sloFields slo).map Prod.fst = sloNames.map text := rfl
  have unique := named_unique names (by decide)
  have availability := item_readFields unique 0 rfl (asFloat format)
  have latency := item_readFields unique 1 rfl Json.asInt
  have errors := item_readFields unique 2 rfl (asFloat format)
  rw [sloOf,sortedRead_obj]
  refine bind_read rfl (bind_read (availability.trans (float_read floats.available)) ?_)
  refine bind_read latency (bind_read (errors.trans (float_read floats.accurate)) ?_)
  rw [if_pos (onlyKeys_readFields names),slo_make]
  rfl

theorem spec_make (spec : FactorySpec) : FactorySpec.make spec.name spec.kind spec.owner spec.tenant spec.environment
    spec.artifactDigest spec.dataClassification spec.slo spec.requiresGpu spec.internetEgress = .ok spec := by
  rw [FactorySpec.make,dif_pos spec.named,dif_pos spec.placed,dif_pos spec.classified,dif_pos spec.immutable]

theorem specOf_read (floats : Floats format spec.slo) : specOf format (sortedRead (.obj (specFields spec))) = some spec := by
  have names : (specFields spec).map Prod.fst = specNames.map text := rfl
  have unique := named_unique names (by decide)
  have name := item_readFields unique 0 rfl Json.asString
  have kind := item_readFields unique 1 rfl Json.asString
  have owner := item_readFields unique 2 rfl Json.asString
  have tenant := item_readFields unique 3 rfl Json.asString
  have environment := item_readFields unique 4 rfl Json.asString
  have artifactDigest := item_readFields unique 5 rfl Json.asString
  have dataClassification := item_readFields unique 6 rfl Json.asString
  have slo := item_readFields unique 7 rfl (sloOf format)
  have requiresGpu := itemOr_readFields unique 8 rfl false Json.asBool
  have internetEgress := itemOr_readFields unique 9 rfl false Json.asBool
  rw [specOf,sortedRead_obj]
  refine bind_read rfl (bind_read (slo.trans (sloOf_read floats)) ?_)
  refine bind_read (kind.trans (str_read _)) (bind_read (kind_read _) ?_)
  refine bind_read (name.trans (str_read _)) (bind_read (owner.trans (str_read _)) ?_)
  refine bind_read (tenant.trans (str_read _)) (bind_read (environment.trans (str_read _)) ?_)
  refine bind_read (artifactDigest.trans (str_read _)) (bind_read (dataClassification.trans (str_read _)) ?_)
  refine bind_read requiresGpu (bind_read internetEgress ?_)
  rw [if_pos (onlyKeys_readFields names),spec_make]
  rfl

theorem gate_make (result : GateResult) : GateResult.make result.gate result.status result.evidence result.evaluator
    result.evidenceDigest result.signingKeyId result.signature result.measuredAt = .ok result := by
  rw [GateResult.make,dif_pos result.evidenced]

theorem gateOf_read (representable : Representable result.measuredAt) : gateOf (sortedRead (gate result)) = some result := by
  have names : (gateFields result).map Prod.fst = ["gate","status","evidence","evaluator","evidence_digest",
    "signing_key_id","signature","measured_at"].map text := rfl
  have unique := named_unique names (by decide)
  have name := item_readFields unique 0 rfl Json.asString
  have status := item_readFields unique 1 rfl Json.asString
  have evidence := item_readFields unique 2 rfl Json.asString
  have evaluator := item_readFields unique 3 rfl Json.asString
  have evidenceDigest := itemOr_readFields unique 4 rfl "" Json.asString
  have signingKeyId := itemOr_readFields unique 5 rfl "" Json.asString
  have signature := itemOr_readFields unique 6 rfl "" Json.asString
  have measuredAt := item_readFields unique 7 rfl Json.asString
  rw [gateOf,gate,sortedRead_obj]
  refine bind_read rfl (bind_read (name.trans (str_read _)) ?_)
  refine bind_read (status.trans (str_read _)) (bind_read (status_read _) ?_)
  refine bind_read (evidence.trans (str_read _)) (bind_read (evaluator.trans (str_read _)) ?_)
  refine bind_read (evidenceDigest.trans (str_read _)) (bind_read (signingKeyId.trans (str_read _)) ?_)
  refine bind_read (signature.trans (str_read _)) (bind_read (measuredAt.trans (str_read _)) ?_)
  refine bind_read (fromisoformat_isoformat representable) ?_
  rw [gate_make]
  rfl

theorem historyOf_read (entry : HistoryEntry) : historyOf (sortedRead (.obj (historyFields entry))) = some entry := by
  have names : (historyFields entry).map Prod.fst = ["from","to","actor","reason","at"].map text := rfl
  have unique := named_unique names (by decide)
  have source := item_readFields unique 0 rfl Json.asString
  have target := item_readFields unique 1 rfl Json.asString
  have actor := item_readFields unique 2 rfl Json.asString
  have reason := item_readFields unique 3 rfl Json.asString
  have at_ := item_readFields unique 4 rfl Json.asString
  rw [historyOf,sortedRead_obj]
  refine bind_read rfl (bind_read (source.trans (str_read _)) (bind_read (stage_read _) ?_))
  refine bind_read (target.trans (str_read _)) (bind_read (stage_read _) ?_)
  refine bind_read (actor.trans (str_read _)) (bind_read (reason.trans (str_read _)) ?_)
  exact bind_read (at_.trans (str_read _)) rfl

theorem gate_whole (result : GateResult) : WholeTexts (gate result) := by
  simp only [gate,gateFields,str,WholeTexts,WholeFields,text_whole,and_self]

theorem spec_whole (spec : FactorySpec) : WholeTexts (.obj (specFields spec)) := by
  simp only [specFields,sloFields,str,WholeTexts,WholeFields,text_whole,and_self]

theorem entry_whole (entry : HistoryEntry) : WholeTexts (.obj (historyFields entry)) := by
  simp only [historyFields,str,WholeTexts,WholeFields,text_whole,and_self]

theorem gates_whole (rows : List (String × GateResult)) : WholeFields (rows.map fun row => (text row.1,gate row.2)) := by
  refine wholeFields_iff.mpr fun entry member => ?_
  obtain ⟨row,_,rfl⟩ := List.mem_map.mp member
  exact ⟨text_whole _,gate_whole _⟩

theorem history_whole (entries : List HistoryEntry) :
    WholeItems (entries.map fun entry => (.obj (historyFields entry) : Json Number)) := by
  induction entries with
  | nil => trivial
  | cons entry rest ih => exact ⟨entry_whole entry,ih⟩

theorem document_whole (w : FactoryWorkload) : WholeTexts (document w) := by
  have spec := spec_whole w.spec
  have gates := gates_whole w.gates.rows
  have history := history_whole w.history
  rw [document,WholeTexts,documentFields]
  simp only [WholeFields,text_whole,spec,str_whole,nullable_whole,true_and,and_true]
  exact ⟨gates,history⟩

-- Equality of workloads: dictionaries are equal when they have the same items.
structure Same (v w : FactoryWorkload) : Prop where
  spec : v.spec = w.spec
  workloadId : v.workloadId = w.workloadId
  stage : v.stage = w.stage
  gates : ∀ name, Dict.get v.gates name = Dict.get w.gates name
  approvedBy : v.approvedBy = w.approvedBy
  policyDigest : v.policyDigest = w.policyDigest
  history : v.history = w.history

def Timed (w : FactoryWorkload) : Prop :=
  ∀ name result, Dict.get w.gates name = some result → Representable result.measuredAt

theorem Timed.step (timed : Timed w) (taken : FactoryAudit.step w operation = some next)
    (measured : ∀ result, operation = .recordGate result → Representable result.measuredAt) : Timed next := by
  cases Option.some.inj taken
  unfold FactoryAudit.perform
  split
  · exact timed
  · rename_i next done
    have kept : next.gates = w.gates → Timed next := fun same name result found => timed name result (same ▸ found)
    cases operation with
    | recordGate added =>
      obtain ⟨_,_,rfl⟩ := recordGate_exact.mp done
      intro name result found
      rw [Dict.get_set] at found
      split at found
      · cases Option.some.inj found
        exact measured _ rfl
      · exact timed name result found
    | approve actor policyDigest now => exact kept (approve_parts done).2.2.2.2.2.1
    | provision actor now =>
      obtain ⟨_,reason,rfl⟩ := provision_parts done
      exact timed
    | release actor now =>
      obtain ⟨_,reason,rfl⟩ := release_parts done
      exact timed
    | suspend actor reason now =>
      obtain ⟨_,rfl⟩ := suspend_parts done
      exact timed
    | retire actor reason now =>
      obtain ⟨_,rfl⟩ := retire_parts done
      exact timed

theorem reachable_timed {spec : FactorySpec} (path : Runs FactoryAudit.step (.draft spec workloadId) operations w)
    (measured : ∀ result, .recordGate result ∈ operations → Representable result.measuredAt) : Timed w := by
  have start : Timed (.draft spec workloadId) := fun _ _ found => by cases found
  generalize FactoryWorkload.draft spec workloadId = first at path start
  induction path with
  | stop => exact start
  | take taken _ ih =>
    refine ih (fun result member => measured result (List.mem_cons_of_mem _ member)) (start.step taken ?_)
    rintro result rfl
    exact measured result List.mem_cons_self

theorem gatesOf_read (timed : Timed w) : ∃ moved, moved.Perm w.gates.rows ∧
    gatesOf (sortedRead (.obj (w.gates.rows.map fun row => (text row.1,gate row.2)))) = some moved := by
  obtain ⟨moved,permuted,read⟩ := @readItems_sorted GateResult w.gates.rows gate gateOf fun row member =>
    gateOf_read (timed row.1 row.2 (Dict.get_row.mpr member))
  refine ⟨moved,permuted,?_⟩
  rw [gatesOf,sortedRead_obj]
  exact read

theorem history_read (entries : List HistoryEntry) :
    historiesOf (sortedRead (.arr (entries.map fun entry => .obj (historyFields entry)))) = some entries := by
  rw [historiesOf,sortedRead_arr,List.map_map]
  exact mapM_exact fun entry _ => historyOf_read entry

theorem workloadOf_read (floats : Floats format w.spec.slo) (timed : Timed w) :
    ∃ read, workloadOf format (sortedRead (document w)) = some read ∧ Same read w := by
  have names : (documentFields w).map Prod.fst =
    ["spec","workload_id","stage","gates","approved_by","policy_digest","history"].map text := rfl
  have unique := named_unique names (by decide)
  have spec := item_readFields unique 0 rfl (specOf format)
  have workloadId := item_readFields unique 1 rfl Json.asString
  have stage := item_readFields unique 2 rfl Json.asString
  have gates := item_readFields unique 3 rfl gatesOf
  have approvedBy := item_readFields unique 4 rfl (Json.nullable Json.asString)
  have policyDigest := itemOr_readFields unique 5 rfl none (Json.nullable Json.asString)
  have history := item_readFields unique 6 rfl historiesOf
  obtain ⟨moved,permuted,gatesRead⟩ := gatesOf_read timed
  refine ⟨⟨w.spec,w.workloadId,w.stage,Dict.ofRows moved,w.approvedBy,w.policyDigest,w.history⟩,?_,
    ⟨rfl,rfl,rfl,Dict.get_ofRows permuted,rfl,rfl,rfl⟩⟩
  rw [workloadOf,document,sortedRead_obj]
  refine bind_read rfl (bind_read (spec.trans (specOf_read floats)) ?_)
  refine bind_read (workloadId.trans (str_read _)) ?_
  refine bind_read (stage.trans (str_read _)) (bind_read (stage_read _) ?_)
  refine bind_read (approvedBy.trans (nullable_sortedRead _)) (bind_read (policyDigest.trans (nullable_sortedRead _)) ?_)
  exact bind_read (history.trans (history_read _)) (bind_read (gates.trans gatesRead) rfl)

def Spelled (slo : SLO) : Prop := slo.latencyP95Ms < 10 ^ maxStrDigits

theorem gates_short (digits : Nat) (rows : List (String × GateResult)) :
    EachField (Short digits) (rows.map fun row => (text row.1,gate row.2)) := by
  refine eachField_iff.mpr fun entry member => ?_
  obtain ⟨row,_,rfl⟩ := List.mem_map.mp member
  exact ⟨trivial,trivial,trivial,trivial,trivial,trivial,trivial,trivial,trivial⟩

theorem history_short (digits : Nat) (entries : List HistoryEntry) :
    EachItem (Short digits) (entries.map fun entry => .obj (historyFields entry)) := by
  induction entries with
  | nil => trivial
  | cons entry rest ih => exact ⟨⟨trivial,trivial,trivial,trivial,trivial,trivial⟩,ih⟩

theorem document_short (w : FactoryWorkload) : intsWithin maxStrDigits (document w) = true ↔ Spelled w.spec.slo := by
  have positive := w.spec.slo.timely
  have digits : w.spec.slo.latencyP95Ms.natAbs < 10 ^ maxStrDigits ↔ Spelled w.spec.slo := by
    rw [Spelled,← Nat.cast_lt (α := Int),Int.natAbs_of_nonneg (le_of_lt positive)]
    push_cast
    rfl
  rw [intsWithin_iff,document,documentFields]
  simp only [EachNumber,EachField,specFields,sloFields,str,short_int,short_real,gates_short,history_short,nullable_each,
    true_and,and_true,digits]

theorem serialize_spelled (spelled : Spelled w.spec.slo) : serialize w = some (sortedText (document w)) :=
  dumped ((document_short w).mpr spelled)

theorem deserialize_serialize (serialized : serialize w = some cs) (floats : Floats format w.spec.slo) (timed : Timed w) :
    ∃ read, deserialize format cs = some read ∧ Same read w := by
  obtain ⟨short,rfl⟩ := dumped_parts serialized
  obtain ⟨read,back,same⟩ := workloadOf_read floats timed
  exact ⟨read,bind_read (loads_sortedText (document_whole w) short) back,same⟩

end Records

-- FactoryStore.

structure Row where
  workloadId : String
  tenant : String
  version : Nat
  document : Text

abbrev Database := Table Row.workloadId

-- none is an IntegrityError, or the ValueError of _serialize.
def create (db : Database) (w : FactoryWorkload) : Option Database := do
  db.insert ⟨w.workloadId,w.spec.tenant,1,← serialize w⟩

-- The outer none is an exception of _deserialize.
def get (format : FloatFormat) (db : Database) (workloadId tenant : String) : Option (Option (FactoryWorkload × Nat)) :=
  match db.find workloadId with
  | some row =>
    if row.tenant = tenant then (deserialize format row.document).map fun w => some (w,row.version) else some none
  | none => some none

def written (cs : Text) (version : Nat) : Assignment Row.workloadId where
  apply row := {row with version := version, document := cs}
  keeps _ := rfl

-- none is the ConcurrencyError, or the ValueError of _serialize.
def save (db : Database) (w : FactoryWorkload) (expectedVersion : Nat) : Option (Database × Nat) := do
  let result := db.update w.workloadId
    (fun row => decide (row.tenant = w.spec.tenant) && decide (row.version = expectedVersion))
    (written (← serialize w) (expectedVersion + 1))
  if result.2 ≠ 1 then none else some (result.1,expectedVersion + 1)

def encoded (row : FactoryRequests.Row) : Row := ⟨row.workloadId,row.tenant,row.version,sortedText (document row.document)⟩

theorem encoded_key (row : FactoryRequests.Row) : (encoded row).workloadId = row.workloadId := rfl

def encode (db : FactoryRequests.Database) : Database := db.recode encoded encoded_key

theorem create_encode (db : FactoryRequests.Database) (spelled : Spelled w.spec.slo) :
    create (encode db) w = (FactoryRequests.create db w).map encode := by
  rw [create,serialize_spelled spelled]
  exact Table.insert_recode db ⟨w.workloadId,w.spec.tenant,1,w⟩

theorem save_encode (db : FactoryRequests.Database) (spelled : Spelled w.spec.slo) (expectedVersion : Nat) :
    save (encode db) w expectedVersion =
      (FactoryRequests.save db w expectedVersion).map fun result => (encode result.1,result.2) := by
  have updated := @Table.update_recode _ _ _ _ _ _ encoded encoded_key db w.workloadId
    (fun row => decide (row.tenant = w.spec.tenant) && decide (row.version = expectedVersion))
    (fun row => decide (row.tenant = w.spec.tenant) && decide (row.version = expectedVersion))
    (FactoryRequests.written w (expectedVersion + 1)) (written (sortedText (document w)) (expectedVersion + 1))
    (fun _ => rfl) (fun _ => rfl)
  rw [save,serialize_spelled spelled,Option.bind_eq_bind,Option.bind_some,encode,updated,FactoryRequests.save]
  dsimp only
  by_cases hit : (db.update w.workloadId
      (fun row => decide (row.tenant = w.spec.tenant) && decide (row.version = expectedVersion))
      (FactoryRequests.written w (expectedVersion + 1))).2 = 1
  · rw [if_neg (not_not.mpr hit),if_neg (not_not.mpr hit)]
    rfl
  · rw [if_pos hit,if_pos hit]
    rfl

section Stored
variable {format : FloatFormat}

theorem get_document {db : Database} {row : Row} (found : db.find workloadId = some row) (mine : row.tenant = tenant)
    (serialized : serialize w = some row.document) (floats : Floats format w.spec.slo) (timed : Timed w) :
    ∃ read, get format db workloadId tenant = some (some (read,row.version)) ∧ Same read w := by
  obtain ⟨read,back,same⟩ := deserialize_serialize serialized floats timed
  refine ⟨read,?_,same⟩
  rw [get,found]
  simp only [mine,if_true,back]
  rfl

theorem get_encode {db : FactoryRequests.Database} (found : FactoryRequests.get db workloadId tenant = some (w,version))
    (spelled : Spelled w.spec.slo) (floats : Floats format w.spec.slo) (timed : Timed w) :
    ∃ read, get format (encode db) workloadId tenant = some (some (read,version)) ∧ Same read w := by
  unfold FactoryRequests.get at found
  split at found
  · rename_i row there
    split at found
    · rename_i mine
      cases found
      have coded : (encode db).find workloadId = some (encoded row) := by
        rw [encode,Table.find_recode,there]
        rfl
      exact get_document coded mine (serialize_spelled spelled) floats timed
    · cases found
  · cases found

theorem create_returns {db next : Database} (created : create db w = some next) (floats : Floats format w.spec.slo)
    (timed : Timed w) : ∃ read, get format next w.workloadId w.spec.tenant = some (some (read,1)) ∧ Same read w := by
  rw [create,Option.bind_eq_bind,Option.bind_eq_some_iff] at created
  obtain ⟨cs,serialized,inserted⟩ := created
  have found := Table.find_insert inserted w.workloadId
  rw [if_pos rfl] at found
  exact get_document found rfl serialized floats timed

theorem save_returns {db next : Database} (saved : save db w expectedVersion = some (next,version))
    (floats : Floats format w.spec.slo) (timed : Timed w) :
    ∃ read, get format next w.workloadId w.spec.tenant = some (some (read,version)) ∧ Same read w := by
  rw [save,Option.bind_eq_bind,Option.bind_eq_some_iff] at saved
  obtain ⟨cs,serialized,updated⟩ := saved
  dsimp only at updated
  split at updated
  · cases updated
  · rename_i hit
    cases updated
    obtain ⟨row,_,guarded,finds⟩ := Table.update_matched (not_not.mp hit)
    rw [Bool.and_eq_true,decide_eq_true_eq] at guarded
    have found := finds w.workloadId
    rw [if_pos rfl] at found
    exact get_document found guarded.1 serialized floats timed

theorem stored_workload_returns (format : FloatFormat) (w : FactoryWorkload) (floats : Floats format w.spec.slo)
    (timed : Timed w) :
    ((∃ cs read, serialize w = some cs ∧ deserialize format cs = some read ∧ Same read w) ↔ Spelled w.spec.slo) ∧
    (∀ db next, create db w = some next →
      ∃ read, get format next w.workloadId w.spec.tenant = some (some (read,1)) ∧ Same read w) ∧
    ∀ db expectedVersion next version, save db w expectedVersion = some (next,version) →
      ∃ read, get format next w.workloadId w.spec.tenant = some (some (read,version)) ∧ Same read w := by
  refine ⟨⟨?_,fun spelled => ?_⟩,fun db next created => create_returns created floats timed,
    fun db expectedVersion next version saved => save_returns saved floats timed⟩
  · rintro ⟨cs,read,serialized,_⟩
    exact (document_short w).mp (dumped_parts serialized).1
  · have serialized := serialize_spelled spelled
    obtain ⟨read,back,same⟩ := deserialize_serialize serialized floats timed
    exact ⟨_,read,serialized,back,same⟩

def seventeen : FloatFormat where
  rounds q := ((q * 10 ^ 17).floor : ℚ) / (10 ^ 17 : Nat)
  terminating q := ⟨17,by
    have divides := Rat.den_dvd (q * 10 ^ 17).floor (10 ^ 17 : Nat)
    exact_mod_cast divides⟩

def sampleWorkload : FactoryWorkload :=
  FactoryAudit.perform (.draft FactoryAudit.sampleSpec "workload-1") (.recordGate FactoryAudit.qualityGate)

theorem sample_timed : Timed sampleWorkload :=
  reachable_timed (.single rfl) fun result member => by
    cases List.mem_singleton.mp member
    decide

theorem long_positive : (0 : Int) < 10 ^ maxStrDigits := pow_pos (by decide) _

theorem sample_returns : ∃ cs read, serialize sampleWorkload = some cs ∧ deserialize seventeen cs = some read ∧
    Same read sampleWorkload := by
  have latency : sampleWorkload.spec.slo.latencyP95Ms = 500 := by decide +kernel
  have digits : (10 : Int) ^ 3 ≤ 10 ^ maxStrDigits := pow_le_pow_right₀ (by decide) (by decide)
  have spelled : Spelled sampleWorkload.spec.slo := by
    rw [Spelled,latency]
    exact lt_of_lt_of_le (by decide) digits
  exact (stored_workload_returns seventeen sampleWorkload ⟨by decide +kernel,by decide +kernel⟩ sample_timed).1.mpr spelled

def longLatency : FactoryWorkload :=
  .draft {FactoryAudit.sampleSpec with
    slo := {FactoryAudit.sampleSpec.slo with latencyP95Ms := 10 ^ maxStrDigits, timely := long_positive}} "workload-1"

theorem long_latency_unserialized : ¬ ∀ (format : FloatFormat) (w : FactoryWorkload), Floats format w.spec.slo → Timed w →
    ∃ cs read, serialize w = some cs ∧ deserialize format cs = some read ∧ Same read w := by
  intro returns
  have floats : Floats seventeen longLatency.spec.slo := ⟨by decide +kernel,by decide +kernel⟩
  have timed : Timed longLatency := fun _ _ found => by cases found
  obtain ⟨cs,read,serialized,_⟩ := returns seventeen longLatency floats timed
  have spelled : Spelled longLatency.spec.slo := (document_short longLatency).mp (dumped_parts serialized).1
  exact lt_irrefl _ spelled

end Stored

end OpenModelOps.FactoryStorage
