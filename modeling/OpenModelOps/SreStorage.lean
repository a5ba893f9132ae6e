import OpenModelOps.JsonRecords
import OpenModelOps.PythonDatetime
import OpenModelOps.PythonNumber
import OpenModelOps.SreService
import OpenModelOps.TableRecoding

namespace OpenModelOps.SreStorage
open JsonText KeyedTable PythonText PythonDatetime PythonNumber RunHistory SreActions
open SreService (Status Settings)

def actions : List ActionType := [.scaleDeployment,.restartDeployment]

-- The payload of save_proposal.

def parameter : Parameter → Json Number
  | .int n => .num (.int n)
  | .str s => str s

def parameters (p : ActionProposal) : Json Number :=
  .obj (p.parameters.rows.map fun row => (text row.1,parameter row.2))

def payloadFields (p : ActionProposal) : List (Text × Json Number) :=
  [(text "action",str p.action.value),(text "cluster",str p.cluster),(text "namespace",str p.namespace_),
   (text "resource_name",str p.resourceName),(text "resource_uid",str p.resourceUid),
   (text "resource_version",str p.resourceVersion),(text "requested_by",str p.requestedBy),
   (text "rationale",str p.rationale),(text "rollback",str p.rollback),(text "parameters",parameters p),
   (text "proposal_id",str p.proposalId),(text "created_at",str (isoformat p.createdAt))]

def payload (p : ActionProposal) : Json Number := .obj (payloadFields p)

-- What get_proposal makes of it; none is an exception. uuid4 is the identifier
-- that a proposal without one would be given.

def parameterOf : Json Number → Option Parameter
  | .num (.int n) => some (.int n)
  | .str t => (untext t).map .str
  | _ => none

def parametersOf (v : Json Number) : Option (Dict String Parameter) := do
  return Dict.ofRows (← readItems untext parameterOf (← v.asObject))

def proposalNames : List String :=
  ["action","cluster","namespace","resource_name","resource_uid","resource_version","requested_by","rationale",
   "rollback","parameters","proposal_id","created_at"]

def proposalOf (uuid4 : String) (v : Json Number) : Option ActionProposal := do
  let fields ← v.asObject
  let action ← (← item fields "action" Json.asString) |> enumOf actions ActionType.value
  let createdAt ← fromisoformat (text (← item fields "created_at" Json.asString))
  let cluster ← item fields "cluster" Json.asString
  let namespace_ ← item fields "namespace" Json.asString
  let resourceName ← item fields "resource_name" Json.asString
  let resourceUid ← item fields "resource_uid" Json.asString
  let resourceVersion ← item fields "resource_version" Json.asString
  let requestedBy ← item fields "requested_by" Json.asString
  let rationale ← item fields "rationale" Json.asString
  let rollback ← item fields "rollback" Json.asString
  let parameters ← itemOr fields "parameters" Table.empty parametersOf
  let proposalId ← itemOr fields "proposal_id" uuid4 Json.asString
  if onlyKeys proposalNames fields then
    return ⟨action,cluster,namespace_,resourceName,resourceUid,resourceVersion,requestedBy,rationale,rollback,parameters,
      proposalId,createdAt⟩
  else none

-- The payload of approve, and what get_approval makes of it.

def approvalFields (a : Approval) : List (Text × Json Number) :=
  [(text "proposal_id",str a.proposalId),(text "proposal_digest",str a.proposalDigest),
   (text "approved_by",str a.approvedBy),(text "approved_at",str (isoformat a.approvedAt)),
   (text "expires_at",str (isoformat a.expiresAt))]

def approvalText (a : Approval) : Text := plainText (text ", ") (text ": ") (.obj (approvalFields a))

def approvalNames : List String := ["proposal_id","proposal_digest","approved_by","approved_at","expires_at"]

-- Times that are missing are given by the constructor, but both are read first.
def approvalOf (v : Json Number) : Option Approval := do
  let fields ← v.asObject
  let approvedAt ← fromisoformat (text (← item fields "approved_at" Json.asString))
  let expiresAt ← fromisoformat (text (← item fields "expires_at" Json.asString))
  let proposalId ← item fields "proposal_id" Json.asString
  let proposalDigest ← item fields "proposal_digest" Json.asString
  let approvedBy ← item fields "approved_by" Json.asString
  if onlyKeys approvalNames fields then return ⟨proposalId,proposalDigest,approvedBy,approvedAt,expiresAt⟩ else none

-- SREStore with the two JSON columns.

structure Row where
  proposalId : String
  payload : Text
  digest : String
  status : Status
  approval : Option Text

abbrev Database := Table Row.proposalId

-- none is an IntegrityError, or the ValueError of an integer that has no text.
-- The digest is computed only where every integer has one.
def saveProposal (sha256 : List UInt8 → String) (db : Database) (proposal : ActionProposal) : Option Database := do
  db.insert ⟨proposal.proposalId,← sortedDumps (payload proposal),proposal.digest sha256,.proposed,none⟩

def getProposal (uuid4 : String) (db : Database) (proposalId : String) : Option ActionProposal := do
  proposalOf uuid4 (← loadsText (← db.find proposalId).payload)

def getApproval (db : Database) (proposalId : String) : Option Approval := do
  approvalOf (← loadsText (← (← db.find proposalId).approval))

def markApproved (approval : Approval) : Assignment Row.proposalId where
  apply row := {row with approval := some (approvalText approval), status := .approved}
  keeps _ := rfl

def markStatus (status : Status) : Assignment Row.proposalId where
  apply row := {row with status := status}
  keeps _ := rfl

def approve (db : Database) (approval : Approval) : Option Database :=
  let result := db.update approval.proposalId
    (fun row => decide (row.digest = approval.proposalDigest) && decide (row.status = .proposed)) (markApproved approval)
  if result.2 ≠ 1 then none else some result.1

def claimExecution (db : Database) (proposalId : String) : Option Database :=
  let result := db.update proposalId (fun row => decide (row.status = .approved)) (markStatus .executing)
  if result.2 ≠ 1 then none else some result.1

def finishExecution (db : Database) (proposalId : String) (succeeded : Bool) : Database :=
  (db.update proposalId (fun row => decide (row.status = .executing))
    (markStatus (if succeeded then .executed else .failed))).1

-- Equality of proposals: dictionaries are equal when they have the same items.
structure Same (p q : ActionProposal) : Prop where
  action : p.action = q.action
  cluster : p.cluster = q.cluster
  namespace_ : p.namespace_ = q.namespace_
  resourceName : p.resourceName = q.resourceName
  resourceUid : p.resourceUid = q.resourceUid
  resourceVersion : p.resourceVersion = q.resourceVersion
  requestedBy : p.requestedBy = q.requestedBy
  rationale : p.rationale = q.rationale
  rollback : p.rollback = q.rollback
  parameters : ∀ name, Dict.get p.parameters name = Dict.get q.parameters name
  proposalId : p.proposalId = q.proposalId
  createdAt : p.createdAt = q.createdAt

-- Every integer among the parameters has a text.
def Spelled (p : ActionProposal) : Prop :=
  ∀ name n, Dict.get p.parameters name = some (.int n) → n.natAbs < 10 ^ maxStrDigits

theorem action_read (action : ActionType) : enumOf actions ActionType.value action.value = some action := by
  cases action <;> decide

theorem parameter_read (value : Parameter) : parameterOf (sortedRead (parameter value)) = some value := by
  cases value with
  | int n => rfl
  | str s => exact congrArg (Option.map Parameter.str) (untext_text s)

theorem parameters_read (p : ActionProposal) : ∃ read, parametersOf (sortedRead (parameters p)) = some read ∧
    ∀ name, Dict.get read name = Dict.get p.parameters name := by
  obtain ⟨moved,permuted,read⟩ := @readItems_sorted Parameter p.parameters.rows parameter parameterOf
    fun row _ => parameter_read row.2
  refine ⟨Dict.ofRows moved,?_,Dict.get_ofRows permuted⟩
  rw [parametersOf,parameters,sortedRead_obj]
  exact bind_read rfl (bind_read read rfl)

theorem proposalOf_read (uuid4 : String) (representable : Representable p.createdAt) :
    ∃ read, proposalOf uuid4 (sortedRead (payload p)) = some read ∧ Same read p := by
  have names : (payloadFields p).map Prod.fst = proposalNames.map text := rfl
  have unique := named_unique names (by decide)
  have action := item_readFields unique 0 rfl Json.asString
  have cluster := item_readFields unique 1 rfl Json.asString
  have namespace_ := item_readFields unique 2 rfl Json.asString
  have resourceName := item_readFields unique 3 rfl Json.asString
  have resourceUid := item_readFields unique 4 rfl Json.asString
  have resourceVersion := item_readFields unique 5 rfl Json.asString
  have requestedBy := item_readFields unique 6 rfl Json.asString
  have rationale := item_readFields unique 7 rfl Json.asString
  have rollback := item_readFields unique 8 rfl Json.asString
  have parameters := itemOr_readFields unique 9 rfl Table.empty parametersOf
  have proposalId := itemOr_readFields unique 10 rfl uuid4 Json.asString
  have createdAt := item_readFields unique 11 rfl Json.asString
  obtain ⟨kept,read,same⟩ := parameters_read p
  refine ⟨{p with parameters := kept},?_,⟨rfl,rfl,rfl,rfl,rfl,rfl,rfl,rfl,rfl,same,rfl,rfl⟩⟩
  rw [proposalOf,payload,sortedRead_obj]
  refine bind_read rfl (bind_read (action.trans (str_read _)) (bind_read (action_read _) ?_))
  refine bind_read (createdAt.trans (str_read _)) (bind_read (fromisoformat_isoformat representable) ?_)
  refine bind_read (cluster.trans (str_read _)) (bind_read (namespace_.trans (str_read _)) ?_)
  refine bind_read (resourceName.trans (str_read _)) (bind_read (resourceUid.trans (str_read _)) ?_)
  refine bind_read (resourceVersion.trans (str_read _)) (bind_read (requestedBy.trans (str_read _)) ?_)
  refine bind_read (rationale.trans (str_read _)) (bind_read (rollback.trans (str_read _)) ?_)
  refine bind_read (parameters.trans read) (bind_read (proposalId.trans (str_read _)) ?_)
  exact if_pos (onlyKeys_readFields names)

theorem parameters_whole (p : ActionProposal) : WholeTexts (parameters p) := by
  refine wholeFields_iff.mpr fun entry member => ?_
  obtain ⟨⟨name,value⟩,_,rfl⟩ := List.mem_map.mp member
  cases value with
  | int n => exact ⟨text_whole _,trivial⟩
  | str s => exact ⟨text_whole _,str_whole _⟩

theorem payload_whole (p : ActionProposal) : WholeTexts (payload p) := by
  rw [payload,WholeTexts,payloadFields]
  simp only [WholeFields,text_whole,str_whole,parameters_whole,and_self]

theorem parameter_short (digits : Nat) (value : Parameter) :
    EachNumber (Short digits) (parameter value) ↔ ∀ n, value = .int n → n.natAbs < 10 ^ digits := by
  cases value with
  | int n =>
    refine (short_int digits n).trans ⟨fun short m same => ?_,fun short => short n rfl⟩
    cases same
    exact short
  | str s =>
    refine ⟨fun _ n same => ?_,fun _ => trivial⟩
    cases same

theorem payload_short (p : ActionProposal) : intsWithin maxStrDigits (payload p) = true ↔ Spelled p := by
  rw [intsWithin_iff,payload,payloadFields]
  simp only [EachNumber,EachField,str,parameters,true_and,and_true,eachField_iff]
  constructor
  · intro short name n found
    have member := List.mem_map_of_mem (f := fun row => (text row.1,parameter row.2)) (Dict.get_row.mp found)
    exact (parameter_short maxStrDigits (.int n)).mp (short _ member) n rfl
  · intro spelled entry member
    obtain ⟨⟨name,value⟩,inside,rfl⟩ := List.mem_map.mp member
    refine (parameter_short maxStrDigits value).mpr fun n same => ?_
    cases same
    exact spelled name n (Dict.get_row.mpr inside)

-- The text that the digest is taken of.

def digestBytes (p : ActionProposal) : List UInt8 := asciiBytes (compactDumps intText p.payload)

def digestParameters (p : ActionProposal) : List (Text × Json Int) :=
  p.parameters.rows.map fun row => (text row.1,row.2.json)

theorem payload_sorted (p : ActionProposal) : sortKeys p.payload =
    .obj [(text "action",.str (text p.action.value)),(text "cluster",.str (text p.cluster)),
      (text "created_at",.str (text (isoformat p.createdAt))),(text "namespace",.str (text p.namespace_)),
      (text "parameters",sortKeys (.obj (digestParameters p))),(text "proposal_id",.str (text p.proposalId)),
      (text "rationale",.str (text p.rationale)),(text "requested_by",.str (text p.requestedBy)),
      (text "resource_name",.str (text p.resourceName)),(text "resource_uid",.str (text p.resourceUid)),
      (text "resource_version",.str (text p.resourceVersion)),(text "rollback",.str (text p.rollback))] := rfl

theorem digestPayload_whole (p : ActionProposal) : WholeTexts p.payload := by
  have parameters : WholeFields (digestParameters p) := by
    refine wholeFields_iff.mpr fun entry member => ?_
    obtain ⟨⟨name,value⟩,_,rfl⟩ := List.mem_map.mp member
    cases value with
    | int n => exact ⟨text_whole _,trivial⟩
    | str s => exact ⟨text_whole _,text_whole s⟩
  rw [ActionProposal.payload]
  simp only [WholeTexts,WholeFields,text_whole,true_and,and_true]
  exact parameters

theorem json_injective : Function.Injective Parameter.json := by
  intro left right same
  cases left with
  | int n =>
    cases right with
    | int m => exact congrArg Parameter.int (Json.num.inj same)
    | str s => cases same
  | str s =>
    cases right with
    | int m => cases same
    | str t => exact congrArg Parameter.str (text_injective (Json.str.inj same))

theorem digestParameters_exact (p q : ActionProposal) :
    sortKeys (.obj (digestParameters p)) = sortKeys (.obj (digestParameters q)) ↔
      ∀ name, Dict.get p.parameters name = Dict.get q.parameters name := by
  apply dictFields_exact json_injective
  intro value
  cases value <;> rfl

theorem value_injective : Function.Injective ActionType.value := by
  intro left right
  cases left <;> cases right <;> decide

theorem digestBytes_exact (left : Representable p.createdAt) (right : Representable q.createdAt) :
    digestBytes p = digestBytes q ↔ Same p q := by
  constructor
  · intro same
    have sorted := compactDumps_injective intText_numbering (digestPayload_whole p) (digestPayload_whole q) same
    rw [payload_sorted,payload_sorted] at sorted
    have fields := Json.obj.inj sorted
    simp only [List.cons.injEq,Prod.mk.injEq,true_and,and_true,Json.str.injEq,text_injective.eq_iff,
      value_injective.eq_iff,digestParameters_exact] at fields
    obtain ⟨action,cluster,created,namespace_,parameters,id,rationale,requested,name,uid,version,rollback⟩ := fields
    exact ⟨action,cluster,namespace_,name,uid,version,requested,rationale,rollback,parameters,id,
      isoformat_injective left right created⟩
  · intro same
    have parameters := (digestParameters_exact p q).mpr same.parameters
    rw [digestBytes,digestBytes,compactDumps,compactDumps,payload_sorted,payload_sorted,parameters,same.action,
      same.cluster,same.createdAt,same.namespace_,same.proposalId,same.rationale,same.requestedBy,same.resourceName,
      same.resourceUid,same.resourceVersion,same.rollback]

theorem Same.digest (same : Same p q) (left : Representable p.createdAt) (sha256 : List UInt8 → String) :
    p.digest sha256 = q.digest sha256 :=
  congrArg sha256 ((digestBytes_exact left (same.createdAt ▸ left)).mpr same)

structure Approval.Timed (a : Approval) : Prop where
  approved : Representable a.approvedAt
  expires : Representable a.expiresAt

theorem approvalOf_read (timed : Approval.Timed a) : approvalOf (.obj (approvalFields a)) = some a := by
  have names : (approvalFields a).map Prod.fst = approvalNames.map text := rfl
  have unique := named_unique names (by decide)
  have proposalId := item_named unique 0 rfl Json.asString
  have proposalDigest := item_named unique 1 rfl Json.asString
  have approvedBy := item_named unique 2 rfl Json.asString
  have approvedAt := item_named unique 3 rfl Json.asString
  have expiresAt := item_named unique 4 rfl Json.asString
  rw [approvalOf]
  refine bind_read rfl (bind_read (approvedAt.trans (str_read _)) ?_)
  refine bind_read (fromisoformat_isoformat timed.approved) (bind_read (expiresAt.trans (str_read _)) ?_)
  refine bind_read (fromisoformat_isoformat timed.expires) (bind_read (proposalId.trans (str_read _)) ?_)
  refine bind_read (proposalDigest.trans (str_read _)) (bind_read (approvedBy.trans (str_read _)) ?_)
  exact if_pos (onlyKeys_named names)

theorem approval_loaded (a : Approval) : loadsText (approvalText a) = some (.obj (approvalFields a)) := by
  refine loads_plainText spaced ?_ rfl ?_
  · simp only [approvalFields,str,WholeTexts,WholeFields,text_whole,and_self]
  · simp only [approvalFields,str,EachNumber,EachField,and_self]

end OpenModelOps.SreStorage
