import OpenModelOps.JsonQuoting
import OpenModelOps.KeyedTable
import OpenModelOps.PythonText

namespace OpenModelOps.SreActions
open JsonText KeyedTable PythonText

inductive ActionType where
  | scaleDeployment | restartDeployment
  deriving DecidableEq

def ActionType.value : ActionType → String
  | .scaleDeployment => "scale_deployment"
  | .restartDeployment => "restart_deployment"

inductive Parameter where
  | int (n : Int)
  | str (s : String)
  deriving DecidableEq

structure ActionProposal where
  action : ActionType
  cluster : String
  namespace_ : String
  resourceName : String
  resourceUid : String
  resourceVersion : String
  requestedBy : String
  rationale : String
  rollback : String
  parameters : Dict String Parameter
  proposalId : String
  createdAt : Instant

def Parameter.json : Parameter → Json Int
  | .int n => .num n
  | .str s => .str (text s)

def ActionProposal.payload (p : ActionProposal) : Json Int :=
  .obj [(text "action",.str (text p.action.value)),(text "cluster",.str (text p.cluster)),
    (text "namespace",.str (text p.namespace_)),(text "resource_name",.str (text p.resourceName)),
    (text "resource_uid",.str (text p.resourceUid)),(text "resource_version",.str (text p.resourceVersion)),
    (text "requested_by",.str (text p.requestedBy)),(text "rationale",.str (text p.rationale)),
    (text "rollback",.str (text p.rollback)),
    (text "parameters",.obj (p.parameters.rows.map fun entry => (text entry.1,entry.2.json))),
    (text "proposal_id",.str (text p.proposalId)),(text "created_at",.str (text (isoformat p.createdAt)))]

-- sha256 is the hex digest of the hash, which is outside the repository.
def ActionProposal.digest (sha256 : List UInt8 → String) (p : ActionProposal) : String :=
  sha256 (asciiBytes (compactDumps intText p.payload))

structure Approval where
  proposalId : String
  proposalDigest : String
  approvedBy : String
  approvedAt : Instant
  expiresAt : Instant
  deriving DecidableEq

inductive WriterCall where
  | scaleDeployment (namespace_ name : String) (replicas : Int) (uid resourceVersion : String)
  | restartDeployment (namespace_ name uid resourceVersion : String)
  deriving DecidableEq

-- int(parameters.get("replicas", -1)); none is its ValueError.
def ActionProposal.replicas (p : ActionProposal) : Option Int :=
  match Dict.get p.parameters "replicas" with
  | none => some (-1)
  | some (.int n) => some n
  | some (.str s) => parseInt s

-- ChangeExecutor.execute up to the call of the writer.
def execute (sha256 : List UInt8 → String) (managedNamespaces : List String) (proposal : ActionProposal)
    (approval : Approval) (actor : String) (now : Instant) : Except String WriterCall :=
  if proposal.namespace_ ∉ managedNamespaces then .error "target namespace is outside the managed boundary"
  else if blank proposal.rollback = true then .error "rollback instructions are required"
  else if approval.proposalId ≠ proposal.proposalId ∨ approval.proposalDigest ≠ proposal.digest sha256 then
    .error "approval does not match the immutable proposal"
  else if approval.approvedBy = proposal.requestedBy then .error "proposal author cannot approve their own change"
  else if approval.expiresAt ≤ now then .error "approval has expired"
  else if actor = proposal.requestedBy ∨ actor = approval.approvedBy then
    .error "executor must be independent from proposer and approver"
  else match proposal.action with
    | .scaleDeployment => match proposal.replicas with
      | none => .error "invalid literal for int() with base 10"
      | some replicas => if 0 ≤ replicas ∧ replicas ≤ 100 then
          .ok (.scaleDeployment proposal.namespace_ proposal.resourceName replicas proposal.resourceUid
            proposal.resourceVersion)
        else .error "replicas must be between 0 and 100"
    | .restartDeployment => .ok (.restartDeployment proposal.namespace_ proposal.resourceName proposal.resourceUid
        proposal.resourceVersion)

def Requests (proposal : ActionProposal) (call : WriterCall) : Prop :=
  match proposal.action with
  | .scaleDeployment => ∃ replicas, proposal.replicas = some replicas ∧ 0 ≤ replicas ∧ replicas ≤ 100 ∧
      call = .scaleDeployment proposal.namespace_ proposal.resourceName replicas proposal.resourceUid
        proposal.resourceVersion
  | .restartDeployment => call = .restartDeployment proposal.namespace_ proposal.resourceName proposal.resourceUid
      proposal.resourceVersion

structure Authorized (sha256 : List UInt8 → String) (managedNamespaces : List String) (proposal : ActionProposal)
    (approval : Approval) (actor : String) (now : Instant) (call : WriterCall) : Prop where
  managed : proposal.namespace_ ∈ managedNamespaces
  reversible : blank proposal.rollback = false
  approves : approval.proposalId = proposal.proposalId
  digested : approval.proposalDigest = proposal.digest sha256
  unexpired : now < approval.expiresAt
  independent : proposal.requestedBy ≠ approval.approvedBy ∧ actor ≠ proposal.requestedBy ∧
    actor ≠ approval.approvedBy
  requested : Requests proposal call

theorem execute_authorized (done : execute sha256 managed proposal approval actor now = .ok call) :
    Authorized sha256 managed proposal approval actor now call := by
  unfold execute at done
  split at done
  · cases done
  rename_i inside
  split at done
  · cases done
  rename_i reversible
  split at done
  · cases done
  rename_i matching
  split at done
  · cases done
  rename_i author
  split at done
  · cases done
  rename_i expired
  split at done
  · cases done
  rename_i third
  push Not at matching third
  refine ⟨not_not.mp inside,by simpa using reversible,matching.1,matching.2,not_le.mp expired,
    ⟨fun same => author same.symm,third⟩,?_⟩
  unfold Requests
  split at done
  · split at done
    · cases done
    · rename_i replicas asked
      split at done
      · rename_i bounds
        exact ⟨replicas,asked,bounds.1,bounds.2,(Except.ok.inj done).symm⟩
      · cases done
  · exact (Except.ok.inj done).symm

end OpenModelOps.SreActions
