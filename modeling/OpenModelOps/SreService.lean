import OpenModelOps.RunHistory
import OpenModelOps.SreActions

namespace OpenModelOps.SreService
open KeyedTable PythonText SreActions RunHistory

inductive Status where
  | proposed | approved | executing | executed | failed
  deriving DecidableEq

-- The payload and approval columns are JSON texts; reading them back gives the
-- proposal and the approval that were written.
structure Row where
  proposalId : String
  payload : ActionProposal
  digest : String
  status : Status
  approval : Option Approval

abbrev Database := Table Row.proposalId

structure Settings where
  sha256 : List UInt8 → String
  managedNamespaces : List String

-- SREStore.

def saveProposal (settings : Settings) (db : Database) (proposal : ActionProposal) : Option Database :=
  db.insert ⟨proposal.proposalId,proposal,proposal.digest settings.sha256,.proposed,none⟩

def getProposal (db : Database) (proposalId : String) : Option ActionProposal := (db.find proposalId).map Row.payload

def getApproval (db : Database) (proposalId : String) : Option Approval := (db.find proposalId).bind Row.approval

def markApproved (approval : Approval) : Assignment Row.proposalId where
  apply row := {row with approval := some approval, status := .approved}
  keeps _ := rfl

def markStatus (status : Status) : Assignment Row.proposalId where
  apply row := {row with status := status}
  keeps _ := rfl

-- none is the ValueError of a rowcount other than 1.
def approve (db : Database) (approval : Approval) : Option Database :=
  let result := db.update approval.proposalId
    (fun row => decide (row.digest = approval.proposalDigest) && decide (row.status = .proposed)) (markApproved approval)
  if result.2 ≠ 1 then none else some result.1

def claimExecution (db : Database) (proposalId : String) : Option Database :=
  let result := db.update proposalId (fun row => decide (row.status = .approved)) (markStatus .executing)
  if result.2 ≠ 1 then none else some result.1

def finishExecution (db : Database) (proposalId : String) (succeeded : Bool) : Database :=
  (db.update proposalId (fun row => decide (row.status = .executing))
    (markStatus (if succeeded then .executed else .failed))).1

-- Where a call of the service stands between two statements.
inductive Client where
  | idle
  | approving (proposal : ActionProposal) (approver : String)
  | loaded (proposalId : String) (proposal : ActionProposal) (actor : String)
  | ready (proposalId : String) (proposal : ActionProposal) (approval : Approval) (actor : String)
  | claimed (proposalId : String) (proposal : ActionProposal) (approval : Approval) (actor : String)
  | writing (proposalId : String)
  | finishing (proposalId : String) (succeeded : Bool)

-- A call that reached the writer: for which proposal and actor, the time of the
-- executor's check, and what the writer was given.
structure Entry where
  proposalId : String
  actor : String
  checkedAt : Instant
  call : WriterCall
  deriving DecidableEq

structure State where
  db : Database
  clients : Nat → Client
  log : List Entry

def initial : State := ⟨Table.empty,fun _ => .idle,[]⟩

inductive Event where
  | propose (proposal : ActionProposal)
  | approveRead (client : Nat) (proposalId approver : String)
  | approveWrite (client : Nat) (approvedAt expiryBase : Instant)
  | executeRead (client : Nat) (proposalId actor : String)
  | approvalRead (client : Nat)
  | claim (client : Nat)
  | check (client : Nat) (now : Instant)
  | answer (client : Nat) (succeeded : Bool)
  | finish (client : Nat)

def place (s : State) (client : Nat) (next : Client) : State :=
  {s with clients := Function.update s.clients client next}

-- One event is one SQL statement, the executor's check with the call it makes,
-- or the writer's answer. A call that raises leaves its client idle.
def step (settings : Settings) (s : State) : Event → Option State
  | .propose proposal => some (match saveProposal settings s.db proposal with
    | none => s
    | some db => {s with db := db})
  | .approveRead client proposalId approver => match s.clients client with
    | .idle => some (match getProposal s.db proposalId with
      | none => s
      | some proposal => if proposal.requestedBy = approver then s else place s client (.approving proposal approver))
    | _ => none
  | .approveWrite client approvedAt expiryBase => match s.clients client with
    | .approving proposal approver =>
      let approval : Approval := ⟨proposal.proposalId,proposal.digest settings.sha256,approver,approvedAt,
        expiryBase + minutes 15⟩
      some (match approve s.db approval with
        | none => place s client .idle
        | some db => {place s client .idle with db := db})
    | _ => none
  | .executeRead client proposalId actor => match s.clients client with
    | .idle => some (match getProposal s.db proposalId with
      | none => s
      | some proposal => place s client (.loaded proposalId proposal actor))
    | _ => none
  | .approvalRead client => match s.clients client with
    | .loaded proposalId proposal actor => some (match getApproval s.db proposalId with
      | none => place s client .idle
      | some approval => place s client (.ready proposalId proposal approval actor))
    | _ => none
  | .claim client => match s.clients client with
    | .ready proposalId proposal approval actor => some (match claimExecution s.db proposalId with
      | none => place s client .idle
      | some db => {place s client (.claimed proposalId proposal approval actor) with db := db})
    | _ => none
  | .check client now => match s.clients client with
    | .claimed proposalId proposal approval actor =>
      some (match execute settings.sha256 settings.managedNamespaces proposal approval actor now with
        | .error _ => place s client (.finishing proposalId false)
        | .ok call => {place s client (.writing proposalId) with log := s.log ++ [⟨proposalId,actor,now,call⟩]})
    | _ => none
  | .answer client succeeded => match s.clients client with
    | .writing proposalId => some (place s client (.finishing proposalId succeeded))
    | _ => none
  | .finish client => match s.clients client with
    | .finishing proposalId succeeded =>
      some {place s client .idle with db := finishExecution s.db proposalId succeeded}
    | _ => none

end OpenModelOps.SreService
