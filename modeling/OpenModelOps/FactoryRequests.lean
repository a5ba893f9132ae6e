import OpenModelOps.FactoryGovernance
import OpenModelOps.Raising
import OpenModelOps.RunHistory
import Mathlib.Logic.Function.Basic

namespace OpenModelOps.FactoryRequests
open KeyedTable PythonText FactoryDomain FactoryGovernance Raising

structure Identity where
  subject : String
  roles : List String
  tenant : String
  deriving DecidableEq

-- The process environment: FACTORY_ENV and EVIDENCE_PUBLIC_KEYS_JSON decoded.
structure Settings where
  crypto : Crypto
  production : Bool
  publicKeys : Dict String (List UInt8)

structure Failure where
  status : Nat
  detail : String
  deriving DecidableEq

structure WorkloadRequest where
  name : String
  kind : WorkloadKind
  owner : String
  environment : String
  artifactDigest : String
  dataClassification : String
  availabilityTarget : ℚ
  latencyP95Ms : Int
  errorRateTarget : ℚ
  requiresGpu : Bool
  internetEgress : Bool

structure GateRequest where
  gate : String
  passed : Bool
  evidence : String
  evidenceDigest : String
  signingKeyId : String
  signature : String

-- The two requests that change a stored workload. The operation is the path
-- segment, so any text can arrive.
inductive Call where
  | recordGate (request : GateRequest)
  | advance (operation reason : String)

structure Row where
  workloadId : String
  tenant : String
  version : Nat
  document : FactoryWorkload

abbrev Database := Table Row.workloadId

-- FactoryStore.

def create (db : Database) (w : FactoryWorkload) : Option Database :=
  db.insert ⟨w.workloadId,w.spec.tenant,1,w⟩

def get (db : Database) (workloadId tenant : String) : Option (FactoryWorkload × Nat) :=
  match db.find workloadId with
  | some row => if row.tenant = tenant then some (row.document,row.version) else none
  | none => none

def written (w : FactoryWorkload) (version : Nat) : Assignment Row.workloadId where
  apply row := {row with version := version, document := w}
  keeps _ := rfl

-- none is the ConcurrencyError.
def save (db : Database) (w : FactoryWorkload) (expectedVersion : Nat) : Option (Database × Nat) :=
  let result := db.update w.workloadId
    (fun row => decide (row.tenant = w.spec.tenant) && decide (row.version = expectedVersion))
    (written w (expectedVersion + 1))
  if result.2 ≠ 1 then none else some (result.1,expectedVersion + 1)

def authorize (identity : Identity) (role : String) : Except Failure Unit :=
  if role ∈ identity.roles then .ok () else .error ⟨403,"required role missing"⟩

def refuse (status : Nat) : Except String α → Except Failure α := Except.mapError (Failure.mk status)

def createWorkload (identity : Identity) (request : WorkloadRequest) (workloadId : String) :
    Except Failure FactoryWorkload := do
  authorize identity "factory-admin"
  let slo ← refuse 422 (SLO.make request.availabilityTarget request.latencyP95Ms request.errorRateTarget)
  let spec ← refuse 422 (FactorySpec.make request.name request.kind request.owner identity.tenant request.environment
    request.artifactDigest request.dataClassification slo request.requiresGpu request.internetEgress)
  return FactoryWorkload.draft spec workloadId

def verifyGateEvidence (settings : Settings) (statement : EvidenceStatement) (request : GateRequest) :
    Except Failure Unit :=
  if settings.production ∧ (request.signingKeyId = "" ∨ request.signature = "") then
    .error ⟨422,"signed evidence is required in production"⟩
  else if request.signingKeyId ≠ "" ∨ request.signature ≠ "" then
    refuse 422 ((EvidenceVerifier.mk settings.publicKeys).verify settings.crypto statement
      request.signingKeyId request.signature)
  else .ok ()

-- The statement is built outside the try block: its ValueError is a 500.
def recordGate (settings : Settings) (identity : Identity) (workloadId : String) (request : GateRequest)
    (w : FactoryWorkload) (now : Instant) : Except Failure FactoryWorkload := do
  let statement ← refuse 500
    (EvidenceStatement.make workloadId request.gate request.evidence request.evidenceDigest identity.subject)
  verifyGateEvidence settings statement request
  let result ← refuse 409 (GateResult.make request.gate (if request.passed then .pass else .fail) request.evidence
    identity.subject request.evidenceDigest request.signingKeyId request.signature now)
  refuse 409 (w.recordGate result)

def advance (settings : Settings) (identity : Identity) (operation reason : String) (w : FactoryWorkload)
    (now : Instant) : Except Failure FactoryWorkload :=
  if operation = "approve" then
    let decision := evaluate settings.crypto w.spec
    if ¬ decision.allowed then
      .error ⟨409,"policy denied release: " ++ FactoryWorkload.listRepr decision.reasons⟩
    else refuse 409 (w.approve identity.subject decision.policyDigest now)
  else if operation = "provision" then refuse 409 (w.provision identity.subject now)
  else if operation = "release" then refuse 409 (w.release identity.subject now)
  else if operation = "suspend" then refuse 409 (w.suspend identity.subject reason now)
  else if operation = "retire" then refuse 409 (w.retire identity.subject reason now)
  else .error ⟨404,"unknown operation"⟩

def Call.role : Call → String
  | .recordGate _ => "gate-evaluator"
  | .advance operation _ => if operation = "approve" then "release-approver" else "factory-admin"

def perform (settings : Settings) (identity : Identity) (workloadId : String) (call : Call)
    (w : FactoryWorkload) (now : Instant) : Except Failure FactoryWorkload :=
  match call with
  | .recordGate request => recordGate settings identity workloadId request w now
  | .advance operation reason => advance settings identity operation reason w now

structure View where
  workloadId : String
  name : String
  kind : String
  stage : String
  scorecard : FactoryWorkload.Scorecard
  approvedBy : Option String
  policyDigest : Option String
  history : List HistoryEntry
  version : Nat

def view (w : FactoryWorkload) (version : Nat) : View :=
  ⟨w.workloadId,w.spec.name,w.spec.kind.value,w.stage.value,w.scorecard,w.approvedBy,w.policyDigest,
    w.history,version⟩

-- Requests in flight. Between its SELECT and its UPDATE a request holds the
-- workload and the version it read; other requests run in between.
inductive Client where
  | idle
  | loaded (identity : Identity) (workloadId : String) (call : Call) (w : FactoryWorkload) (version : Nat)

structure State where
  db : Database
  clients : Nat → Client

def initial : State := ⟨Table.empty,fun _ => .idle⟩

-- One event is one database statement with the code around it.
inductive Event where
  | create (identity : Identity) (request : WorkloadRequest) (workloadId : String)
  | read (client : Nat) (identity : Identity) (workloadId : String) (call : Call)
  | write (client : Nat) (now : Instant)

inductive Outcome where
  | waiting
  | answered (body : View)
  | failed (failure : Failure)

def respondCreate (s : State) (identity : Identity) (request : WorkloadRequest) (workloadId : String) :
    State × Outcome :=
  match createWorkload identity request workloadId with
  | .error failure => (s,.failed failure)
  | .ok w => match create s.db w with
    | none => (s,.failed ⟨500,"Internal Server Error"⟩)
    | some db => ({s with db := db},.answered (view w 1))

def respondRead (s : State) (client : Nat) (identity : Identity) (workloadId : String) (call : Call) :
    State × Outcome :=
  match authorize identity call.role with
  | .error failure => (s,.failed failure)
  | .ok () => match get s.db workloadId identity.tenant with
    | none => (s,.failed ⟨404,"workload not found"⟩)
    | some (w,version) =>
      ({s with clients := Function.update s.clients client (.loaded identity workloadId call w version)},.waiting)

def respondWrite (settings : Settings) (s : State) (client : Nat) (identity : Identity) (workloadId : String)
    (call : Call) (w : FactoryWorkload) (version : Nat) (now : Instant) : State × Outcome :=
  let clients := Function.update s.clients client .idle
  match perform settings identity workloadId call w now with
  | .error failure => (⟨s.db,clients⟩,.failed failure)
  | .ok next => match save s.db next version with
    | none => (⟨s.db,clients⟩,.failed ⟨409,"workload changed concurrently"⟩)
    | some (db,saved) => (⟨db,clients⟩,.answered (view next saved))

-- none: the client has no request at that point of the function.
def respond (settings : Settings) (s : State) : Event → Option (State × Outcome)
  | .create identity request workloadId => some (respondCreate s identity request workloadId)
  | .read client identity workloadId call => match s.clients client with
    | .idle => some (respondRead s client identity workloadId call)
    | .loaded .. => none
  | .write client now => match s.clients client with
    | .idle => none
    | .loaded identity workloadId call w version =>
      some (respondWrite settings s client identity workloadId call w version now)

def step (settings : Settings) (s : State) (event : Event) : Option State :=
  (respond settings s event).map Prod.fst

def tenantOf (s : State) : Event → Option String
  | .create identity _ _ => some identity.tenant
  | .read _ identity _ _ => some identity.tenant
  | .write client _ => match s.clients client with
    | .idle => none
    | .loaded identity _ _ _ _ => some identity.tenant

inductive Responded (settings : Settings) (s next : State) (outcome : Outcome) : Event → Prop
  | create (identity : Identity) (request : WorkloadRequest) (workloadId : String)
      (answer : respondCreate s identity request workloadId = (next,outcome)) :
      Responded settings s next outcome (.create identity request workloadId)
  | read (client : Nat) (identity : Identity) (workloadId : String) (call : Call) (idle : s.clients client = .idle)
      (answer : respondRead s client identity workloadId call = (next,outcome)) :
      Responded settings s next outcome (.read client identity workloadId call)
  | write (client : Nat) (now : Instant) (identity : Identity) (workloadId : String) (call : Call)
      (w : FactoryWorkload) (version : Nat) (loaded : s.clients client = .loaded identity workloadId call w version)
      (answer : respondWrite settings s client identity workloadId call w version now = (next,outcome)) :
      Responded settings s next outcome (.write client now)

theorem respond_cases (answered : respond settings s event = some (next,outcome)) :
    Responded settings s next outcome event := by
  cases event with
  | create identity request workloadId => exact .create _ _ _ (Option.some.inj answered)
  | read client identity workloadId call =>
    simp only [respond] at answered
    split at answered
    · rename_i idle
      exact .read _ _ _ _ idle (Option.some.inj answered)
    · cases answered
  | write client now =>
    simp only [respond] at answered
    split at answered
    · cases answered
    · rename_i loaded
      exact .write _ _ _ _ _ _ _ loaded (Option.some.inj answered)

theorem get_exact {db : Database} : get db workloadId tenant = some (w,version) ↔
    ∃ row, db.find workloadId = some row ∧ row.tenant = tenant ∧ row.document = w ∧ row.version = version := by
  unfold get
  cases found : db.find workloadId with
  | none => simp
  | some row => by_cases same : row.tenant = tenant <;> simp [same]

theorem save_parts {db next : Database} (saved : save db w version = some (next,result)) :
    result = version + 1 ∧ ∃ row, db.find w.workloadId = some row ∧ row.tenant = w.spec.tenant ∧
      row.version = version ∧
      ∀ id, next.find id = if id = w.workloadId then some {row with version := version + 1, document := w}
        else db.find id := by
  unfold save at saved
  dsimp only at saved
  split at saved
  · cases saved
  · rename_i hit
    cases Option.some.inj saved
    obtain ⟨row,found,guarded,finds⟩ := Table.update_matched (not_not.mp hit)
    simp only [Bool.and_eq_true,decide_eq_true_eq] at guarded
    exact ⟨rfl,row,found,guarded.1,guarded.2,finds⟩

theorem refuse_ok {result : Except String α} (passed : refuse status result = .ok value) : result = .ok value := by
  cases result with
  | error message => cases passed
  | ok found => exact congrArg _ (Except.ok.inj passed)

theorem createWorkload_parts (made : createWorkload identity request workloadId = .ok w) :
    w.workloadId = workloadId ∧ w.spec.tenant = identity.tenant ∧ w.spec.owner = request.owner ∧
      w.stage = .draft := by
  unfold createWorkload at made
  obtain ⟨_,_,made⟩ := bind_ok made
  obtain ⟨slo,_,made⟩ := bind_ok made
  obtain ⟨spec,built,made⟩ := bind_ok made
  cases Except.ok.inj made
  have written : spec.tenant = identity.tenant ∧ spec.owner = request.owner := by
    have constructed := refuse_ok built
    unfold FactorySpec.make at constructed
    repeat' (split at constructed)
    all_goals first | (cases Except.ok.inj constructed; exact ⟨rfl,rfl⟩) | cases constructed
  exact ⟨rfl,written.1,written.2,rfl⟩

theorem recordGate_parts (done : recordGate settings identity workloadId request w now = .ok next) :
    ∃ statement result, EvidenceStatement.make workloadId request.gate request.evidence request.evidenceDigest
        identity.subject = .ok statement ∧
      verifyGateEvidence settings statement request = .ok () ∧
      result.gate = request.gate ∧ result.status = (if request.passed then .pass else .fail) ∧
      result.evidence = request.evidence ∧ result.evaluator = identity.subject ∧
      result.evidenceDigest = request.evidenceDigest ∧ result.signingKeyId = request.signingKeyId ∧
      result.signature = request.signature ∧ w.recordGate result = .ok next := by
  unfold recordGate at done
  obtain ⟨statement,made,done⟩ := bind_ok done
  obtain ⟨_,verified,done⟩ := bind_ok done
  obtain ⟨result,built,done⟩ := bind_ok done
  have constructed := refuse_ok built
  unfold GateResult.make at constructed
  split at constructed
  · cases Except.ok.inj constructed
    exact ⟨statement,_,refuse_ok made,verified,rfl,rfl,rfl,rfl,rfl,rfl,rfl,refuse_ok done⟩
  · cases constructed

end OpenModelOps.FactoryRequests
