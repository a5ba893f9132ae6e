import OpenModelOps.SecurityAuth
import OpenModelOps.SreExecution

namespace OpenModelOps.SreRequests
open KeyedTable PythonText SreActions SreService RunHistory SecurityAuth
open FactoryRequests (Identity Failure)

-- The body of POST /v1/proposals, as the model lets it through.
structure ProposalRequest where
  action : ActionType
  cluster : String
  namespace_ : String
  resourceName : String
  resourceUid : String
  resourceVersion : String
  rationale : String
  rollback : String
  parameters : Dict String Parameter
  given : ∀ value ∈ [cluster,namespace_,resourceName,resourceUid,resourceVersion], 1 ≤ value.length
  explained : ∀ value ∈ [rationale,rollback], 10 ≤ value.length

def ProposalRequest.proposal (request : ProposalRequest) (identity : Identity) (proposalId : String)
    (createdAt : Instant) : ActionProposal :=
  ⟨request.action,request.cluster,request.namespace_,request.resourceName,request.resourceUid,request.resourceVersion,
    identity.subject,request.rationale,request.rollback,request.parameters,proposalId,createdAt⟩

-- A request begins a call of the service; the rest of the call follows
-- statement by statement, as the service takes it.
inductive Request where
  | propose (request : ProposalRequest) (proposalId : String) (createdAt : Instant)
  | approve (client : Nat) (proposalId : String)
  | execute (client : Nat) (proposalId : String)

inductive Event where
  | request (outside : Outside) (authorization : Option String) (request : Request)
  | running (event : SreService.Event)

def Request.role : Request → String
  | .propose _ _ _ => "sre-proposer"
  | .approve _ _ => "sre-approver"
  | .execute _ _ => "sre-executor"

def Request.call (identity : Identity) : Request → SreService.Event
  | .propose request proposalId createdAt => .propose (request.proposal identity proposalId createdAt)
  | .approve client proposalId => .approveRead client proposalId identity.subject
  | .execute client proposalId => .executeRead client proposalId identity.subject

def continues : SreService.Event → Bool
  | .propose _ => false
  | .approveRead _ _ _ => false
  | .executeRead _ _ _ => false
  | _ => true

-- The process environment; executes is KUBERNETES_SRE_EXECUTION_ENABLED.
structure Process where
  env : Environment
  executes : Bool

def Request.executes : Request → Bool
  | .execute _ _ => true
  | _ => false

-- The call that a request leads to: none where the identity, the role or, for an
-- execution, the executor is missing.
def admitted (process : Process) (outside : Outside) (authorization : Option String) (request : Request) :
    Except Failure SreService.Event :=
  match currentIdentity process.env outside authorization with
  | .error failure => .error failure
  | .ok identity =>
    if request.role ∉ identity.roles then .error ⟨403,request.role ++ " role required"⟩
    else if request.executes && !process.executes then .error ⟨409,"change execution is disabled"⟩
    else .ok (request.call identity)

def step (settings : Settings) (process : Process) (s : State) : Event → Option State
  | .request outside authorization request => match admitted process outside authorization request with
    | .error _ => some s
    | .ok call => SreService.step settings s call
  | .running event => if continues event then SreService.step settings s event else none

def calls (process : Process) (events : List Event) : List SreService.Event :=
  events.filterMap fun event => match event with
    | .request outside authorization request => (admitted process outside authorization request).toOption
    | .running event => if continues event then some event else none

structure Admits (process : Process) (events : List Event) (request : Request) (outside : Outside)
    (authorization : Option String) (identity : Identity) : Prop where
  sent : Event.request outside authorization request ∈ events
  identified : currentIdentity process.env outside authorization = .ok identity
  role : request.role ∈ identity.roles
  enabled : request.executes = true → process.executes = true

variable {settings : Settings} {process : Process} {s next : State}

theorem admitted_admits (sent : Event.request outside authorization request ∈ events)
    (passed : admitted process outside authorization request = .ok call) :
    ∃ identity, Admits process events request outside authorization identity ∧ call = request.call identity := by
  unfold admitted at passed
  split at passed
  · cases passed
  · rename_i identity identified
    split at passed
    · cases passed
    · rename_i role
      split at passed
      · cases passed
      · rename_i enabled
        refine ⟨identity,⟨sent,identified,not_not.mp role,fun executes => ?_⟩,(Except.ok.inj passed).symm⟩
        simpa [executes] using enabled

theorem calls_run (path : Runs (step settings process) s events next) :
    Runs (SreService.step settings) s (calls process events) next := by
  induction path with
  | stop => exact .stop
  | @take s t u event rest taken _ ih =>
    cases event with
    | request outside authorization request =>
      simp only [step] at taken
      cases passed : admitted process outside authorization request with
      | error failure =>
        rw [passed] at taken
        cases Option.some.inj taken
        simpa [calls,passed,Except.toOption] using ih
      | ok call =>
        rw [passed] at taken
        have further := Runs.take taken ih
        simpa [calls,passed,Except.toOption] using further
    | running event =>
      simp only [step] at taken
      split at taken
      · rename_i continuing
        have further := Runs.take taken ih
        simpa [calls,continuing] using further
      · cases taken

def Came (events : List SreService.Event) : Client → Prop
  | .approving proposal approver => ∃ client, .approveRead client proposal.proposalId approver ∈ events
  | .loaded proposalId _ actor => ∃ client, .executeRead client proposalId actor ∈ events
  | .ready proposalId _ _ actor => ∃ client, .executeRead client proposalId actor ∈ events
  | .claimed proposalId _ _ actor => ∃ client, .executeRead client proposalId actor ∈ events
  | _ => True

structure Traced (events : List SreService.Event) (db : Database) (clients : Nat → Client) (log : List Entry) :
    Prop where
  proposed : ∀ proposalId row, db.find proposalId = some row →
    .propose row.payload ∈ events ∧ row.payload.proposalId = proposalId
  approved : ∀ proposalId row approval, db.find proposalId = some row → row.approval = some approval →
    ∃ client, .approveRead client proposalId approval.approvedBy ∈ events
  came : ∀ client, Came events (clients client)
  logged : ∀ entry ∈ log, ∃ client, .executeRead client entry.proposalId entry.actor ∈ events

theorem Came.later (came : Came events client) (event : SreService.Event) : Came (events ++ [event]) client := by
  cases client with
  | approving proposal approver =>
    obtain ⟨who,member⟩ := came
    exact ⟨who,List.mem_append_left _ member⟩
  | loaded proposalId proposal actor =>
    obtain ⟨who,member⟩ := came
    exact ⟨who,List.mem_append_left _ member⟩
  | ready proposalId proposal approval actor =>
    obtain ⟨who,member⟩ := came
    exact ⟨who,List.mem_append_left _ member⟩
  | claimed proposalId proposal approval actor =>
    obtain ⟨who,member⟩ := came
    exact ⟨who,List.mem_append_left _ member⟩
  | idle | writing _ | finishing _ _ => trivial

theorem Traced.later (traced : Traced events db parties log) (event : SreService.Event) :
    Traced (events ++ [event]) db parties log := by
  refine ⟨?_,?_,fun client => (traced.came client).later event,?_⟩
  · intro proposalId row found
    exact ⟨List.mem_append_left _ (traced.proposed proposalId row found).1,(traced.proposed proposalId row found).2⟩
  · intro proposalId row approval found signed
    obtain ⟨client,member⟩ := traced.approved proposalId row approval found signed
    exact ⟨client,List.mem_append_left _ member⟩
  · intro entry member
    obtain ⟨client,asked⟩ := traced.logged entry member
    exact ⟨client,List.mem_append_left _ asked⟩

theorem Traced.moved (traced : Traced events db parties log) (client : Nat) (entered : Client)
    (came : Came events entered) :
    Traced events db (Function.update parties client entered) log :=
  ⟨traced.proposed,traced.approved,updated_all traced.came came,traced.logged⟩

theorem Traced.wrote (traced : Traced events db parties log)
    (kept : ∀ j new, after.find j = some new → ∃ row, db.find j = some row ∧ new.payload = row.payload ∧
      ∀ approval, new.approval = some approval → row.approval = some approval ∨
        ∃ client, .approveRead client j approval.approvedBy ∈ events) : Traced events after parties log := by
  refine ⟨?_,?_,traced.came,traced.logged⟩
  · intro id new there
    obtain ⟨row,found,same,_⟩ := kept id new there
    rw [same]
    exact traced.proposed id row found
  · intro id new approval there signed
    obtain ⟨row,found,_,named⟩ := kept id new there
    rcases named approval signed with before | asked
    · exact traced.approved id row approval found before
    · exact asked

theorem Traced.updated (traced : Traced events db parties log) (found : db.find proposalId = some row)
    (finds : ∀ j, after.find j = if j = proposalId then some new else db.find j) (same : new.payload = row.payload)
    (approved : ∀ approval, new.approval = some approval → row.approval = some approval ∨
      ∃ client, .approveRead client proposalId approval.approvedBy ∈ events) : Traced events after parties log := by
  apply traced.wrote
  intro j held there
  rw [finds] at there
  split at there
  · rename_i here
    subst here
    cases Option.some.inj there
    exact ⟨row,found,same,approved⟩
  · exact ⟨held,there,rfl,fun _ signed => .inl signed⟩

theorem step_traced (traced : Traced events s.db s.clients s.log)
    (taken : SreService.step settings s event = some next) :
    Traced (events ++ [event]) next.db next.clients next.log := by
  have before := traced.later event
  have last : event ∈ events ++ [event] := by simp
  cases event with
  | propose proposal =>
    cases Option.some.inj taken
    split
    · exact before
    · rename_i db saved
      have finds := Table.find_insert saved
      refine ⟨?_,?_,before.came,before.logged⟩
      · intro id row found
        dsimp only at found
        rw [finds] at found
        split at found
        · rename_i here
          cases Option.some.inj found
          exact ⟨last,here.symm⟩
        · exact before.proposed id row found
      · intro id row approval found signed
        dsimp only at found
        rw [finds] at found
        split at found
        · cases Option.some.inj found
          cases signed
        · exact before.approved id row approval found signed
  | approveRead client proposalId approver =>
    simp only [SreService.step] at taken
    split at taken
    · cases Option.some.inj taken
      split
      · exact before
      · rename_i proposal read
        split
        · exact before
        · obtain ⟨row,found,same⟩ := SreExecution.getProposal_reads read
          have named := (traced.proposed proposalId row found).2
          rw [same] at named
          exact before.moved client (.approving _ _) ⟨client,named.symm ▸ last⟩
    · cases taken
  | approveWrite client approvedAt expiryBase =>
    simp only [SreService.step] at taken
    split at taken
    · rename_i proposal approver approving
      cases Option.some.inj taken
      have idle := before.moved client .idle trivial
      split
      · exact idle
      · rename_i db done
        obtain ⟨row,found,_,finds⟩ := SreExecution.approve_parts done
        refine idle.updated found finds rfl fun approval signed => .inr ?_
        cases Option.some.inj signed
        have came := before.came client
        rw [approving] at came
        exact came
    · cases taken
  | executeRead client proposalId actor =>
    simp only [SreService.step] at taken
    split at taken
    · cases Option.some.inj taken
      split
      · exact before
      · exact before.moved client (.loaded _ _ _) ⟨client,last⟩
    · cases taken
  | approvalRead client =>
    simp only [SreService.step] at taken
    split at taken
    · rename_i proposalId proposal actor loaded
      have came := before.came client
      rw [loaded] at came
      cases Option.some.inj taken
      split
      · exact before.moved client .idle trivial
      · exact before.moved client (.ready _ _ _ _) came
    · cases taken
  | claim client =>
    simp only [SreService.step] at taken
    split at taken
    · rename_i proposalId proposal approval actor ready
      have came := before.came client
      rw [ready] at came
      cases Option.some.inj taken
      split
      · exact before.moved client .idle trivial
      · rename_i db done
        obtain ⟨row,found,_,finds⟩ := SreExecution.claimExecution_parts done
        have moved := before.moved client (.claimed proposalId proposal approval actor) came
        exact moved.updated found finds rfl fun approval signed => .inl signed
    · cases taken
  | check client now =>
    simp only [SreService.step] at taken
    split at taken
    · rename_i proposalId proposal approval actor claimed
      have came := before.came client
      rw [claimed] at came
      cases Option.some.inj taken
      split
      · exact before.moved client (.finishing _ _) trivial
      · have moved := before.moved client (.writing proposalId) trivial
        refine ⟨moved.proposed,moved.approved,moved.came,?_⟩
        intro entry member
        rcases List.mem_append.mp member with old | new
        · exact before.logged entry old
        · cases List.mem_singleton.mp new
          exact came
    · cases taken
  | answer client succeeded =>
    simp only [SreService.step] at taken
    split at taken
    · cases Option.some.inj taken
      exact before.moved client (.finishing _ _) trivial
    · cases taken
  | finish client =>
    simp only [SreService.step] at taken
    split at taken
    · rename_i proposalId succeeded finishing
      cases Option.some.inj taken
      apply (before.moved client .idle trivial).wrote
      intro j new there
      simp only [finishExecution,Table.find_update] at there
      split at there
      · rename_i here
        obtain ⟨row,found,rfl⟩ := Option.map_eq_some_iff.mp there
        refine ⟨row,here ▸ found,?_⟩
        split
        · exact ⟨rfl,fun _ signed => .inl signed⟩
        · exact ⟨rfl,fun _ signed => .inl signed⟩
      · exact ⟨new,there,rfl,fun _ signed => .inl signed⟩
    · cases taken

theorem run_traced (path : Runs (SreService.step settings) initial events s) : Traced events s.db s.clients s.log := by
  have start : Traced [] initial.db initial.clients initial.log :=
    ⟨fun _ _ found => (nomatch found),fun _ _ _ found => (nomatch found),fun _ => trivial,
      fun _ member => (nomatch member)⟩
  have kept : ∀ {earlier before event next}, Runs (SreService.step settings) initial earlier before →
      Traced earlier before.db before.clients before.log → SreService.step settings before event = some next →
      Traced (earlier ++ [event]) next.db next.clients next.log := fun _ traced taken => step_traced traced taken
  exact path.recorded kept start

theorem calls_admits (member : call ∈ calls process events) (begins : continues call = false) :
    ∃ outside authorization request identity, Admits process events request outside authorization identity ∧
      call = request.call identity := by
  obtain ⟨event,sent,made⟩ := List.mem_filterMap.mp member
  cases event with
  | request outside authorization request =>
    dsimp only at made
    cases passed : admitted process outside authorization request with
    | error failure =>
      rw [passed] at made
      cases made
    | ok begun =>
      rw [passed] at made
      cases Option.some.inj made
      obtain ⟨identity,admits,same⟩ := admitted_admits sent passed
      exact ⟨outside,authorization,request,identity,admits,same⟩
  | running event =>
    dsimp only at made
    split at made
    · rename_i continuing
      cases Option.some.inj made
      rw [continuing] at begins
      cases begins
    · cases made

structure ThreePeople (process : Process) (events : List Event) (row : Row) (approval : Approval) (entry : Entry) :
    Prop where
  proposer : ∃ outside authorization identity request createdAt,
    Admits process events (.propose request entry.proposalId createdAt) outside authorization identity ∧
      Verified process.env outside authorization identity ∧
      row.payload = request.proposal identity entry.proposalId createdAt
  approver : ∃ outside authorization identity client,
    Admits process events (.approve client entry.proposalId) outside authorization identity ∧
      Verified process.env outside authorization identity ∧ identity.subject = approval.approvedBy
  executor : ∃ outside authorization identity client,
    Admits process events (.execute client entry.proposalId) outside authorization identity ∧
      Verified process.env outside authorization identity ∧ identity.subject = entry.actor

theorem propose_admits (member : .propose proposal ∈ calls process events) :
    ∃ outside authorization identity request createdAt,
      Admits process events (.propose request proposal.proposalId createdAt) outside authorization identity ∧
        proposal = request.proposal identity proposal.proposalId createdAt := by
  obtain ⟨outside,authorization,request,identity,admits,same⟩ := calls_admits member rfl
  cases request with
  | propose request proposalId createdAt =>
    cases same
    exact ⟨outside,authorization,identity,request,createdAt,admits,rfl⟩
  | approve | execute => cases same

theorem approve_admits (member : .approveRead client proposalId approver ∈ calls process events) :
    ∃ outside authorization identity, Admits process events (.approve client proposalId) outside authorization identity ∧
      identity.subject = approver := by
  obtain ⟨outside,authorization,request,identity,admits,same⟩ := calls_admits member rfl
  cases request with
  | approve client proposalId =>
    cases same
    exact ⟨outside,authorization,identity,admits,rfl⟩
  | propose | execute => cases same

theorem execute_admits (member : .executeRead client proposalId actor ∈ calls process events) :
    ∃ outside authorization identity, Admits process events (.execute client proposalId) outside authorization identity ∧
      identity.subject = actor := by
  obtain ⟨outside,authorization,request,identity,admits,same⟩ := calls_admits member rfl
  cases request with
  | execute client proposalId =>
    cases same
    exact ⟨outside,authorization,identity,admits,rfl⟩
  | propose | approve => cases same

-- No configuration lets a change reach the cluster that three people with
-- tokens of their own have not asked for, approved and executed.
theorem writer_calls_by_three_people (settings : Settings) (process : Process) (events : List Event) (s : State)
    (path : Runs (step settings process) initial events s) :
    ∀ entry ∈ s.log, process.executes = true ∧ ∃ row approval, s.db.find entry.proposalId = some row ∧
      row.approval = some approval ∧
      Authorized settings.sha256 settings.managedNamespaces row.payload approval entry.actor entry.checkedAt entry.call ∧
      ThreePeople process events row approval entry := by
  intro entry member
  have served := calls_run path
  have good : SreExecution.Good settings s := served.invariant SreExecution.step_good (SreExecution.initial_sound settings)
  have traced := run_traced served
  obtain ⟨row,approval,found,_,signed,authorized⟩ := (good.backed entry member).stored
  obtain ⟨proposed,named⟩ := traced.proposed entry.proposalId row found
  obtain ⟨first,approved⟩ := traced.approved entry.proposalId row approval found signed
  obtain ⟨second,executed⟩ := traced.logged entry member
  obtain ⟨here,bearer,author,request,createdAt,proposing,payload⟩ := propose_admits proposed
  obtain ⟨there,pass,approver,approving,approves⟩ := approve_admits approved
  obtain ⟨yonder,ticket,executor,executing,executes⟩ := execute_admits executed
  rw [named] at proposing payload
  have author_subject : row.payload.requestedBy = author.subject := by rw [payload]; rfl
  obtain ⟨notApprover,notAuthor,notBoth⟩ := authorized.independent
  rw [author_subject,← approves] at notApprover
  rw [author_subject,← executes] at notAuthor
  refine ⟨executing.enabled rfl,row,approval,found,signed,authorized,?_,?_,?_⟩
  · exact ⟨here,bearer,author,request,createdAt,proposing,
      different_verified proposing.identified approving.identified notApprover,payload⟩
  · exact ⟨there,pass,approver,first,approving,
      different_verified approving.identified proposing.identified notApprover.symm,approves⟩
  · exact ⟨yonder,ticket,executor,second,executing,
      different_verified executing.identified proposing.identified notAuthor,executes⟩

def oidc : Process where
  env := behindKeycloak
  executes := true

theorem scaling_given : ∀ value ∈ ["prod","models","ranker","uid-1","42"], 1 ≤ value.length := by decide

theorem scaling_explained : ∀ value ∈ ["higher load","scale back to 3"], 10 ≤ value.length := by decide

def scalingRequest : ProposalRequest :=
  ⟨.scaleDeployment,"prod","models","ranker","uid-1","42","higher load","scale back to 3",
    Dict.set Table.empty "replicas" (.int 5),scaling_given,scaling_explained⟩

def executed : List Event :=
  [.request (keycloak developerRoles) (some "Bearer alice") (.propose scalingRequest "p-1" 0),
    .request (keycloak developerRoles) (some "Bearer alice") (.approve 0 "p-1"),.request (keycloak developerRoles) (some "Bearer bob") (.approve 0 "p-1"),
    .running (.approveWrite 0 1000 1000),.request (keycloak developerRoles) (some "Bearer carol") (.execute 1 "p-1"),
    .running (.approvalRead 1),.running (.claim 1),.running (.check 1 2000),.running (.answer 1 true),.running (.finish 1)]

theorem scaling_by_three_people : ∃ s, Runs (step SreExecution.live oidc) initial executed s ∧
    s.log = [⟨"p-1","carol",2000,.scaleDeployment "models" "ranker" 5 "uid-1" "42"⟩] ∧
    ∀ entry ∈ s.log, oidc.executes = true ∧ ∃ row approval, s.db.find entry.proposalId = some row ∧
      row.approval = some approval ∧ Authorized SreExecution.live.sha256 SreExecution.live.managedNamespaces row.payload
        approval entry.actor entry.checkedAt entry.call ∧ ThreePeople oidc executed row approval entry := by
  have logged : (consume (step SreExecution.live oidc) initial executed).map State.log =
      some [⟨"p-1","carol",2000,.scaleDeployment "models" "ranker" 5 "uid-1" "42"⟩] := by decide +kernel
  obtain ⟨s,consumed,log⟩ := Option.map_eq_some_iff.mp logged
  have path := consume_exact.mp consumed
  exact ⟨s,path,log,writer_calls_by_three_people SreExecution.live oidc executed s path⟩

end OpenModelOps.SreRequests
