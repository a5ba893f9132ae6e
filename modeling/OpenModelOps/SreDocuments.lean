import OpenModelOps.Simulation
import OpenModelOps.SreBinding

namespace OpenModelOps.SreDocuments
open KeyedTable PythonText PythonDatetime RunHistory Simulation SreActions SreStorage
open SreBinding (Binds Bound encode)
open SreService (Client Entry Event Settings)

-- The service with its table as it is: proposals and approvals are JSON texts.
structure State where
  db : Database
  clients : Nat → Client
  log : List Entry

def initial : State := ⟨Table.empty,fun _ => .idle,[]⟩

def place (s : State) (client : Nat) (next : Client) : State :=
  {s with clients := Function.update s.clients client next}

-- A read that raises leaves its client idle, as a refused statement does.
def step (settings : Settings) (uuid4 : String) (s : State) : Event → Option State
  | .propose proposal => some (match saveProposal settings.sha256 s.db proposal with
    | none => s
    | some db => {s with db := db})
  | .approveRead client proposalId approver => match s.clients client with
    | .idle => some (match getProposal uuid4 s.db proposalId with
      | none => s
      | some proposal => if proposal.requestedBy = approver then s else place s client (.approving proposal approver))
    | _ => none
  | .approveWrite client approvedAt expiryBase => match s.clients client with
    | .approving proposal approver =>
      let approval : Approval := ⟨proposal.proposalId,proposal.digest settings.sha256,approver,approvedAt,
        expiryBase + minutes 15⟩
      some (match approve s.db approval with
        | none => place s client .idle
        | some db => {place s client .idle with db := db})
    | _ => none
  | .executeRead client proposalId actor => match s.clients client with
    | .idle => some (match getProposal uuid4 s.db proposalId with
      | none => s
      | some proposal => place s client (.loaded proposalId proposal actor))
    | _ => none
  | .approvalRead client => match s.clients client with
    | .loaded proposalId proposal actor => some (match getApproval s.db proposalId with
      | none => place s client .idle
      | some approval => place s client (.ready proposalId proposal approval actor))
    | _ => none
  | .claim client => match s.clients client with
    | .ready proposalId proposal approval actor => some (match claimExecution s.db proposalId with
      | none => place s client .idle
      | some db => {place s client (.claimed proposalId proposal approval actor) with db := db})
    | _ => none
  | .check client now => match s.clients client with
    | .claimed proposalId proposal approval actor =>
      some (match execute settings.sha256 settings.managedNamespaces proposal approval actor now with
        | .error _ => place s client (.finishing proposalId false)
        | .ok call => {place s client (.writing proposalId) with log := s.log ++ [⟨proposalId,actor,now,call⟩]})
    | _ => none
  | .answer client succeeded => match s.clients client with
    | .writing proposalId => some (place s client (.finishing proposalId succeeded))
    | _ => none
  | .finish client => match s.clients client with
    | .finishing proposalId succeeded =>
      some {place s client .idle with db := finishExecution s.db proposalId succeeded}
    | _ => none

def Writable : Event → Prop
  | .propose proposal => Spelled proposal
  | _ => True

instance decideWritable : DecidablePred Writable
  | .propose proposal => decidable_of_iff _ (payload_short proposal)
  | .approveRead .. | .approveWrite .. | .executeRead .. | .approvalRead _ | .claim _ | .check .. | .answer ..
  | .finish _ => .isTrue trivial

def Arrives : Event → Prop
  | .propose proposal => Representable proposal.createdAt
  | .approveWrite _ approvedAt expiryBase => Representable approvedAt ∧ Representable (expiryBase + minutes 15)
  | _ => True

instance decideArrives : DecidablePred Arrives
  | .propose proposal => inferInstanceAs (Decidable (Representable proposal.createdAt))
  | .approveWrite _ approvedAt expiryBase => inferInstanceAs
      (Decidable (Representable approvedAt ∧ Representable (expiryBase + minutes 15)))
  | .approveRead .. | .executeRead .. | .approvalRead _ | .claim _ | .check .. | .answer .. | .finish _ => .isTrue trivial

structure Held (p q : ActionProposal) : Prop where
  same : Same p q
  dated : Representable p.createdAt

inductive Carries : Client → Client → Prop where
  | idle : Carries .idle .idle
  | approving (held : Held p q) : Carries (.approving p approver) (.approving q approver)
  | loaded (held : Held p q) : Carries (.loaded proposalId p actor) (.loaded proposalId q actor)
  | ready (held : Held p q) : Carries (.ready proposalId p approval actor) (.ready proposalId q approval actor)
  | claimed (held : Held p q) : Carries (.claimed proposalId p approval actor) (.claimed proposalId q approval actor)
  | writing : Carries (.writing proposalId) (.writing proposalId)
  | finishing : Carries (.finishing proposalId succeeded) (.finishing proposalId succeeded)

structure Coded (settings : Settings) (s : State) (u : SreService.State) : Prop where
  rows : s.db = encode u.db
  binds : Binds settings u.db
  clients : ∀ client, Carries (s.clients client) (u.clients client)
  log : s.log = u.log

theorem Held.digest (held : Held p q) (sha256 : List UInt8 → String) : p.digest sha256 = q.digest sha256 :=
  held.same.digest held.dated sha256

theorem Held.replicas (held : Held p q) : p.replicas = q.replicas := by
  unfold ActionProposal.replicas
  rw [held.same.parameters]

theorem Held.execute (held : Held p q) (sha256 : List UInt8 → String) (managed : List String) (approval : Approval)
    (actor : String) (now : Instant) :
    SreActions.execute sha256 managed p approval actor now = SreActions.execute sha256 managed q approval actor now := by
  have same := held.same
  unfold SreActions.execute
  rw [held.digest,held.replicas,same.namespace_,same.rollback,same.proposalId,same.requestedBy,same.action,
    same.resourceName,same.resourceUid,same.resourceVersion]

section Steps
variable {settings : Settings} {uuid4 : String} {s t : State} {u : SreService.State}

theorem getProposal_absent {db : SreService.Database} (absent : SreService.getProposal db proposalId = none) :
    getProposal uuid4 (encode db) proposalId = none := by
  have missing := Option.map_eq_none_iff.mp absent
  unfold getProposal
  rw [SreBinding.find_encode,missing]
  rfl

theorem Coded.proposal (coded : Coded settings s u) (found : SreService.getProposal u.db proposalId = some q) :
    ∃ p, getProposal uuid4 s.db proposalId = some p ∧ Held p q := by
  obtain ⟨row,there,rfl⟩ := Option.map_eq_some_iff.mp found
  have bound := coded.binds proposalId row there
  obtain ⟨p,back,same⟩ := SreBinding.getProposal_encode uuid4 found bound.spelled bound.representable
  rw [coded.rows]
  refine ⟨p,back,same,?_⟩
  rw [same.createdAt]
  exact bound.representable

theorem Coded.approval (coded : Coded settings s u) (proposalId : String) :
    getApproval s.db proposalId = SreService.getApproval u.db proposalId := by
  rw [coded.rows]
  exact SreBinding.getApproval_encode fun row a found => (coded.binds proposalId row found).timed a

theorem Coded.client {client : Nat} (coded : Coded settings s u) (here : s.clients client = held) : Carries held (u.clients client) :=
  here ▸ coded.clients client

theorem Coded.placed (coded : Coded settings s u) (client : Nat) (carries : Carries after other) :
    Coded settings (place s client after) (SreService.place u client other) := by
  exact ⟨coded.rows,coded.binds,related_update coded.clients client carries,coded.log⟩

theorem Coded.stored (coded : Coded settings s u) (binds : Binds settings records) :
    Coded settings {s with db := encode records} {u with db := records} :=
  ⟨rfl,binds,coded.clients,coded.log⟩

theorem saved_binds (binds : Binds settings records) (spelled : Spelled p) (dated : Representable p.createdAt)
    (saved : SreService.saveProposal settings records p = some next) : Binds settings next := by
  intro id row found
  rw [Table.find_insert saved] at found
  split at found
  · cases Option.some.inj found
    exact ⟨rfl,spelled,dated,fun a signed => (by cases signed),fun a signed => (by cases signed)⟩
  · exact binds id row found

theorem approved_binds (binds : Binds settings records) (timed : Approval.Timed approval)
    (approved : SreService.approve records approval = some next) : Binds settings next := by
  unfold SreService.approve at approved
  dsimp only at approved
  split at approved
  · cases approved
  · cases Option.some.inj approved
    exact binds.update (SreBinding.approve_bound timed)

theorem claimed_binds (binds : Binds settings records) (claimed : SreService.claimExecution records proposalId = some next) :
    Binds settings next := by
  unfold SreService.claimExecution at claimed
  dsimp only at claimed
  split at claimed
  · cases claimed
  · cases Option.some.inj claimed
    exact binds.update fun _ bound _ => bound.status _

theorem step_coded {event : Event} (coded : Coded settings s u) (writable : Writable event) (arrives : Arrives event)
    (taken : step settings uuid4 s event = some t) : ∃ after, SreService.step settings u event = some after ∧
      Coded settings t after := by
  cases event with
  | propose proposal =>
    cases Option.some.inj taken
    refine ⟨_,rfl,?_⟩
    rw [coded.rows,SreBinding.saveProposal_encode (show Spelled proposal from writable)]
    cases saved : SreService.saveProposal settings u.db proposal with
    | none => exact coded
    | some next => exact coded.stored (saved_binds coded.binds writable arrives saved)
  | approveRead client proposalId approver =>
    simp only [step] at taken
    split at taken
    · rename_i idle
      have carries := coded.client idle
      generalize there : u.clients client = other at carries
      cases carries
      cases Option.some.inj taken
      simp only [SreService.step,there]
      refine ⟨_,rfl,?_⟩
      cases found : SreService.getProposal u.db proposalId with
      | none =>
        rw [coded.rows,getProposal_absent found]
        exact coded
      | some q =>
        obtain ⟨p,back,held⟩ := @Coded.proposal _ uuid4 _ _ _ _ coded found
        rw [back]
        dsimp only
        rw [held.same.requestedBy]
        split
        · exact coded
        · exact coded.placed client (.approving held)
    · cases taken
  | approveWrite client approvedAt expiryBase =>
    simp only [step] at taken
    split at taken
    · rename_i p approver approving
      have carries := coded.client approving
      generalize there : u.clients client = other at carries
      cases carries with
      | @approving _ q _ held =>
        cases Option.some.inj taken
        simp only [SreService.step,there]
        refine ⟨_,rfl,?_⟩
        rw [held.digest,held.same.proposalId,coded.rows,SreBinding.approve_encode]
        cases approved : SreService.approve u.db ⟨q.proposalId,q.digest settings.sha256,approver,approvedAt,
            expiryBase + minutes 15⟩ with
        | none => exact coded.placed client .idle
        | some next =>
          exact (coded.placed client .idle).stored (approved_binds coded.binds ⟨arrives.1,arrives.2⟩ approved)
    · cases taken
  | executeRead client proposalId actor =>
    simp only [step] at taken
    split at taken
    · rename_i idle
      have carries := coded.client idle
      generalize there : u.clients client = other at carries
      cases carries
      cases Option.some.inj taken
      simp only [SreService.step,there]
      refine ⟨_,rfl,?_⟩
      cases found : SreService.getProposal u.db proposalId with
      | none =>
        rw [coded.rows,getProposal_absent found]
        exact coded
      | some q =>
        obtain ⟨p,back,held⟩ := @Coded.proposal _ uuid4 _ _ _ _ coded found
        rw [back]
        exact coded.placed client (.loaded held)
    · cases taken
  | approvalRead client =>
    simp only [step] at taken
    split at taken
    · rename_i proposalId p actor loaded
      have carries := coded.client loaded
      generalize there : u.clients client = other at carries
      cases carries with
      | loaded held =>
        cases Option.some.inj taken
        simp only [SreService.step,there]
        refine ⟨_,rfl,?_⟩
        rw [coded.approval]
        cases SreService.getApproval u.db proposalId with
        | none => exact coded.placed client .idle
        | some approval => exact coded.placed client (.ready held)
    · cases taken
  | claim client =>
    simp only [step] at taken
    split at taken
    · rename_i proposalId p approval actor ready
      have carries := coded.client ready
      generalize there : u.clients client = other at carries
      cases carries with
      | ready held =>
        cases Option.some.inj taken
        simp only [SreService.step,there]
        refine ⟨_,rfl,?_⟩
        rw [coded.rows,SreBinding.claimExecution_encode]
        cases claimed : SreService.claimExecution u.db proposalId with
        | none => exact coded.placed client .idle
        | some next => exact (coded.placed client (.claimed held)).stored (claimed_binds coded.binds claimed)
    · cases taken
  | check client now =>
    simp only [step] at taken
    split at taken
    · rename_i proposalId p approval actor claimed
      have carries := coded.client claimed
      generalize there : u.clients client = other at carries
      cases carries with
      | claimed held =>
        cases Option.some.inj taken
        simp only [SreService.step,there]
        refine ⟨_,rfl,?_⟩
        rw [held.execute]
        generalize execute settings.sha256 settings.managedNamespaces _ approval actor now = checked
        cases checked with
        | error message => exact coded.placed client .finishing
        | ok call =>
          have moved := coded.placed client (@Carries.writing proposalId)
          exact ⟨moved.rows,moved.binds,moved.clients,congrArg (· ++ [_]) coded.log⟩
    · cases taken
  | answer client succeeded =>
    simp only [step] at taken
    split at taken
    · rename_i proposalId writing
      have carries := coded.client writing
      generalize there : u.clients client = other at carries
      cases carries
      cases Option.some.inj taken
      simp only [SreService.step,there]
      exact ⟨_,rfl,coded.placed client .finishing⟩
    · cases taken
  | finish client =>
    simp only [step] at taken
    split at taken
    · rename_i proposalId succeeded finishing
      have carries := coded.client finishing
      generalize there : u.clients client = other at carries
      cases carries
      cases Option.some.inj taken
      simp only [SreService.step,there]
      refine ⟨_,rfl,?_⟩
      rw [coded.rows,SreBinding.finishExecution_encode]
      exact (coded.placed client .idle).stored (coded.binds.update fun _ bound _ => bound.status _)
    · cases taken

theorem unwritable_unseen {event : Event} (unwritable : ¬ Writable event) (taken : step settings uuid4 s event = some t) :
    t = s := by
  cases event with
  | propose proposal =>
    cases Option.some.inj taken
    cases saved : saveProposal settings.sha256 s.db proposal with
    | none => rfl
    | some next => exact absurd (SreBinding.saveProposal_spelled saved) unwritable
  | _ => exact absurd trivial unwritable

end Steps

theorem documents_simulate (settings : Settings) (uuid4 : String) :
    Simulates (watched (step settings uuid4) State.log) (watched (SreService.step settings) SreService.State.log)
      (fun _ => Writable) (fun _ => Arrives) (Coded settings) := by
  constructor
  · intro s t u event outcome coded writable arrives answered
    obtain ⟨next,taken,shown⟩ := Option.map_eq_some_iff.mp answered
    cases shown
    obtain ⟨after,also,together⟩ := step_coded coded writable arrives taken
    refine ⟨after,?_,together⟩
    unfold watched
    rw [also,together.log]
    rfl
  · intro s t u event outcome coded unwritable answered
    obtain ⟨next,taken,shown⟩ := Option.map_eq_some_iff.mp answered
    cases shown
    rw [unwritable_unseen unwritable taken]
    exact coded

-- The service over JSON texts makes the calls of the cluster that the service
-- over records makes, and a read of its table gives the same proposals and
-- approvals.
theorem proposal_documents_refine (settings : Settings) (uuid4 : String) (events : List Event) (s : State)
    (path : Runs (step settings uuid4) initial events s) (arrives : ∀ event ∈ events, Arrives event) :
    ∃ u, Runs (SreService.step settings) SreService.initial (events.filter fun event => decide (Writable event)) u ∧
      s.log = u.log ∧
      ∀ proposalId, getApproval s.db proposalId = SreService.getApproval u.db proposalId ∧
        match SreService.getProposal u.db proposalId with
        | none => getProposal uuid4 s.db proposalId = none
        | some q => ∃ p, getProposal uuid4 s.db proposalId = some p ∧ Same p q ∧
            p.digest settings.sha256 = q.digest settings.sha256 := by
  have start : Coded settings initial SreService.initial := ⟨rfl,fun _ _ found => (by cases found),fun _ => .idle,rfl⟩
  have simulates := documents_simulate settings uuid4
  have watching := advance_watched (step settings uuid4) State.log
  rw [← watching] at path
  obtain ⟨u,kept,_,coded⟩ := simulates.run path (throughout_each arrives) start
  rw [own_filter path,advance_watched] at kept
  refine ⟨u,kept,coded.log,fun proposalId => ⟨coded.approval proposalId,?_⟩⟩
  cases found : SreService.getProposal u.db proposalId with
  | none =>
    rw [coded.rows]
    exact getProposal_absent found
  | some q =>
    obtain ⟨p,back,held⟩ := @Coded.proposal _ uuid4 _ _ _ _ coded found
    exact ⟨p,back,held.same,held.digest _⟩

open SreExecution (scaling live raced)

-- A proposal whose number of replicas has no text, and then two executors that
-- race for one that has.
def crowded : List Event := .propose (SreBinding.asking (10 ^ maxStrDigits : Nat)) :: raced

theorem crowded_refined : ∃ s u, Runs (step live "") initial crowded s ∧
    Runs (SreService.step live) SreService.initial (crowded.filter fun event => decide (Writable event)) u ∧
    s.log = [⟨"p-1","dave",2000,.scaleDeployment "models" "ranker" 5 "uid-1" "42"⟩] ∧ s.log = u.log := by
  have logged : (consume (step live "") initial crowded).map State.log =
      some [⟨"p-1","dave",2000,.scaleDeployment "models" "ranker" 5 "uid-1" "42"⟩] := by decide +kernel
  obtain ⟨s,consumed,log⟩ := Option.map_eq_some_iff.mp logged
  have path := consume_exact.mp consumed
  have arrives : ∀ event ∈ crowded, Arrives event := by decide +kernel
  obtain ⟨u,kept,same,_⟩ := proposal_documents_refine live "" crowded s path arrives
  exact ⟨s,u,path,kept,log,same⟩

end OpenModelOps.SreDocuments
