import OpenModelOps.ReviewConcurrency
import OpenModelOps.ReviewLatch
import OpenModelOps.SecurityAuth

namespace OpenModelOps.ReviewRequests
open KeyedTable ReviewService RunHistory SecurityAuth
open PythonText (Instant)
open ReviewConcurrency (Client)
open ReviewLatch (Plain opening key_injective)

structure OpenPullRequest where
  pull : Pull
  headSha : String
  baseBranch : String
  fromFork : Bool
  changedPaths : List String
  numbered : 0 < pull.pullNumber
  sized : 7 ≤ headSha.length ∧ headSha.length ≤ 64

inductive Request where
  | openPull (request : OpenPullRequest)
  | refresh (pull : Pull)
  | approve (pull : Pull) (commentId : Int)
  | authorizeApply (pull : Pull) (commentId : Int)

def Request.role : Request → String
  | .approve _ _ => "review-approver"
  | _ => "review-operator"

structure Settings where
  env : Environment
  config : ReviewAgentConfig

-- A pull request that is being opened has been looked for and not been found.
-- The answers to authorize-apply are kept for the record.
structure State where
  service : ReviewConcurrency.State
  openings : Nat → Option PullRequestReview
  authorized : List (Pull × Authorization)

def initial : State := ⟨ReviewConcurrency.start [],fun _ => none,[]⟩

inductive Event where
  | request (client : Nat) (outside : Outside) (authorization : Option String) (request : Request)
  | fetch (client : Nat) (github : GitHub) (now : Instant)
  | write (client : Nat)

def within (s : State) (event : ReviewConcurrency.Event) : Option State :=
  (ReviewConcurrency.step s.service event).map fun service => {s with service := service}

-- What a request does up to its first wait, for an identity with the role.
def serve (settings : Settings) (s : State) (client : Nat) (actor : String) : Request → Option State
  | .openPull request => match get s.service.store request.pull with
    | some _ => some s
    | none => some {s with openings := Function.update s.openings client (some (opening settings.config request.pull
        request.headSha request.baseBranch request.fromFork request.changedPaths))}
  | .refresh pull => within s (.refresh client settings.config pull)
  | .approve pull commentId => within s (.approve client pull commentId actor)
  | .authorizeApply pull commentId => match authorizeApply s.service.store pull commentId with
    | .error _ => some s
    | .ok authorization => some {s with authorized := s.authorized ++ [(pull,authorization)]}

-- A client waits for its answer before it sends the next request.
def step (settings : Settings) (s : State) : Event → Option State
  | .request client outside authorization request => match s.service.clients client,s.openings client with
    | .idle,none => match currentIdentity settings.env outside authorization with
      | .error _ => some s
      | .ok identity =>
        if request.role ∉ identity.roles then some s else serve settings s client identity.subject request
    | _,_ => none
  | .fetch client github now => within s (.fetch client github now)
  | .write client => match s.openings client with
    | some review => some {s with
        service := {s.service with store := save s.service.store review}
        openings := Function.update s.openings client none}
    | none => within s (.write client)

structure By (settings : Settings) (events : List Event) (key : String) (commentId : Int) (actor : String) : Prop where
  request : ∃ client outside authorization pull identity,
    Event.request client outside authorization (.approve pull commentId) ∈ events ∧ pull.key = key ∧
    (∀ other : Pull, Plain other → other.key = key → pull = other) ∧
    currentIdentity settings.env outside authorization = .ok identity ∧ "review-approver" ∈ identity.roles ∧
    identity.subject = actor ∧ Verified settings.env outside authorization identity

def Attributed (settings : Settings) (events : List Event) (review : PullRequestReview) : Prop :=
  ∀ commentId actor, review.approvals.get commentId = some actor → By settings events review.key commentId actor

def Pending (settings : Settings) (events : List Event) : Client → Prop
  | .idle => True
  | .fetching _ _ review => Attributed settings events review
  | .saving _ _ updated _ => Attributed settings events updated

structure Traced (settings : Settings) (events : List Event) (s : State) : Prop where
  keyed : Keyed s.service.store
  stored : ∀ pull review, get s.service.store pull = some review → Attributed settings events review
  called : ∀ client, Pending settings events (s.service.clients client)
  opened : ∀ client review, s.openings client = some review → Attributed settings events review
  authorized : ∀ answer ∈ s.authorized, By settings events answer.1.key answer.2.commentId answer.2.approvedBy

section Tracing
variable {settings : Settings} {events : List Event} {s next : State} {event : Event} {review updated : PullRequestReview}
  {client : Nat} {pull : Pull} {commentId : Int}

theorem approver_foreign : "review-approver" ∉ developerRoles := by decide

theorem initial_traced : Traced settings [] initial :=
  ⟨nofun,nofun,fun _ => trivial,nofun,nofun⟩

theorem By.later (asked : By settings events key commentId actor) (event : Event) :
    By settings (events ++ [event]) key commentId actor := by
  obtain ⟨client,outside,authorization,pull,identity,sent,rest⟩ := asked.request
  exact ⟨client,outside,authorization,pull,identity,List.mem_append_left _ sent,rest⟩

theorem Pending.later {waiting : Client} (pending : Pending settings events waiting) (event : Event) :
    Pending settings (events ++ [event]) waiting := by
  cases waiting with
  | idle => trivial
  | fetching config pull review => exact fun commentId actor given => (pending commentId actor given).later event
  | saving pull read updated outcome => exact fun commentId actor given => (pending commentId actor given).later event

theorem Traced.later (traced : Traced settings events s) (event : Event) : Traced settings (events ++ [event]) s :=
  ⟨traced.keyed,fun pull review found commentId actor given => (traced.stored pull review found commentId actor given).later event,
    fun client => (traced.called client).later event,
    fun client review found commentId actor given => (traced.opened client review found commentId actor given).later event,
    fun answer member => (traced.authorized answer member).later event⟩

theorem Traced.saved (traced : Traced settings events s) (attributed : Attributed settings events updated)
    (clients : Nat → Client) (log : List (String × ReviewConcurrency.Outcome)) (openings : Nat → Option PullRequestReview)
    (called : ∀ client, Pending settings events (clients client))
    (opened : ∀ client review, openings client = some review → Attributed settings events review) :
    Traced settings events ⟨⟨save s.service.store updated,clients,log⟩,openings,s.authorized⟩ := by
  have own : updated.key = Pull.key ⟨updated.owner,updated.repository,updated.pullNumber⟩ := rfl
  refine ⟨traced.keyed.saved own,fun pull review found => ?_,called,opened,traced.authorized⟩
  rcases save_cases own found with ⟨_,rfl⟩ | ⟨_,before⟩
  · exact attributed
  · exact traced.stored pull review before

theorem Traced.placed (traced : Traced settings events s) (client : Nat) (after : Client)
    (pending : Pending settings events after) :
    Traced settings events {s with service := ReviewConcurrency.place s.service client after} :=
  ⟨traced.keyed,traced.stored,updated_all traced.called pending,traced.opened,traced.authorized⟩

theorem attributed_findings (attributed : Attributed settings events review) (report : ReviewReport)
    (security : List SecurityFinding) (now : Instant) :
    Attributed settings events (review.recordFindings report.summaries report.comments security now) :=
  attributed

theorem attributed_approval (attributed : Attributed settings events review)
    (asked : By settings events review.key commentId actor) (approved : review.approveSuggestion commentId actor = .ok updated) :
    Attributed settings events updated := by
  obtain ⟨_,rfl⟩ := approveSuggestion_parts approved
  intro other given found
  rw [Dict.get_set] at found
  split at found
  · rename_i same
    subst same
    cases Option.some.inj found
    exact asked
  · exact attributed other given found

theorem within_refresh (traced : Traced settings events s)
    (taken : within s (.refresh client config pull) = some next) : Traced settings events next := by
  obtain ⟨service,moved,rfl⟩ := Option.map_eq_some_iff.mp taken
  simp only [ReviewConcurrency.step,ReviewConcurrency.stepRefresh] at moved
  split at moved
  · split at moved
    · cases Option.some.inj moved
      exact traced
    · rename_i review found
      split at moved
      · cases Option.some.inj moved
        exact traced.placed client _ (traced.stored _ review found)
      · cases Option.some.inj moved
        exact traced
  · cases moved

theorem within_approve (traced : Traced settings events s) (asked : By settings events pull.key commentId actor)
    (taken : within s (.approve client pull commentId actor) = some next) : Traced settings events next := by
  obtain ⟨service,moved,rfl⟩ := Option.map_eq_some_iff.mp taken
  simp only [ReviewConcurrency.step,ReviewConcurrency.stepApprove] at moved
  split at moved
  · split at moved
    · cases Option.some.inj moved
      exact traced
    · rename_i review found
      split at moved
      · cases Option.some.inj moved
        exact traced
      · rename_i updated approved
        cases Option.some.inj moved
        have named := traced.keyed pull review found
        exact traced.placed client _ (attributed_approval (traced.stored pull review found) (named ▸ asked) approved)
  · cases moved

theorem within_fetch (traced : Traced settings events s)
    (taken : within s (.fetch client github now) = some next) : Traced settings events next := by
  obtain ⟨service,moved,rfl⟩ := Option.map_eq_some_iff.mp taken
  simp only [ReviewConcurrency.step,ReviewConcurrency.stepFetch] at moved
  split at moved
  · rename_i config pull review fetching
    have pending := traced.called client
    rw [fetching] at pending
    split at moved
    · cases Option.some.inj moved
      exact traced.placed client .idle trivial
    · rename_i report security fetched
      cases Option.some.inj moved
      exact traced.placed client _ (attributed_findings pending report security now)
  · cases moved

theorem within_write (traced : Traced settings events s) (taken : within s (.write client) = some next) :
    Traced settings events next := by
  obtain ⟨service,moved,rfl⟩ := Option.map_eq_some_iff.mp taken
  simp only [ReviewConcurrency.step,ReviewConcurrency.stepWrite] at moved
  split at moved
  · rename_i pull read updated outcome saving
    have pending := traced.called client
    rw [saving] at pending
    cases Option.some.inj moved
    exact traced.saved pending _ _ _ (updated_all traced.called trivial) traced.opened
  · cases moved

theorem serve_traced {request : Request} (traced : Traced settings events s)
    (asked : ∀ pull commentId, request = .approve pull commentId → By settings events pull.key commentId actor)
    (taken : serve settings s client actor request = some next) : Traced settings events next := by
  cases request with
  | openPull request =>
    simp only [serve] at taken
    split at taken
    · cases Option.some.inj taken
      exact traced
    · cases Option.some.inj taken
      refine ⟨traced.keyed,traced.stored,traced.called,fun other review found => ?_,traced.authorized⟩
      rcases updated_read (show id _ = _ from found) with ⟨_,same⟩ | ⟨_,old⟩
      · cases Option.some.inj same
        exact fun _ _ given => nomatch given
      · exact traced.opened other review old
  | refresh pull => exact within_refresh traced taken
  | approve pull commentId => exact within_approve traced (asked pull commentId rfl) taken
  | authorizeApply pull commentId =>
    simp only [serve] at taken
    split at taken
    · cases Option.some.inj taken
      exact traced
    · rename_i authorization granted
      cases Option.some.inj taken
      refine ⟨traced.keyed,traced.stored,traced.called,traced.opened,fun answer member => ?_⟩
      rcases List.mem_append.mp member with old | new
      · exact traced.authorized answer old
      · cases List.mem_singleton.mp new
        obtain ⟨review,found,granted⟩ := Raising.bind_ok granted
        obtain ⟨actor,given,granted⟩ := Raising.bind_ok granted
        cases Except.ok.inj granted
        have there := required_ok.mp found
        have named := traced.keyed pull review there
        unfold PullRequestReview.requireApprovedSuggestion at given
        split at given
        · cases given
        · rename_i approver approved
          cases Except.ok.inj given
          exact named ▸ traced.stored pull review there commentId actor approved

theorem step_traced (traced : Traced settings events s) (taken : step settings s event = some next) :
    Traced settings (events ++ [event]) next := by
  have before := traced.later event
  cases event with
  | request client outside authorization request =>
    simp only [step] at taken
    split at taken
    · split at taken
      · cases Option.some.inj taken
        exact before
      · rename_i identity identified
        split at taken
        · cases Option.some.inj taken
          exact before
        · rename_i role
          refine serve_traced before (fun pull commentId same => ?_) taken
          subst same
          refine ⟨client,outside,authorization,pull,identity,List.mem_append_right _ List.mem_cons_self,rfl,
            fun other plain same => key_injective plain same.symm,identified,not_not.mp role,rfl,
            role_verified identified (not_not.mp role) approver_foreign⟩
    · cases taken
  | fetch client github now => exact within_fetch before taken
  | write client =>
    simp only [step] at taken
    split at taken
    · rename_i review opening
      cases Option.some.inj taken
      refine before.saved (before.opened client review opening) _ _ _ before.called fun other found there => ?_
      rcases updated_read (show id _ = _ from there) with ⟨_,gone⟩ | ⟨_,old⟩
      · cases gone
      · exact before.opened other found old
    · exact within_write before taken

theorem run_traced (path : Runs (step settings) initial events s) : Traced settings events s := by
  have kept : ∀ {earlier before event next}, Runs (step settings) initial earlier before →
      Traced settings earlier before → step settings before event = some next →
      Traced settings (earlier ++ [event]) next := fun _ traced taken => step_traced traced taken
  exact path.recorded kept initial_traced

end Tracing

-- Approvals may be lost when calls interleave, but none is made up.
theorem approvals_by_approvers (settings : Settings) (events : List Event) (s : State)
    (path : Runs (step settings) initial events s) :
    (∀ pull review commentId actor, get s.service.store pull = some review →
      review.approvals.get commentId = some actor → By settings events pull.key commentId actor) ∧
    ∀ answer ∈ s.authorized, By settings events answer.1.key answer.2.commentId answer.2.approvedBy := by
  have traced := run_traced path
  refine ⟨fun pull review commentId actor found given => ?_,traced.authorized⟩
  rw [← traced.keyed pull review found]
  exact traced.stored pull review found commentId actor given

def reviewed : Settings := ⟨behindKeycloak,⟨"main",false,[]⟩⟩

theorem first_sized : 7 ≤ "abcdef1".length ∧ "abcdef1".length ≤ 64 := by decide

def first : OpenPullRequest := ⟨⟨"org","repo",1⟩,"abcdef1","main",false,[],Int.one_pos,first_sized⟩

def approvedTwice : List Event :=
  let asking := keycloak ["review-operator","review-approver"]
  [.request 0 asking (some "Bearer opener") (.openPull first),.write 0,
   .request 0 asking (some "Bearer opener") (.refresh first.pull),
   .fetch 0 (answering ReviewConcurrency.latched.inlineComments) 1767225660000000,.write 0,
   .request 0 asking (some "Bearer opener") (.refresh first.pull),
   .request 1 asking (some "Bearer reviewer") (.approve first.pull 20),.write 1,
   .fetch 0 (answering ReviewConcurrency.latched.inlineComments) 1767225720000000,.write 0,
   .request 1 asking (some "Bearer opener") (.authorizeApply first.pull 20),
   .request 1 asking (some "Bearer reviewer") (.approve first.pull 20),.write 1,
   .request 0 asking (some "Bearer opener") (.authorizeApply first.pull 20)]

theorem approved_twice_by_approvers : ∃ s, Runs (step reviewed) initial approvedTwice s ∧
    s.authorized.map (fun answer => answer.2.approvedBy) = ["reviewer"] ∧
    ∀ answer ∈ s.authorized, By reviewed approvedTwice answer.1.key answer.2.commentId answer.2.approvedBy := by
  have ends : (consume (step reviewed) initial approvedTwice).map
      (fun s => s.authorized.map fun answer => answer.2.approvedBy) = some ["reviewer"] := by decide +kernel
  obtain ⟨s,reached,answers⟩ := Option.map_eq_some_iff.mp ends
  have path := consume_exact.mp reached
  exact ⟨s,path,answers,(approvals_by_approvers reviewed approvedTwice s path).2⟩

end OpenModelOps.ReviewRequests
