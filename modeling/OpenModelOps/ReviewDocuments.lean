import OpenModelOps.ReviewRequests
import OpenModelOps.ReviewStorage
import OpenModelOps.Simulation

namespace OpenModelOps.ReviewDocuments
open JsonText KeyedTable RunHistory SecurityAuth Simulation
open PythonText (Instant isoformat maxStrDigits)
open PythonDatetime (Representable)
open ReviewService (Pull ReviewReport PullRequestReview ReviewAgentConfig GitHub Authorization fetchAll)
open ReviewConcurrency (Client Outcome)
open ReviewLatch (opening)
open ReviewRequests (Event Request Settings)
open ReviewStorage (Database encode)

-- The Review Agent over its table of texts. Where the store raises, nothing is
-- stored and the request is over.
structure State where
  db : Database
  clients : Nat → Client
  openings : Nat → Option PullRequestReview
  log : List (String × Outcome)
  authorized : List (Pull × Authorization)

def initial : State := ⟨Table.empty,fun _ => .idle,fun _ => none,[],[]⟩

def place (s : State) (client : Nat) (after : Client) : State :=
  {s with clients := Function.update s.clients client after}

def stepRefresh (s : State) (client : Nat) (config : ReviewAgentConfig) (pull : Pull) : Option State :=
  match s.clients client with
  | .idle => match ReviewStorage.get s.db pull with
    | some (some review) => if review.eligibleAtOpen then some (place s client (.fetching config pull review)) else some s
    | _ => some s
  | _ => none

def stepFetch (s : State) (client : Nat) (github : GitHub) (now : Instant) : Option State :=
  match s.clients client with
  | .fetching config pull review => match fetchAll config github pull review.changedPaths with
    | .error _ => some (place s client .idle)
    | .ok (report,security) => some (place s client (.saving pull review
        (review.recordFindings report.summaries report.comments security now) (.refreshed report.comments)))
  | _ => none

def stepApprove (s : State) (client : Nat) (pull : Pull) (commentId : Int) (actor : String) : Option State :=
  match s.clients client with
  | .idle => match ReviewStorage.get s.db pull with
    | some (some review) => match review.approveSuggestion commentId actor with
      | .error _ => some s
      | .ok updated => some (place s client (.saving pull review updated (.approved commentId actor)))
    | _ => some s
  | _ => none

def stepWrite (s : State) (client : Nat) : Option State :=
  match s.openings client,s.clients client with
  | some review,_ =>
    let answered := {s with openings := Function.update s.openings client none}
    match ReviewStorage.save s.db review with
    | none => some answered
    | some db => some {answered with db := db}
  | none,.saving pull _ updated outcome =>
    match ReviewStorage.save s.db updated with
    | none => some (place s client .idle)
    | some db => some {place s client .idle with db := db, log := s.log ++ [(pull.key,outcome)]}
  | none,_ => none

def serve (settings : Settings) (s : State) (client : Nat) (actor : String) : Request → Option State
  | .openPull request => match ReviewStorage.get s.db request.pull with
    | some none => some {s with openings := Function.update s.openings client (some (opening settings.config request.pull
        request.headSha request.baseBranch request.fromFork request.changedPaths))}
    | _ => some s
  | .refresh pull => stepRefresh s client settings.config pull
  | .approve pull commentId => stepApprove s client pull commentId actor
  | .authorizeApply pull commentId => match ReviewStorage.get s.db pull with
    | some (some review) => match review.requireApprovedSuggestion commentId with
      | .error _ => some s
      | .ok actor => some {s with authorized := s.authorized ++ [(pull,⟨"authorized",commentId,actor⟩)]}
    | _ => some s

def step (settings : Settings) (s : State) : Event → Option State
  | .request client outside authorization request => match s.clients client,s.openings client with
    | .idle,none => match currentIdentity settings.env outside authorization with
      | .error _ => some s
      | .ok identity =>
        if request.role ∉ identity.roles then some s else serve settings s client identity.subject request
    | _,_ => none
  | .fetch client github now => stepFetch s client github now
  | .write client => stepWrite s client

def Spelled (digits : Nat) (n : Int) : Prop := n.natAbs < 10 ^ digits

instance (digits : Nat) (n : Int) : Decidable (Spelled digits n) := inferInstanceAs (Decidable (n.natAbs < 10 ^ digits))

structure Fetched (digits : Nat) (report : ReviewReport) : Prop where
  summaries : ∀ summary ∈ report.summaries, Spelled digits summary.reviewId
  comments : ∀ comment ∈ report.comments, Spelled digits comment.commentId
  lines : ∀ comment ∈ report.comments, ∀ n, comment.line = some n → Spelled digits n

def pullOf : Request → Pull
  | .openPull request => request.pull
  | .refresh pull => pull
  | .approve pull _ => pull
  | .authorizeApply pull _ => pull

-- The numbers of a request and of an answer of GitHub have been read from texts
-- with the limit of int().
def Arrives : Event → Prop
  | .request _ _ _ request => Spelled maxStrDigits (pullOf request).pullNumber
  | .fetch _ github now => Representable now ∧
      ∀ pull report, github.fetchReport pull = .ok report → Fetched maxStrDigits report
  | .write _ => True

structure Sized (digits : Nat) (review : PullRequestReview) : Prop where
  numbered : Spelled digits review.pullNumber
  fetched : Fetched digits ⟨review.summaries,review.inlineComments⟩
  timed : ∀ t, review.fetchedAt = some t → Representable t
  approved : ∀ commentId actor, Dict.get review.approvals commentId = some actor → Spelled digits commentId

section Sizes
variable {digits : Nat} {review updated : PullRequestReview}

theorem items_each {P : Number → Prop} {written : α → Json Number} {items : List α}
    (each : ∀ a ∈ items, EachNumber P (written a)) : EachItem P (items.map written) := by
  induction items with
  | nil => trivial
  | cons a rest ih =>
    exact ⟨each a List.mem_cons_self,ih fun b member => each b (List.mem_cons_of_mem _ member)⟩

theorem int_short (spelled : Spelled digits n) : EachNumber (Short digits) (ReviewStorage.int n) := decide_eq_true spelled

theorem line_short (spelled : ∀ n, line = some n → Spelled digits n) :
    EachNumber (Short digits) (Json.ofOption ReviewStorage.int line) := by
  cases line with
  | none => trivial
  | some n => exact int_short (spelled n rfl)

theorem time_short (time : Option Instant) :
    EachNumber (Short digits) (Json.ofOption (fun t => str (isoformat t)) time) := by
  cases time <;> trivial

theorem approvals_short (approvals : Dict Int String) :
    EachField (Short digits) (ReviewStorage.approvalFields approvals) := by
  refine eachField_iff.mpr fun entry member => ?_
  obtain ⟨row,_,rfl⟩ := List.mem_map.mp member
  trivial

theorem document_short (sized : Sized digits review) : intsWithin digits (ReviewStorage.document review) = true := by
  have summaries : EachItem (Short digits) (review.summaries.map fun s => .obj (ReviewStorage.summaryFields s)) :=
    items_each fun s member => ⟨int_short (sized.fetched.summaries s member),trivial,trivial,trivial,trivial,trivial⟩
  have comments : EachItem (Short digits) (review.inlineComments.map fun c => .obj (ReviewStorage.commentFields c)) := by
    refine items_each fun c member => ?_
    have line := line_short (sized.fetched.lines c member)
    exact ⟨int_short (sized.fetched.comments c member),trivial,trivial,line,trivial,trivial,trivial⟩
  have findings : EachItem (Short digits) (review.securityFindings.map fun f => .obj (ReviewStorage.findingFields f)) :=
    items_each fun _ _ => ⟨trivial,trivial,trivial,trivial,trivial,trivial,trivial⟩
  have paths : EachItem (Short digits) (review.changedPaths.map str) := items_each fun _ _ => trivial
  apply (intsWithin_iff digits _).mpr
  refine ⟨trivial,trivial,int_short sized.numbered,trivial,trivial,trivial,trivial,paths,?_⟩
  exact ⟨summaries,comments,findings,time_short _,approvals_short _,trivial⟩

theorem Sized.storable (sized : Sized maxStrDigits review) : ReviewStorage.Storable review :=
  ⟨fun row member => sized.approved row.1 row.2 (Dict.get_row.mpr member),document_short sized,sized.timed⟩

theorem opening_sized (config : ReviewAgentConfig) (headSha baseBranch : String) (fromFork : Bool)
    (changedPaths : List String) (spelled : Spelled digits pull.pullNumber) :
    Sized digits (opening config pull headSha baseBranch fromFork changedPaths) := by
  refine ⟨spelled,⟨?_,?_,?_⟩,?_,?_⟩
  · intro summary member
    cases member
  · intro comment member
    cases member
  · intro comment member
    cases member
  · intro t fetched
    cases fetched
  · intro commentId actor given
    cases given

theorem recordFindings_sized (sized : Sized digits review) (fetched : Fetched digits report)
    (representable : Representable now) : Sized digits (review.recordFindings report.summaries report.comments security now) := by
  refine ⟨sized.numbered,fetched,fun t same => ?_,sized.approved⟩
  cases Option.some.inj same
  exact representable

theorem approveSuggestion_sized (sized : Sized digits review)
    (approved : review.approveSuggestion commentId actor = .ok updated) : Sized digits updated := by
  obtain ⟨present,rfl⟩ := ReviewService.approveSuggestion_parts approved
  refine ⟨sized.numbered,sized.fetched,sized.timed,fun other given found => ?_⟩
  rw [Dict.get_set] at found
  split at found
  · rename_i same
    obtain ⟨comment,member,named⟩ := List.mem_map.mp present
    rw [same,← named]
    exact sized.fetched.comments comment member
  · exact sized.approved other given found

end Sizes

def Waiting : Client → Prop
  | .idle => True
  | .fetching _ _ review => Sized maxStrDigits review
  | .saving _ read updated _ => Sized maxStrDigits read ∧ Sized maxStrDigits updated

structure Coded (s : State) (u : ReviewRequests.State) : Prop where
  rows : s.db = encode u.service.store
  clients : s.clients = u.service.clients
  openings : s.openings = u.openings
  log : s.log = u.service.log
  authorized : s.authorized = u.authorized
  stored : ∀ key review, Dict.get u.service.store key = some review → Sized maxStrDigits review
  waiting : ∀ client, Waiting (u.service.clients client)
  opened : ∀ client review, u.openings client = some review → Sized maxStrDigits review

section Steps
variable {settings : Settings} {s t : State} {u : ReviewRequests.State} {event : Event} {pull : Pull}
  {review : PullRequestReview}

theorem Coded.get (coded : Coded s u) (spelled : Spelled maxStrDigits pull.pullNumber) :
    ReviewStorage.get s.db pull = some (ReviewService.get u.service.store pull) := by
  have readable : ReviewStorage.Readable u.service.store :=
    fun key review found => (coded.stored key review found).storable
  rw [coded.rows,ReviewStorage.get_encode readable]
  exact if_pos spelled

theorem Coded.found (coded : Coded s u) (found : ReviewService.get u.service.store pull = some review) :
    Sized maxStrDigits review :=
  coded.stored pull.key review found

theorem Coded.save (coded : Coded s u) (sized : Sized maxStrDigits review) :
    ReviewStorage.save s.db review = some (encode (ReviewService.save u.service.store review)) := by
  rw [coded.rows]
  exact (ReviewStorage.save_encode sized.timed).mpr ⟨sized.storable,rfl⟩

theorem saved_sized {store : ReviewService.ReviewStore}
    (all : ∀ key review, Dict.get store key = some review → Sized maxStrDigits review) (sized : Sized maxStrDigits review) :
    ∀ key other, Dict.get (ReviewService.save store review) key = some other → Sized maxStrDigits other := by
  intro key other found
  rw [ReviewService.save,Dict.get_set] at found
  split at found
  · cases Option.some.inj found
    exact sized
  · exact all key other found

theorem opened_updated {openings : Nat → Option PullRequestReview} {opening : Option PullRequestReview}
    (opened : ∀ client review, openings client = some review → Sized maxStrDigits review) (client : Nat)
    (entered : ∀ review, opening = some review → Sized maxStrDigits review) :
    ∀ other review, Function.update openings client opening other = some review → Sized maxStrDigits review :=
  @updated_all _ _ _ openings client opening (fun slot => ∀ review, slot = some review → Sized maxStrDigits review)
    opened entered

theorem Coded.placed (coded : Coded s u) (client : Nat) (waiting : Waiting after) :
    Coded (place s client after) {u with service := ReviewConcurrency.place u.service client after} := by
  refine ⟨coded.rows,?_,coded.openings,coded.log,coded.authorized,coded.stored,updated_all coded.waiting waiting,
    coded.opened⟩
  exact congrArg (fun clients => Function.update clients client after) coded.clients

theorem refresh_coded (coded : Coded s u) (spelled : Spelled maxStrDigits pull.pullNumber)
    (taken : stepRefresh s client config pull = some t) :
    ∃ v, ReviewRequests.within u (.refresh client config pull) = some v ∧ Coded t v := by
  unfold stepRefresh at taken
  rw [coded.clients,coded.get spelled] at taken
  split at taken
  · rename_i idle
    simp only [ReviewRequests.within,ReviewConcurrency.step,ReviewConcurrency.stepRefresh,idle]
    cases found : ReviewService.get u.service.store pull with
    | none =>
      rw [found] at taken
      cases Option.some.inj taken
      exact ⟨u,rfl,coded⟩
    | some review =>
      rw [found] at taken
      dsimp only at taken ⊢
      split at taken
      · rename_i eligible
        rw [if_pos eligible]
        cases Option.some.inj taken
        exact ⟨_,rfl,coded.placed client (coded.found found)⟩
      · rename_i ineligible
        rw [if_neg ineligible]
        cases Option.some.inj taken
        exact ⟨u,rfl,coded⟩
  · cases taken

theorem approve_coded (coded : Coded s u) (spelled : Spelled maxStrDigits pull.pullNumber)
    (taken : stepApprove s client pull commentId actor = some t) :
    ∃ v, ReviewRequests.within u (.approve client pull commentId actor) = some v ∧ Coded t v := by
  unfold stepApprove at taken
  rw [coded.clients,coded.get spelled] at taken
  split at taken
  · rename_i idle
    simp only [ReviewRequests.within,ReviewConcurrency.step,ReviewConcurrency.stepApprove,idle]
    cases found : ReviewService.get u.service.store pull with
    | none =>
      rw [found] at taken
      cases Option.some.inj taken
      exact ⟨u,rfl,coded⟩
    | some review =>
      have sized := coded.found found
      rw [found] at taken
      dsimp only at taken ⊢
      cases approved : review.approveSuggestion commentId actor with
      | error failure =>
        rw [approved] at taken
        cases Option.some.inj taken
        exact ⟨u,rfl,coded⟩
      | ok updated =>
        rw [approved] at taken
        cases Option.some.inj taken
        exact ⟨_,rfl,coded.placed client ⟨sized,approveSuggestion_sized sized approved⟩⟩
  · cases taken

theorem fetchAll_report (fetched : fetchAll config github pull changedPaths = .ok (report,security)) :
    github.fetchReport pull = .ok report := by
  obtain ⟨first,answered,rest⟩ := Raising.bind_ok fetched
  dsimp only at rest
  split at rest
  · obtain ⟨second,_,rest⟩ := Raising.bind_ok rest
    cases Except.ok.inj rest
    exact answered
  · cases Except.ok.inj rest
    exact answered

theorem fetch_coded (coded : Coded s u) (arrives : Arrives (.fetch client github now))
    (taken : stepFetch s client github now = some t) :
    ∃ v, ReviewRequests.within u (.fetch client github now) = some v ∧ Coded t v := by
  unfold stepFetch at taken
  rw [coded.clients] at taken
  split at taken
  · rename_i config pull review fetching
    have sized : Sized maxStrDigits review := by
      have waiting := coded.waiting client
      rwa [fetching] at waiting
    simp only [ReviewRequests.within,ReviewConcurrency.step,ReviewConcurrency.stepFetch,fetching]
    cases answered : fetchAll config github pull review.changedPaths with
    | error failure =>
      rw [answered] at taken
      cases Option.some.inj taken
      exact ⟨_,rfl,@Coded.placed _ _ .idle coded client trivial⟩
    | ok pair =>
      obtain ⟨report,security⟩ := pair
      have fetched := arrives.2 pull report (fetchAll_report answered)
      rw [answered] at taken
      cases Option.some.inj taken
      exact ⟨_,rfl,coded.placed client ⟨sized,recordFindings_sized sized fetched arrives.1⟩⟩
  · cases taken

theorem write_coded (coded : Coded s u) (taken : step settings s (.write client) = some t) :
    ∃ v, ReviewRequests.step settings u (.write client) = some v ∧ Coded t v := by
  simp only [step,stepWrite] at taken
  rw [coded.clients,coded.openings] at taken
  split at taken
  · rename_i review opening
    have sized := coded.opened client review opening
    rw [coded.save sized] at taken
    simp only [ReviewRequests.step,opening]
    cases Option.some.inj taken
    refine ⟨_,rfl,rfl,rfl,rfl,coded.log,coded.authorized,saved_sized coded.stored sized,coded.waiting,?_⟩
    exact opened_updated coded.opened client fun _ gone => (by cases gone)
  · rename_i pull read updated outcome nothing saving
    have sized : Sized maxStrDigits updated := by
      have waiting := coded.waiting client
      rw [saving] at waiting
      exact waiting.2
    rw [coded.save sized] at taken
    simp only [ReviewRequests.step,ReviewRequests.within,ReviewConcurrency.step,ReviewConcurrency.stepWrite,nothing,
      saving]
    cases Option.some.inj taken
    have idled := @Coded.placed _ _ .idle coded client trivial
    refine ⟨_,rfl,rfl,idled.clients,coded.openings,?_,coded.authorized,saved_sized coded.stored sized,idled.waiting,
      coded.opened⟩
    exact congrArg (· ++ [(pull.key,outcome)]) coded.log
  · cases taken

theorem serve_coded {request : Request} (coded : Coded s u) (spelled : Spelled maxStrDigits (pullOf request).pullNumber)
    (taken : serve settings s client actor request = some t) :
    ∃ v, ReviewRequests.serve settings u client actor request = some v ∧ Coded t v := by
  cases request with
  | openPull request =>
    dsimp only [pullOf] at spelled
    unfold serve at taken
    dsimp only at taken
    rw [coded.get spelled] at taken
    simp only [ReviewRequests.serve]
    cases found : ReviewService.get u.service.store request.pull with
    | some review =>
      rw [found] at taken
      cases Option.some.inj taken
      exact ⟨u,rfl,coded⟩
    | none =>
      rw [found] at taken
      cases Option.some.inj taken
      refine ⟨_,rfl,coded.rows,coded.clients,?_,coded.log,coded.authorized,coded.stored,coded.waiting,?_⟩
      · exact congrArg (fun openings => Function.update openings client (some (opening settings.config request.pull
          request.headSha request.baseBranch request.fromFork request.changedPaths))) coded.openings
      · refine opened_updated coded.opened client fun review same => ?_
        cases Option.some.inj same
        exact opening_sized _ _ _ _ _ spelled
  | refresh pull => exact refresh_coded coded spelled taken
  | approve pull commentId => exact approve_coded coded spelled taken
  | authorizeApply pull commentId =>
    dsimp only [pullOf] at spelled
    unfold serve at taken
    dsimp only at taken
    rw [coded.get spelled] at taken
    simp only [ReviewRequests.serve,ReviewService.authorizeApply,ReviewService.required]
    cases found : ReviewService.get u.service.store pull with
    | none =>
      rw [found] at taken
      cases Option.some.inj taken
      exact ⟨u,rfl,coded⟩
    | some review =>
      rw [found] at taken
      dsimp only at taken
      cases given : review.requireApprovedSuggestion commentId with
      | error failure =>
        rw [given] at taken
        cases Option.some.inj taken
        refine ⟨u,?_,coded⟩
        simp only [bind,Except.bind,given]
      | ok actor =>
        rw [given] at taken
        cases Option.some.inj taken
        refine ⟨{u with authorized := u.authorized ++ [(pull,⟨"authorized",commentId,actor⟩)]},?_,?_⟩
        · simp only [bind,Except.bind,given,pure,Except.pure]
        · exact {coded with authorized := congrArg (· ++ [(pull,_)]) coded.authorized}

theorem step_coded (coded : Coded s u) (arrives : Arrives event) (taken : step settings s event = some t) :
    ∃ v, ReviewRequests.step settings u event = some v ∧ Coded t v := by
  cases event with
  | request client outside authorization request =>
    simp only [step] at taken
    rw [coded.clients,coded.openings] at taken
    split at taken
    · rename_i idle nothing
      simp only [ReviewRequests.step,idle,nothing]
      cases identified : currentIdentity settings.env outside authorization with
      | error failure =>
        rw [identified] at taken
        cases Option.some.inj taken
        exact ⟨u,rfl,coded⟩
      | ok identity =>
        rw [identified] at taken
        dsimp only at taken ⊢
        by_cases role : request.role ∈ identity.roles
        · rw [if_neg (not_not.mpr role)] at taken ⊢
          exact serve_coded coded arrives taken
        · rw [if_pos role] at taken ⊢
          cases Option.some.inj taken
          exact ⟨u,rfl,coded⟩
    · cases taken
  | fetch client github now => exact fetch_coded coded arrives taken
  | write client => exact write_coded coded taken

end Steps

theorem documents_simulate (settings : Settings) :
    Simulates (watched (step settings) fun s => (s.log,s.authorized))
      (watched (ReviewRequests.step settings) fun u => (u.service.log,u.authorized)) (fun _ _ => True) (fun _ => Arrives)
      Coded := by
  constructor
  · intro s t u event outcome coded _ arrives answered
    obtain ⟨next,taken,shown⟩ := Option.map_eq_some_iff.mp answered
    cases shown
    obtain ⟨after,also,together⟩ := step_coded coded arrives taken
    refine ⟨after,?_,together⟩
    unfold watched
    dsimp only
    rw [also,together.log,together.authorized]
    rfl
  · intro s t u event outcome coded foreign
    exact absurd trivial foreign

-- However the requests interleave, the service over texts does what the service
-- over reviews does: the same calls are in flight with the same reviews, the same
-- writes and authorizations have been answered, and a read of the table gives the
-- same review.
theorem review_documents_refine (settings : Settings) (events : List Event) (s : State)
    (path : Runs (step settings) initial events s) (arrives : ∀ event ∈ events, Arrives event) :
    ∃ u, Runs (ReviewRequests.step settings) ReviewRequests.initial events u ∧ s.clients = u.service.clients ∧
      s.openings = u.openings ∧ s.log = u.service.log ∧ s.authorized = u.authorized ∧
      ∀ pull : Pull, Spelled maxStrDigits pull.pullNumber →
        ReviewStorage.get s.db pull = some (ReviewService.get u.service.store pull) := by
  have start : Coded initial ReviewRequests.initial :=
    ⟨rfl,rfl,rfl,rfl,rfl,fun _ _ found => (by cases found),fun _ => trivial,fun _ _ found => (by cases found)⟩
  have looking := advance_watched (step settings) fun s => (s.log,s.authorized)
  rw [← looking] at path
  obtain ⟨u,kept,_,coded⟩ := (documents_simulate settings).run path (throughout_each arrives) start
  rw [own_all path,advance_watched] at kept
  exact ⟨u,kept,coded.clients,coded.openings,coded.log,coded.authorized,fun pull spelled => coded.get spelled⟩

open ReviewRequests (reviewed approvedTwice)

theorem answering_fetched (pull : Pull)
    (answered : (ReviewService.answering ReviewConcurrency.latched.inlineComments).fetchReport pull = .ok report) :
    Fetched maxStrDigits report := by
  cases Except.ok.inj answered
  refine ⟨fun summary member => (by cases member),?_,?_⟩
  · intro comment member
    cases List.mem_singleton.mp member
    decide +kernel
  · intro comment member n line
    cases List.mem_singleton.mp member
    cases Option.some.inj line
    decide +kernel

theorem approvedTwice_arrives : ∀ event ∈ approvedTwice, Arrives event := by
  have numbered : Spelled maxStrDigits ReviewRequests.first.pull.pullNumber := by decide +kernel
  have early : Representable 1767225660000000 := by decide +kernel
  have late : Representable 1767225720000000 := by decide +kernel
  simp only [approvedTwice,List.forall_mem_cons]
  exact ⟨numbered,trivial,numbered,⟨early,fun pull _ => answering_fetched pull⟩,trivial,numbered,numbered,trivial,
    ⟨late,fun pull _ => answering_fetched pull⟩,trivial,numbered,numbered,trivial,numbered,
    fun _ none => (by cases none)⟩

theorem approved_twice_refined : ∃ s u, Runs (step reviewed) initial approvedTwice s ∧
    Runs (ReviewRequests.step reviewed) ReviewRequests.initial approvedTwice u ∧
    s.authorized.map (fun answer => answer.2.approvedBy) = ["reviewer"] ∧ s.authorized = u.authorized ∧
    s.log = u.service.log ∧ s.log.length = 4 := by
  have ends : (consume (step reviewed) initial approvedTwice).map
      (fun s => (s.authorized.map fun answer => answer.2.approvedBy,s.log.length)) = some (["reviewer"],4) := by
    decide +kernel
  obtain ⟨s,reached,answers⟩ := Option.map_eq_some_iff.mp ends
  obtain ⟨approvers,answered⟩ := Prod.mk.inj answers
  have path := consume_exact.mp reached
  obtain ⟨u,kept,_,_,log,authorized,_⟩ := review_documents_refine reviewed approvedTwice s path approvedTwice_arrives
  exact ⟨s,u,path,kept,approvers,authorized,log,answered⟩

end OpenModelOps.ReviewDocuments
