import OpenModelOps.JudgeStore
import OpenModelOps.SecurityAuth

namespace OpenModelOps.JudgeRequests
open KeyedTable PythonText RunHistory LockedTransactions SecurityAuth
open Raising (bind_ok)
open JudgeEnsemble (EnsembleJudge EnsembleResult JudgeSample Raised Rubric Verdict)
open JudgeStore (Call Database EvaluationRow Performed ReviewRow evaluationRow judgeStore queued)

structure ResolveReviewRequest where
  verdict : Verdict
  reason : String
  sized : 3 ≤ reason.length ∧ reason.length ≤ 5000

-- The identifier of an evaluation is the uuid4 that the call draws.
inductive Request where
  | evaluate (n : Nat) (rubricId : String) (sample : JudgeSample) (evaluationId : String) (now : Instant)
  | resolve (evaluationId : String) (request : ResolveReviewRequest) (now : Instant)

-- The rubrics, and the ensemble of the one judge that the environment names.
structure Service where
  env : Environment
  arithmetic : PythonFloat.Arithmetic
  rubrics : Dict String Rubric
  ensemble : EnsembleJudge

-- What raised inside the ensemble; an exception of a provider is taken for one
-- that the endpoint answers.
def failed : Raised → FactoryRequests.Failure
  | .keyError _ => ⟨500,"Internal Server Error"⟩
  | .valueError message => ⟨502,message⟩
  | .provider message => ⟨502,message⟩
  | .validationError model => ⟨502,"validation error for " ++ model⟩
  | .statisticsError => ⟨502,"no median for empty data"⟩

-- The call of the store that a request leads to.
def admitted (service : Service) (outside : Outside) (authorization : Option String) :
    Request → Except FactoryRequests.Failure Call
  | .evaluate n rubricId sample evaluationId now => match Dict.get service.rubrics rubricId with
    | none => .error ⟨404,"rubric not found"⟩
    | some rubric =>
      match JudgeStore.evaluate service.arithmetic service.ensemble n sample rubric evaluationId now with
      | .error raised => .error (failed raised)
      | .ok call => .ok call
  | .resolve evaluationId request now => match currentIdentity service.env outside authorization with
    | .error failure => .error failure
    | .ok identity =>
      if "judge-reviewer" ∉ identity.roles then .error ⟨403,"judge-reviewer role required"⟩
      else .ok (.resolve evaluationId identity.subject request.verdict request.reason now)

inductive Event where
  | request (client : Nat) (outside : Outside) (authorization : Option String) (request : Request)
  | running (event : LockedTransactions.Event Call)

abbrev Shared := LockedTransactions.Shared Database Call JudgeStore.Failure

def step (service : Service) (shared : Shared) : Event → Option Shared
  | .request client outside authorization request => match admitted service outside authorization request with
    | .error _ => some shared
    | .ok call => advance judgeStore shared (.call client call)
  | .running (.call _ _) => none
  | .running event => advance judgeStore shared event

def Begun (service : Service) (events : List Event) (call : Call) : Prop :=
  ∃ client outside authorization request, Event.request client outside authorization request ∈ events ∧
    admitted service outside authorization request = .ok call

variable {service : Service} {shared next : Shared} {event : Event} {events : List Event}

theorem step_advance (taken : step service shared event = some next) : next = shared ∨
    ∃ inner, advance judgeStore shared inner = some next ∧
      ∀ client call, inner = .call client call → Begun service [event] call := by
  cases event with
  | request client outside authorization request =>
    simp only [step] at taken
    split at taken
    · exact .inl (Option.some.inj taken).symm
    · rename_i call passed
      refine .inr ⟨.call client call,taken,fun other later same => ?_⟩
      cases same
      exact ⟨client,outside,authorization,request,List.mem_cons_self,passed⟩
  | running inner =>
    cases inner with
    | call client call => cases taken
    | acquire client => exact .inr ⟨.acquire client,taken,nofun⟩
    | statement => exact .inr ⟨.statement,taken,nofun⟩
    | commit => exact .inr ⟨.commit,taken,nofun⟩

theorem Begun.more {call : Call} (begun : Begun service events call) {longer : List Event}
    (grown : ∀ event ∈ events, event ∈ longer) : Begun service longer call := by
  obtain ⟨client,outside,authorization,request,sent,passed⟩ := begun
  exact ⟨client,outside,authorization,request,grown _ sent,passed⟩

structure Served (service : Service) (events : List Event) (shared : Shared) : Prop where
  sound : LockedTransactions.Sound judgeStore .empty shared
  only : Only (Begun service events) shared

theorem run_served (path : Runs (step service) (start .empty) events shared) : Served service events shared := by
  refine @Runs.recorded _ _ (step service) _ _ _ (fun events shared => Served service events shared) ?_ path
    ⟨start_sound judgeStore .empty,start_only _ _⟩
  intro earlier before event next _ served taken
  have older : Only (Begun service (earlier ++ [event])) before :=
    served.only.imp fun call begun => begun.more fun _ member => List.mem_append_left _ member
  rcases step_advance taken with rfl | ⟨inner,moved,begun⟩
  · exact ⟨served.sound,older⟩
  · exact ⟨advance_sound served.sound moved,advance_only older (fun client call same =>
      (begun client call same).more fun _ member => List.mem_append_right _ member) moved⟩

section Explaining
variable {db after : Database} {call : Call} {raised : Option JudgeStore.Failure} {holds : Call → Prop}

theorem recorded_row {result : EnsembleResult} {queueReview : Option Bool}
    (done : judgeStore.perform db (.record evaluationId result queueReview now) = (after,none)) :
    ∃ row, evaluationRow evaluationId result now = some row ∧ db.evaluations.insert row = some after.evaluations := by
  rw [Program.perform] at done
  split at done
  · cases done
  rename_i checked
  change (if result.judgeResults = [] then some JudgeStore.Failure.indexError else none) = none at checked
  split at checked
  · cases checked
  rename_i answers
  obtain ⟨first,rest,shape⟩ := List.exists_cons_of_ne_nil answers
  split at done
  · cases done
  rename_i final ran
  cases done
  simp only [judgeStore,JudgeStore.statements,evaluationRow,shape,List.head?_cons,Option.map_some,runAll] at ran
  refine ⟨_,by rw [evaluationRow,shape]; rfl,?_⟩
  split at ran
  · cases ran
  rename_i middle entered
  obtain ⟨evaluations,inserted,rfl⟩ := JudgeStore.insertEvaluation_ok entered
  split at ran
  · simp only [runAll] at ran
    split at ran
    · cases ran
    rename_i last queueing
    cases Except.ok.inj ran
    obtain ⟨reviews,_,rfl⟩ := JudgeStore.insertReview_ok queueing
    exact inserted
  · cases Except.ok.inj ran
    exact inserted

structure Resolved (holds : Call → Prop) (id : String) (review : ReviewRow) : Prop where
  call : ∃ reviewer verdict reason now, holds (.resolve id reviewer verdict reason now) ∧ verdict ≠ .review ∧
    review.humanVerdict = some verdict ∧ review.reviewer = some reviewer ∧ review.reason = some reason

structure Explained (holds : Call → Prop) (db : Database) : Prop where
  evaluated : ∀ id row, db.evaluations.find id = some row → ∃ result queueReview now,
    holds (.record id result queueReview now) ∧ evaluationRow id result now = some row ∧
      ((∃ review, db.reviews.find id = some review) ↔ queued result queueReview = true)
  resolved : ∀ id review, db.reviews.find id = some review → review.status = .resolved → Resolved holds id review

theorem empty_explained (holds : Call → Prop) : Explained holds .empty := ⟨nofun,nofun⟩

theorem Explained.recorded {result : EnsembleResult} {queueReview : Option Bool} (explained : Explained holds db)
    (sound : JudgeStore.Sound db) (here : holds (.record evaluationId result queueReview now))
    (done : judgeStore.perform db (.record evaluationId result queueReview now) = (after,none)) :
    Explained holds after := by
  obtain ⟨row,made,entered⟩ := recorded_row done
  have named : row.evaluationId = evaluationId := by
    obtain ⟨first,_,rfl⟩ := Option.map_eq_some_iff.mp made
    rfl
  -- An identifier that is new has no review yet.
  have unreviewed : db.reviews.find evaluationId = none := by
    cases found : db.reviews.find evaluationId with
    | none => rfl
    | some review =>
      obtain ⟨evaluation,there⟩ := sound.evaluated _ review found
      rw [← named,Table.insert_fresh entered] at there
      cases there
  have evaluated : ∀ id, id ≠ evaluationId → after.reviews.find id = db.reviews.find id →
      ∀ found, after.evaluations.find id = some found → ∃ result queueReview now,
        holds (.record id result queueReview now) ∧ evaluationRow id result now = some found ∧
          ((∃ review, after.reviews.find id = some review) ↔ queued result queueReview = true) := by
    intro id other same found there
    rw [Table.find_insert entered,if_neg (named ▸ other)] at there
    rw [same]
    exact explained.evaluated id found there
  have newest : ∀ found, after.evaluations.find evaluationId = some found →
      evaluationRow evaluationId result now = some found := by
    intro found there
    rw [Table.find_insert entered,if_pos named.symm] at there
    cases Option.some.inj there
    exact made
  cases JudgeStore.perform_cases done with
  | recorded _ _ unneeded =>
    refine ⟨fun id found there => ?_,explained.resolved⟩
    by_cases same : id = evaluationId
    · subst same
      refine ⟨result,queueReview,now,here,newest found there,iff_of_false ?_ (by rw [unneeded]; nofun)⟩
      intro reviewed
      obtain ⟨review,reviewed⟩ := reviewed
      exact nomatch unreviewed.symm.trans reviewed
    · exact evaluated id same rfl found there
  | queued _ _ needed inserted =>
    refine ⟨fun id found there => ?_,fun id review reviewed settled => ?_⟩
    · by_cases same : id = evaluationId
      · subst same
        exact ⟨result,queueReview,now,here,newest found there,
          iff_of_true ⟨_,(Table.find_insert inserted id).trans (if_pos rfl)⟩ needed⟩
      · exact evaluated id same ((Table.find_insert inserted id).trans (if_neg same)) found there
    · rw [Table.find_insert inserted] at reviewed
      split at reviewed
      · cases Option.some.inj reviewed
        cases settled
      · exact explained.resolved id review reviewed settled

theorem Explained.step (explained : Explained holds db) (sound : JudgeStore.Sound db) (here : holds call)
    (done : judgeStore.perform db call = (after,raised)) : Explained holds after := by
  cases JudgeStore.perform_cases done with
  | raised => exact explained
  | recorded | queued => exact explained.recorded sound here done
  | @resolved evaluationId reviewer reason verdict now row _ decided _ _ found _ others kept =>
    refine ⟨fun id evaluation there => ?_,fun id review reviewed settled => ?_⟩
    · rw [kept] at there
      obtain ⟨result,queueReview,at_,called,made,reviewed⟩ := explained.evaluated id evaluation there
      refine ⟨result,queueReview,at_,called,made,?_⟩
      rw [← reviewed,others]
      split
      · rename_i same
        subst same
        exact iff_of_true ⟨_,rfl⟩ ⟨row,found⟩
      · exact Iff.rfl
    · rw [others] at reviewed
      split at reviewed
      · rename_i same
        subst same
        cases Option.some.inj reviewed
        exact ⟨reviewer,verdict,reason,now,here,decided,rfl,rfl,rfl⟩
      · exact explained.resolved id review reviewed settled

theorem run_explained {log : List (Call × Option JudgeStore.Failure)} (path : Runs (replay judgeStore) db log after)
    (called : ∀ entry ∈ log, holds entry.1) (sound : JudgeStore.Sound db) (explained : Explained holds db) :
    JudgeStore.Sound after ∧ Explained holds after := by
  induction path with
  | stop => exact ⟨sound,explained⟩
  | take taken _ ih =>
    obtain ⟨here,later⟩ := List.forall_mem_cons.mp called
    have done := replay_parts taken
    exact ih later ((JudgeStore.perform_cases done).sound sound) (explained.step sound here done)

end Explaining

structure Reviewer (service : Service) (events : List Event) (review : ReviewRow) : Prop where
  request : ∃ client outside authorization request now identity,
    Event.request client outside authorization (.resolve review.evaluationId request now) ∈ events ∧
    currentIdentity service.env outside authorization = .ok identity ∧ "judge-reviewer" ∈ identity.roles ∧
    (service.env "FACTORY_ENV" = some "production" → Verified service.env outside authorization identity) ∧
    request.verdict ≠ .review ∧ review.humanVerdict = some request.verdict ∧
    review.reviewer = some identity.subject ∧ review.reason = some request.reason

structure Evaluated (service : Service) (events : List Event) (row : EvaluationRow) (sample : JudgeSample)
    (result : EnsembleResult) : Prop where
  request : ∃ client outside authorization n rubricId rubric now,
    Event.request client outside authorization (.evaluate n rubricId sample row.evaluationId now) ∈ events ∧
    Dict.get service.rubrics rubricId = some rubric ∧
    service.ensemble.evaluate service.arithmetic n sample rubric = .ok result ∧
    evaluationRow row.evaluationId result now = some row

theorem begun_record {result : EnsembleResult} {queueReview : Option Bool}
    (begun : Begun service events (.record evaluationId result queueReview now)) :
    ∃ client outside authorization n rubricId rubric sample,
      Event.request client outside authorization (.evaluate n rubricId sample evaluationId now) ∈ events ∧
      Dict.get service.rubrics rubricId = some rubric ∧
      service.ensemble.evaluate service.arithmetic n sample rubric = .ok result ∧
      (queued result queueReview = true ↔
        result.verdict = .review ∨ sample.riskTier = "high" ∨ sample.riskTier = "critical") := by
  obtain ⟨client,outside,authorization,request,sent,passed⟩ := begun
  cases request with
  | evaluate n rubricId sample id at_ =>
    simp only [admitted] at passed
    split at passed
    · cases passed
    rename_i rubric known
    split at passed
    · cases passed
    rename_i call made
    cases Except.ok.inj passed
    obtain ⟨answer,judged,made⟩ := bind_ok made
    cases Except.ok.inj made
    refine ⟨client,outside,authorization,n,rubricId,rubric,sample,sent,known,judged,?_⟩
    simp [queued,or_assoc]
  | resolve id request at_ =>
    simp only [admitted] at passed
    split at passed
    · cases passed
    split at passed
    · cases passed
    cases Except.ok.inj passed

theorem begun_resolve (begun : Begun service events (.resolve evaluationId reviewer verdict reason now)) :
    ∃ client outside authorization request identity,
      Event.request client outside authorization (.resolve evaluationId request now) ∈ events ∧
      currentIdentity service.env outside authorization = .ok identity ∧ "judge-reviewer" ∈ identity.roles ∧
      reviewer = identity.subject ∧ verdict = request.verdict ∧ reason = request.reason := by
  obtain ⟨client,outside,authorization,request,sent,passed⟩ := begun
  cases request with
  | evaluate n rubricId sample id at_ =>
    simp only [admitted] at passed
    split at passed
    · cases passed
    split at passed
    · cases passed
    rename_i call made
    cases Except.ok.inj passed
    obtain ⟨answer,_,made⟩ := bind_ok made
    cases made
  | resolve id request at_ =>
    simp only [admitted] at passed
    split at passed
    · cases passed
    rename_i identity identified
    split at passed
    · cases passed
    rename_i role
    cases Except.ok.inj passed
    exact ⟨client,outside,authorization,request,identity,sent,identified,not_not.mp role,rfl,rfl,rfl⟩

-- Every evaluation in the database is the ensemble's answer to a request, it has
-- a review exactly where it needs one, and nobody but a reviewer resolves that.
theorem reviews_by_reviewers (service : Service) (events : List Event) (shared : Shared)
    (path : Runs (step service) (start .empty) events shared) :
    (∀ row ∈ shared.committed.evaluations.rows, ∃ sample result, Evaluated service events row sample result ∧
      ((∃ review ∈ shared.committed.reviews.rows, review.evaluationId = row.evaluationId) ↔
        result.verdict = .review ∨ sample.riskTier = "high" ∨ sample.riskTier = "critical")) ∧
    ∀ review ∈ shared.committed.reviews.rows,
      (∃ row ∈ shared.committed.evaluations.rows, row.evaluationId = review.evaluationId) ∧
      (review.status = .resolved → Reviewer service events review) := by
  have served := run_served path
  obtain ⟨sound,explained⟩ := run_explained served.sound.serial served.only.logged JudgeStore.empty_sound
    (empty_explained _)
  constructor
  · intro row inside
    obtain ⟨result,queueReview,now,begun,made,reviewed⟩ := explained.evaluated _ row (Table.find_of_mem inside)
    obtain ⟨client,outside,authorization,n,rubricId,rubric,sample,sent,known,judged,needed⟩ := begun_record begun
    refine ⟨sample,result,⟨client,outside,authorization,n,rubricId,rubric,now,sent,known,judged,made⟩,?_⟩
    rw [← needed,← reviewed]
    constructor
    · intro there
      obtain ⟨review,member,same⟩ := there
      exact ⟨review,same ▸ Table.find_of_mem member⟩
    · intro there
      obtain ⟨review,found⟩ := there
      exact ⟨review,Table.find_mem found,Table.find_key found⟩
  · intro review member
    have found := Table.find_of_mem member
    constructor
    · obtain ⟨row,there⟩ := sound.evaluated _ review found
      exact ⟨row,Table.find_mem there,Table.find_key there⟩
    · intro settled
      obtain ⟨reviewer,verdict,reason,now,begun,decided,human,by_,because⟩ :=
        (explained.resolved _ review found settled).call
      obtain ⟨client,outside,authorization,request,identity,sent,identified,role,rfl,rfl,rfl⟩ := begun_resolve begun
      refine ⟨client,outside,authorization,request,now,identity,sent,identified,role,fun production => ?_,decided,human,
        by_,because⟩
      rcases currentIdentity_cases identified with ⟨_,elsewhere,_⟩ | verified
      · rw [production] at elsewhere
        exact absurd rfl elsewhere
      · exact verified

def support : Service where
  env _ := none
  arithmetic := .exact
  rubrics := Dict.set Table.empty "support-quality" JudgeGate.supportRubric
  ensemble := JudgeGate.unsure.ensemble

def limitSample : JudgeSample := ⟨"case-1","What is the limit?","The limit is ten.",none,[],[],"standard"⟩

theorem supported_sized : 3 ≤ "Supported.".length ∧ "Supported.".length ≤ 5000 := by decide

def supported : ResolveReviewRequest := ⟨.pass,"Supported.",supported_sized⟩

def nobody : Outside := ⟨fun _ => none,fun _ => none,fun _ _ _ _ _ => none,fun _ => ""⟩

def unsureEvaluation : List Event :=
  [.request 0 nobody none (.evaluate 0 "support-quality" limitSample "e-1" 0),.running (.acquire 0),.running .statement,
   .running .statement,.running .commit,.request 1 nobody none (.resolve "e-1" supported 1),.running (.acquire 1),
   .running .statement,.running .commit]

theorem unsure_evaluation_reviewed : ∃ shared, Runs (step support) (start .empty) unsureEvaluation shared ∧
    shared.committed.reviews.rows.map (fun review => (review.status,review.humanVerdict)) = [(.resolved,some .pass)] ∧
    ∀ review ∈ shared.committed.reviews.rows, review.status = .resolved → Reviewer support unsureEvaluation review := by
  have ends : (consume (step support) (start .empty) unsureEvaluation).map (fun shared =>
      shared.committed.reviews.rows.map fun review => (review.status,review.humanVerdict)) =
        some [(.resolved,some .pass)] := by decide +kernel
  obtain ⟨shared,reached,shown⟩ := Option.map_eq_some_iff.mp ends
  have path := consume_exact.mp reached
  obtain ⟨_,reviews⟩ := reviews_by_reviewers support unsureEvaluation shared path
  exact ⟨shared,path,shown,fun review member settled => (reviews review member).2 settled⟩

end OpenModelOps.JudgeRequests
