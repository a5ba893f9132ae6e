import OpenModelOps.ReviewService
import OpenModelOps.RunHistory

namespace OpenModelOps.ReviewApproval
open KeyedTable ReviewService RunHistory
open PythonText (Instant)

structure Suggestion where
  path : String
  line : Option Int
  body : String
  deriving DecidableEq

-- What a report shows under a comment id. GitHub gives each id once; nothing in
-- the client checks it.
def shown (comments : List InlineComment) (commentId : Int) : List Suggestion :=
  (comments.filter fun comment => decide (comment.commentId = commentId)).map
    fun comment => ⟨comment.path,comment.line,comment.body⟩

structure Approval where
  key : String
  commentId : Int
  suggestion : List Suggestion
  deriving DecidableEq

-- The log is not part of the program: it keeps what the report showed at each
-- approval that was recorded.
structure State where
  store : ReviewStore
  log : List Approval

inductive Call where
  | openPullRequest (config : ReviewAgentConfig) (pull : Pull) (headSha baseBranch : String) (fromFork : Bool)
      (changedPaths : List String)
  | refreshReport (config : ReviewAgentConfig) (github : GitHub) (now : Instant) (pull : Pull)
  | approveSuggestion (pull : Pull) (commentId : Int) (actor : String)
  | authorizeApply (pull : Pull) (commentId : Int)

-- A call that raises leaves the store as it was.
def step (s : State) : Call → Option State
  | .openPullRequest config pull headSha baseBranch fromFork changedPaths =>
    some { s with store := (openPullRequest config s.store pull headSha baseBranch fromFork changedPaths).2 }
  | .refreshReport config github now pull => match refreshReport config github now s.store pull with
    | .error _ => some s
    | .ok (_,store) => some { s with store := store }
  | .approveSuggestion pull commentId actor => match approveSuggestion s.store pull commentId actor with
    | .error _ => some s
    | .ok (review,store) => some ⟨store,s.log ++ [⟨pull.key,commentId,shown review.inlineComments commentId⟩]⟩
  | .authorizeApply _ _ => some s

def initial : State := ⟨Table.empty,[]⟩

theorem every_call_runs (s : State) (calls : List Call) : ∃ t, Runs step s calls t := by
  induction calls generalizing s with
  | nil => exact ⟨s,.stop⟩
  | cons call rest ih =>
    have taken : ∃ next, step s call = some next := by
      cases call with
      | openPullRequest config pull headSha baseBranch fromFork changedPaths => exact ⟨_,rfl⟩
      | refreshReport config github now pull => simp only [step]; split <;> exact ⟨_,rfl⟩
      | approveSuggestion pull commentId actor => simp only [step]; split <;> exact ⟨_,rfl⟩
      | authorizeApply pull commentId => exact ⟨_,rfl⟩
    obtain ⟨next,taken⟩ := taken
    obtain ⟨t,path⟩ := ih next
    exact ⟨t,.take taken path⟩

def latest (log : List Approval) (key : String) (commentId : Int) : Option Approval :=
  log.reverse.find? fun approval => decide (approval.key = key ∧ approval.commentId = commentId)

def AsApproved (s : State) : Prop :=
  ∀ pull commentId authorization, authorizeApply s.store pull commentId = .ok authorization →
    ∃ review approval, get s.store pull = some review ∧ latest s.log pull.key commentId = some approval ∧
      shown review.inlineComments commentId ≠ [] ∧ shown review.inlineComments commentId = approval.suggestion

def Keeps (s : State) : Call → Prop
  | .refreshReport config github _ pull => ∀ review report security, get s.store pull = some review →
      review.eligibleAtOpen = true → fetchAll config github pull review.changedPaths = .ok (report,security) →
      ∀ commentId, review.approvals.get commentId ≠ none →
        shown report.comments commentId = shown review.inlineComments commentId
  | _ => True

structure Sound (s : State) : Prop where
  keyed : Keyed s.store
  logged : ∀ pull review commentId, get s.store pull = some review → review.approvals.get commentId ≠ none →
    ∃ approval, latest s.log pull.key commentId = some approval

theorem initial_sound : Sound initial :=
  ⟨fun _ _ found => (nomatch found),fun _ _ _ found => (nomatch found)⟩

theorem latest_snoc (log : List Approval) (approval : Approval) (key : String) (commentId : Int) :
    latest (log ++ [approval]) key commentId =
      if approval.key = key ∧ approval.commentId = commentId then some approval else latest log key commentId := by
  simp only [latest,List.reverse_append,List.reverse_singleton,List.singleton_append,List.find?_cons]
  split <;> simp_all

theorem shown_of_mem {comments : List InlineComment} (present : commentId ∈ comments.map (·.commentId)) :
    shown comments commentId ≠ [] := by
  obtain ⟨comment,member,same⟩ := List.mem_map.mp present
  have kept : comment ∈ comments.filter fun comment => decide (comment.commentId = commentId) :=
    List.mem_filter.mpr ⟨member,by simpa using same⟩
  intro empty
  rw [shown,List.map_eq_nil_iff] at empty
  rw [empty] at kept
  cases kept

inductive Moves (s : State) : Call → State → Prop where
  | same : (∀ config github now pull, call = .refreshReport config github now pull →
        ∀ review, get s.store pull = some review → review.eligibleAtOpen = true →
          ∀ fetched, fetchAll config github pull review.changedPaths ≠ .ok fetched) →
      Moves s call s
  | opened : get s.store pull = none → review.key = pull.key → review.approvals = Table.empty →
      Moves s (.openPullRequest config pull headSha baseBranch fromFork changedPaths) ⟨save s.store review,s.log⟩
  | refreshed : get s.store pull = some review → review.eligibleAtOpen = true →
      fetchAll config github pull review.changedPaths = .ok (report,security) →
      Moves s (.refreshReport config github now pull)
        ⟨save s.store (review.recordFindings report.summaries report.comments security now),s.log⟩
  | approved : get s.store pull = some review → commentId ∈ review.inlineComments.map (·.commentId) →
      updated = { review with approvals := review.approvals.set commentId actor } →
      Moves s (.approveSuggestion pull commentId actor)
        ⟨save s.store updated,s.log ++ [⟨pull.key,commentId,shown review.inlineComments commentId⟩]⟩

theorem step_moves (taken : step s call = some next) : Moves s call next := by
  cases call with
  | openPullRequest config pull headSha baseBranch fromFork changedPaths =>
    cases Option.some.inj taken
    unfold openPullRequest
    cases found : get s.store pull with
    | some existing => exact .same (fun _ _ _ _ shape => (nomatch shape))
    | none => exact .opened found rfl rfl
  | refreshReport config github now pull =>
    simp only [step] at taken
    cases found : get s.store pull with
    | none =>
      have raised : required s.store pull = .error (.keyError "pull request was not latched at open time") := by
        simp [required,found]
      simp only [refreshReport,raised,bind,Except.bind] at taken
      cases Option.some.inj taken
      refine .same fun _ _ _ _ shape review there => ?_
      cases shape
      rw [found] at there; cases there
    | some review =>
      cases eligible : review.eligibleAtOpen with
      | false =>
        simp [refreshReport,required_ok.mpr found,bind,Except.bind,eligible,pure,Except.pure] at taken
        cases taken
        refine .same fun _ _ _ _ shape other there open_ => ?_
        cases shape
        rw [found] at there; cases there
        rw [eligible] at open_; cases open_
      | true =>
        cases fetched : fetchAll config github pull review.changedPaths with
        | error raised =>
          simp [refreshReport,required_ok.mpr found,bind,Except.bind,eligible,fetched] at taken
          cases taken
          refine .same fun _ _ _ _ shape other there _ answer got => ?_
          cases shape
          rw [found] at there; cases there
          rw [fetched] at got; cases got
        | ok answer =>
          simp [refreshReport,required_ok.mpr found,bind,Except.bind,eligible,fetched,pure,Except.pure] at taken
          cases taken
          exact .refreshed found eligible fetched
  | approveSuggestion pull commentId actor =>
    simp only [step] at taken
    split at taken
    · cases Option.some.inj taken
      exact .same (fun _ _ _ _ shape => (nomatch shape))
    · rename_i review store approved
      cases Option.some.inj taken
      obtain ⟨before,found,approved⟩ := Raising.bind_ok approved
      obtain ⟨updated,granted,approved⟩ := Raising.bind_ok approved
      cases Except.ok.inj approved
      obtain ⟨present,rfl⟩ := approveSuggestion_parts granted
      exact @Moves.approved s pull before commentId _ actor (required_ok.mp found) present rfl
  | authorizeApply pull commentId =>
    cases Option.some.inj taken
    exact .same (fun _ _ _ _ shape => (nomatch shape))

section Steps
variable {s next : State} {call : Call} {pull other : Pull} {review : PullRequestReview} {report : ReviewReport}

theorem step_sound (sound : Sound s) (taken : step s call = some next) : Sound next := by
  cases step_moves taken with
  | same _ => exact sound
  | @opened pull review _ _ _ _ _ absent keyed empty =>
    refine ⟨sound.keyed.saved keyed,?_⟩
    intro other found commentId there granted
    rcases save_cases keyed there with ⟨_,rfl⟩ | ⟨_,before⟩
    · rw [empty] at granted; exact absurd rfl granted
    · exact sound.logged other found commentId before granted
  | @refreshed pull review config github report security now there eligible fetched =>
    have keyed : (review.recordFindings report.summaries report.comments security now).key = pull.key :=
      sound.keyed pull review there
    refine ⟨sound.keyed.saved keyed,?_⟩
    intro other found commentId after granted
    rcases save_cases keyed after with ⟨same,rfl⟩ | ⟨_,before⟩
    · exact sound.logged other review commentId (by rw [get_same_key s.store same]; exact there) granted
    · exact sound.logged other found commentId before granted
  | @approved pull review commentId updated actor there present grants =>
    subst grants
    have keyed : ({ review with approvals := review.approvals.set commentId actor } : PullRequestReview).key =
        pull.key := sound.keyed pull review there
    refine ⟨sound.keyed.saved keyed,?_⟩
    intro other found id after granted
    rw [latest_snoc]
    split
    · exact ⟨_,rfl⟩
    · rename_i apart
      rcases save_cases keyed after with ⟨same,rfl⟩ | ⟨_,before⟩
      · have different : id ≠ commentId := fun equal => apart ⟨same.symm,equal.symm⟩
        have held : review.approvals.get id ≠ none := by simpa [Dict.get_set,different] using granted
        exact sound.logged other review id (by rw [get_same_key s.store same]; exact there) held
      · exact sound.logged other found id before granted

def Matches (log : List Approval) (key : String) (review : PullRequestReview) : Prop :=
  ∀ commentId, review.approvals.get commentId ≠ none → ∃ approval, latest log key commentId = some approval ∧
    shown review.inlineComments commentId ≠ [] ∧ shown review.inlineComments commentId = approval.suggestion

theorem asApproved_iff :
    AsApproved s ↔ ∀ pull review, get s.store pull = some review → Matches s.log pull.key review := by
  constructor
  · intro all pull review found commentId granted
    obtain ⟨authorization,authorized⟩ := authorizeApply_ok.mpr ⟨review,found,granted⟩
    obtain ⟨stored,approval,there,logged,some_,same⟩ := all pull commentId authorization authorized
    rw [found] at there
    cases Option.some.inj there
    exact ⟨approval,logged,some_,same⟩
  · intro all pull commentId authorization authorized
    obtain ⟨review,found,granted⟩ := authorizeApply_ok.mp ⟨authorization,authorized⟩
    obtain ⟨approval,logged,some_,same⟩ := all pull review found commentId granted
    exact ⟨review,approval,found,logged,some_,same⟩

theorem opened_exact {s : State} (valid : AsApproved s) (keyed : review.key = pull.key)
    (empty : review.approvals = Table.empty) : AsApproved ⟨save s.store review,s.log⟩ := by
  refine asApproved_iff.mpr fun other found there => ?_
  rcases save_cases keyed there with ⟨_,rfl⟩ | ⟨_,before⟩
  · intro commentId granted
    rw [empty] at granted
    exact absurd rfl granted
  · exact asApproved_iff.mp valid other found before

theorem approved_exact {s : State} (sound : Sound s) (valid : AsApproved s) (there : get s.store pull = some review)
    (present : commentId ∈ review.inlineComments.map (·.commentId)) :
    AsApproved ⟨save s.store { review with approvals := review.approvals.set commentId actor },
      s.log ++ [⟨pull.key,commentId,shown review.inlineComments commentId⟩]⟩ := by
  have keyed : ({ review with approvals := review.approvals.set commentId actor } : PullRequestReview).key =
      pull.key := sound.keyed pull review there
  refine asApproved_iff.mpr fun other found after id granted => ?_
  simp only [latest_snoc]
  rcases save_cases keyed after with ⟨same,rfl⟩ | ⟨apart,before⟩
  · by_cases here : commentId = id
    · subst id
      exact ⟨_,if_pos ⟨same.symm,rfl⟩,shown_of_mem present,rfl⟩
    · have held : review.approvals.get id ≠ none := by simpa [Dict.get_set,Ne.symm here] using granted
      rw [if_neg fun both => here both.2]
      exact asApproved_iff.mp valid other review (by rw [get_same_key s.store same]; exact there) id held
  · rw [if_neg fun both => apart both.1.symm]
    exact asApproved_iff.mp valid other found before id granted

theorem refreshed_exact {s : State} (sound : Sound s) (valid : AsApproved s) (there : get s.store pull = some review) :
    AsApproved ⟨save s.store (review.recordFindings report.summaries report.comments security now),s.log⟩ ↔
      ∀ commentId, review.approvals.get commentId ≠ none →
        shown report.comments commentId = shown review.inlineComments commentId := by
  have keyed : (review.recordFindings report.summaries report.comments security now).key = pull.key :=
    sound.keyed pull review there
  have held := asApproved_iff.mp valid pull review there
  rw [asApproved_iff]
  constructor
  · intro all commentId granted
    have stored : get (save s.store (review.recordFindings report.summaries report.comments security now)) pull =
        some (review.recordFindings report.summaries report.comments security now) := by
      rw [get_save]; exact if_pos keyed.symm
    obtain ⟨approval,logged,_,same⟩ := all pull _ stored commentId granted
    obtain ⟨earlier,again,_,before⟩ := held commentId granted
    cases Option.some.inj (logged.symm.trans again)
    exact same.trans before.symm
  · intro kept other found after commentId granted
    rcases save_cases keyed after with ⟨same,rfl⟩ | ⟨_,before⟩
    · obtain ⟨approval,logged,some_,equal⟩ := held commentId granted
      have shows : shown report.comments commentId = shown review.inlineComments commentId := kept commentId granted
      refine ⟨approval,by rw [same]; exact logged,?_,?_⟩
      · exact fun none_ => some_ (shows.symm.trans none_)
      · exact shows.trans equal
    · exact asApproved_iff.mp valid other found before commentId granted

theorem step_exact (sound : Sound s) (valid : AsApproved s) (taken : step s call = some next) :
    AsApproved next ↔ Keeps s call := by
  cases step_moves taken with
  | same quiet =>
    refine iff_of_true valid ?_
    cases call with
    | refreshReport config github now pull =>
      intro review report security found eligible fetched
      exact absurd fetched (quiet config github now pull rfl review found eligible _)
    | openPullRequest config pull headSha baseBranch fromFork changedPaths => trivial
    | approveSuggestion pull commentId actor => trivial
    | authorizeApply pull commentId => trivial
  | opened absent keyed empty => exact iff_of_true (opened_exact valid keyed empty) trivial
  | @refreshed pull review config github report security now there eligible fetched =>
    rw [refreshed_exact sound valid there]
    constructor
    · intro kept other answer findings found _ got
      rw [there] at found
      cases Option.some.inj found
      rw [fetched] at got
      cases Except.ok.inj got
      exact kept
    · exact fun keeps => keeps review report security there eligible fetched
  | approved there present grants =>
    subst grants
    exact iff_of_true (approved_exact sound valid there present) trivial

theorem initial_asApproved : AsApproved initial := by
  intro pull commentId authorization authorized
  obtain ⟨_,found,_⟩ := authorizeApply_ok.mp ⟨authorization,authorized⟩
  cases found

end Steps

-- In every state of a run each authorization is for what was approved, exactly
-- when each refresh of the run shows the approved comments as before.
theorem authorized_as_approved_iff_refreshes_keep (calls : List Call) :
    Always step AsApproved initial calls ↔ Throughout step Keeps initial calls := by
  obtain ⟨t,path⟩ := every_call_runs initial calls
  exact path.always_exact (fun sound taken => step_sound sound taken)
    (fun sound valid taken => step_exact sound valid taken) initial_sound initial_asApproved

def editedAfterApproval : List Call :=
  let config : ReviewAgentConfig := ⟨"main",false,[]⟩
  let pull : Pull := ⟨"org","repo",1⟩
  [.openPullRequest config pull "abcdef1" "main" false [],
   .refreshReport config (answering [⟨20,"beacode[bot]","app.py",some 7,"Suggestion",""⟩]) 1767225600000000 pull,
   .approveSuggestion pull 20 "human-reviewer",
   .refreshReport config (answering [⟨20,"beacode[bot]","app.py",some 7,"Another suggestion",""⟩]) 1767225660000000 pull]

theorem edited_suggestion_is_authorized : ¬ Always step AsApproved initial editedAfterApproval := by
  intro all
  obtain ⟨t,path⟩ := every_call_runs initial editedAfterApproval
  have ran := consume_exact.mpr path
  have authorized : (consume step initial editedAfterApproval).map
      (fun t => (authorizeApply t.store ⟨"org","repo",1⟩ 20).isOk) = some true := by decide +kernel
  have current : (consume step initial editedAfterApproval).map
      (fun t => (get t.store ⟨"org","repo",1⟩).map fun review => shown review.inlineComments 20) =
        some (some [⟨"app.py",some 7,"Another suggestion"⟩]) := by decide +kernel
  have approved : (consume step initial editedAfterApproval).map
      (fun t => (latest t.log (Pull.key ⟨"org","repo",1⟩) 20).map (·.suggestion)) =
        some (some [⟨"app.py",some 7,"Suggestion"⟩]) := by decide +kernel
  rw [ran] at authorized current approved
  obtain ⟨authorization,granted⟩ := Raising.isOk_iff.mp (Option.some.inj authorized)
  obtain ⟨review,approval,found,logged,_,same⟩ :=
    all editedAfterApproval [] t (by simp) path ⟨"org","repo",1⟩ 20 authorization granted
  simp only [Option.map_some,found,logged] at current approved
  rw [Option.some.inj (Option.some.inj current),Option.some.inj (Option.some.inj approved)] at same
  exact absurd same (by decide)

end OpenModelOps.ReviewApproval
