import OpenModelOps.KeyedTable
import OpenModelOps.PythonText
import OpenModelOps.Raising
import Mathlib.Data.List.Infix

namespace OpenModelOps.ReviewService
open KeyedTable
open PythonText (Instant blank)

structure ReviewSummary where
  reviewId : Int
  reviewer : String
  state : String
  body : String
  url : String

structure InlineComment where
  commentId : Int
  reviewer : String
  path : String
  line : Option Int
  body : String
  url : String

structure SecurityFinding where
  source : String
  alertId : String
  severity : String
  path : String
  summary : String
  url : String

structure PullRequestReview where
  owner : String
  repository : String
  pullNumber : Int
  headSha : String
  baseBranch : String
  fromFork : Bool
  eligibleAtOpen : Bool
  changedPaths : List String
  summaries : List ReviewSummary
  inlineComments : List InlineComment
  securityFindings : List SecurityFinding
  fetchedAt : Option Instant
  approvals : Dict Int String

-- What the service and the client raise, with the message of the exception.
inductive Failure where
  | keyError (message : String)
  | valueError (message : String)
  | permissionError (message : String)
  | integrationError (message : String)
  deriving DecidableEq

structure Pull where
  owner : String
  repository : String
  pullNumber : Int
  deriving DecidableEq

def Pull.key (pull : Pull) : String := pull.owner ++ "/" ++ pull.repository ++ "#" ++ toString pull.pullNumber

namespace PullRequestReview

def key (review : PullRequestReview) : String := Pull.key ⟨review.owner,review.repository,review.pullNumber⟩

def recordFindings (review : PullRequestReview) (summaries : List ReviewSummary) (comments : List InlineComment)
    (securityFindings : List SecurityFinding) (now : Instant) : PullRequestReview :=
  { review with summaries := summaries, inlineComments := comments, securityFindings := securityFindings,
                fetchedAt := some now }

def approveSuggestion (review : PullRequestReview) (commentId : Int) (actor : String) :
    Except Failure PullRequestReview :=
  if commentId ∉ review.inlineComments.map (·.commentId) then
    .error (.valueError "review comment does not exist in the fetched report")
  else if blank actor then .error (.valueError "approval actor is required")
  else .ok { review with approvals := review.approvals.set commentId actor }

def requireApprovedSuggestion (review : PullRequestReview) (commentId : Int) : Except Failure String :=
  match review.approvals.get commentId with
  | none => .error (.permissionError "explicit approval is required before applying a suggestion")
  | some actor => .ok actor

end PullRequestReview

inductive Scope where
  | diff
  | repo
  deriving DecidableEq

structure PRCheck where
  name : String
  scope : Scope

structure ReviewAgentConfig where
  targetBranch : String
  forkSupport : Bool
  prChecks : List PRCheck

-- `"security-scanner" in name.lower()`. No character outside ASCII has a lower
-- case that contributes to this ASCII text, so the ASCII lower case decides it.
def scansSecurity (check : PRCheck) : Bool :=
  decide ("security-scanner".toList <:+: check.name.toList.map Char.toLower)

def ReviewAgentConfig.securityAlertsEnabled (config : ReviewAgentConfig) : Bool :=
  config.prChecks.any scansSecurity

structure ReviewReport where
  summaries : List ReviewSummary
  comments : List InlineComment

-- The client of one call: the answers that its requests get, or its exception.
structure GitHub where
  fetchReport : Pull → Except Failure ReviewReport
  fetchSecurityFindings : Pull → List String → Scope → Except Failure (List SecurityFinding)

def answering (comments : List InlineComment) : GitHub := ⟨fun _ => .ok ⟨[],comments⟩,fun _ _ _ => .ok []⟩

abbrev ReviewStore := Dict String PullRequestReview

def save (store : ReviewStore) (review : PullRequestReview) : ReviewStore := store.set review.key review

def get (store : ReviewStore) (pull : Pull) : Option PullRequestReview := Dict.get store pull.key

def required (store : ReviewStore) (pull : Pull) : Except Failure PullRequestReview :=
  match get store pull with
  | none => .error (.keyError "pull request was not latched at open time")
  | some review => .ok review

def openPullRequest (config : ReviewAgentConfig) (store : ReviewStore) (pull : Pull) (headSha baseBranch : String)
    (fromFork : Bool) (changedPaths : List String) : PullRequestReview × ReviewStore :=
  match get store pull with
  | some existing => (existing,store)
  | none =>
    let eligible := baseBranch == config.targetBranch && (!fromFork || config.forkSupport)
    let review : PullRequestReview :=
      { owner := pull.owner, repository := pull.repository, pullNumber := pull.pullNumber, headSha := headSha,
        baseBranch := baseBranch, fromFork := fromFork, eligibleAtOpen := eligible, changedPaths := changedPaths,
        summaries := [], inlineComments := [], securityFindings := [], fetchedAt := none, approvals := Table.empty }
    (review,save store review)

def securityScope (config : ReviewAgentConfig) : Scope :=
  if ((config.prChecks.filter scansSecurity).map (·.scope)).contains .repo then .repo else .diff

-- The two fetches of a refresh, in the order in which they are made.
def fetchAll (config : ReviewAgentConfig) (github : GitHub) (pull : Pull) (changedPaths : List String) :
    Except Failure (ReviewReport × List SecurityFinding) := do
  let report ← github.fetchReport pull
  let security ← if config.securityAlertsEnabled then
    github.fetchSecurityFindings pull changedPaths (securityScope config) else .ok []
  return (report,security)

def refreshReport (config : ReviewAgentConfig) (github : GitHub) (now : Instant) (store : ReviewStore) (pull : Pull) :
    Except Failure (PullRequestReview × ReviewStore) := do
  let review ← required store pull
  if !review.eligibleAtOpen then
    return (review,store)
  let (report,security) ← fetchAll config github pull review.changedPaths
  let updated := review.recordFindings report.summaries report.comments security now
  return (updated,save store updated)

def approveSuggestion (store : ReviewStore) (pull : Pull) (commentId : Int) (actor : String) :
    Except Failure (PullRequestReview × ReviewStore) := do
  let review ← required store pull
  let updated ← review.approveSuggestion commentId actor
  return (updated,save store updated)

structure Authorization where
  status : String
  commentId : Int
  approvedBy : String

def authorizeApply (store : ReviewStore) (pull : Pull) (commentId : Int) : Except Failure Authorization := do
  let review ← required store pull
  let actor ← review.requireApprovedSuggestion commentId
  return ⟨"authorized",commentId,actor⟩

theorem get_save (store : ReviewStore) (review : PullRequestReview) (pull : Pull) :
    get (save store review) pull = if pull.key = review.key then some review else get store pull :=
  Dict.get_set store review.key pull.key review

theorem get_same_key (store : ReviewStore) {pull other : Pull} (same : other.key = pull.key) :
    get store other = get store pull := by
  unfold ReviewService.get; rw [same]

def Keyed (store : ReviewStore) : Prop :=
  ∀ pull review, get store pull = some review → review.key = pull.key

theorem save_cases {store : ReviewStore} {saved review : PullRequestReview} {pull other : Pull}
    (keyed : saved.key = pull.key) (found : get (save store saved) other = some review) :
    (other.key = pull.key ∧ review = saved) ∨ (other.key ≠ pull.key ∧ get store other = some review) := by
  rw [get_save,keyed] at found
  split at found
  · rename_i same; exact .inl ⟨same,(Option.some.inj found).symm⟩
  · rename_i other; exact .inr ⟨other,found⟩

theorem Keyed.saved {store : ReviewStore} {pull : Pull} (all : Keyed store) (keyed : review.key = pull.key) :
    Keyed (save store review) := by
  intro other found there
  rcases save_cases keyed there with ⟨same,rfl⟩ | ⟨_,before⟩
  · exact keyed.trans same.symm
  · exact all other found before

theorem required_ok {store : ReviewStore} : required store pull = .ok review ↔ get store pull = some review := by
  unfold required
  split <;> simp_all

theorem approveSuggestion_parts {review updated : PullRequestReview}
    (approved : review.approveSuggestion commentId actor = .ok updated) :
    commentId ∈ review.inlineComments.map (·.commentId) ∧
      updated = { review with approvals := review.approvals.set commentId actor } := by
  unfold PullRequestReview.approveSuggestion at approved
  split at approved
  · cases approved
  · rename_i present
    split at approved
    · cases approved
    · exact ⟨by simpa using present,(Except.ok.inj approved).symm⟩

theorem authorizeApply_ok {store : ReviewStore} :
    (∃ authorization, authorizeApply store pull commentId = .ok authorization) ↔
      ∃ review, get store pull = some review ∧ review.approvals.get commentId ≠ none := by
  constructor
  · rintro ⟨authorization,authorized⟩
    obtain ⟨review,found,authorized⟩ := Raising.bind_ok authorized
    obtain ⟨actor,granted,_⟩ := Raising.bind_ok authorized
    refine ⟨review,required_ok.mp found,fun missing => ?_⟩
    simp [PullRequestReview.requireApprovedSuggestion,missing] at granted
  · rintro ⟨review,found,granted⟩
    obtain ⟨actor,granted⟩ := Option.ne_none_iff_exists'.mp granted
    refine ⟨⟨"authorized",commentId,actor⟩,?_⟩
    rw [authorizeApply,required_ok.mpr found]
    simp [PullRequestReview.requireApprovedSuggestion,granted,bind,Except.bind,pure,Except.pure]

end OpenModelOps.ReviewService
