import OpenModelOps.KeyedTable
import OpenModelOps.PythonFloat
import OpenModelOps.PythonText
import OpenModelOps.RunHistory

namespace OpenModelOps.MlopsDomain
open KeyedTable PythonFloat PythonText RunHistory

inductive RunState where
  | created | training | evaluating | rejected | candidate | approved | deploying | canary | production
  | rolledBack | retired
  deriving DecidableEq

def RunState.value : RunState → String
  | .created => "created"
  | .training => "training"
  | .evaluating => "evaluating"
  | .rejected => "rejected"
  | .candidate => "candidate"
  | .approved => "approved"
  | .deploying => "deploying"
  | .canary => "canary"
  | .production => "production"
  | .rolledBack => "rolled_back"
  | .retired => "retired"

-- _TRANSITIONS. A candidate can be made by hand as well as by an evaluation.
def transitions : RunState → List RunState
  | .created => [.training]
  | .training => [.evaluating]
  | .evaluating => [.rejected,.candidate]
  | .candidate => [.approved,.rejected]
  | .approved => [.deploying]
  | .deploying => [.canary,.rolledBack]
  | .canary => [.production,.rolledBack]
  | .production => [.rolledBack,.retired]
  | .rolledBack => [.retired]
  | .rejected => []
  | .retired => []

abbrev Metrics := Dict String PyFloat

structure EvaluationPolicy where
  minimumMetrics : Metrics
  maximumMetrics : Metrics

-- repr of metrics.get(name), for a given repr of float.
def shown (repr : PyFloat → String) (metrics : Metrics) (name : String) : String :=
  match Dict.get metrics name with
  | some value => repr value
  | none => "None"

def EvaluationPolicy.evaluate (repr : PyFloat → String) (policy : EvaluationPolicy) (metrics : Metrics) :
    Bool × List String :=
  let below := policy.minimumMetrics.rows.filterMap fun (name,threshold) =>
    if ((Dict.get metrics name).getD .negInfinity).lt threshold then
      some (name ++ "=" ++ shown repr metrics name ++ " below " ++ repr threshold) else none
  let above := policy.maximumMetrics.rows.filterMap fun (name,threshold) =>
    if threshold.lt ((Dict.get metrics name).getD .infinity) then
      some (name ++ "=" ++ shown repr metrics name ++ " above " ++ repr threshold) else none
  let failures := below ++ above
  (failures.isEmpty,failures)

structure HistoryEntry where
  source : RunState
  target : RunState
  actor : String
  reason : String
  at_ : String
  deriving DecidableEq

structure ModelRun where
  runId : String
  modelName : String
  datasetDigest : String
  codeRevision : String
  owner : String
  state : RunState
  artifactDigest : Option String
  metrics : Metrics
  approver : Option String
  history : List HistoryEntry

namespace ModelRun

def fresh (runId modelName datasetDigest codeRevision owner : String) : ModelRun :=
  ⟨runId,modelName,datasetDigest,codeRevision,owner,.created,none,Table.empty,none,[]⟩

-- Every raise stands before the first assignment.
def transition (run : ModelRun) (target : RunState) (actor reason : String) (now : Instant) :
    Except String ModelRun :=
  if target ∉ transitions run.state then
    .error ("invalid transition " ++ run.state.value ++ " -> " ++ target.value)
  else if target = .approved ∧ actor = run.owner then
    .error "separation of duties: run owner cannot approve their own model"
  else if target = .approved ∧ blank reason = true then .error "approval requires a reason"
  else .ok {run with
    approver := if target = .approved then some actor else run.approver
    history := run.history ++ [⟨run.state,target,actor,reason,isoformat now⟩]
    state := target}

-- The run is changed in place, so the run left behind is part of the result
-- also when a call raises.
def recordEvaluation (repr : PyFloat → String) (run : ModelRun) (metrics : Metrics) (artifactDigest : String)
    (policy : EvaluationPolicy) (actor : String) (now : Instant) : ModelRun × Except String Bool :=
  if run.state ≠ .evaluating then
    (run,.error "evaluation results can only be recorded in evaluating state")
  else if startsWith artifactDigest "sha256:" = false then (run,.error "artifact must use a sha256 digest")
  else
    let measured := {run with metrics := metrics, artifactDigest := some artifactDigest}
    let (passed,failures) := policy.evaluate repr metrics
    match measured.transition (if passed then .candidate else .rejected) actor
        (if passed then "quality gates passed" else String.intercalate "; " failures) now with
    | .error message => (measured,.error message)
    | .ok next => (next,.ok passed)

end ModelRun

inductive Call where
  | transition (target : RunState) (actor reason : String) (now : Instant)
  | recordEvaluation (metrics : Metrics) (artifactDigest : String) (policy : EvaluationPolicy) (actor : String)
      (now : Instant)

def perform (repr : PyFloat → String) (run : ModelRun) : Call → ModelRun
  | .transition target actor reason now => match run.transition target actor reason now with
    | .error _ => run
    | .ok next => next
  | .recordEvaluation metrics artifactDigest policy actor now =>
    (run.recordEvaluation repr metrics artifactDigest policy actor now).1

-- A call that raises is a step as well.
def step (repr : PyFloat → String) (run : ModelRun) (call : Call) : Option ModelRun := some (perform repr run call)

theorem transition_parts {run next : ModelRun} (done : run.transition target actor reason now = .ok next) :
    target ∈ transitions run.state ∧ next.state = target ∧ next.artifactDigest = run.artifactDigest ∧
      next.metrics = run.metrics ∧ next.runId = run.runId := by
  unfold ModelRun.transition at done
  split at done
  · cases done
  · rename_i listed
    split at done
    · cases done
    · split at done
      · cases done
      · cases Except.ok.inj done
        exact ⟨not_not.mp listed,rfl,rfl,rfl,rfl⟩

theorem evaluating_transition {run : ModelRun} (evaluating : run.state = .evaluating)
    (passed : Bool) (actor reason : String) (now : Instant) :
    ∃ next, run.transition (if passed then .candidate else .rejected) actor reason now = .ok next := by
  unfold ModelRun.transition
  rw [evaluating]
  cases passed <;> exact ⟨_,rfl⟩

inductive Recorded (repr : PyFloat → String) (run : ModelRun) (metrics : Metrics) (artifactDigest : String)
    (policy : EvaluationPolicy) : ModelRun × Except String Bool → Prop where
  | refused (message : String) : Recorded repr run metrics artifactDigest policy (run,.error message)
  | decided (passed : Bool) (next : ModelRun) : run.state = .evaluating →
      startsWith artifactDigest "sha256:" = true → (policy.evaluate repr metrics).1 = passed →
      next.state = (if passed then .candidate else .rejected) → next.metrics = metrics →
      next.artifactDigest = some artifactDigest → next.runId = run.runId →
      Recorded repr run metrics artifactDigest policy (next,.ok passed)

theorem recordEvaluation_recorded (repr : PyFloat → String) (run : ModelRun) (metrics : Metrics)
    (artifactDigest : String) (policy : EvaluationPolicy) (actor : String) (now : Instant) :
    Recorded repr run metrics artifactDigest policy
      (run.recordEvaluation repr metrics artifactDigest policy actor now) := by
  unfold ModelRun.recordEvaluation
  split
  · exact .refused _
  · rename_i evaluating
    split
    · exact .refused _
    · rename_i digested
      have ready := not_not.mp evaluating
      dsimp only
      split
      · rename_i message failed
        obtain ⟨next,done⟩ := @evaluating_transition {run with metrics := metrics, artifactDigest := some artifactDigest}
          ready (policy.evaluate repr metrics).1 actor _ now
        rw [done] at failed
        cases failed
      · rename_i next done
        obtain ⟨_,state,digest,measured,sameId⟩ := transition_parts done
        exact .decided _ next ready (by simpa using digested) rfl state measured digest sameId

theorem perform_runId (repr : PyFloat → String) (run : ModelRun) (call : Call) :
    (perform repr run call).runId = run.runId := by
  cases call with
  | transition target actor reason now =>
    simp only [perform]
    split
    · rfl
    · rename_i next done; exact (transition_parts done).2.2.2.2
  | recordEvaluation metrics artifactDigest policy actor now =>
    have recorded := recordEvaluation_recorded repr run metrics artifactDigest policy actor now
    simp only [perform]
    generalize run.recordEvaluation repr metrics artifactDigest policy actor now = pair at recorded
    cases recorded with
    | refused message => rfl
    | decided _ _ _ _ _ _ _ _ sameId => exact sameId

end OpenModelOps.MlopsDomain
