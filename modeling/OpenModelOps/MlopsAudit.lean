import OpenModelOps.AuditTrail
import OpenModelOps.MlopsDomain
import OpenModelOps.ObjectMethods

namespace OpenModelOps.MlopsAudit
open AuditTrail MlopsDomain ObjectMethods PythonFloat PythonText RunHistory

-- ModelRun.transition statement by statement, over the run it changes in place.
def transitionBody (target : RunState) (actor reason : String) (now : Instant) : Method ModelRun Unit := do
  let run ← get
  refuse (target ∉ transitions run.state)
    ("invalid transition " ++ run.state.value ++ " -> " ++ target.value)
  if target = .approved then
    refuse (actor = run.owner) "separation of duties: run owner cannot approve their own model"
    refuse (blank reason = true) "approval requires a reason"
    modify fun run => {run with approver := some actor}
  modify fun run => {run with history := run.history ++ [⟨run.state,target,actor,reason,isoformat now⟩]}
  modify fun run => {run with state := target}

def recordEvaluationBody (repr : PyFloat → String) (metrics : Metrics) (artifactDigest : String)
    (policy : EvaluationPolicy) (actor : String) (now : Instant) : Method ModelRun Bool := do
  let run ← get
  refuse (run.state ≠ .evaluating) "evaluation results can only be recorded in evaluating state"
  refuse (startsWith artifactDigest "sha256:" = false) "artifact must use a sha256 digest"
  modify fun run => {run with metrics := metrics}
  modify fun run => {run with artifactDigest := some artifactDigest}
  let passed := (policy.evaluate repr metrics).1
  transitionBody (if passed then .candidate else .rejected) actor
    (if passed then "quality gates passed" else String.intercalate "; " (policy.evaluate repr metrics).2) now
  pure passed

def body (repr : PyFloat → String) : Call → Method ModelRun (Option Bool)
  | .transition target actor reason now => do
    transitionBody target actor reason now
    pure none
  | .recordEvaluation metrics artifactDigest policy actor now => do
    let passed ← recordEvaluationBody repr metrics artifactDigest policy actor now
    pure (some passed)

theorem transitionBody_exact (target : RunState) (actor reason : String) (now : Instant) (run : ModelRun) :
    call (transitionBody target actor reason now) run =
      match run.transition target actor reason now with
      | .error message => (.error message,run)
      | .ok next => (.ok (),next) := by
  unfold transitionBody ModelRun.transition
  simp only [call_read_bind,call_refuse_bind]
  by_cases listed : target ∉ transitions run.state
  · simp only [if_pos listed]
  · simp only [if_neg listed]
    by_cases approving : target = .approved
    · subst approving
      simp only [if_true,true_and,call_refuse_bind,call_modify_bind,call_modify]
      by_cases own : actor = run.owner
      · simp only [if_pos own]
      · by_cases empty : blank reason = true
        · simp only [if_neg own,if_pos empty]
        · simp only [if_neg own,if_neg empty]
    · simp only [approving,false_and,if_false,call_modify_bind,call_modify]

theorem recordEvaluationBody_exact (repr : PyFloat → String) (metrics : Metrics) (artifactDigest : String)
    (policy : EvaluationPolicy) (actor : String) (now : Instant) (run : ModelRun) :
    call (recordEvaluationBody repr metrics artifactDigest policy actor now) run =
      ((run.recordEvaluation repr metrics artifactDigest policy actor now).2,
        (run.recordEvaluation repr metrics artifactDigest policy actor now).1) := by
  unfold recordEvaluationBody ModelRun.recordEvaluation
  simp only [call_read_bind,call_refuse_bind,call_modify_bind]
  split
  · rfl
  · split
    · rfl
    · rw [call_bind,transitionBody_exact]
      cases ModelRun.transition {run with metrics := metrics, artifactDigest := some artifactDigest} _ _ _ _ <;> rfl

inductive Course (run : ModelRun) : Except String (Option Bool) → ModelRun → Prop where
  | raised (message : String) : Course run (.error message) run
  | moved (value : Option Bool) (measured next : ModelRun) (target : RunState) (actor reason : String)
      (now : Instant) : measured.state = run.state → measured.history = run.history →
      measured.approver = run.approver → measured.owner = run.owner →
      measured.transition target actor reason now = .ok next → Course run (.ok value) next

theorem recordEvaluation_course (repr : PyFloat → String) (run : ModelRun) (metrics : Metrics)
    (artifactDigest : String) (policy : EvaluationPolicy) (actor : String) (now : Instant) :
    Course run ((run.recordEvaluation repr metrics artifactDigest policy actor now).2.map some)
      (run.recordEvaluation repr metrics artifactDigest policy actor now).1 := by
  unfold ModelRun.recordEvaluation
  split
  · exact .raised _
  · rename_i evaluating
    split
    · exact .raised _
    · dsimp only
      split
      · rename_i message failed
        -- The table has both targets, so this transition never raises.
        obtain ⟨next,done⟩ := @evaluating_transition
          {run with metrics := metrics, artifactDigest := some artifactDigest}
          (not_not.mp evaluating) (policy.evaluate repr metrics).1 actor _ now
        rw [done] at failed
        cases failed
      · rename_i next done
        exact .moved _ {run with metrics := metrics, artifactDigest := some artifactDigest} next _ actor _ now
          rfl rfl rfl rfl done

theorem body_course (repr : PyFloat → String) (c : Call) (run : ModelRun) :
    Course run (call (body repr c) run).1 (call (body repr c) run).2 := by
  cases c with
  | transition target actor reason now =>
    simp only [body,call_bind,transitionBody_exact]
    cases done : run.transition target actor reason now with
    | error message => exact .raised message
    | ok next => exact .moved none run next target actor reason now rfl rfl rfl rfl done
  | recordEvaluation metrics artifactDigest policy actor now =>
    have course := recordEvaluation_course repr run metrics artifactDigest policy actor now
    simp only [body,call_bind,recordEvaluationBody_exact]
    generalize run.recordEvaluation repr metrics artifactDigest policy actor now = pair at course
    obtain ⟨left,result⟩ := pair
    cases result with
    | error message => exact course
    | ok passed => exact course

def act (repr : PyFloat → String) (run : ModelRun) (c : Call) : Option ModelRun :=
  some (call (body repr c) run).2

def rank : RunState → Nat
  | .created => 0
  | .training => 1
  | .evaluating => 2
  | .candidate => 3
  | .approved => 4
  | .deploying => 5
  | .canary => 6
  | .production => 7
  | .rolledBack => 8
  | .rejected => 9
  | .retired => 9

theorem transitions_rise {source target : RunState} (listed : target ∈ transitions source) :
    rank source < rank target := by
  cases source <;> simp only [transitions,List.mem_cons,List.not_mem_nil,or_false] at listed
  case evaluating | candidate | deploying | canary | production =>
    rcases listed with rfl | rfl <;> decide
  all_goals subst listed; decide

theorem rank_le (state : RunState) : rank state ≤ 9 := by cases state <;> decide

theorem transition_exact {run next : ModelRun} : run.transition target actor reason now = .ok next ↔
    target ∈ transitions run.state ∧ (target = .approved → actor ≠ run.owner ∧ blank reason = false) ∧
      next = {run with
        approver := if target = .approved then some actor else run.approver
        history := run.history ++ [⟨run.state,target,actor,reason,isoformat now⟩]
        state := target} := by
  unfold ModelRun.transition
  by_cases listed : target ∈ transitions run.state
  · rw [if_neg (not_not.mpr listed)]
    by_cases own : target = .approved ∧ actor = run.owner
    · rw [if_pos own]
      exact ⟨(nomatch ·),fun parts => absurd own.2 (parts.2.1 own.1).1⟩
    · rw [if_neg own]
      by_cases empty : target = .approved ∧ blank reason = true
      · rw [if_pos empty]
        refine ⟨(nomatch ·),fun parts => ?_⟩
        rw [empty.2] at parts
        exact absurd (parts.2.1 empty.1).2 (by decide)
      · rw [if_neg empty]
        refine ⟨fun same => ⟨listed,fun approving => ⟨fun same => own ⟨approving,same⟩,?_⟩,
          (Except.ok.inj same).symm⟩,fun parts => congrArg _ parts.2.2.symm⟩
        exact Bool.eq_false_iff.mpr fun full => empty ⟨approving,full⟩
  · rw [if_pos listed]
    exact ⟨(nomatch ·),fun parts => absurd parts.1 listed⟩

structure Audited (run : ModelRun) : Prop where
  trail : Leads HistoryEntry.source HistoryEntry.target .created run.history run.state
  edges : ∀ entry ∈ run.history, entry.target ∈ transitions entry.source
  approver : ∀ actor, run.approver = some actor ↔
    ∃ entry ∈ run.history, entry.target = .approved ∧ entry.actor = actor
  independent : run.approver ≠ some run.owner

theorem fresh_audited (runId modelName datasetDigest codeRevision owner : String) :
    Audited (ModelRun.fresh runId modelName datasetDigest codeRevision owner) :=
  ⟨rfl,by simp [ModelRun.fresh],by simp [ModelRun.fresh],by simp [ModelRun.fresh]⟩

-- Approved stands above candidate, so a run that is about to be approved has
-- no earlier entry into approved.
theorem Audited.unapproved (audited : Audited run) (listed : .approved ∈ transitions run.state) :
    ∀ entry ∈ run.history, entry.target ≠ .approved := by
  intro entry member approved
  have below : rank entry.target ≤ rank run.state :=
    audited.trail.target_le transitions_rise audited.edges member
  have above := transitions_rise listed
  rw [approved] at below
  omega

theorem transition_audited (audited : Audited run) (done : run.transition target actor reason now = .ok next) :
    Audited next := by
  obtain ⟨listed,approving,rfl⟩ := transition_exact.mp done
  refine ⟨audited.trail.append ⟨rfl,rfl⟩,?_,?_,?_⟩
  · intro entry member
    rcases List.mem_append.mp member with earlier | last
    · exact audited.edges entry earlier
    · cases List.mem_singleton.mp last
      exact listed
  · intro other
    by_cases approved : target = .approved
    · subst approved
      have none := audited.unapproved listed
      simp only [if_true,Option.some.injEq,List.mem_append,List.mem_singleton]
      constructor
      · rintro rfl
        exact ⟨_,.inr rfl,rfl,rfl⟩
      · rintro ⟨entry,earlier | rfl,into,by_⟩
        · exact absurd into (none entry earlier)
        · exact by_
    · simp only [if_neg approved,audited.approver,List.mem_append,List.mem_singleton]
      constructor
      · rintro ⟨entry,earlier,parts⟩
        exact ⟨entry,.inl earlier,parts⟩
      · rintro ⟨entry,earlier | rfl,into,by_⟩
        · exact ⟨entry,earlier,into,by_⟩
        · exact absurd into approved
  · dsimp only
    split
    · rename_i approved
      exact fun same => (approving approved).1 (Option.some.inj same)
    · exact audited.independent

theorem Course.audited (course : Course run result next) (audited : Audited run) : Audited next := by
  cases course with
  | raised message => exact audited
  | moved value measured next target actor reason now state history approver owner done =>
    have held : Audited measured := by
      refine ⟨?_,?_,?_,?_⟩
      · rw [history,state]; exact audited.trail
      · rw [history]; exact audited.edges
      · rw [history,approver]; exact audited.approver
      · rw [approver,owner]; exact audited.independent
    exact transition_audited held done

theorem Course.final (course : Course run result next)
    (ended : run.state = .rejected ∨ run.state = .retired) : next = run := by
  cases course with
  | raised message => rfl
  | moved value measured next target actor reason now state history approver owner done =>
    have listed := (transition_exact.mp done).1
    rw [state] at listed
    rcases ended with ended | ended <;> rw [ended] at listed <;> cases listed

theorem run_audited {repr : PyFloat → String}
    (path : Runs (act repr) (ModelRun.fresh runId modelName datasetDigest codeRevision owner) calls run) :
    Audited run := by
  refine path.invariant (fun {before c next} held taken => ?_) (fresh_audited ..)
  cases Option.some.inj taken
  exact (body_course repr c before).audited held

theorem run_final {repr : PyFloat → String} {run later : ModelRun} (path : Runs (act repr) run calls later)
    (ended : run.state = .rejected ∨ run.state = .retired) : later = run := by
  induction path with
  | stop => rfl
  | @take run next later c rest taken _ ih =>
    cases Option.some.inj taken
    have same := (body_course repr c run).final ended
    rw [same] at ih
    exact ih ended

theorem model_run_audited (repr : PyFloat → String) (runId modelName datasetDigest codeRevision owner : String)
    (calls : List Call) (run : ModelRun)
    (path : Runs (act repr) (ModelRun.fresh runId modelName datasetDigest codeRevision owner) calls run) :
    Audited run ∧ run.history.length ≤ 9 ∧
      (run.state = .rejected ∨ run.state = .retired →
        ∀ further later, Runs (act repr) run further later → later = run) ∧
      ∀ c message left, call (body repr c) run = (.error message,left) → left = run := by
  have audited := run_audited path
  refine ⟨audited,?_,fun ended further later rest => run_final rest ended,?_⟩
  · have bound : run.history.length + rank .created ≤ rank run.state :=
      audited.trail.length_le transitions_rise audited.edges
    have top := rank_le run.state
    omega
  · intro c message left raised
    have course := body_course repr c run
    rw [raised] at course
    cases course
    rfl

def lifetime : List Call :=
  [.transition .training "trainer" "start" 0,
    .transition .evaluating "trainer" "trained" 1,
    .transition .approved "reviewer" "too early" 2,
    .recordEvaluation .empty "sha256:a" ⟨.empty,.empty⟩ "evaluator" 3,
    .transition .approved "owner" "mine" 4,
    .transition .approved "reviewer" "looks good" 5,
    .transition .deploying "platform" "" 6,
    .transition .canary "platform" "" 7,
    .transition .production "platform" "" 8,
    .transition .rolledBack "platform" "" 9,
    .transition .retired "platform" "" 10]

theorem lifetime_audited : ∃ run, Runs (act fun _ => "") (ModelRun.fresh "r" "m" "d" "c" "owner") lifetime run ∧
    run.history.length = 9 ∧ run.approver = some "reviewer" ∧ Audited run :=
  have path : Runs (act fun _ => "") (ModelRun.fresh "r" "m" "d" "c" "owner") lifetime _ := consume_exact.mp rfl
  ⟨_,path,by decide +kernel,by decide +kernel,(model_run_audited _ _ _ _ _ _ _ _ path).1⟩

end OpenModelOps.MlopsAudit
