import OpenModelOps.MlopsDomain

namespace OpenModelOps.MlopsGate
open KeyedTable PythonFloat PythonText MlopsDomain
variable {repr : PyFloat → String} {metrics : Metrics} {policy : EvaluationPolicy}

inductive Side where
  | minimum | maximum

structure Bound where
  side : Side
  name : String
  threshold : PyFloat

def bounds (policy : EvaluationPolicy) : List Bound :=
  policy.minimumMetrics.rows.map (fun row => ⟨.minimum,row.1,row.2⟩) ++
    policy.maximumMetrics.rows.map fun row => ⟨.maximum,row.1,row.2⟩

-- What a missing metric counts as.
def Side.default : Side → PyFloat
  | .minimum => .negInfinity
  | .maximum => .infinity

def Bound.violatedBy (bound : Bound) (value : PyFloat) : Bool :=
  match bound.side with
  | .minimum => value.lt bound.threshold
  | .maximum => bound.threshold.lt value

def Bound.metBy (bound : Bound) (value : PyFloat) : Bool :=
  match bound.side with
  | .minimum => bound.threshold.le value
  | .maximum => value.le bound.threshold

def Bound.Satisfied (bound : Bound) (metrics : Metrics) : Prop :=
  ∃ value, Dict.get metrics bound.name = some value ∧ bound.metBy value = true

def Accepts (policy : EvaluationPolicy) (metrics : Metrics) : Prop :=
  ∀ bound ∈ bounds policy, bound.Satisfied metrics

def Bound.Broken (bound : Bound) (metrics : Metrics) : Prop :=
  match Dict.get metrics bound.name with
  | some value => bound.violatedBy value = true
  | none => bound.threshold ≠ .nan ∧ bound.threshold ≠ bound.side.default

def Bound.Comparable (bound : Bound) (metrics : Metrics) : Prop :=
  match Dict.get metrics bound.name with
  | some value => value ≠ .nan ∧ bound.threshold ≠ .nan
  | none => bound.threshold ≠ .nan ∧ bound.threshold ≠ bound.side.default

def Decided (policy : EvaluationPolicy) (metrics : Metrics) (after : ModelRun) : Prop :=
  (after.state = .candidate ↔ Accepts policy metrics) ∧ (¬ Accepts policy metrics → after.state = .rejected)

theorem default_violates (bound : Bound) :
    bound.violatedBy bound.side.default = true ↔ bound.threshold ≠ .nan ∧ bound.threshold ≠ bound.side.default := by
  obtain ⟨side,name,threshold⟩ := bound
  cases side <;> cases threshold <;>
    simp [Bound.violatedBy,Side.default,PyFloat.lt,PyFloat.rank]

theorem broken_iff (bound : Bound) (metrics : Metrics) :
    bound.Broken metrics ↔ bound.violatedBy ((Dict.get metrics bound.name).getD bound.side.default) = true := by
  unfold Bound.Broken
  cases Dict.get metrics bound.name with
  | none => exact (default_violates bound).symm
  | some value => exact Iff.rfl

theorem metBy_iff (bound : Bound) (value : PyFloat) :
    bound.metBy value = true ↔ bound.violatedBy value = false ∧ value ≠ .nan ∧ bound.threshold ≠ .nan := by
  obtain ⟨side,name,threshold⟩ := bound
  cases side with
  | minimum => exact le_iff_not_lt
  | maximum =>
    refine le_iff_not_lt.trans (and_congr_right fun _ => ?_)
    exact and_comm

theorem satisfied_iff (bound : Bound) (metrics : Metrics) :
    bound.Satisfied metrics ↔ bound.Comparable metrics ∧ ¬ bound.Broken metrics := by
  unfold Bound.Satisfied Bound.Comparable Bound.Broken
  cases found : Dict.get metrics bound.name with
  | none => simp
  | some value =>
    simp only [Option.some.injEq,exists_eq_left',metBy_iff,Bool.not_eq_true]
    exact and_comm

theorem evaluate_passed (repr : PyFloat → String) (policy : EvaluationPolicy) (metrics : Metrics) :
    (policy.evaluate repr metrics).1 = true ↔ ∀ bound ∈ bounds policy, ¬ bound.Broken metrics := by
  simp only [EvaluationPolicy.evaluate,List.isEmpty_iff,List.append_eq_nil_iff,List.filterMap_eq_nil_iff,bounds,
    List.forall_mem_append,List.forall_mem_map,broken_iff,Bound.violatedBy,Side.default,ite_eq_right_iff,reduceCtorEq,
    imp_false]

theorem recordEvaluation_state (repr : PyFloat → String) {run : ModelRun} (evaluating : run.state = .evaluating)
    (digested : startsWith artifactDigest "sha256:" = true) (policy : EvaluationPolicy) (metrics : Metrics)
    (actor : String) (now : Instant) :
    (run.recordEvaluation repr metrics artifactDigest policy actor now).1.state =
      if (policy.evaluate repr metrics).1 then .candidate else .rejected := by
  have measuring : ({run with metrics := metrics, artifactDigest := some artifactDigest} : ModelRun).state = .evaluating :=
    evaluating
  obtain ⟨next,done⟩ := evaluating_transition measuring (policy.evaluate repr metrics).1 actor
    (if (policy.evaluate repr metrics).1 then "quality gates passed"
      else String.intercalate "; " (policy.evaluate repr metrics).2) now
  obtain ⟨_,state,_⟩ := transition_parts done
  unfold ModelRun.recordEvaluation
  rw [if_neg (not_not.mpr evaluating),if_neg (by simp [digested])]
  dsimp only
  rw [done]
  exact state

-- The gate decides as the policy says exactly when some metric breaks its
-- threshold, or when every named metric can be compared.
theorem evaluation_decided_iff (repr : PyFloat → String) (run : ModelRun) (metrics : Metrics) (artifactDigest : String)
    (policy : EvaluationPolicy) (actor : String) (now : Instant) (evaluating : run.state = .evaluating)
    (digested : startsWith artifactDigest "sha256:" = true) :
    Decided policy metrics (run.recordEvaluation repr metrics artifactDigest policy actor now).1 ↔
      (∃ bound ∈ bounds policy, bound.Broken metrics) ∨ ∀ bound ∈ bounds policy, bound.Comparable metrics := by
  have state := recordEvaluation_state repr evaluating digested policy metrics actor now
  have passed := evaluate_passed repr policy metrics
  have accepts : Accepts policy metrics ↔
      ∀ bound ∈ bounds policy, bound.Comparable metrics ∧ ¬ bound.Broken metrics :=
    forall₂_congr fun bound _ => satisfied_iff bound metrics
  unfold Decided
  rw [state]
  cases verdict : (policy.evaluate repr metrics).1 with
  | false =>
    have broken : ∃ bound ∈ bounds policy, bound.Broken metrics := by
      by_contra none
      refine absurd (passed.mpr ?_) (by simp [verdict])
      intro bound member broken
      exact none ⟨bound,member,broken⟩
    have refused : ¬ Accepts policy metrics := by
      obtain ⟨bound,member,broken⟩ := broken
      intro all
      exact (accepts.mp all bound member).2 broken
    simp [refused,broken]
  | true =>
    have unbroken := passed.mp verdict
    have noneBroken : ¬ ∃ bound ∈ bounds policy, bound.Broken metrics := by
      intro some
      obtain ⟨bound,member,broken⟩ := some
      exact unbroken bound member broken
    have comparable : Accepts policy metrics ↔ ∀ bound ∈ bounds policy, bound.Comparable metrics := by
      rw [accepts]
      exact forall₂_congr fun bound member => and_iff_left (unbroken bound member)
    simp only [if_true,true_iff,noneBroken,false_or,reduceCtorEq,imp_false,not_not,and_self,comparable]

def ready : ModelRun := {ModelRun.fresh "run-1" "fraud-risk" "sha256:aa" "abc1234" "trainer" with state := .evaluating}

-- auc must be at least 0.9 and the fairness gap at most 0.05.
def policyOf (auc gap : PyFloat) : EvaluationPolicy := ⟨Dict.set Table.empty "auc" auc,Dict.set Table.empty "fairness_gap" gap⟩

def measured (auc gap : PyFloat) : Metrics := Dict.set (Dict.set Table.empty "auc" auc) "fairness_gap" gap

theorem policyOf_bounds (auc gap : PyFloat) :
    bounds (policyOf auc gap) = [⟨.minimum,"auc",auc⟩,⟨.maximum,"fairness_gap",gap⟩] := rfl

theorem measured_decided : Decided (policyOf (.finite (9/10)) (.finite (1/20))) (measured (.finite (93/100)) (.finite (1/25)))
    (ready.recordEvaluation (fun _ => "") (measured (.finite (93/100)) (.finite (1/25))) "sha256:aa"
      (policyOf (.finite (9/10)) (.finite (1/20))) "trainer" 0).1 := by
  refine (evaluation_decided_iff _ ready _ "sha256:aa" _ "trainer" 0 rfl (by decide)).mpr (.inr ?_)
  rw [policyOf_bounds]
  intro bound member
  simp only [List.mem_cons,List.not_mem_nil,or_false] at member
  rcases member with rfl | rfl
  · exact ⟨nofun,nofun⟩
  · exact ⟨nofun,nofun⟩

-- A metric that is not a number makes a candidate.
theorem unmeasured_candidate : ¬ ∀ (repr : PyFloat → String) (run : ModelRun) (metrics : Metrics)
    (artifactDigest : String) (policy : EvaluationPolicy) (actor : String) (now : Instant),
    run.state = .evaluating → startsWith artifactDigest "sha256:" = true →
    Decided policy metrics (run.recordEvaluation repr metrics artifactDigest policy actor now).1 := by
  intro holds
  have decided := holds (fun _ => "nan") ready (measured .nan (.finite (1/25))) "sha256:aa"
    (policyOf (.finite (9/10)) (.finite (1/20))) "trainer" 0 rfl (by decide)
  have candidate : (ready.recordEvaluation (fun _ => "nan") (measured .nan (.finite (1/25))) "sha256:aa"
      (policyOf (.finite (9/10)) (.finite (1/20))) "trainer" 0).1.state = .candidate := by decide +kernel
  have accepts := decided.1.mp candidate
  obtain ⟨value,found,met⟩ := accepts ⟨.minimum,"auc",.finite (9/10)⟩ (by simp [policyOf_bounds])
  cases Option.some.inj found
  exact absurd met (by decide)

end OpenModelOps.MlopsGate
