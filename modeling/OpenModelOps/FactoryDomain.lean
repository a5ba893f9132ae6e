import OpenModelOps.KeyedTable
import OpenModelOps.PythonText
import Mathlib.Data.Rat.Defs
import Mathlib.Algebra.Order.Ring.Rat

namespace OpenModelOps.FactoryDomain
open KeyedTable PythonText

inductive WorkloadKind where
  | model
  | llm
  | agent
  | rag
  deriving DecidableEq, Repr

def WorkloadKind.value : WorkloadKind → String
  | .model => "model"
  | .llm => "llm"
  | .agent => "agent"
  | .rag => "rag"

inductive WorkloadStage where
  | draft
  | validated
  | approved
  | provisioned
  | released
  | suspended
  | retired
  deriving DecidableEq, Repr

def WorkloadStage.value : WorkloadStage → String
  | .draft => "draft"
  | .validated => "validated"
  | .approved => "approved"
  | .provisioned => "provisioned"
  | .released => "released"
  | .suspended => "suspended"
  | .retired => "retired"

inductive GateStatus where
  | pass
  | fail
  deriving DecidableEq, Repr

-- Floats are exact rationals: only comparisons with decimal literals matter.
structure SLO where
  availabilityTarget : ℚ
  latencyP95Ms : Int
  errorRateTarget : ℚ
  available : 9/10 ≤ availabilityTarget ∧ availabilityTarget < 1
  timely : 0 < latencyP95Ms
  accurate : 0 ≤ errorRateTarget ∧ errorRateTarget ≤ 1/10
  deriving DecidableEq

def SLO.make (availabilityTarget : ℚ) (latencyP95Ms : Int) (errorRateTarget : ℚ) : Except String SLO :=
  if available : 9/10 ≤ availabilityTarget ∧ availabilityTarget < 1 then
    if timely : 0 < latencyP95Ms then
      if accurate : 0 ≤ errorRateTarget ∧ errorRateTarget ≤ 1/10 then
        .ok ⟨availabilityTarget,latencyP95Ms,errorRateTarget,available,timely,accurate⟩
      else .error "error_rate_target must be between 0 and 0.1"
    else .error "latency_p95_ms must be positive"
  else .error "availability_target must be between 0.9 and 1"

def lowercase (c : Char) : Bool := decide ('a' ≤ c) && decide (c ≤ 'z')

-- [a-z][a-z0-9-]{2,62}
def nameMatches (name : String) : Bool :=
  match name.toList with
  | [] => false
  | c :: rest => lowercase c && decide (2 ≤ rest.length) && decide (rest.length ≤ 62) &&
      rest.all (fun d => lowercase d || (decide ('0' ≤ d) && decide (d ≤ '9')) || d == '-')

def environments : List String := ["development","test","production"]
def dataClassifications : List String := ["public","internal","confidential","restricted"]

structure FactorySpec where
  name : String
  kind : WorkloadKind
  owner : String
  tenant : String
  environment : String
  artifactDigest : String
  dataClassification : String
  slo : SLO
  requiresGpu : Bool
  internetEgress : Bool
  named : nameMatches name = true
  placed : environment ∈ environments
  classified : dataClassification ∈ dataClassifications
  immutable : startsWith artifactDigest "sha256:" = true
  deriving DecidableEq

def FactorySpec.make (name : String) (kind : WorkloadKind) (owner tenant environment artifactDigest
    dataClassification : String) (slo : SLO) (requiresGpu internetEgress : Bool) : Except String FactorySpec :=
  if named : nameMatches name = true then
    if placed : environment ∈ environments then
      if classified : dataClassification ∈ dataClassifications then
        if immutable : startsWith artifactDigest "sha256:" = true then
          .ok ⟨name,kind,owner,tenant,environment,artifactDigest,dataClassification,slo,requiresGpu,
            internetEgress,named,placed,classified,immutable⟩
        else .error "artifact must use an immutable sha256 digest"
      else .error "unsupported data classification"
    else .error "unsupported environment"
  else .error "name must be a lowercase DNS-compatible identifier"

structure GateResult where
  gate : String
  status : GateStatus
  evidence : String
  evaluator : String
  evidenceDigest : String
  signingKeyId : String
  signature : String
  measuredAt : Instant
  evidenced : blank evidence = false
  deriving DecidableEq

def GateResult.make (gate : String) (status : GateStatus) (evidence evaluator evidenceDigest signingKeyId
    signature : String) (measuredAt : Instant) : Except String GateResult :=
  if evidenced : blank evidence = false then
    .ok ⟨gate,status,evidence,evaluator,evidenceDigest,signingKeyId,signature,measuredAt,evidenced⟩
  else .error "gate evidence is required"

-- REQUIRED_GATES in the order sorted() gives it.
def requiredGates : List String := ["cost","observability","quality","reliability","rollback","security"]

structure HistoryEntry where
  source : WorkloadStage
  target : WorkloadStage
  actor : String
  reason : String
  at_ : String
  deriving DecidableEq

structure FactoryWorkload where
  spec : FactorySpec
  workloadId : String
  stage : WorkloadStage
  gates : Dict String GateResult
  approvedBy : Option String
  policyDigest : Option String
  history : List HistoryEntry

namespace FactoryWorkload

def draft (spec : FactorySpec) (workloadId : String) : FactoryWorkload :=
  ⟨spec,workloadId,.draft,Table.empty,none,none,[]⟩

def recordGate (w : FactoryWorkload) (result : GateResult) : Except String FactoryWorkload :=
  if w.stage ≠ .draft ∧ w.stage ≠ .validated then .error "gates are immutable after approval"
  else if result.gate ∉ requiredGates then .error ("unsupported release gate: " ++ result.gate)
  else .ok {w with gates := Dict.set w.gates result.gate result, stage := .validated}

def passes (w : FactoryWorkload) (gate : String) : Bool :=
  match Dict.get w.gates gate with
  | some result => decide (result.status = .pass)
  | none => false

def missingOrFailedGates (w : FactoryWorkload) : List String :=
  requiredGates.filter (fun gate => !w.passes gate)

-- repr of a list of gate names.
def listRepr (names : List String) : String :=
  "[" ++ String.intercalate ", " (names.map (fun name => "'" ++ name ++ "'")) ++ "]"

def move (w : FactoryWorkload) (target : WorkloadStage) (actor reason : String) (now : Instant) : FactoryWorkload :=
  {w with
    history := w.history ++ [⟨w.stage,target,actor,reason,isoformat now⟩]
    stage := target}

def approve (w : FactoryWorkload) (actor policyDigest : String) (now : Instant) : Except String FactoryWorkload :=
  let failures := w.missingOrFailedGates
  if w.stage ≠ .validated ∨ failures ≠ [] then .error ("release gates not satisfied: " ++ listRepr failures)
  else if actor = w.spec.owner ∨ actor ∈ (Dict.values w.gates).map GateResult.evaluator then
    .error "owner or gate evaluator cannot approve the release"
  else
    let digest := if policyDigest = "" then none else some policyDigest
    let reason := if policyDigest = "" then "all required gates passed"
      else "all required gates passed; policy=" ++ policyDigest
    .ok ({w with approvedBy := some actor, policyDigest := digest}.move .approved actor reason now)

def provision (w : FactoryWorkload) (actor : String) (now : Instant) : Except String FactoryWorkload :=
  if w.stage ≠ .approved then .error "only approved workloads may be provisioned"
  else .ok (w.move .provisioned actor "platform resources provisioned" now)

def release (w : FactoryWorkload) (actor : String) (now : Instant) : Except String FactoryWorkload :=
  if w.stage ≠ .provisioned then .error "workload must be provisioned before release"
  else .ok (w.move .released actor "workload released" now)

def suspend (w : FactoryWorkload) (actor reason : String) (now : Instant) : Except String FactoryWorkload :=
  if w.stage ≠ .released ∨ blank reason = true then .error "a released workload and reason are required"
  else .ok (w.move .suspended actor reason now)

def retire (w : FactoryWorkload) (actor reason : String) (now : Instant) : Except String FactoryWorkload :=
  if (w.stage ≠ .released ∧ w.stage ≠ .suspended) ∨ blank reason = true then
    .error "a released or suspended workload and reason are required"
  else .ok (w.move .retired actor reason now)

structure Scorecard where
  required : Nat
  passing : Nat
  percentage : Nat
  blockingGates : List String
  deriving DecidableEq

-- No sixth of a hundred is a tie, so rounding to nearest is rounding half up.
def scorecard (w : FactoryWorkload) : Scorecard :=
  let required := requiredGates.length
  let passing := required - w.missingOrFailedGates.length
  ⟨required,passing,(200 * passing + required) / (2 * required),w.missingOrFailedGates⟩

end FactoryWorkload

def Late (stage : WorkloadStage) : Prop := stage ≠ .draft ∧ stage ≠ .validated

instance (stage : WorkloadStage) : Decidable (Late stage) := inferInstanceAs (Decidable (_ ∧ _))

structure Frozen (before after : FactoryWorkload) : Prop where
  spec : after.spec = before.spec
  gates : after.gates = before.gates
  approvedBy : after.approvedBy = before.approvedBy
  policyDigest : after.policyDigest = before.policyDigest

theorem Frozen.refl (w : FactoryWorkload) : Frozen w w := ⟨rfl,rfl,rfl,rfl⟩

theorem Frozen.trans (first : Frozen a b) (second : Frozen b c) : Frozen a c :=
  ⟨second.spec.trans first.spec,second.gates.trans first.gates,
    second.approvedBy.trans first.approvedBy,second.policyDigest.trans first.policyDigest⟩

structure Separated (w : FactoryWorkload) (actor : String) : Prop where
  passed : ∀ gate ∈ requiredGates, ∃ result, Dict.get w.gates gate = some result ∧ result.status = .pass
  notOwner : actor ≠ w.spec.owner
  notEvaluator : ∀ gate result, Dict.get w.gates gate = some result → actor ≠ result.evaluator

theorem passes_exact {w : FactoryWorkload} : w.passes gate = true ↔
    ∃ result, Dict.get w.gates gate = some result ∧ result.status = .pass := by
  unfold FactoryWorkload.passes
  cases found : Dict.get w.gates gate <;> simp

theorem missing_none_iff {w : FactoryWorkload} : w.missingOrFailedGates = [] ↔
    ∀ gate ∈ requiredGates, ∃ result, Dict.get w.gates gate = some result ∧ result.status = .pass := by
  simp only [FactoryWorkload.missingOrFailedGates,List.filter_eq_nil_iff,Bool.not_eq_true,Bool.not_eq_false',
    passes_exact]

theorem move_frozen (w : FactoryWorkload) (target : WorkloadStage) (actor reason : String) (now : Instant) :
    Frozen w (w.move target actor reason now) := ⟨rfl,rfl,rfl,rfl⟩

theorem recordGate_exact {w next : FactoryWorkload} : w.recordGate result = .ok next ↔
    ¬ Late w.stage ∧ result.gate ∈ requiredGates ∧
      next = {w with gates := Dict.set w.gates result.gate result, stage := .validated} := by
  unfold FactoryWorkload.recordGate
  by_cases late : w.stage ≠ .draft ∧ w.stage ≠ .validated
  · rw [if_pos late]
    exact ⟨(nomatch ·),fun parts => absurd late parts.1⟩
  · rw [if_neg late]
    by_cases known : result.gate ∈ requiredGates
    · rw [if_neg (not_not.mpr known)]
      exact ⟨fun same => ⟨late,known,(Except.ok.inj same).symm⟩,fun parts => congrArg _ parts.2.2.symm⟩
    · rw [if_pos known]
      exact ⟨(nomatch ·),fun parts => absurd parts.2.1 known⟩

theorem approve_parts {w next : FactoryWorkload} (approved : w.approve actor policyDigest now = .ok next) :
    w.stage = .validated ∧ Separated w actor ∧ next.stage = .approved ∧ next.workloadId = w.workloadId ∧
      next.spec = w.spec ∧ next.gates = w.gates ∧ next.approvedBy = some actor ∧
      next.policyDigest = (if policyDigest = "" then none else some policyDigest) := by
  unfold FactoryWorkload.approve at approved
  dsimp only at approved
  split at approved
  · cases approved
  · rename_i ready
    push Not at ready
    split at approved
    · cases approved
    · rename_i separate
      push Not at separate
      cases Except.ok.inj approved
      refine ⟨ready.1,⟨missing_none_iff.mp ready.2,separate.1,?_⟩,rfl,rfl,rfl,rfl,rfl,rfl⟩
      rintro gate result found rfl
      exact separate.2 (List.mem_map_of_mem (Dict.mem_values_iff.mpr ⟨gate,found⟩))

theorem provision_parts {w next : FactoryWorkload} (done : w.provision actor now = .ok next) :
    w.stage = .approved ∧ ∃ reason, next = w.move .provisioned actor reason now := by
  unfold FactoryWorkload.provision at done
  split at done
  · cases done
  · rename_i ready; exact ⟨not_not.mp ready,_,(Except.ok.inj done).symm⟩

theorem release_parts {w next : FactoryWorkload} (done : w.release actor now = .ok next) :
    w.stage = .provisioned ∧ ∃ reason, next = w.move .released actor reason now := by
  unfold FactoryWorkload.release at done
  split at done
  · cases done
  · rename_i ready; exact ⟨not_not.mp ready,_,(Except.ok.inj done).symm⟩

theorem suspend_parts {w next : FactoryWorkload} (done : w.suspend actor reason now = .ok next) :
    w.stage = .released ∧ next = w.move .suspended actor reason now := by
  unfold FactoryWorkload.suspend at done
  split at done
  · cases done
  · rename_i ready
    push Not at ready
    exact ⟨ready.1,(Except.ok.inj done).symm⟩

theorem retire_parts {w next : FactoryWorkload} (done : w.retire actor reason now = .ok next) :
    Late w.stage ∧ next = w.move .retired actor reason now := by
  unfold FactoryWorkload.retire at done
  split at done
  · cases done
  · rename_i ready
    push Not at ready
    refine ⟨?_,(Except.ok.inj done).symm⟩
    by_cases released : w.stage = .released
    · exact ⟨by simp [released],by simp [released]⟩
    · have suspended := ready.1 released
      exact ⟨by simp [suspended],by simp [suspended]⟩

end OpenModelOps.FactoryDomain
