import OpenModelOps.AuditTrail
import OpenModelOps.FactoryDomain
import OpenModelOps.RunHistory

namespace OpenModelOps.FactoryAudit
open AuditTrail FactoryDomain KeyedTable PythonText RunHistory

inductive Operation where
  | recordGate (result : GateResult)
  | approve (actor policyDigest : String) (now : Instant)
  | provision (actor : String) (now : Instant)
  | release (actor : String) (now : Instant)
  | suspend (actor reason : String) (now : Instant)
  | retire (actor reason : String) (now : Instant)

def attempt (w : FactoryWorkload) : Operation → Except String FactoryWorkload
  | .recordGate result => w.recordGate result
  | .approve actor policyDigest now => w.approve actor policyDigest now
  | .provision actor now => w.provision actor now
  | .release actor now => w.release actor now
  | .suspend actor reason now => w.suspend actor reason now
  | .retire actor reason now => w.retire actor reason now

-- An operation that raises leaves the workload as it was.
def perform (w : FactoryWorkload) (operation : Operation) : FactoryWorkload :=
  match attempt w operation with
  | .error _ => w
  | .ok next => next

def step (w : FactoryWorkload) (operation : Operation) : Option FactoryWorkload := some (perform w operation)

-- Who makes a call. A gate is recorded under its evaluator's name.
def Operation.actor : Operation → String
  | .recordGate result => result.evaluator
  | .approve actor _ _ => actor
  | .provision actor _ => actor
  | .release actor _ => actor
  | .suspend actor _ _ => actor
  | .retire actor _ _ => actor

def stageChanges (w : FactoryWorkload) : List Operation → List (WorkloadStage × WorkloadStage × String)
  | [] => []
  | operation :: rest =>
    let next := perform w operation
    if next.stage = w.stage then stageChanges next rest
    else (w.stage,next.stage,operation.actor) :: stageChanges next rest

-- Replaying the history from draft gives the stage, and every change of stage
-- is one entry with its actor.
structure Complete (spec : FactorySpec) (workloadId : String) (operations : List Operation) (w : FactoryWorkload) :
    Prop where
  replays : Leads HistoryEntry.source HistoryEntry.target .draft w.history w.stage
  recorded : w.history.map (fun entry => (entry.source,entry.target,entry.actor)) =
    stageChanges (.draft spec workloadId) operations

def RecordsGate : Operation → Prop
  | .recordGate result => result.gate ∈ requiredGates
  | _ => False

theorem attempt_cases {w next : FactoryWorkload} (done : attempt w operation = .ok next) :
    (RecordsGate operation ∧ ¬ Late w.stage ∧ next.stage = .validated ∧ next.history = w.history) ∨
      (¬ RecordsGate operation ∧ w.stage ≠ .draft ∧ ∃ (held : FactoryWorkload) (target : WorkloadStage)
        (actor reason : String) (now : Instant), held.stage = w.stage ∧ held.history = w.history ∧
          target ≠ .draft ∧ next = held.move target actor reason now) := by
  cases operation with
  | recordGate result =>
    obtain ⟨early,known,rfl⟩ := recordGate_exact.mp done
    exact .inl ⟨known,early,rfl,rfl⟩
  | approve actor policyDigest now =>
    refine .inr ⟨id,by rw [(approve_parts done).1]; decide,?_⟩
    unfold attempt FactoryWorkload.approve at done
    dsimp only at done
    split at done
    · cases done
    · split at done
      · cases done
      · refine ⟨_,.approved,actor,_,now,?_,?_,by decide,(Except.ok.inj done).symm⟩ <;> rfl
  | provision actor now =>
    obtain ⟨before,reason,moved⟩ := provision_parts done
    exact .inr ⟨id,by rw [before]; decide,w,.provisioned,actor,reason,now,rfl,rfl,by decide,moved⟩
  | release actor now =>
    obtain ⟨before,reason,moved⟩ := release_parts done
    exact .inr ⟨id,by rw [before]; decide,w,.released,actor,reason,now,rfl,rfl,by decide,moved⟩
  | suspend actor reason now =>
    obtain ⟨before,moved⟩ := suspend_parts done
    exact .inr ⟨id,by rw [before]; decide,w,.suspended,actor,reason,now,rfl,rfl,by decide,moved⟩
  | retire actor reason now =>
    obtain ⟨before,moved⟩ := retire_parts done
    exact .inr ⟨id,before.1,w,.retired,actor,reason,now,rfl,rfl,by decide,moved⟩

structure Headless (w : FactoryWorkload) : Prop where
  left : w.stage ≠ .draft
  trail : Leads HistoryEntry.source HistoryEntry.target .validated w.history w.stage

theorem Headless.incomplete (headless : Headless w) :
    ¬ Leads HistoryEntry.source HistoryEntry.target .draft w.history w.stage :=
  fun replays => absurd (replays.start_unique headless.trail) (by decide)

theorem Headless.step (headless : Headless w) (taken : step w operation = some next) : Headless next := by
  cases Option.some.inj taken
  unfold perform
  split
  · exact headless
  · rename_i next done
    rcases attempt_cases done with ⟨_,early,stage,history⟩ | ⟨_,_,held,target,actor,reason,now,stage,history,past,rfl⟩
    · have before : w.stage = .validated := by
        by_contra other
        exact early ⟨headless.left,other⟩
      have trail := headless.trail
      rw [before] at trail
      refine ⟨by rw [stage]; decide,?_⟩
      rw [history,stage]
      exact trail
    · refine ⟨past,?_⟩
      change Leads _ _ _ (held.history ++ [⟨held.stage,target,actor,reason,isoformat now⟩]) target
      rw [stage,history]
      exact headless.trail.append ⟨rfl,rfl⟩

theorem draft_step (draft : w.stage = .draft) (taken : step w operation = some next) :
    (¬ RecordsGate operation ∧ next = w) ∨
      (RecordsGate operation ∧ next.stage = .validated ∧ next.history = w.history) := by
  cases Option.some.inj taken
  unfold perform
  split
  · rename_i message refused
    refine .inl ⟨fun records => ?_,rfl⟩
    cases operation with
    | recordGate result =>
      have accepted : w.recordGate result =
          .ok {w with gates := Dict.set w.gates result.gate result, stage := .validated} :=
        recordGate_exact.mpr ⟨fun late => late.1 draft,records,rfl⟩
      cases accepted.symm.trans refused
    | _ => exact records
  · rename_i next done
    rcases attempt_cases done with ⟨records,_,stage,history⟩ | ⟨_,left,_⟩
    · exact .inr ⟨records,stage,history⟩
    · exact absurd draft left

theorem run_headless (path : Runs step w operations next) (headless : Headless w) : Headless next :=
  path.invariant (fun held taken => held.step taken) headless

theorem run_from_draft (path : Runs step w operations next) (draft : w.stage = .draft) (unmoved : w.history = []) :
    ((∀ operation ∈ operations, ¬ RecordsGate operation) ∧ next = w ∧ stageChanges w operations = []) ∨
      ((∃ operation ∈ operations, RecordsGate operation) ∧ Headless next) := by
  induction path with
  | stop => exact .inl ⟨by simp,rfl,rfl⟩
  | @take w middle next operation rest taken remaining ih =>
    rcases draft_step draft taken with ⟨passive,rfl⟩ | ⟨records,stage,history⟩
    · rcases ih draft unmoved with ⟨none,same,unchanged⟩ | ⟨⟨later,member,records⟩,headless⟩
      · have idle : perform middle operation = middle := Option.some.inj taken
        refine .inl ⟨List.forall_mem_cons.mpr ⟨passive,none⟩,same,?_⟩
        simp only [stageChanges,idle,if_true]
        exact unchanged
      · exact .inr ⟨⟨later,List.mem_cons_of_mem _ member,records⟩,headless⟩
    · have headless : Headless middle := by
        refine ⟨by rw [stage]; decide,?_⟩
        rw [history,unmoved,stage]
        exact rfl
      exact .inr ⟨⟨operation,List.mem_cons_self,records⟩,run_headless remaining headless⟩

theorem history_complete_iff (spec : FactorySpec) (workloadId : String) (operations : List Operation)
    (w : FactoryWorkload) (path : Runs step (.draft spec workloadId) operations w) :
    Complete spec workloadId operations w ↔ ∀ operation ∈ operations, ¬ RecordsGate operation := by
  rcases run_from_draft path rfl rfl with ⟨none,rfl,unchanged⟩ | ⟨⟨operation,member,records⟩,headless⟩
  · refine ⟨fun _ => none,fun _ => ⟨rfl,?_⟩⟩
    rw [unchanged]
    rfl
  · exact ⟨fun complete => absurd complete.replays headless.incomplete,
      fun none => absurd records (none operation member)⟩

def sampleSpec : FactorySpec where
  name := "support-bot"
  kind := .agent
  owner := "owner"
  tenant := "tenant-a"
  environment := "test"
  artifactDigest := "sha256:ab"
  dataClassification := "internal"
  slo := ⟨99/100,500,1/100,by decide +kernel,by decide +kernel,by decide +kernel⟩
  requiresGpu := false
  internetEgress := false
  named := by decide +kernel
  placed := by decide +kernel
  classified := by decide +kernel
  immutable := by decide +kernel

def qualityGate : GateResult := ⟨"quality",.pass,"report-1","evaluator","","","",0,by decide +kernel⟩

-- The gate moved the workload out of draft, and its history is still empty.
theorem gate_unrecorded : ¬ ∀ (spec : FactorySpec) (workloadId : String) (operations : List Operation)
    (w : FactoryWorkload), Runs step (.draft spec workloadId) operations w →
    Complete spec workloadId operations w := by
  intro holds
  have moved : Runs step (.draft sampleSpec "workload-1") [.recordGate qualityGate]
      {FactoryWorkload.draft sampleSpec "workload-1" with
        gates := Dict.set Table.empty "quality" qualityGate, stage := .validated} := .single rfl
  have complete := holds sampleSpec "workload-1" [.recordGate qualityGate] _ moved
  cases complete.replays

theorem refused_complete : ∃ w, Runs step (.draft sampleSpec "workload-1")
    [.release "operator" 0,.recordGate {qualityGate with gate := "style"},.approve "approver" "" 1] w ∧
    Complete sampleSpec "workload-1"
      [.release "operator" 0,.recordGate {qualityGate with gate := "style"},.approve "approver" "" 1] w :=
  have path : Runs step (.draft sampleSpec "workload-1")
      [.release "operator" 0,.recordGate {qualityGate with gate := "style"},.approve "approver" "" 1]
      (.draft sampleSpec "workload-1") := .take rfl (.take rfl (.take rfl .stop))
  ⟨_,path,(history_complete_iff _ _ _ _ path).mpr (by simp [RecordsGate,requiredGates])⟩

end OpenModelOps.FactoryAudit
