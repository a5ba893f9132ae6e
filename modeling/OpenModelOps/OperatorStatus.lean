import OpenModelOps.OperatorOwnership
import OpenModelOps.RunHistory

namespace OpenModelOps.OperatorStatus
open JsonText PlatformSpec PlatformOperator OperatorReconcile OperatorOwnership RunHistory
variable {Quantity Extra : Type}

structure Pod (Quantity : Type) where
  labels : List (Text × Text)
  spec : PodSpec Quantity
  available : Bool

structure Write (Quantity Extra : Type) where
  phase : Text
  generation : Int
  job : Option (JobObject Quantity Extra)
  pods : List (Pod Quantity)

-- The cluster and the pods of the Deployment of one custom resource. The last
-- two fields are not in the cluster: the resource as it was at each of its
-- generations, and the statuses written so far.
structure State (Quantity Extra : Type) where
  cluster : Cluster Quantity Extra
  pods : List (Pod Quantity)
  versions : Int → CustomResource
  writes : List (Write Quantity Extra)

-- Changes of the spec, calls of Reconcile, and progress of the children: the
-- Job controller writes the status of the Job, the Deployment controller makes
-- pods from the current template or from that of a pod it keeps, removes them,
-- and writes the status of the Deployment.
inductive Event where
  | update (spec : Json GoNumber)
  | reconcile
  | jobProgress (succeeded failed : Int)
  | podCreated (like : Option Nat)
  | podChanged (index : Nat) (available : Bool)
  | podDeleted (index : Nat)
  | deploymentSynced

variable [DecidableEq Quantity] [DecidableEq Extra] [Inhabited Extra]

def jobFrom (server : Server Quantity Extra) (object : Object GoNumber) : Option (JobSpec Quantity Extra) :=
  match parse object with
  | .error _ => none
  | .ok spec => (desiredJob server.mustParse object spec).map fun desired => server.completeJob (jobSpec desired)

def deploymentFrom (server : Server Quantity Extra) (object : Object GoNumber) :
    Option (DeploymentSpec Quantity Extra) :=
  match parse object with
  | .error _ => none
  | .ok spec => (desiredDeployment server.mustParse object spec).map fun desired =>
      server.completeDeployment (deploymentSpec desired)

def MadeFrom (spec : DeploymentSpec Quantity Extra) (pod : Pod Quantity) : Prop :=
  pod.labels = spec.templateLabels ∧ pod.spec = spec.template

-- Completed speaks of the Job, Ready of every pod that is available.
structure Truthful (server : Server Quantity Extra) (versions : Int → CustomResource) (write : Write Quantity Extra) :
    Prop where
  completed : write.phase = text "Completed" → ∃ job, write.job = some job ∧
    jobFrom server (versions write.generation).unstructured = some job.spec
  ready : write.phase = text "Ready" → ∃ spec,
    deploymentFrom server (versions write.generation).unstructured = some spec ∧
      ∀ pod ∈ write.pods, pod.available = true → MadeFrom spec pod

def AllTruthful (server : Server Quantity Extra) (s : State Quantity Extra) : Prop :=
  ∀ write ∈ s.writes, Truthful server s.versions write

-- A spec that is updated moves the generation.
def revised (o : CustomResource) (spec : Json GoNumber) : CustomResource :=
  {o with spec := spec, generation := o.generation + 1}

def written (before after : CustomResource) (job : Option (JobObject Quantity Extra)) (pods : List (Pod Quantity)) :
    Option (Write Quantity Extra) :=
  if after.phase = before.phase ∧ after.message = before.message ∧
      after.observedGeneration = before.observedGeneration then none
  else some ⟨after.phase,after.observedGeneration,job,pods⟩

def reconciled (server : Server Quantity Extra) (kind : Kind) (key : Key) (s : State Quantity Extra) :
    State Quantity Extra :=
  let result := (reconcile server s.cluster kind key).cluster
  match s.cluster.resources kind key,result.resources kind key with
  | some before,some after => {s with
      cluster := result
      writes := s.writes ++ (written before after (result.jobs key) s.pods).toList}
  | _,_ => {s with cluster := result}

def step (server : Server Quantity Extra) (kind : Kind) (key : Key) (s : State Quantity Extra) :
    Event → Option (State Quantity Extra)
  | .update spec => (s.cluster.resources kind key).map fun o => {s with
      cluster := s.cluster.put (revised o spec)
      versions := Function.update s.versions (o.generation + 1) (revised o spec)}
  | .reconcile => some (reconciled server kind key s)
  | .jobProgress succeeded failed => (s.cluster.jobs key).map fun job => {s with
      cluster := {s.cluster with
        jobs := Function.update s.cluster.jobs key (some {job with succeeded := succeeded, failed := failed})}}
  | .podCreated like => do
      let deployment ← s.cluster.deployments key
      match like with
      | none => some {s with
          pods := s.pods ++ [⟨deployment.spec.templateLabels,deployment.spec.template,false⟩]}
      | some index => (s.pods[index]?).map fun pod => {s with pods := s.pods ++ [{pod with available := false}]}
  | .podChanged index available => (s.pods[index]?).map fun pod => {s with
      pods := s.pods.set index {pod with available := available}}
  | .podDeleted index => some {s with pods := s.pods.eraseIdx index}
  | .deploymentSynced => (s.cluster.deployments key).map fun deployment => {s with
      cluster := {s.cluster with deployments := Function.update s.cluster.deployments key (some {deployment with
        observedGeneration := deployment.generation
        availableReplicas := (s.pods.countP Pod.available : Int)})}}

-- A custom resource that has no status written yet. Where a Deployment of its
-- name exists already, it has not observed a generation it does not have.
structure Fresh (kind : Kind) (key : Key) (s : State Quantity Extra) : Prop where
  resource : ∃ o, s.cluster.resources kind key = some o ∧ s.versions o.generation = o
  synced : ∀ deployment, s.cluster.deployments key = some deployment →
    deployment.observedGeneration ≤ deployment.generation
  unwritten : s.writes = []

structure Sound (kind : Kind) (key : Key) (s : State Quantity Extra) : Prop where
  resource : ∃ o, s.cluster.resources kind key = some o ∧
    (s.versions o.generation).unstructured = o.unstructured ∧ ∀ write ∈ s.writes, write.generation ≤ o.generation
  synced : ∀ deployment, s.cluster.deployments key = some deployment →
    deployment.observedGeneration ≤ deployment.generation

def JobCurrent (server : Server Quantity Extra) (s : State Quantity Extra) (o : CustomResource) : Prop :=
  ∀ job, s.cluster.jobs o.key = some job → 0 < job.succeeded →
    Writes server o (text "Completed") (text "evaluation job completed") →
    jobFrom server o.unstructured = some job.spec

def PodsCurrent (server : Server Quantity Extra) (s : State Quantity Extra) (o : CustomResource) (spec : WorkloadSpec) :
    Prop :=
  ∀ deployment, s.cluster.deployments o.key = some deployment →
    deploymentFrom server o.unstructured = some deployment.spec →
    deployment.generation ≤ deployment.observedGeneration → spec.replicas ≤ deployment.availableReplicas →
    TakesDeployment server s.cluster o spec → TakesService server s.cluster o spec →
    Writes server o (text "Ready") (text "all desired replicas are available") →
    ∀ pod ∈ s.pods, pod.available = true → MadeFrom deployment.spec pod

def UpToDate (server : Server Quantity Extra) (kind : Kind) (key : Key) (s : State Quantity Extra) : Event → Prop
  | .reconcile => ∀ o spec, s.cluster.resources kind key = some o → Accepted o spec →
      if o.kind = .evaluationRun then JobCurrent server s o else PodsCurrent server s o spec
  | _ => True

variable {server : Server Quantity Extra} {kind : Kind} {key : Key} {s next : State Quantity Extra}
  {o : CustomResource} {after middle : Cluster Quantity Extra}

omit [DecidableEq Quantity] [DecidableEq Extra] [Inhabited Extra] in
theorem written_same (o : CustomResource) (job : Option (JobObject Quantity Extra)) (pods : List (Pod Quantity)) :
    written o o job pods = none := if_pos ⟨rfl,rfl,rfl⟩

omit [DecidableEq Quantity] [DecidableEq Extra] [Inhabited Extra] in
theorem written_status (unsettled : ¬ Settled o phase message) (job : Option (JobObject Quantity Extra))
    (pods : List (Pod Quantity)) :
    written o (o.withStatus phase message) job pods = some ⟨phase,o.generation,job,pods⟩ :=
  if_neg fun same => unsettled ⟨same.1.symm,same.2.1.symm,same.2.2.symm⟩

omit [DecidableEq Quantity] [DecidableEq Extra] in
theorem silent_truthful (versions : Int → CustomResource) (silent : phase ≠ text "Completed" ∧ phase ≠ text "Ready")
    (generation : Int) (job : Option (JobObject Quantity Extra)) (pods : List (Pod Quantity)) :
    Truthful server versions ⟨phase,generation,job,pods⟩ :=
  ⟨fun completed => absurd completed silent.1,fun ready => absurd ready silent.2⟩

theorem reconciled_eq (here : s.cluster.resources kind key = some o)
    (there : (reconcile server s.cluster kind key).cluster.resources kind key = some found) :
    reconciled server kind key s = {s with
      cluster := (reconcile server s.cluster kind key).cluster
      writes := s.writes ++ (written o found ((reconcile server s.cluster kind key).cluster.jobs key) s.pods).toList} := by
  unfold reconciled
  dsimp only
  rw [here,there]

omit [DecidableEq Quantity] [DecidableEq Extra] in
theorem append_truthful (valid : AllTruthful server s) (cluster : Cluster Quantity Extra)
    (write : Option (Write Quantity Extra)) :
    AllTruthful server {s with cluster := cluster, writes := s.writes ++ write.toList} ↔
      ∀ added ∈ write, Truthful server s.versions added := by
  constructor
  · intro all added member
    exact all added (List.mem_append_right _ (Option.mem_toList.mpr member))
  · intro new added member
    rcases List.mem_append.mp member with old | last
    · exact valid added old
    · exact new added (Option.mem_toList.mp last)

theorem reconciled_silent (here : s.cluster.resources kind key = some o) (valid : AllTruthful server s)
    (there : (reconcile server s.cluster kind key).cluster.resources kind key = some o) :
    AllTruthful server (reconciled server kind key s) := by
  rw [reconciled_eq here there,append_truthful valid,written_same]
  intro added member
  cases member

theorem reconciled_status (here : s.cluster.resources kind key = some o) (valid : AllTruthful server s)
    (set : setStatus server middle o phase message = (after,outcome)) (found : middle.resources = s.cluster.resources)
    (result : (reconcile server s.cluster kind key).cluster = after) :
    AllTruthful server (reconciled server kind key s) ↔ (Writes server o phase message →
      Truthful server s.versions ⟨phase,o.generation,middle.jobs key,s.pods⟩) := by
  obtain ⟨sameKind,sameKey⟩ := s.cluster.placed kind key o here
  have jobs : after.jobs = middle.jobs := (setStatus_children set).2.2
  rcases setStatus_cases set with ⟨writes,rfl⟩ | ⟨idle,rfl⟩
  · have there : (reconcile server s.cluster kind key).cluster.resources kind key = some (o.withStatus phase message) := by
      rw [result,put_resources]
      exact if_pos ⟨sameKind.symm,sameKey.symm⟩
    rw [reconciled_eq here there,append_truthful valid,written_status writes.1,result,jobs]
    constructor
    · exact fun all _ => all _ rfl
    · intro truthful added member
      cases Option.some.inj member
      exact truthful writes
  · have there : (reconcile server s.cluster kind key).cluster.resources kind key = some o := by
      rw [result,found]
      exact here
    exact ⟨fun _ writes => absurd writes idle,fun _ => reconciled_silent here valid there⟩

omit [DecidableEq Quantity] [DecidableEq Extra] in
theorem job_exact (evaluation : o.kind = .evaluationRun) (schedules : Schedules server s.cluster o spec middle .done)
    (observed : observedState middle o spec = some (phase,message,complete))
    (version : (s.versions o.generation).unstructured = o.unstructured) :
    (Writes server o (text phase) (text message) →
      Truthful server s.versions ⟨text phase,o.generation,middle.jobs o.key,s.pods⟩) ↔ JobCurrent server s o := by
  unfold observedState at observed
  rw [if_pos evaluation] at observed
  obtain ⟨job,present,status⟩ := Option.map_eq_some_iff.mp observed
  cases schedules with
  | present =>
    by_cases succeeded : 0 < job.succeeded
    · rw [if_pos succeeded] at status
      cases status
      constructor
      · intro truthful other found _ writes
        cases Option.some.inj (present.symm.trans found)
        obtain ⟨held,same,made⟩ := (truthful writes).completed rfl
        cases Option.some.inj (present.symm.trans same)
        rwa [version] at made
      · intro current writes
        have distinct : text "Completed" ≠ text "Ready" := by decide
        refine ⟨fun _ => ⟨job,present,?_⟩,fun ready => absurd ready distinct⟩
        rw [version]
        exact current job present succeeded writes
    · have silent : text phase ≠ text "Completed" ∧ text phase ≠ text "Ready" := by
        rw [if_neg succeeded] at status
        split at status
        · cases status; decide
        · cases status; decide
      refine ⟨fun _ other found finished => ?_,fun _ _ => silent_truthful _ silent _ _ _⟩
      cases Option.some.inj (present.symm.trans found)
      exact absurd finished succeeded
  | created absent built made =>
    -- The new Job has not succeeded yet.
    dsimp only at present
    rw [Function.update_self] at present
    cases Option.some.inj present
    cases made
    cases status
    refine ⟨fun _ other found => ?_,fun _ _ => silent_truthful _ (by decide) _ _ _⟩
    rw [absent] at found
    cases found

omit [DecidableEq Quantity] [DecidableEq Extra] in
theorem deploymentFrom_built (accepted : Accepted o spec)
    (built : desiredDeployment server.mustParse o.unstructured spec = some desired) :
    deploymentFrom server o.unstructured = some (server.completeDeployment (deploymentSpec desired)) := by
  unfold deploymentFrom
  rw [accepted.1]
  dsimp only
  rw [built]
  rfl

abbrev RolledOut (deployment : DeploymentObject Quantity Extra) (spec : WorkloadSpec) : Prop :=
  deployment.generation ≤ deployment.observedGeneration ∧ spec.replicas ≤ deployment.availableReplicas

theorem rolledOut_kept {desired : Deployment Quantity} {before : DeploymentObject Quantity Extra}
    (written : writeDeployment server (some before) desired = some deployment)
    (same : server.completeDeployment (deploymentSpec desired) = before.spec) (spec : WorkloadSpec) :
    RolledOut deployment spec ↔ RolledOut before spec := by
  have generation : (updatedDeployment server before desired).generation = before.generation := if_pos same
  rw [written_updated written,RolledOut,generation]
  rfl

-- A written Deployment is ready only when the write changed no spec: a new one
-- has not been observed, and a changed spec is a new generation.
theorem rolledOut_before {held : Option (DeploymentObject Quantity Extra)} {desired : Deployment Quantity}
    (written : writeDeployment server held desired = some deployment)
    (synced : ∀ before ∈ held, before.observedGeneration ≤ before.generation) (ready : RolledOut deployment spec) :
    ∃ before, held = some before ∧ server.completeDeployment (deploymentSpec desired) = before.spec := by
  cases held with
  | none =>
    rw [written_created written] at ready
    exact absurd ready.1 (by simp [createdDeployment])
  | some before =>
    refine ⟨before,rfl,?_⟩
    by_contra changed
    have lagging := synced before rfl
    have generation : (updatedDeployment server before desired).generation = before.generation + 1 := if_neg changed
    rw [written_updated written,RolledOut,generation] at ready
    have observed : before.generation + 1 ≤ before.observedGeneration := ready.1
    omega

theorem pods_exact (serving : o.kind ≠ .evaluationRun) (accepted : Accepted o spec)
    (deploys : Deploys server s.cluster o spec middle .done)
    (observed : observedState middle o spec = some (phase,message,complete))
    (version : (s.versions o.generation).unstructured = o.unstructured)
    (synced : ∀ deployment, s.cluster.deployments o.key = some deployment →
      deployment.observedGeneration ≤ deployment.generation) :
    (Writes server o (text phase) (text message) →
      Truthful server s.versions ⟨text phase,o.generation,middle.jobs o.key,s.pods⟩) ↔ PodsCurrent server s o spec := by
  unfold observedState at observed
  rw [if_neg serving] at observed
  obtain ⟨now,present,status⟩ := Option.map_eq_some_iff.mp observed
  cases deploys with
  | @done desired deployment service built written served =>
    have asked := deploymentFrom_built accepted built
    obtain rfl : deployment = now := by
      dsimp only at present
      rw [Function.update_self] at present
      exact Option.some.inj present
    by_cases ready : RolledOut deployment spec
    · rw [if_pos ready] at status
      cases status
      obtain ⟨before,held,same⟩ := rolledOut_before written (fun before held => synced before held) ready
      rw [held] at written
      have up := (rolledOut_kept written same spec).mp ready
      constructor
      · intro truthful other found _ _ _ _ _ writes pod member available
        cases Option.some.inj (held.symm.trans found)
        obtain ⟨made,from_,all⟩ := (truthful writes).ready rfl
        rw [version,asked] at from_
        cases Option.some.inj from_
        rw [same] at all
        exact all pod member available
      · intro current writes
        have takesDeployment : TakesDeployment server s.cluster o spec := ⟨desired,built,by rw [held,written]; rfl⟩
        have takesService : TakesService server s.cluster o spec := by unfold TakesService; rw [served]; rfl
        have distinct : text "Ready" ≠ text "Completed" := by decide
        refine ⟨fun completed => absurd completed distinct,fun _ => ⟨before.spec,?_,?_⟩⟩
        · rw [version,asked,same]
        · exact current before held (by rw [asked,same]) up.1 up.2 takesDeployment takesService writes
    · have silent : text phase ≠ text "Completed" ∧ text phase ≠ text "Ready" := by
        rw [if_neg ready] at status
        cases status
        decide
      refine ⟨fun _ before held fits seen enough => ?_,fun _ _ => silent_truthful _ silent _ _ _⟩
      have same := Option.some.inj (asked.symm.trans fits)
      rw [held] at written
      exact absurd ((rolledOut_kept written same spec).mpr ⟨seen,enough⟩) ready

theorem children_done (taken : TakesDeployment server s.cluster o spec) (serves : TakesService server s.cluster o spec)
    (deploys : Deploys server s.cluster o spec after outcome) : outcome = .done := by
  obtain ⟨desired,built,writes⟩ := taken
  cases deploys with
  | panicked panics =>
    rw [panics] at built
    cases built
  | refused again refuses =>
    cases Option.some.inj (built.symm.trans again)
    rw [refuses] at writes
    cases writes
  | halfway _ _ refuses =>
    unfold TakesService at serves
    rw [refuses] at serves
    cases serves
  | done => rfl

theorem stopped_upToDate (here : s.cluster.resources kind key = some o) (accepted : Accepted o spec)
    (stopped : reconcileChildren server s.cluster o spec = (after,outcome)) (unfinished : outcome ≠ .done) :
    UpToDate server kind key s .reconcile := by
  intro other otherSpec found also
  cases Option.some.inj (here.symm.trans found)
  cases accepted.unique also
  unfold reconcileChildren at stopped
  by_cases evaluation : o.kind = .evaluationRun
  · rw [if_pos evaluation] at stopped ⊢
    have schedules := reconcileJob_schedules server s.cluster o spec
    rw [stopped] at schedules
    intro job present
    cases schedules with
    | present | created => exact absurd rfl unfinished
    | panicked absent | refused absent =>
      rw [absent] at present
      cases present
  · rw [if_neg evaluation] at stopped ⊢
    have deploys := reconcileDeployment_deploys server s.cluster o spec
    rw [stopped] at deploys
    intro deployment _ _ _ _ taken serves
    exact absurd (children_done taken serves deploys) unfinished

theorem reconcile_exact (sound : Sound kind key s) (valid : AllTruthful server s) :
    AllTruthful server (reconciled server kind key s) ↔ UpToDate server kind key s .reconcile := by
  obtain ⟨o,here,version,_⟩ := sound.resource
  obtain ⟨sameKind,sameKey⟩ := s.cluster.placed kind key o here
  have synced := sound.synced
  rw [← sameKey] at synced
  have course : Course server s.cluster o (reconcile server s.cluster kind key) := reconcile_course here
  generalize result : reconcile server s.cluster kind key = r at course
  cases course with
  | unaccepted phase unaccepted silent set =>
    rw [reconciled_status here valid set rfl (by rw [result])]
    refine ⟨fun _ other spec found accepted => ?_,fun _ _ => silent_truthful _ ?_ _ _ _⟩
    · cases Option.some.inj (here.symm.trans found)
      exact absurd accepted (unaccepted spec)
    · rcases silent with rfl | rfl <;> decide
  | stopped accepted stopped unfinished =>
    have there : (reconcile server s.cluster kind key).cluster.resources kind key = some o := by
      rw [result]
      dsimp only
      rw [(children_frame stopped).resources]
      exact here
    exact ⟨fun _ => stopped_upToDate here accepted stopped unfinished,fun _ => reconciled_silent here valid there⟩
  | unobserved accepted done missing =>
    have observed := children_observed done
    rw [missing] at observed
    cases observed
  | @reported spec middle phase message complete after outcome requeue accepted done observed set =>
    rw [reconciled_status here valid set (children_frame done).resources (by rw [result]),← sameKey]
    have only : UpToDate server kind o.key s .reconcile ↔
        if o.kind = .evaluationRun then JobCurrent server s o else PodsCurrent server s o spec := by
      rw [← sameKey] at here
      constructor
      · exact fun all => all o spec here accepted
      · intro current other otherSpec found also
        cases Option.some.inj (here.symm.trans found)
        cases accepted.unique also
        exact current
    rw [only]
    unfold reconcileChildren at done
    by_cases evaluation : o.kind = .evaluationRun
    · rw [if_pos evaluation] at done ⊢
      have schedules := reconcileJob_schedules server s.cluster o spec
      rw [done] at schedules
      exact job_exact evaluation schedules observed version
    · rw [if_neg evaluation] at done ⊢
      have deploys := reconcileDeployment_deploys server s.cluster o spec
      rw [done] at deploys
      exact pods_exact evaluation accepted deploys observed version synced

theorem reconcile_resource (server : Server Quantity Extra) (here : s.cluster.resources kind key = some o) :
    ∃ found, (reconcile server s.cluster kind key).cluster.resources kind key = some found ∧
      found.unstructured = o.unstructured ∧ found.generation = o.generation ∧
      (found = o ∨ found.observedGeneration = o.generation) := by
  obtain ⟨sameKind,sameKey⟩ := s.cluster.placed kind key o here
  have course : Course server s.cluster o (reconcile server s.cluster kind key) := reconcile_course here
  have status : ∀ {middle after : Cluster Quantity Extra} {phase message : Text} {outcome : Outcome},
      setStatus server middle o phase message = (after,outcome) → middle.resources = s.cluster.resources →
      ∃ found, after.resources kind key = some found ∧ found.unstructured = o.unstructured ∧
        found.generation = o.generation ∧ (found = o ∨ found.observedGeneration = o.generation) := by
    intro middle after phase message outcome set unchanged
    rcases setStatus_cases set with ⟨_,rfl⟩ | ⟨_,rfl⟩
    · refine ⟨o.withStatus phase message,?_,rfl,rfl,.inr rfl⟩
      rw [put_resources]
      exact if_pos ⟨sameKind.symm,sameKey.symm⟩
    · rw [unchanged]
      exact ⟨o,here,rfl,rfl,.inl rfl⟩
  generalize reconcile server s.cluster kind key = r at course
  cases course with
  | unaccepted _ _ _ set => exact status set rfl
  | stopped _ reconciled | unobserved _ reconciled =>
    dsimp only
    rw [(children_frame reconciled).resources]
    exact ⟨o,here,rfl,rfl,.inl rfl⟩
  | reported _ reconciled _ set => exact status set (children_frame reconciled).resources

theorem written_synced {held : Option (DeploymentObject Quantity Extra)}
    (synced : ∀ deployment, held = some deployment → deployment.observedGeneration ≤ deployment.generation)
    (written : writeDeployment server held desired = some deployment) :
    deployment.observedGeneration ≤ deployment.generation := by
  cases held with
  | none =>
    rw [written_created written]
    exact Int.zero_le_ofNat 1
  | some before =>
    have lagging := synced before rfl
    rw [written_updated written]
    unfold updatedDeployment
    dsimp only
    split
    · exact lagging
    · omega

theorem children_synced (reconciled : reconcileChildren server s.cluster o spec = (after,outcome))
    (synced : ∀ deployment, s.cluster.deployments o.key = some deployment →
      deployment.observedGeneration ≤ deployment.generation) :
    ∀ deployment, after.deployments o.key = some deployment →
      deployment.observedGeneration ≤ deployment.generation := by
  unfold reconcileChildren at reconciled
  split at reconciled
  · have schedules := reconcileJob_schedules server s.cluster o spec
    rw [reconciled] at schedules
    rw [(schedules_frame schedules).2.1]
    exact synced
  · have deploys := reconcileDeployment_deploys server s.cluster o spec
    rw [reconciled] at deploys
    cases deploys with
    | panicked | refused => exact synced
    | halfway _ written | done _ written =>
      intro deployment found
      dsimp only at found
      rw [Function.update_self] at found
      cases Option.some.inj found
      exact written_synced synced written

theorem reconcile_synced (here : s.cluster.resources kind key = some o)
    (synced : ∀ deployment, s.cluster.deployments key = some deployment →
      deployment.observedGeneration ≤ deployment.generation) :
    ∀ deployment, (reconcile server s.cluster kind key).cluster.deployments key = some deployment →
      deployment.observedGeneration ≤ deployment.generation := by
  obtain ⟨_,sameKey⟩ := s.cluster.placed kind key o here
  have course : Course server s.cluster o (reconcile server s.cluster kind key) := reconcile_course here
  generalize reconcile server s.cluster kind key = r at course
  subst sameKey
  cases course with
  | unaccepted _ _ _ set =>
    dsimp only
    rw [(setStatus_children set).1]
    exact synced
  | stopped _ reconciled | unobserved _ reconciled => exact children_synced reconciled synced
  | reported _ reconciled _ set =>
    dsimp only
    rw [(setStatus_children set).1]
    exact children_synced reconciled synced

theorem reconciled_sound (sound : Sound kind key s) : Sound kind key (reconciled server kind key s) := by
  obtain ⟨o,here,version,bounded⟩ := sound.resource
  obtain ⟨found,there,same,generation,status⟩ := reconcile_resource server here
  rw [reconciled_eq here there]
  refine ⟨⟨found,there,?_,?_⟩,reconcile_synced here sound.synced⟩
  · dsimp only
    rw [generation,version,same]
  · intro write member
    rw [generation]
    rcases List.mem_append.mp member with old | last
    · exact bounded write old
    · unfold written at last
      split at last
      · cases last
      · rename_i changed
        cases List.mem_singleton.mp last
        rcases status with rfl | observed
        · exact absurd ⟨rfl,rfl,rfl⟩ changed
        · exact le_of_eq observed

omit [DecidableEq Quantity] [DecidableEq Extra] [Inhabited Extra] in
theorem updated_sound (sound : Sound kind key s) (here : s.cluster.resources kind key = some o) (spec : Json GoNumber) :
    Sound kind key {s with
      cluster := s.cluster.put (revised o spec)
      versions := Function.update s.versions (o.generation + 1) (revised o spec)} := by
  obtain ⟨sameKind,sameKey⟩ := s.cluster.placed kind key o here
  obtain ⟨other,found,_,bounded⟩ := sound.resource
  cases Option.some.inj (here.symm.trans found)
  refine ⟨⟨revised o spec,?_,?_,fun write member => ?_⟩,sound.synced⟩
  · dsimp only
    rw [put_resources]
    exact if_pos ⟨sameKind.symm,sameKey.symm⟩
  · change (Function.update s.versions (o.generation + 1) (revised o spec) (o.generation + 1)).unstructured = _
    rw [Function.update_self]
  · have earlier := bounded write member
    change write.generation ≤ o.generation + 1
    omega

omit [DecidableEq Quantity] [DecidableEq Extra] in
theorem updated_truthful (sound : Sound kind key s) (here : s.cluster.resources kind key = some o)
    (spec : Json GoNumber) (valid : AllTruthful server s) : AllTruthful server {s with
      cluster := s.cluster.put (revised o spec)
      versions := Function.update s.versions (o.generation + 1) (revised o spec)} := by
  intro write member
  obtain ⟨other,found,_,bounded⟩ := sound.resource
  cases Option.some.inj (here.symm.trans found)
  have earlier := bounded write member
  have same : Function.update s.versions (o.generation + 1) (revised o spec) write.generation =
      s.versions write.generation := Function.update_of_ne (by omega) _ _
  obtain ⟨completed,ready⟩ := valid write member
  refine ⟨fun phase => ?_,fun phase => ?_⟩
  · dsimp only
    rw [same]
    exact completed phase
  · dsimp only
    rw [same]
    exact ready phase

theorem step_sound (sound : Sound kind key s) (taken : step server kind key s event = some next) :
    Sound kind key next := by
  cases event with
  | update spec =>
    obtain ⟨o,here,rfl⟩ := Option.map_eq_some_iff.mp taken
    exact updated_sound sound here spec
  | reconcile =>
    cases Option.some.inj taken
    exact reconciled_sound sound
  | jobProgress succeeded failed =>
    obtain ⟨job,_,rfl⟩ := Option.map_eq_some_iff.mp taken
    exact ⟨sound.resource,sound.synced⟩
  | podCreated like =>
    obtain ⟨deployment,_,made⟩ := Option.bind_eq_some_iff.mp taken
    cases like with
    | none =>
      cases Option.some.inj made
      exact ⟨sound.resource,sound.synced⟩
    | some index =>
      obtain ⟨pod,_,rfl⟩ := Option.map_eq_some_iff.mp made
      exact ⟨sound.resource,sound.synced⟩
  | podChanged index available =>
    obtain ⟨pod,_,rfl⟩ := Option.map_eq_some_iff.mp taken
    exact ⟨sound.resource,sound.synced⟩
  | podDeleted index =>
    cases Option.some.inj taken
    exact ⟨sound.resource,sound.synced⟩
  | deploymentSynced =>
    obtain ⟨deployment,held,rfl⟩ := Option.map_eq_some_iff.mp taken
    refine ⟨sound.resource,fun found present => ?_⟩
    dsimp only at present
    rw [Function.update_self] at present
    cases Option.some.inj present
    exact le_refl _

theorem step_exact (sound : Sound kind key s) (valid : AllTruthful server s)
    (taken : step server kind key s event = some next) :
    AllTruthful server next ↔ UpToDate server kind key s event := by
  cases event with
  | update spec =>
    obtain ⟨o,here,rfl⟩ := Option.map_eq_some_iff.mp taken
    exact ⟨fun _ => trivial,fun _ => updated_truthful sound here spec valid⟩
  | reconcile =>
    cases Option.some.inj taken
    exact reconcile_exact sound valid
  | jobProgress succeeded failed =>
    obtain ⟨job,_,rfl⟩ := Option.map_eq_some_iff.mp taken
    exact ⟨fun _ => trivial,fun _ => valid⟩
  | podCreated like =>
    obtain ⟨deployment,_,made⟩ := Option.bind_eq_some_iff.mp taken
    cases like with
    | none =>
      cases Option.some.inj made
      exact ⟨fun _ => trivial,fun _ => valid⟩
    | some index =>
      obtain ⟨pod,_,rfl⟩ := Option.map_eq_some_iff.mp made
      exact ⟨fun _ => trivial,fun _ => valid⟩
  | podChanged index available =>
    obtain ⟨pod,_,rfl⟩ := Option.map_eq_some_iff.mp taken
    exact ⟨fun _ => trivial,fun _ => valid⟩
  | podDeleted index =>
    cases Option.some.inj taken
    exact ⟨fun _ => trivial,fun _ => valid⟩
  | deploymentSynced =>
    obtain ⟨deployment,_,rfl⟩ := Option.map_eq_some_iff.mp taken
    exact ⟨fun _ => trivial,fun _ => valid⟩

theorem status_truthful_iff (server : Server Quantity Extra) (kind : Kind) (key : Key) (start : State Quantity Extra)
    (fresh : Fresh kind key start) (events : List Event) (s : State Quantity Extra)
    (path : Runs (step server kind key) start events s) :
    Always (step server kind key) (AllTruthful server) start events ↔
      Throughout (step server kind key) (UpToDate server kind key) start events := by
  obtain ⟨o,here,version⟩ := fresh.resource
  have sound : Sound kind key start := by
    refine ⟨⟨o,here,by rw [version],?_⟩,fresh.synced⟩
    rw [fresh.unwritten]
    exact fun write member => absurd member List.not_mem_nil
  have valid : AllTruthful server start := by
    intro write member
    rw [fresh.unwritten] at member
    exact absurd member List.not_mem_nil
  exact path.always_exact step_sound step_exact sound valid

instance decideHeld {α : Type} (held : Option α) (meets : α → Prop) [∀ found, Decidable (meets found)] :
    Decidable (∀ found, held = some found → meets found) :=
  match held with
  | none => .isTrue fun _ same => by cases same
  | some found => decidable_of_iff (meets found)
      ⟨fun meets other same => by cases same; exact meets,fun all => all found rfl⟩

instance (server : Server Quantity Extra) (o : CustomResource) (phase message : Text) :
    Decidable (Writes server o phase message) := inferInstanceAs (Decidable (_ ∧ _))

instance (spec : DeploymentSpec Quantity Extra) (pod : Pod Quantity) : Decidable (MadeFrom spec pod) :=
  inferInstanceAs (Decidable (_ ∧ _))

instance (server : Server Quantity Extra) (cluster : Cluster Quantity Extra) (o : CustomResource) (spec : WorkloadSpec) :
    Decidable (TakesService server cluster o spec) := inferInstanceAs (Decidable (_ = _))

instance (server : Server Quantity Extra) (cluster : Cluster Quantity Extra) (o : CustomResource) (spec : WorkloadSpec) :
    Decidable (TakesDeployment server cluster o spec) :=
  match built : desiredDeployment server.mustParse o.unstructured spec with
  | none => .isFalse fun ⟨_,same,_⟩ => by cases built.symm.trans same
  | some desired => decidable_of_iff ((writeDeployment server (cluster.deployments o.key) desired).isSome = true)
      ⟨fun taken => ⟨desired,built,taken⟩,fun ⟨_,same,taken⟩ => by cases built.symm.trans same; exact taken⟩

instance (server : Server Quantity Extra) (s : State Quantity Extra) (o : CustomResource) :
    Decidable (JobCurrent server s o) := decideHeld _ _

instance (server : Server Quantity Extra) (s : State Quantity Extra) (o : CustomResource) (spec : WorkloadSpec) :
    Decidable (PodsCurrent server s o spec) := decideHeld _ _

instance decideAccepted (o : CustomResource) (meets : WorkloadSpec → Prop) [∀ spec, Decidable (meets spec)] :
    Decidable (∀ spec, Accepted o spec → meets spec) :=
  match parsed : parse o.unstructured with
  | .error _ => .isTrue fun _ accepted => by cases parsed.symm.trans accepted.1
  | .ok spec => decidable_of_iff (validate spec = [] → meets spec)
      ⟨fun meets _ accepted => by cases parsed.symm.trans accepted.1; exact meets accepted.2,
        fun all clean => all spec ⟨parsed,clean⟩⟩

instance decideUpToDate (server : Server Quantity Extra) (kind : Kind) (key : Key) (s : State Quantity Extra) :
    (event : Event) → Decidable (UpToDate server kind key s event)
  | .reconcile => decidable_of_iff (∀ o, s.cluster.resources kind key = some o → ∀ spec, Accepted o spec →
        if o.kind = .evaluationRun then JobCurrent server s o else PodsCurrent server s o spec)
      ⟨fun all o spec found => all o found spec,fun all o found spec => all o spec found⟩
  | .update _ => .isTrue trivial
  | .jobProgress _ _ => .isTrue trivial
  | .podCreated _ => .isTrue trivial
  | .podChanged _ _ => .isTrue trivial
  | .podDeleted _ => .isTrue trivial
  | .deploymentSynced => .isTrue trivial

def nightlyStart : State Text Unit := ⟨clusterWith none,[],fun _ => nightly,[]⟩

theorem nightlyStart_fresh : Fresh .evaluationRun nightly.key nightlyStart :=
  ⟨⟨nightly,rfl,rfl⟩,fun _ held => (by cases held),rfl⟩

-- The evaluation completes, and then another image is to be evaluated.
def newerSpec : Json GoNumber :=
  .obj [(text "image",.str (text "registry/eval@sha256:0b")),(text "approved",.bool true),
    (text "resources",.obj [(text "cpuRequest",.str (text "500m")),(text "memoryRequest",.str (text "256Mi")),
      (text "cpuLimit",.str (text "1")),(text "memoryLimit",.str (text "1Gi"))])]

def evaluation : List Event := [.reconcile,.jobProgress 1 0,.reconcile]

def staleCompletion : List Event := evaluation ++ [.update newerSpec,.reconcile]

theorem stale_completion_reported : ¬ ∀ (server : Server Text Unit) (kind : Kind) (key : Key) (start : State Text Unit)
    (events : List Event) (s : State Text Unit), Fresh kind key start →
    Runs (step server kind key) start events s → AllTruthful server s := by
  intro holds
  have reached : ((consume (step openServer .evaluationRun nightly.key) nightlyStart staleCompletion).bind fun s =>
      s.writes.getLast?.map fun write => (write.phase,
        decide (jobFrom openServer (s.versions write.generation).unstructured = write.job.map JobObject.spec))) =
      some (text "Completed",false) := by decide +kernel
  obtain ⟨s,consumed,last⟩ := Option.bind_eq_some_iff.mp reached
  obtain ⟨write,final,fields⟩ := Option.map_eq_some_iff.mp last
  obtain ⟨phase,differs⟩ := Prod.mk.inj fields
  have truthful := holds openServer .evaluationRun nightly.key nightlyStart staleCompletion s nightlyStart_fresh
    (consume_exact.mp consumed) write (List.mem_of_getLast? final)
  obtain ⟨job,held,made⟩ := truthful.completed phase
  rw [held,made] at differs
  exact absurd differs (by simp)

theorem evaluation_truthful :
    Always (step openServer .evaluationRun nightly.key) (AllTruthful openServer) nightlyStart evaluation := by
  have reached : (consume (step openServer .evaluationRun nightly.key) nightlyStart evaluation).isSome = true := by
    decide +kernel
  obtain ⟨s,consumed⟩ := Option.isSome_iff_exists.mp reached
  refine (status_truthful_iff openServer .evaluationRun nightly.key nightlyStart nightlyStart_fresh evaluation s
    (consume_exact.mp consumed)).mpr ?_
  decide +kernel

end OpenModelOps.OperatorStatus
