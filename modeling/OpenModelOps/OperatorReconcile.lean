import OpenModelOps.PlatformOperator
import Mathlib.Logic.Function.Basic

namespace OpenModelOps.OperatorReconcile
open JsonText PlatformSpec PlatformOperator

deriving instance DecidableEq for ResourceList
deriving instance DecidableEq for ResourceRequirements
deriving instance DecidableEq for Container
deriving instance DecidableEq for RestartPolicy
deriving instance DecidableEq for PodSpec
deriving instance DecidableEq for OwnerReference

inductive Kind where
  | modelDeployment | agentDeployment | evaluationRun
  deriving DecidableEq

def Kind.value : Kind → String
  | .modelDeployment => "ModelDeployment"
  | .agentDeployment => "AgentDeployment"
  | .evaluationRun => "EvaluationRun"

abbrev Key := Text × Text

-- A custom resource, its status apart from the rest. An absent status field
-- reads as empty or zero.
structure CustomResource where
  apiVersion : Text
  kind : Kind
  namespace_ : Text
  name : Text
  uid : Text
  generation : Int
  spec : Json GoNumber
  phase : Text
  message : Text
  observedGeneration : Int

def CustomResource.key (o : CustomResource) : Key := (o.namespace_,o.name)

-- The object that Parse and the builders read.
def CustomResource.unstructured (o : CustomResource) : Object GoNumber :=
  [(text "apiVersion",.str o.apiVersion),(text "kind",.str (text o.kind.value)),
   (text "metadata",.obj [(text "name",.str o.name),(text "namespace",.str o.namespace_),(text "uid",.str o.uid),
     (text "generation",.num (.int64 o.generation))]),
   (text "spec",o.spec)]

-- Extra stands for the fields that the operator neither reads nor sets. In what
-- it builds they are unset, and the API server fills them in.
structure DeploymentSpec (Quantity Extra : Type) where
  replicas : Int
  selector : List (Text × Text)
  templateLabels : List (Text × Text)
  template : PodSpec Quantity
  others : Extra
  deriving DecidableEq

structure DeploymentObject (Quantity Extra : Type) where
  labels : List (Text × Text)
  ownerReferences : List OwnerReference
  generation : Int
  spec : DeploymentSpec Quantity Extra
  observedGeneration : Int
  availableReplicas : Int
  others : Extra

inductive IntOrString where
  | int (value : Int)
  | string (value : Text)
  deriving DecidableEq

structure ServicePort (Extra : Type) where
  name : Text
  port : Int
  targetPort : IntOrString
  others : Extra
  deriving DecidableEq

structure ServiceObject (Extra : Type) where
  labels : List (Text × Text)
  ownerReferences : List OwnerReference
  selector : List (Text × Text)
  ports : List (ServicePort Extra)
  others : Extra

structure JobSpec (Quantity Extra : Type) where
  backoffLimit : Int
  templateLabels : List (Text × Text)
  template : PodSpec Quantity
  others : Extra
  deriving DecidableEq

structure JobObject (Quantity Extra : Type) where
  labels : List (Text × Text)
  ownerReferences : List OwnerReference
  spec : JobSpec Quantity Extra
  succeeded : Int
  failed : Int
  others : Extra

-- The API server: which writes it refuses, given what it holds and what is
-- submitted, and how it completes what a submitted object leaves unset. The
-- last field stands for resource.MustParse.
structure Server (Quantity Extra : Type) where
  refusesDeployment : Option (DeploymentObject Quantity Extra) → DeploymentObject Quantity Extra → Bool
  refusesService : Option (ServiceObject Extra) → ServiceObject Extra → Bool
  refusesJob : JobObject Quantity Extra → Bool
  refusesStatus : CustomResource → Bool
  completeDeployment : DeploymentSpec Quantity Extra → DeploymentSpec Quantity Extra
  completePorts : List (ServicePort Extra) → List (ServicePort Extra)
  completeJob : JobSpec Quantity Extra → JobSpec Quantity Extra
  mustParse : Text → Option Quantity

structure Cluster (Quantity Extra : Type) where
  resources : Kind → Key → Option CustomResource
  deployments : Key → Option (DeploymentObject Quantity Extra)
  services : Key → Option (ServiceObject Extra)
  jobs : Key → Option (JobObject Quantity Extra)
  placed : ∀ kind key o, resources kind key = some o → o.kind = kind ∧ o.key = key

inductive Outcome where
  | done | failed | panicked
  deriving DecidableEq

variable {Quantity Extra : Type} [DecidableEq Quantity] [DecidableEq Extra] [Inhabited Extra]

def deploymentSpec (desired : Deployment Quantity) : DeploymentSpec Quantity Extra :=
  ⟨desired.replicas,desired.selector,desired.templateLabels,desired.template,default⟩

def jobSpec (desired : Job Quantity) : JobSpec Quantity Extra :=
  ⟨desired.backoffLimit,desired.templateLabels,desired.template,default⟩

def servicePorts (spec : WorkloadSpec) : List (ServicePort Extra) :=
  [⟨text "http",spec.port,.int spec.port,default⟩]

def createdDeployment (server : Server Quantity Extra) (desired : Deployment Quantity) :
    DeploymentObject Quantity Extra :=
  ⟨desired.metadata.labels,desired.metadata.ownerReferences,1,server.completeDeployment (deploymentSpec desired),0,0,default⟩

-- The generation moves when the stored spec changes; the status is not part of
-- the write.
def updatedDeployment (server : Server Quantity Extra) (deployment : DeploymentObject Quantity Extra)
    (desired : Deployment Quantity) : DeploymentObject Quantity Extra :=
  let spec := server.completeDeployment (deploymentSpec desired)
  {deployment with
    labels := desired.metadata.labels
    ownerReferences := desired.metadata.ownerReferences
    generation := if spec = deployment.spec then deployment.generation else deployment.generation + 1
    spec := spec}

-- Create of a Deployment, or Update of the one that was read.
def writeDeployment (server : Server Quantity Extra) (held : Option (DeploymentObject Quantity Extra))
    (desired : Deployment Quantity) : Option (DeploymentObject Quantity Extra) :=
  match held with
  | none => if server.refusesDeployment none (createdDeployment server desired) then none
    else some (createdDeployment server desired)
  | some deployment =>
    if server.refusesDeployment (some deployment) (updatedDeployment server deployment desired) then none
    else some (updatedDeployment server deployment desired)

-- Create of a Service, or Update of selector and ports.
def writeService (server : Server Quantity Extra) (held : Option (ServiceObject Extra)) (o : CustomResource)
    (spec : WorkloadSpec) : Option (ServiceObject Extra) :=
  let labels := labelsFor o.unstructured
  let ports := server.completePorts (servicePorts spec)
  match held with
  | none =>
    let created := ⟨labels,owner o.unstructured,labels,ports,default⟩
    if server.refusesService none created then none else some created
  | some service =>
    let updated := {service with selector := labels, ports := ports}
    if server.refusesService (some service) updated then none else some updated

def reconcileDeployment (server : Server Quantity Extra) (cluster : Cluster Quantity Extra) (o : CustomResource)
    (spec : WorkloadSpec) : Cluster Quantity Extra × Outcome :=
  match desiredDeployment server.mustParse o.unstructured spec with
  | none => (cluster,.panicked)
  | some desired => match writeDeployment server (cluster.deployments o.key) desired with
    | none => (cluster,.failed)
    | some deployment =>
      let deployed := {cluster with deployments := Function.update cluster.deployments o.key (some deployment)}
      match writeService server (cluster.services o.key) o spec with
      | none => (deployed,.failed)
      | some service =>
        ({deployed with services := Function.update cluster.services o.key (some service)},.done)

-- A Job that exists is left alone, whatever it is.
def reconcileJob (server : Server Quantity Extra) (cluster : Cluster Quantity Extra) (o : CustomResource)
    (spec : WorkloadSpec) : Cluster Quantity Extra × Outcome :=
  match cluster.jobs o.key with
  | some _ => (cluster,.done)
  | none => match desiredJob server.mustParse o.unstructured spec with
    | none => (cluster,.panicked)
    | some desired =>
      let created := ⟨desired.metadata.labels,desired.metadata.ownerReferences,
        server.completeJob (jobSpec desired),0,0,default⟩
      if server.refusesJob created then (cluster,.failed)
      else ({cluster with jobs := Function.update cluster.jobs o.key (some created)},.done)

-- Phase, message and whether the work is complete; none is a Get that fails.
def observedState (cluster : Cluster Quantity Extra) (o : CustomResource) (spec : WorkloadSpec) :
    Option (String × String × Bool) :=
  if o.kind = .evaluationRun then
    (cluster.jobs o.key).map fun job =>
      if 0 < job.succeeded then ("Completed","evaluation job completed",true)
      else if 1 < job.failed then ("Failed","evaluation job exhausted its retry budget",true)
      else ("Running","evaluation job is running",false)
  else
    (cluster.deployments o.key).map fun deployment =>
      if deployment.generation ≤ deployment.observedGeneration ∧ spec.replicas ≤ deployment.availableReplicas then
        ("Ready","all desired replicas are available",true)
      else ("Progressing","waiting for desired replicas to become available",false)

def CustomResource.withStatus (o : CustomResource) (phase message : Text) : CustomResource :=
  {o with phase := phase, message := message, observedGeneration := o.generation}

def Cluster.put (cluster : Cluster Quantity Extra) (o : CustomResource) : Cluster Quantity Extra :=
  {cluster with
    resources := Function.update cluster.resources o.kind (Function.update (cluster.resources o.kind) o.key (some o))
    placed := by
      intro kind key found holds
      by_cases sameKind : kind = o.kind
      · subst sameKind
        rw [Function.update_self] at holds
        by_cases sameKey : key = o.key
        · subst sameKey
          rw [Function.update_self] at holds
          cases Option.some.inj holds
          exact ⟨rfl,rfl⟩
        · rw [Function.update_of_ne sameKey] at holds
          exact cluster.placed _ _ _ holds
      · rw [Function.update_of_ne sameKind] at holds
        exact cluster.placed _ _ _ holds}

def Settled (o : CustomResource) (phase message : Text) : Prop :=
  o.phase = phase ∧ o.message = message ∧ o.observedGeneration = o.generation

instance (o : CustomResource) (phase message : Text) : Decidable (Settled o phase message) :=
  inferInstanceAs (Decidable (_ ∧ _ ∧ _))

def setStatus (server : Server Quantity Extra) (cluster : Cluster Quantity Extra) (o : CustomResource)
    (phase message : Text) : Cluster Quantity Extra × Outcome :=
  if Settled o phase message then (cluster,.done)
  else if server.refusesStatus (o.withStatus phase message) then (cluster,.failed)
  else (cluster.put (o.withStatus phase message),.done)

def Writes (server : Server Quantity Extra) (o : CustomResource) (phase message : Text) : Prop :=
  ¬ Settled o phase message ∧ server.refusesStatus (o.withStatus phase message) = false

inductive Child where
  | deployment | job
  deriving DecidableEq

-- What a call of Reconcile leaves: the cluster, and the child whose state it
-- has passed on as the status of the resource.
structure Reconciled (Quantity Extra : Type) where
  cluster : Cluster Quantity Extra
  reported : Option Child
  outcome : Outcome
  requeue : Bool

-- fmt.Sprint of a list of texts.
def sprint (problems : List String) : Text := text ("[" ++ " ".intercalate problems ++ "]")

def reconcileChildren (server : Server Quantity Extra) (cluster : Cluster Quantity Extra) (o : CustomResource)
    (spec : WorkloadSpec) : Cluster Quantity Extra × Outcome :=
  if o.kind = .evaluationRun then reconcileJob server cluster o spec
  else reconcileDeployment server cluster o spec

def reconcile (server : Server Quantity Extra) (cluster : Cluster Quantity Extra) (kind : Kind) (key : Key) :
    Reconciled Quantity Extra :=
  match cluster.resources kind key with
  | none => ⟨cluster,none,.done,false⟩
  | some o => match parse o.unstructured with
    | .error message =>
      let (after,outcome) := setStatus server cluster o (text "Invalid") (text message)
      ⟨after,none,outcome,false⟩
    | .ok spec =>
      if validate spec ≠ [] then
        let (after,outcome) := setStatus server cluster o (text "Rejected") (sprint (validate spec))
        ⟨after,none,outcome,false⟩
      else match reconcileChildren server cluster o spec with
        | (after,.done) => match observedState after o spec with
          | none => ⟨after,none,.failed,false⟩
          | some (phase,message,complete) =>
            let (final,outcome) := setStatus server after o (text phase) (text message)
            ⟨final,some (if o.kind = .evaluationRun then .job else .deployment),outcome,
              decide (outcome = .done) && !complete⟩
        | (after,outcome) => ⟨after,none,outcome,false⟩

def Accepted (o : CustomResource) (spec : WorkloadSpec) : Prop :=
  parse o.unstructured = .ok spec ∧ validate spec = []

theorem Accepted.unique (first : Accepted o spec) (second : Accepted o other) : spec = other :=
  Except.ok.inj (first.1.symm.trans second.1)

inductive Course (server : Server Quantity Extra) (cluster : Cluster Quantity Extra) (o : CustomResource) :
    Reconciled Quantity Extra → Prop where
  | unaccepted (phase : String) : (∀ spec, ¬ Accepted o spec) → phase = "Invalid" ∨ phase = "Rejected" →
      setStatus server cluster o (text phase) message = (after,outcome) → Course server cluster o ⟨after,none,outcome,false⟩
  | stopped : Accepted o spec → reconcileChildren server cluster o spec = (after,outcome) → outcome ≠ .done →
      Course server cluster o ⟨after,none,outcome,false⟩
  | unobserved : Accepted o spec → reconcileChildren server cluster o spec = (after,.done) →
      observedState after o spec = none → Course server cluster o ⟨after,none,.failed,false⟩
  | reported : Accepted o spec → reconcileChildren server cluster o spec = (middle,.done) →
      observedState middle o spec = some (phase,message,complete) →
      setStatus server middle o (text phase) (text message) = (after,outcome) →
      Course server cluster o ⟨after,some (if o.kind = .evaluationRun then .job else .deployment),outcome,requeue⟩

variable {server : Server Quantity Extra} {cluster after : Cluster Quantity Extra} {o : CustomResource}

theorem reconcile_course {kind : Kind} {key : Key} (found : cluster.resources kind key = some o) :
    Course server cluster o (reconcile server cluster kind key) := by
  unfold reconcile
  rw [found]
  dsimp only
  split
  · rename_i message unread
    refine .unaccepted "Invalid" (fun spec accepted => ?_) (.inl rfl) rfl
    rw [accepted.1] at unread
    cases unread
  · rename_i spec parsed
    split
    · rename_i problems
      refine .unaccepted "Rejected" (fun other accepted => ?_) (.inr rfl) rfl
      cases Except.ok.inj (parsed.symm.trans accepted.1)
      exact problems accepted.2
    · rename_i clean
      have accepted : Accepted o spec := ⟨parsed,not_not.mp clean⟩
      split
      · rename_i middle done
        split
        · rename_i unobserved
          exact .unobserved accepted done unobserved
        · rename_i phase message complete observed
          exact .reported accepted done observed rfl
      · rename_i after outcome unfinished stopped
        exact .stopped accepted stopped fun same => unfinished (by rw [same])

omit [DecidableEq Quantity] [DecidableEq Extra] [Inhabited Extra] in
theorem setStatus_cases (set : setStatus server cluster o phase message = (after,outcome)) :
    (Writes server o phase message ∧ after = cluster.put (o.withStatus phase message)) ∨
      (¬ Writes server o phase message ∧ after = cluster) := by
  unfold setStatus at set
  split at set
  · rename_i settled
    exact .inr ⟨fun writes => writes.1 settled,(congrArg Prod.fst set).symm⟩
  · rename_i unsettled
    split at set
    · rename_i refused
      refine .inr ⟨fun writes => ?_,(congrArg Prod.fst set).symm⟩
      rw [writes.2] at refused
      cases refused
    · rename_i accepts
      exact .inl ⟨⟨unsettled,by simpa using accepts⟩,(congrArg Prod.fst set).symm⟩

omit [DecidableEq Quantity] [DecidableEq Extra] [Inhabited Extra] in
theorem setStatus_children (set : setStatus server cluster o phase message = (after,outcome)) :
    after.deployments = cluster.deployments ∧ after.services = cluster.services ∧ after.jobs = cluster.jobs := by
  rcases setStatus_cases set with ⟨_,rfl⟩ | ⟨_,rfl⟩ <;> exact ⟨rfl,rfl,rfl⟩

omit [DecidableEq Quantity] [DecidableEq Extra] [Inhabited Extra] in
theorem put_resources (cluster : Cluster Quantity Extra) (o : CustomResource) (kind : Kind) (key : Key) :
    (cluster.put o).resources kind key = if kind = o.kind ∧ key = o.key then some o else cluster.resources kind key := by
  change Function.update cluster.resources o.kind _ kind key = _
  by_cases sameKind : kind = o.kind
  · subst sameKind
    rw [Function.update_self]
    by_cases sameKey : key = o.key
    · subst sameKey
      rw [Function.update_self,if_pos ⟨rfl,rfl⟩]
    · rw [Function.update_of_ne sameKey,if_neg fun both => sameKey both.2]
  · rw [Function.update_of_ne sameKind,if_neg fun both => sameKind both.1]

theorem written_created (written : writeDeployment server none desired = some deployment) :
    deployment = createdDeployment server desired := by
  unfold writeDeployment at written
  dsimp only at written
  split at written
  · cases written
  · exact (Option.some.inj written).symm

theorem written_updated (written : writeDeployment server (some before) desired = some deployment) :
    deployment = updatedDeployment server before desired := by
  unfold writeDeployment at written
  dsimp only at written
  split at written
  · cases written
  · exact (Option.some.inj written).symm

inductive Deploys (server : Server Quantity Extra) (cluster : Cluster Quantity Extra) (o : CustomResource)
    (spec : WorkloadSpec) : Cluster Quantity Extra → Outcome → Prop where
  | panicked : desiredDeployment server.mustParse o.unstructured spec = none →
      Deploys server cluster o spec cluster .panicked
  | refused : desiredDeployment server.mustParse o.unstructured spec = some desired →
      writeDeployment server (cluster.deployments o.key) desired = none → Deploys server cluster o spec cluster .failed
  | halfway : desiredDeployment server.mustParse o.unstructured spec = some desired →
      writeDeployment server (cluster.deployments o.key) desired = some deployment →
      writeService server (cluster.services o.key) o spec = none →
      Deploys server cluster o spec
        {cluster with deployments := Function.update cluster.deployments o.key (some deployment)} .failed
  | done : desiredDeployment server.mustParse o.unstructured spec = some desired →
      writeDeployment server (cluster.deployments o.key) desired = some deployment →
      writeService server (cluster.services o.key) o spec = some service →
      Deploys server cluster o spec {cluster with
        deployments := Function.update cluster.deployments o.key (some deployment)
        services := Function.update cluster.services o.key (some service)} .done

theorem reconcileDeployment_deploys (server : Server Quantity Extra) (cluster : Cluster Quantity Extra)
    (o : CustomResource) (spec : WorkloadSpec) : Deploys server cluster o spec
      (reconcileDeployment server cluster o spec).1 (reconcileDeployment server cluster o spec).2 := by
  unfold reconcileDeployment
  split
  · rename_i panics
    exact .panicked panics
  · rename_i desired built
    split
    · rename_i refused
      exact .refused built refused
    · rename_i deployment written
      dsimp only
      split
      · rename_i refused
        exact .halfway built written refused
      · rename_i service served
        exact .done built written served

inductive Schedules (server : Server Quantity Extra) (cluster : Cluster Quantity Extra) (o : CustomResource)
    (spec : WorkloadSpec) : Cluster Quantity Extra → Outcome → Prop where
  | present : cluster.jobs o.key = some job → Schedules server cluster o spec cluster .done
  | panicked : cluster.jobs o.key = none → Schedules server cluster o spec cluster .panicked
  | refused : cluster.jobs o.key = none → Schedules server cluster o spec cluster .failed
  | created : cluster.jobs o.key = none → desiredJob server.mustParse o.unstructured spec = some desired →
      created = ⟨desired.metadata.labels,desired.metadata.ownerReferences,server.completeJob (jobSpec desired),0,0,default⟩ →
      Schedules server cluster o spec {cluster with jobs := Function.update cluster.jobs o.key (some created)} .done

omit [DecidableEq Quantity] [DecidableEq Extra] in
theorem reconcileJob_schedules (server : Server Quantity Extra) (cluster : Cluster Quantity Extra)
    (o : CustomResource) (spec : WorkloadSpec) : Schedules server cluster o spec
      (reconcileJob server cluster o spec).1 (reconcileJob server cluster o spec).2 := by
  unfold reconcileJob
  split
  · rename_i job present
    exact .present present
  · rename_i absent
    split
    · exact .panicked absent
    · rename_i desired built
      dsimp only
      split
      · exact .refused absent
      · exact .created absent built rfl

end OpenModelOps.OperatorReconcile
