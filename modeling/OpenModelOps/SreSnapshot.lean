import OpenModelOps.SreAnalyzers

namespace OpenModelOps.SreSnapshot
open KeyedTable PythonText SreAnalyzers

-- What the client reads of the objects of the Kubernetes API. An absent list is
-- read as an empty one.

structure OwnerReference where
  kind : String
  name : String
  uid : String
  controller : Bool := false
  deriving DecidableEq

structure ObjectMeta where
  namespace_ : String
  name : String
  uid : String
  resourceVersion : String := ""
  ownerReferences : List OwnerReference := []
  deriving DecidableEq

structure ReplicaSet where
  metadata : ObjectMeta
  deriving DecidableEq

structure ContainerStateWaiting where
  reason : Option String

structure ContainerState where
  waiting : Option ContainerStateWaiting

structure ContainerStatus where
  restartCount : Int
  state : Option ContainerState

structure Pod where
  metadata : ObjectMeta
  containerStatuses : List ContainerStatus

structure Container where
  image : String
  readinessProbe : Bool
  livenessProbe : Bool

structure Deployment where
  metadata : ObjectMeta
  replicas : Option Int
  readyReplicas : Option Int
  containers : List Container

structure HorizontalPodAutoscaler where
  metadata : ObjectMeta
  scaleTarget : String
  currentReplicas : Option Int
  maxReplicas : Int

structure Listing where
  namespaces : List String := []
  replicaSets : List ReplicaSet
  pods : List Pod
  deployments : List Deployment
  autoscalers : List HorizontalPodAutoscaler := []

-- OfficialKubernetesClient.snapshot.

def ReplicaSet.deploymentOwner (replicaSet : ReplicaSet) : String :=
  ((replicaSet.metadata.ownerReferences.find? fun owner => decide (owner.kind = "Deployment")).map
    OwnerReference.name).getD replicaSet.metadata.name

def replicaSetOwners (replicaSets : List ReplicaSet) : Dict (String × String) String :=
  Dict.ofRows (replicaSets.map fun replicaSet =>
    ((replicaSet.metadata.namespace_,replicaSet.metadata.name),replicaSet.deploymentOwner))

def ownerOf (owners : Dict (String × String) String) (pod : Pod) : String :=
  match pod.metadata.ownerReferences with
  | [] => pod.metadata.name
  | first :: _ =>
    if first.kind = "ReplicaSet" then (Dict.get owners (pod.metadata.namespace_,first.name)).getD first.name
    else first.name

def keyOf (owners : Dict (String × String) String) (pod : Pod) : String × String :=
  (pod.metadata.namespace_,ownerOf owners pod)

-- reasons is a set.
structure Metric where
  restarts : Int := 0
  reasons : List String := []

-- status.state.waiting.reason, where each of them is there and not empty.
def ContainerStatus.waitingReason (status : ContainerStatus) : Option String :=
  ((status.state.bind ContainerState.waiting).bind ContainerStateWaiting.reason).filter fun reason => decide (reason ≠ "")

def Metric.addStatus (metric : Metric) (status : ContainerStatus) : Metric where
  restarts := metric.restarts + status.restartCount
  reasons := match status.waitingReason with
    | some reason => metric.reasons.insert reason
    | none => metric.reasons

def Metric.add (metric : Metric) (pod : Pod) : Metric := pod.containerStatuses.foldl Metric.addStatus metric

def podMetrics (owners : Dict (String × String) String) (pods : List Pod) : Dict (String × String) Metric :=
  Dict.accumulate (keyOf owners) {} Metric.add pods

def sorted (names : List String) : List String := names.insertionSort (· ≤ ·)

def workloadOf (metrics : Dict (String × String) Metric) (deployment : Deployment) : Workload :=
  let metric := (Dict.get metrics (deployment.metadata.namespace_,deployment.metadata.name)).getD {}
  { kind := "Deployment"
    namespace_ := deployment.metadata.namespace_
    name := deployment.metadata.name
    uid := deployment.metadata.uid
    resourceVersion := deployment.metadata.resourceVersion
    desiredReplicas := deployment.replicas.getD 0
    readyReplicas := deployment.readyReplicas.getD 0
    restartCount := metric.restarts
    waitingReasons := sorted metric.reasons
    images := deployment.containers.map Container.image
    hasReadinessProbe := deployment.containers.all Container.readinessProbe
    hasLivenessProbe := deployment.containers.all Container.livenessProbe }

def autoscalerOf (item : HorizontalPodAutoscaler) : Autoscaler where
  namespace_ := item.metadata.namespace_
  name := item.metadata.name
  target := item.scaleTarget
  currentReplicas := item.currentReplicas.getD 0
  maximumReplicas := item.maxReplicas

def snapshot (listing : Listing) (cluster : String) (now : Instant) : ClusterSnapshot where
  cluster := cluster
  collectedAt := now
  workloads := listing.deployments.map (workloadOf (podMetrics (replicaSetOwners listing.replicaSets) listing.pods))
  autoscalers := listing.autoscalers.map autoscalerOf
  namespaces := sorted listing.namespaces

-- Who owns whom: an object is known by its namespace, kind, name and uid.

def ReplicaSet.OwnedBy (replicaSet : ReplicaSet) (deployment : Deployment) : Prop :=
  replicaSet.metadata.namespace_ = deployment.metadata.namespace_ ∧
    ∃ owner ∈ replicaSet.metadata.ownerReferences, owner.kind = "Deployment" ∧
      owner.name = deployment.metadata.name ∧ owner.uid = deployment.metadata.uid

def Pod.ControlledBy (pod : Pod) (replicaSet : ReplicaSet) : Prop :=
  pod.metadata.namespace_ = replicaSet.metadata.namespace_ ∧
    ∃ owner ∈ pod.metadata.ownerReferences, owner.controller = true ∧ owner.kind = "ReplicaSet" ∧
      owner.name = replicaSet.metadata.name ∧ owner.uid = replicaSet.metadata.uid

def Pod.BelongsTo (listing : Listing) (deployment : Deployment) (pod : Pod) : Prop :=
  ∃ replicaSet ∈ listing.replicaSets, replicaSet.OwnedBy deployment ∧ pod.ControlledBy replicaSet

instance (replicaSet : ReplicaSet) (deployment : Deployment) : Decidable (replicaSet.OwnedBy deployment) :=
  inferInstanceAs (Decidable (_ ∧ ∃ owner ∈ replicaSet.metadata.ownerReferences, _))

instance (pod : Pod) (replicaSet : ReplicaSet) : Decidable (pod.ControlledBy replicaSet) :=
  inferInstanceAs (Decidable (_ ∧ ∃ owner ∈ pod.metadata.ownerReferences, _))

instance (listing : Listing) (deployment : Deployment) (pod : Pod) : Decidable (pod.BelongsTo listing deployment) :=
  inferInstanceAs (Decidable (∃ replicaSet ∈ listing.replicaSets, _))

def Pod.restarts (pod : Pod) : Int := (pod.containerStatuses.map ContainerStatus.restartCount).sum

def Pod.reasons (pod : Pod) : List String := pod.containerStatuses.filterMap ContainerStatus.waitingReason

def restarts (pods : List Pod) : Int := (pods.map Pod.restarts).sum

def Waits (pods : List Pod) (reason : String) : Prop := ∃ pod ∈ pods, reason ∈ pod.reasons

structure Metric.Counts (metric : Metric) (pods : List Pod) : Prop where
  restarts : metric.restarts = SreSnapshot.restarts pods
  reasons : ∀ reason, reason ∈ metric.reasons ↔ Waits pods reason
  distinct : metric.reasons.Nodup

theorem addStatus_parts (metric : Metric) (status : ContainerStatus) :
    (∀ reason, reason ∈ (metric.addStatus status).reasons ↔
      reason ∈ metric.reasons ∨ status.waitingReason = some reason) ∧
    (metric.reasons.Nodup → (metric.addStatus status).reasons.Nodup) := by
  unfold Metric.addStatus
  cases status.waitingReason with
  | none => simp
  | some waiting =>
    refine ⟨fun reason => ?_,fun distinct => distinct.insert⟩
    rw [List.mem_insert_iff,Option.some.injEq,or_comm,eq_comm]

theorem add_restarts (metric : Metric) (pod : Pod) : (metric.add pod).restarts = metric.restarts + pod.restarts := by
  unfold Metric.add Pod.restarts
  induction pod.containerStatuses generalizing metric with
  | nil => simp
  | cons status rest ih =>
    rw [List.foldl_cons,ih,List.map_cons,List.sum_cons,← Int.add_assoc]
    rfl

theorem add_reasons (metric : Metric) (pod : Pod) :
    (∀ reason, reason ∈ (metric.add pod).reasons ↔ reason ∈ metric.reasons ∨ reason ∈ pod.reasons) ∧
    (metric.reasons.Nodup → (metric.add pod).reasons.Nodup) := by
  unfold Metric.add Pod.reasons
  induction pod.containerStatuses generalizing metric with
  | nil => simp
  | cons status rest ih =>
    obtain ⟨members,distinct⟩ := ih (metric.addStatus status)
    obtain ⟨added,kept⟩ := addStatus_parts metric status
    refine ⟨fun reason => ?_,fun nodup => distinct (kept nodup)⟩
    rw [List.foldl_cons,members,added]
    simp [List.mem_filterMap,or_assoc]

theorem Metric.Counts.add {metric : Metric} {pods : List Pod} (counts : metric.Counts pods) (pod : Pod) :
    (metric.add pod).Counts (pods ++ [pod]) := by
  obtain ⟨members,distinct⟩ := add_reasons metric pod
  refine ⟨?_,?_,distinct counts.distinct⟩
  · rw [add_restarts,counts.restarts]
    simp [SreSnapshot.restarts]
  · intro reason
    rw [members,counts.reasons]
    simp [Waits,or_and_right,exists_or]

theorem foldl_counts {metric : Metric} {pods : List Pod} (counts : metric.Counts pods) (more : List Pod) :
    (more.foldl Metric.add metric).Counts (pods ++ more) := by
  induction more generalizing metric pods with
  | nil => simpa using counts
  | cons pod rest ih => simpa using ih (counts.add pod)

def lastNamed (replicaSets : List ReplicaSet) (namespace_ name : String) : Option ReplicaSet :=
  replicaSets.reverse.find? fun replicaSet =>
    decide ((replicaSet.metadata.namespace_,replicaSet.metadata.name) = (namespace_,name))

def firstDeployment (replicaSet : ReplicaSet) : Option OwnerReference :=
  replicaSet.metadata.ownerReferences.find? fun owner => decide (owner.kind = "Deployment")

inductive Leads (listing : Listing) (pod : Pod) : String → Prop where
  | bare : pod.metadata.ownerReferences = [] → Leads listing pod pod.metadata.name
  | other : pod.metadata.ownerReferences = first :: rest → first.kind ≠ "ReplicaSet" → Leads listing pod first.name
  | unlisted : pod.metadata.ownerReferences = first :: rest → first.kind = "ReplicaSet" →
      lastNamed listing.replicaSets pod.metadata.namespace_ first.name = none → Leads listing pod first.name
  | unowned : pod.metadata.ownerReferences = first :: rest → first.kind = "ReplicaSet" →
      lastNamed listing.replicaSets pod.metadata.namespace_ first.name = some replicaSet →
      firstDeployment replicaSet = none → Leads listing pod first.name
  | deployed : pod.metadata.ownerReferences = first :: rest → first.kind = "ReplicaSet" →
      lastNamed listing.replicaSets pod.metadata.namespace_ first.name = some replicaSet →
      firstDeployment replicaSet = some owner → Leads listing pod owner.name

def Pod.GoesTo (listing : Listing) (deployment : Deployment) (pod : Pod) : Prop :=
  pod.metadata.namespace_ = deployment.metadata.namespace_ ∧ Leads listing pod deployment.metadata.name

theorem get_replicaSetOwners (replicaSets : List ReplicaSet) (namespace_ name : String) :
    Dict.get (replicaSetOwners replicaSets) (namespace_,name) =
      (lastNamed replicaSets namespace_ name).map ReplicaSet.deploymentOwner := by
  rw [replicaSetOwners,Dict.get_ofRows_last,← List.map_reverse,List.find?_map,Option.map_map]
  rfl

theorem lastNamed_name {replicaSets : List ReplicaSet} (found : lastNamed replicaSets namespace_ name = some replicaSet) :
    replicaSet.metadata.name = name := by
  have named := List.find?_some found
  simp only [decide_eq_true_eq,Prod.mk.injEq] at named
  exact named.2

theorem deploymentOwner_named (owned : firstDeployment replicaSet = some owner) :
    replicaSet.deploymentOwner = owner.name := by
  unfold firstDeployment at owned
  rw [ReplicaSet.deploymentOwner,owned,Option.map_some,Option.getD_some]

theorem deploymentOwner_self (none : firstDeployment replicaSet = none) :
    replicaSet.deploymentOwner = replicaSet.metadata.name := by
  unfold firstDeployment at none
  rw [ReplicaSet.deploymentOwner,none,Option.map_none,Option.getD_none]

theorem Leads.owner (leads : Leads listing pod name) : ownerOf (replicaSetOwners listing.replicaSets) pod = name := by
  cases leads with
  | bare none => simp only [ownerOf,none]
  | other owners kind => simp only [ownerOf,owners,if_neg kind]
  | unlisted owners kind absent => simp [ownerOf,owners,kind,get_replicaSetOwners,absent]
  | unowned owners kind found none =>
    simp [ownerOf,owners,kind,get_replicaSetOwners,found,deploymentOwner_self none,lastNamed_name found]
  | deployed owners kind found owned =>
    simp [ownerOf,owners,kind,get_replicaSetOwners,found,deploymentOwner_named owned]

theorem ownerOf_leads (listing : Listing) (pod : Pod) :
    Leads listing pod (ownerOf (replicaSetOwners listing.replicaSets) pod) := by
  unfold ownerOf
  cases owners : pod.metadata.ownerReferences with
  | nil => exact .bare owners
  | cons first rest =>
    dsimp only
    split
    · rename_i kind
      rw [get_replicaSetOwners]
      cases found : lastNamed listing.replicaSets pod.metadata.namespace_ first.name with
      | none => exact .unlisted owners kind found
      | some replicaSet =>
        rw [Option.map_some,Option.getD_some]
        cases owned : firstDeployment replicaSet with
        | none =>
          rw [deploymentOwner_self owned,lastNamed_name found]
          exact .unowned owners kind found owned
        | some owner =>
          rw [deploymentOwner_named owned]
          exact .deployed owners kind found owned
    · rename_i kind
      exact .other owners kind

theorem leads_iff {listing : Listing} {pod : Pod} {name : String} :
    Leads listing pod name ↔ ownerOf (replicaSetOwners listing.replicaSets) pod = name := by
  constructor
  · exact Leads.owner
  · intro same
    rw [← same]
    exact ownerOf_leads listing pod

theorem goesTo_iff {listing : Listing} {deployment : Deployment} {pod : Pod} :
    pod.GoesTo listing deployment ↔
      keyOf (replicaSetOwners listing.replicaSets) pod = (deployment.metadata.namespace_,deployment.metadata.name) := by
  rw [Pod.GoesTo,leads_iff,keyOf,Prod.mk.injEq]

instance (listing : Listing) (deployment : Deployment) (pod : Pod) : Decidable (pod.GoesTo listing deployment) :=
  decidable_of_iff _ goesTo_iff.symm

def owned (listing : Listing) (deployment : Deployment) : List Pod :=
  listing.pods.filter fun pod => decide (pod.BelongsTo listing deployment)

def counted (listing : Listing) (deployment : Deployment) : List Pod :=
  listing.pods.filter fun pod => decide (pod.GoesTo listing deployment)

structure Accounts (listing : Listing) (deployment : Deployment) (workload : Workload) : Prop where
  restarts : workload.restartCount = restarts (owned listing deployment)
  reasons : ∀ reason, reason ∈ workload.waitingReasons ↔ Waits (owned listing deployment) reason
  distinct : workload.waitingReasons.Nodup

-- No pod is stray, which reaches a deployment by a name and is not its own, and
-- none is overlooked.
def Attributed (listing : Listing) : Prop :=
  ∀ deployment ∈ listing.deployments, ∀ pod ∈ listing.pods,
    pod.GoesTo listing deployment ↔ pod.BelongsTo listing deployment

instance (listing : Listing) : Decidable (Attributed listing) :=
  inferInstanceAs (Decidable (∀ deployment ∈ listing.deployments, ∀ pod ∈ listing.pods, _))

theorem metrics_counted (listing : Listing) (deployment : Deployment) :
    ((Dict.get (podMetrics (replicaSetOwners listing.replicaSets) listing.pods)
      (deployment.metadata.namespace_,deployment.metadata.name)).getD {}).Counts (counted listing deployment) := by
  have keyed : counted listing deployment = listing.pods.filter fun pod => decide
      (keyOf (replicaSetOwners listing.replicaSets) pod = (deployment.metadata.namespace_,deployment.metadata.name)) := by
    exact List.filter_congr fun pod _ => decide_eq_decide.mpr goesTo_iff
  have nothing : Metric.Counts {} [] := ⟨rfl,by simp [Waits],.nil⟩
  rw [podMetrics,Dict.accumulate_getD,keyed]
  simpa using foldl_counts nothing _

theorem workloadOf_counts (listing : Listing) (deployment : Deployment) :
    let workload := workloadOf (podMetrics (replicaSetOwners listing.replicaSets) listing.pods) deployment
    workload.restartCount = restarts (counted listing deployment) ∧
      (∀ reason, reason ∈ workload.waitingReasons ↔ Waits (counted listing deployment) reason) ∧
      workload.waitingReasons.Nodup := by
  have counts := metrics_counted listing deployment
  refine ⟨counts.restarts,fun reason => ?_,?_⟩
  · exact (List.mem_insertionSort _).trans (counts.reasons reason)
  · exact (List.perm_insertionSort _ _).nodup_iff.mpr counts.distinct

theorem snapshot_accounts (listing : Listing) (cluster : String) (now : Instant) :
    List.Forall₂ (Accounts listing) listing.deployments (snapshot listing cluster now).workloads ↔
      ∀ deployment ∈ listing.deployments, Accounts listing deployment
        (workloadOf (podMetrics (replicaSetOwners listing.replicaSets) listing.pods) deployment) := by
  unfold snapshot
  rw [List.forall₂_map_right_iff,List.forall₂_same]

theorem attributed_accounts (attributed : Attributed listing) (listed : deployment ∈ listing.deployments) :
    Accounts listing deployment
      (workloadOf (podMetrics (replicaSetOwners listing.replicaSets) listing.pods) deployment) := by
  have same : counted listing deployment = owned listing deployment :=
    List.filter_congr fun pod member => decide_eq_decide.mpr (attributed deployment listed pod member)
  obtain ⟨restarts,reasons,distinct⟩ := workloadOf_counts listing deployment
  rw [same] at restarts
  rw [same] at reasons
  exact ⟨restarts,reasons,distinct⟩

def relisted (listing : Listing) (statuses : Pod → List ContainerStatus) : Listing :=
  {listing with pods := listing.pods.map fun pod => {pod with containerStatuses := statuses pod}}

def crashing (stuck pod : Pod) : List ContainerStatus :=
  if pod.metadata = stuck.metadata then [⟨0,some ⟨some ⟨some "CrashLoopBackOff"⟩⟩⟩] else []

theorem crashing_reasons (stuck pod : Pod) : "CrashLoopBackOff" ∈
    (Pod.reasons {pod with containerStatuses := crashing stuck pod}) ↔ pod.metadata = stuck.metadata := by
  unfold crashing
  split
  · rename_i same
    exact iff_of_true (by simp [Pod.reasons,ContainerStatus.waitingReason]) same
  · rename_i apart
    exact iff_of_false (by simp [Pod.reasons]) apart

theorem crashing_waits {keeps : Pod → Bool} (member : stuck ∈ listing.pods)
    (same : ∀ pod other : Pod, pod.metadata = other.metadata → keeps pod = keeps other) :
    Waits ((relisted listing (crashing stuck)).pods.filter keeps) "CrashLoopBackOff" ↔ keeps stuck = true := by
  constructor
  · rintro ⟨shown,inside,waiting⟩
    obtain ⟨listed,kept⟩ := List.mem_filter.mp inside
    obtain ⟨pod,_,rfl⟩ := List.mem_map.mp listed
    rw [← kept]
    exact same stuck _ ((crashing_reasons stuck pod).mp waiting).symm
  · intro kept
    refine ⟨{stuck with containerStatuses := crashing stuck stuck},List.mem_filter.mpr ⟨?_,?_⟩,?_⟩
    · exact List.mem_map.mpr ⟨stuck,member,rfl⟩
    · rw [← kept]
      exact same _ _ rfl
    · exact (crashing_reasons stuck stuck).mpr rfl

theorem goesTo_metadata {pod other : Pod} (same : pod.metadata = other.metadata) :
    pod.GoesTo listing deployment ↔ other.GoesTo listing deployment := by
  rw [goesTo_iff,goesTo_iff,keyOf,keyOf,ownerOf,ownerOf,same]

theorem belongsTo_metadata {pod other : Pod} (same : pod.metadata = other.metadata) :
    pod.BelongsTo listing deployment ↔ other.BelongsTo listing deployment := by
  simp only [Pod.BelongsTo,Pod.ControlledBy,same]

theorem relisted_goesTo {pod : Pod} (statuses : Pod → List ContainerStatus) :
    pod.GoesTo (relisted listing statuses) deployment ↔ pod.GoesTo listing deployment := by
  rw [goesTo_iff,goesTo_iff]
  rfl

theorem accounts_attributed (member : stuck ∈ listing.pods)
    (accounts : Accounts (relisted listing (crashing stuck)) deployment
      (workloadOf (podMetrics (replicaSetOwners listing.replicaSets) (relisted listing (crashing stuck)).pods) deployment)) :
    stuck.GoesTo listing deployment ↔ stuck.BelongsTo listing deployment := by
  obtain ⟨_,reasons,_⟩ := workloadOf_counts (relisted listing (crashing stuck)) deployment
  have alike := (reasons "CrashLoopBackOff").symm.trans (accounts.reasons "CrashLoopBackOff")
  rw [counted,owned,crashing_waits member,crashing_waits member,decide_eq_true_eq,decide_eq_true_eq] at alike
  · exact (relisted_goesTo (crashing stuck)).symm.trans alike
  · exact fun pod other same => decide_eq_decide.mpr (belongsTo_metadata same)
  · exact fun pod other same => decide_eq_decide.mpr (goesTo_metadata same)

-- The workloads of a snapshot describe the own pods of their deployments when
-- no pod is stray or overlooked. When one is, they do not as soon as it waits.
theorem snapshot_accounts_attributed (listing : Listing) (cluster : String) (now : Instant) :
    (Attributed listing →
      List.Forall₂ (Accounts listing) listing.deployments (snapshot listing cluster now).workloads) ∧
    (¬ Attributed listing → ∃ statuses,
      ¬ List.Forall₂ (Accounts (relisted listing statuses)) listing.deployments
        (snapshot (relisted listing statuses) cluster now).workloads) := by
  constructor
  · intro attributed
    exact (snapshot_accounts listing cluster now).mpr fun deployment listed => attributed_accounts attributed listed
  · intro astray
    by_contra holds
    simp only [not_exists,not_not] at holds
    refine astray fun deployment listed stuck member => accounts_attributed member ?_
    exact (snapshot_accounts (relisted listing (crashing stuck)) cluster now).mp (holds _) deployment listed

def web : Deployment where
  metadata := {namespace_ := "shop", name := "web", uid := "d-1"}
  replicas := some 1
  readyReplicas := some 1
  containers := [⟨"shop/web:1.4",true,true⟩]

def webSet : ReplicaSet where
  metadata := {namespace_ := "shop", name := "web-6f", uid := "r-1", ownerReferences := [⟨"Deployment","web","d-1",true⟩]}

def webPod : Pod where
  metadata :=
    {namespace_ := "shop", name := "web-6f-1", uid := "p-2", ownerReferences := [⟨"ReplicaSet","web-6f","r-1",true⟩]}
  containerStatuses := [⟨2,some ⟨some ⟨some "ImagePullBackOff"⟩⟩⟩]

def shop : Listing where
  replicaSets := [webSet]
  pods := [webPod]
  deployments := [web]

theorem shop_accounts : List.Forall₂ (Accounts shop) shop.deployments (snapshot shop "test" 0).workloads ∧
    restarts (owned shop web) = 2 :=
  ⟨(snapshot_accounts_attributed shop "test" 0).1 (by decide +kernel),by decide +kernel⟩

def databasePod : Pod where
  metadata := {namespace_ := "shop", name := "web-0", uid := "p-1", ownerReferences := [⟨"StatefulSet","web","s-1",true⟩]}
  containerStatuses := [⟨7,some ⟨some ⟨some "CrashLoopBackOff"⟩⟩⟩]

theorem namesake_counted : ¬ ∀ (listing : Listing) (cluster : String) (now : Instant),
    List.Forall₂ (Accounts listing) listing.deployments (snapshot listing cluster now).workloads := by
  intro holds
  have accounted := holds {replicaSets := [], pods := [databasePod], deployments := [web]} "test" 0
  obtain ⟨accounts,_⟩ := List.forall₂_cons.mp accounted
  have same := accounts.restarts
  revert same
  decide +kernel

end OpenModelOps.SreSnapshot
