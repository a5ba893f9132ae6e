import OpenModelOps.OperatorReconcile

namespace OpenModelOps.OperatorOwnership
open JsonText PlatformSpec PlatformOperator OperatorReconcile
variable {Quantity Extra : Type}

-- metav1.IsControlledBy
def controllerOf (references : List OwnerReference) : Option OwnerReference := references.find? OwnerReference.controller

def ControlledBy (o : CustomResource) (references : List OwnerReference) : Prop :=
  (controllerOf references).map OwnerReference.uid = some o.uid

instance (o : CustomResource) (references : List OwnerReference) : Decidable (ControlledBy o references) :=
  inferInstanceAs (Decidable (_ = _))

def Own {α : Type} (o : CustomResource) (references : α → List OwnerReference) (held : Option α) : Prop :=
  ∀ object, held = some object → ControlledBy o (references object)

def OwnDeployment (cluster : Cluster Quantity Extra) (o : CustomResource) : Prop :=
  Own o DeploymentObject.ownerReferences (cluster.deployments o.key)

def OwnService (cluster : Cluster Quantity Extra) (o : CustomResource) : Prop :=
  Own o ServiceObject.ownerReferences (cluster.services o.key)

def OwnJob (cluster : Cluster Quantity Extra) (o : CustomResource) : Prop :=
  Own o JobObject.ownerReferences (cluster.jobs o.key)

-- One call of Reconcile creates, changes and reports only own children, and of
-- the custom resources it only writes the status of its own.
structure OwnOnly (cluster : Cluster Quantity Extra) (o : CustomResource) (result : Reconciled Quantity Extra) :
    Prop where
  deployments : ∀ key, result.cluster.deployments key ≠ cluster.deployments key →
    key = o.key ∧ OwnDeployment cluster o
  services : ∀ key, result.cluster.services key ≠ cluster.services key → key = o.key ∧ OwnService cluster o
  jobs : ∀ key, result.cluster.jobs key ≠ cluster.jobs key → key = o.key ∧ OwnJob cluster o
  reportedDeployment : result.reported = some .deployment → OwnDeployment cluster o
  reportedJob : result.reported = some .job → OwnJob cluster o
  resources : ∀ kind key, ¬ (kind = o.kind ∧ key = o.key) →
    result.cluster.resources kind key = cluster.resources kind key
  status : ∃ phase message observed, result.cluster.resources o.kind o.key =
    some {o with phase := phase, message := message, observedGeneration := observed}

variable [DecidableEq Quantity] [DecidableEq Extra] [Inhabited Extra]

def TakesDeployment (server : Server Quantity Extra) (cluster : Cluster Quantity Extra) (o : CustomResource)
    (spec : WorkloadSpec) : Prop :=
  ∃ desired, desiredDeployment server.mustParse o.unstructured spec = some desired ∧
    (writeDeployment server (cluster.deployments o.key) desired).isSome = true

def TakesService (server : Server Quantity Extra) (cluster : Cluster Quantity Extra) (o : CustomResource)
    (spec : WorkloadSpec) : Prop :=
  (writeService server (cluster.services o.key) o spec).isSome = true

def FitsService (server : Server Quantity Extra) (cluster : Cluster Quantity Extra) (o : CustomResource)
    (spec : WorkloadSpec) : Prop :=
  ∃ service, cluster.services o.key = some service ∧ service.selector = labelsFor o.unstructured ∧
    service.ports = server.completePorts (servicePorts spec)

def Unclaimed (server : Server Quantity Extra) (cluster : Cluster Quantity Extra) (o : CustomResource)
    (spec : WorkloadSpec) : Prop :=
  if o.kind = .evaluationRun then OwnJob cluster o
  else TakesDeployment server cluster o spec → OwnDeployment cluster o ∧
    (TakesService server cluster o spec → OwnService cluster o ∨ FitsService server cluster o spec)

variable {server : Server Quantity Extra} {cluster after : Cluster Quantity Extra} {o : CustomResource}

theorem written_controlled (built : desiredDeployment server.mustParse o.unstructured spec = some desired)
    (written : writeDeployment server held desired = some deployment) : ControlledBy o deployment.ownerReferences := by
  have references : desired.metadata.ownerReferences = owner o.unstructured := by
    unfold desiredDeployment at built
    obtain ⟨pod,_,made⟩ := Option.bind_eq_some_iff.mp built
    cases Option.some.inj made
    rfl
  have kept : deployment.ownerReferences = desired.metadata.ownerReferences := by
    cases held with
    | none => rw [written_created written]; rfl
    | some before => rw [written_updated written]; rfl
  rw [kept,references]
  rfl

omit [DecidableEq Quantity] [DecidableEq Extra] in
theorem written_service (written : writeService server held o spec = some service) :
    service.selector = labelsFor o.unstructured ∧ service.ports = server.completePorts (servicePorts spec) := by
  unfold writeService at written
  dsimp only at written
  split at written
  · split at written
    · cases written
    · cases Option.some.inj written; exact ⟨rfl,rfl⟩
  · split at written
    · cases written
    · cases Option.some.inj written; exact ⟨rfl,rfl⟩

omit [DecidableEq Quantity] [DecidableEq Extra] in
theorem fitting_service (fits : FitsService server cluster o spec)
    (written : writeService server (cluster.services o.key) o spec = some service) :
    cluster.services o.key = some service := by
  obtain ⟨held,found,selector,ports⟩ := fits
  unfold writeService at written
  rw [found] at written ⊢
  dsimp only at written
  split at written
  · cases written
  · cases Option.some.inj written
    rw [← selector,← ports]

structure ChildFrame (cluster after : Cluster Quantity Extra) (o : CustomResource) : Prop where
  resources : after.resources = cluster.resources
  deployments : ∀ key, key ≠ o.key → after.deployments key = cluster.deployments key
  services : ∀ key, key ≠ o.key → after.services key = cluster.services key
  jobs : ∀ key, key ≠ o.key → after.jobs key = cluster.jobs key

theorem deploys_frame (deploys : Deploys server cluster o spec after outcome) :
    ChildFrame cluster after o ∧ after.jobs = cluster.jobs := by
  cases deploys with
  | panicked | refused => exact ⟨⟨rfl,fun _ _ => rfl,fun _ _ => rfl,fun _ _ => rfl⟩,rfl⟩
  | halfway =>
    exact ⟨⟨rfl,fun key other => Function.update_of_ne other _ _,fun _ _ => rfl,fun _ _ => rfl⟩,rfl⟩
  | done =>
    exact ⟨⟨rfl,fun key other => Function.update_of_ne other _ _,fun key other => Function.update_of_ne other _ _,
      fun _ _ => rfl⟩,rfl⟩

omit [DecidableEq Quantity] [DecidableEq Extra] in
theorem schedules_frame (schedules : Schedules server cluster o spec after outcome) :
    ChildFrame cluster after o ∧ after.deployments = cluster.deployments ∧ after.services = cluster.services := by
  cases schedules with
  | present | panicked | refused => exact ⟨⟨rfl,fun _ _ => rfl,fun _ _ => rfl,fun _ _ => rfl⟩,rfl,rfl⟩
  | created =>
    exact ⟨⟨rfl,fun _ _ => rfl,fun _ _ => rfl,fun key other => Function.update_of_ne other _ _⟩,rfl,rfl⟩

theorem deploys_own (deploys : Deploys server cluster o spec after outcome)
    (unclaimed : TakesDeployment server cluster o spec → OwnDeployment cluster o ∧
      (TakesService server cluster o spec → OwnService cluster o ∨ FitsService server cluster o spec)) :
    (after.deployments o.key ≠ cluster.deployments o.key ∨ outcome = .done → OwnDeployment cluster o) ∧
      (after.services o.key ≠ cluster.services o.key → OwnService cluster o) := by
  cases deploys with
  | panicked | refused =>
    refine ⟨fun changed => ?_,fun changed => absurd rfl changed⟩
    rcases changed with changed | done
    · exact absurd rfl changed
    · cases done
  | halfway built written refused =>
    have own := (unclaimed ⟨_,built,by rw [written]; rfl⟩).1
    exact ⟨fun _ => own,fun changed => absurd rfl changed⟩
  | done built written served =>
    obtain ⟨own,service⟩ := unclaimed ⟨_,built,by rw [written]; rfl⟩
    refine ⟨fun _ => own,fun changed => ?_⟩
    rcases service (by unfold TakesService; rw [served]; rfl) with mine | fits
    · exact mine
    · refine absurd ?_ changed
      change Function.update cluster.services o.key (some _) o.key = _
      rw [Function.update_self,fitting_service fits served]

theorem deploys_unclaimed (deploys : Deploys server cluster o spec after outcome)
    (deployments : after.deployments o.key ≠ cluster.deployments o.key → OwnDeployment cluster o)
    (services : after.services o.key ≠ cluster.services o.key → OwnService cluster o) :
    TakesDeployment server cluster o spec → OwnDeployment cluster o ∧
      (TakesService server cluster o spec → OwnService cluster o ∨ FitsService server cluster o spec) := by
  rintro ⟨desired,built,takes⟩
  -- A Deployment that was written is controlled by the resource from then on.
  have mine : ∀ deployment, writeDeployment server (cluster.deployments o.key) desired = some deployment →
      (some deployment ≠ cluster.deployments o.key → OwnDeployment cluster o) → OwnDeployment cluster o := by
    intro deployment written changed
    by_cases same : some deployment = cluster.deployments o.key
    · intro object held
      rw [← same] at held
      cases Option.some.inj held
      exact written_controlled built written
    · exact changed same
  cases deploys with
  | panicked panics =>
    rw [panics] at built
    cases built
  | refused again refuses =>
    cases Option.some.inj (built.symm.trans again)
    rw [refuses] at takes
    cases takes
  | halfway again written refuses =>
    cases Option.some.inj (built.symm.trans again)
    refine ⟨mine _ written fun changed => deployments ?_,fun taken => ?_⟩
    · change Function.update cluster.deployments o.key (some _) o.key ≠ _
      rw [Function.update_self]
      exact changed
    · unfold TakesService at taken
      rw [refuses] at taken
      cases taken
  | @done _ _ service again written served =>
    cases Option.some.inj (built.symm.trans again)
    refine ⟨mine _ written fun changed => deployments ?_,fun _ => ?_⟩
    · change Function.update cluster.deployments o.key (some _) o.key ≠ _
      rw [Function.update_self]
      exact changed
    · by_cases same : some service = cluster.services o.key
      · exact .inr ⟨service,same.symm,written_service served⟩
      · refine .inl (services ?_)
        change Function.update cluster.services o.key (some service) o.key ≠ _
        rw [Function.update_self]
        exact same

omit [DecidableEq Quantity] [DecidableEq Extra] [Inhabited Extra] in
theorem setStatus_frame (set : setStatus server cluster o phase message = (after,outcome))
    (found : cluster.resources o.kind o.key = some o) :
    (∀ kind key, ¬ (kind = o.kind ∧ key = o.key) → after.resources kind key = cluster.resources kind key) ∧
      ∃ phase message observed, after.resources o.kind o.key =
        some {o with phase := phase, message := message, observedGeneration := observed} := by
  rcases setStatus_cases set with ⟨_,rfl⟩ | ⟨_,rfl⟩
  · refine ⟨fun kind key other => ?_,phase,message,o.generation,?_⟩
    · exact (put_resources ..).trans (if_neg other)
    · exact (put_resources ..).trans (if_pos ⟨rfl,rfl⟩)
  · exact ⟨fun _ _ _ => rfl,o.phase,o.message,o.observedGeneration,found⟩

theorem children_frame (reconciled : reconcileChildren server cluster o spec = (after,outcome)) :
    ChildFrame cluster after o := by
  unfold reconcileChildren at reconciled
  split at reconciled
  · have schedules := reconcileJob_schedules server cluster o spec
    rw [reconciled] at schedules
    exact (schedules_frame schedules).1
  · have deploys := reconcileDeployment_deploys server cluster o spec
    rw [reconciled] at deploys
    exact (deploys_frame deploys).1

theorem children_own (reconciled : reconcileChildren server cluster o spec = (after,outcome))
    (unclaimed : Unclaimed server cluster o spec) :
    (after.deployments o.key ≠ cluster.deployments o.key → OwnDeployment cluster o) ∧
      (after.services o.key ≠ cluster.services o.key → OwnService cluster o) ∧
      (after.jobs o.key ≠ cluster.jobs o.key → OwnJob cluster o) ∧
      (outcome = .done → if o.kind = .evaluationRun then OwnJob cluster o else OwnDeployment cluster o) := by
  unfold reconcileChildren at reconciled
  unfold Unclaimed at unclaimed
  by_cases evaluation : o.kind = .evaluationRun
  · rw [if_pos evaluation] at reconciled unclaimed ⊢
    have schedules := reconcileJob_schedules server cluster o spec
    rw [reconciled] at schedules
    obtain ⟨_,deployments,services⟩ := schedules_frame schedules
    refine ⟨fun changed => absurd ?_ changed,fun changed => absurd ?_ changed,fun _ => unclaimed,fun _ => unclaimed⟩
    · exact congrFun deployments _
    · exact congrFun services _
  · rw [if_neg evaluation] at reconciled unclaimed ⊢
    have deploys := reconcileDeployment_deploys server cluster o spec
    rw [reconciled] at deploys
    obtain ⟨deployments,services⟩ := deploys_own deploys unclaimed
    refine ⟨fun changed => deployments (.inl changed),services,fun changed => absurd ?_ changed,
      fun done => deployments (.inr done)⟩
    exact congrFun (deploys_frame deploys).2 _

theorem children_unclaimed (reconciled : reconcileChildren server cluster o spec = (after,outcome))
    (deployments : after.deployments o.key ≠ cluster.deployments o.key → OwnDeployment cluster o)
    (services : after.services o.key ≠ cluster.services o.key → OwnService cluster o)
    (reported : o.kind = .evaluationRun → outcome = .done → OwnJob cluster o) :
    Unclaimed server cluster o spec := by
  unfold reconcileChildren at reconciled
  unfold Unclaimed
  by_cases evaluation : o.kind = .evaluationRun
  · rw [if_pos evaluation] at reconciled ⊢
    have schedules := reconcileJob_schedules server cluster o spec
    rw [reconciled] at schedules
    cases schedules with
    | present => exact reported evaluation rfl
    | panicked absent | refused absent | created absent =>
      intro object held
      rw [absent] at held
      cases held
  · rw [if_neg evaluation] at reconciled ⊢
    have deploys := reconcileDeployment_deploys server cluster o spec
    rw [reconciled] at deploys
    exact deploys_unclaimed deploys deployments services

theorem children_observed (reconciled : reconcileChildren server cluster o spec = (after,.done)) :
    (observedState after o spec).isSome = true := by
  unfold reconcileChildren at reconciled
  unfold observedState
  by_cases evaluation : o.kind = .evaluationRun
  · rw [if_pos evaluation] at reconciled ⊢
    have schedules := reconcileJob_schedules server cluster o spec
    rw [reconciled] at schedules
    cases schedules with
    | present found => rw [found]; rfl
    | created =>
      dsimp only
      rw [Function.update_self]
      rfl
  · rw [if_neg evaluation] at reconciled ⊢
    have deploys := reconcileDeployment_deploys server cluster o spec
    rw [reconciled] at deploys
    cases deploys with
    | done =>
      dsimp only
      rw [Function.update_self]
      rfl

theorem own_changes {α : Type} {before after : Key → Option α} {own : Prop}
    (frame : ∀ key, key ≠ o.key → after key = before key) (here : after o.key ≠ before o.key → own) :
    ∀ key, after key ≠ before key → key = o.key ∧ own := by
  intro key changed
  by_cases same : key = o.key
  · subst same
    exact ⟨rfl,here changed⟩
  · exact absurd (frame key same) changed

structure ChildrenOwn (cluster after : Cluster Quantity Extra) (o : CustomResource) : Prop where
  deployments : ∀ key, after.deployments key ≠ cluster.deployments key → key = o.key ∧ OwnDeployment cluster o
  services : ∀ key, after.services key ≠ cluster.services key → key = o.key ∧ OwnService cluster o
  jobs : ∀ key, after.jobs key ≠ cluster.jobs key → key = o.key ∧ OwnJob cluster o

omit [DecidableEq Quantity] [DecidableEq Extra] [Inhabited Extra] in
theorem setStatus_childrenOwn {middle : Cluster Quantity Extra}
    (set : setStatus server middle o phase message = (after,outcome)) :
    ChildrenOwn cluster after o ↔ ChildrenOwn cluster middle o := by
  obtain ⟨deployments,services,jobs⟩ := setStatus_children set
  constructor
  · rintro ⟨ownDeployments,ownServices,ownJobs⟩
    rw [deployments] at ownDeployments
    rw [services] at ownServices
    rw [jobs] at ownJobs
    exact ⟨ownDeployments,ownServices,ownJobs⟩
  · rintro ⟨ownDeployments,ownServices,ownJobs⟩
    rw [← deployments] at ownDeployments
    rw [← services] at ownServices
    rw [← jobs] at ownJobs
    exact ⟨ownDeployments,ownServices,ownJobs⟩

theorem unclaimed_iff (reconciled : reconcileChildren server cluster o spec = (after,outcome)) :
    Unclaimed server cluster o spec ↔ ChildrenOwn cluster after o ∧
      (outcome = .done → if o.kind = .evaluationRun then OwnJob cluster o else OwnDeployment cluster o) := by
  have frame := children_frame reconciled
  constructor
  · intro unclaimed
    obtain ⟨deployments,services,jobs,observed⟩ := children_own reconciled unclaimed
    exact ⟨⟨own_changes frame.deployments deployments,own_changes frame.services services,
      own_changes frame.jobs jobs⟩,observed⟩
  · rintro ⟨own,observed⟩
    refine children_unclaimed reconciled (fun changed => (own.deployments _ changed).2)
      (fun changed => (own.services _ changed).2) fun evaluation done => ?_
    have job := observed done
    rwa [if_pos evaluation] at job

omit [DecidableEq Quantity] [DecidableEq Extra] [Inhabited Extra] in
theorem reportedOwn_iff : (if o.kind = .evaluationRun then OwnJob cluster o else OwnDeployment cluster o) ↔
    (some (if o.kind = .evaluationRun then Child.job else .deployment) = some .deployment → OwnDeployment cluster o) ∧
      (some (if o.kind = .evaluationRun then Child.job else .deployment) = some .job → OwnJob cluster o) := by
  by_cases evaluation : o.kind = .evaluationRun
  · simp [evaluation]
  · simp [evaluation]

theorem own_only_iff (server : Server Quantity Extra) (cluster : Cluster Quantity Extra) (kind : Kind) (key : Key)
    (o : CustomResource) (found : cluster.resources kind key = some o) :
    OwnOnly cluster o (reconcile server cluster kind key) ↔
      ∀ spec, Accepted o spec → Unclaimed server cluster o spec := by
  have here : cluster.resources o.kind o.key = some o := by
    obtain ⟨sameKind,sameKey⟩ := cluster.placed kind key o found
    rw [sameKind,sameKey]
    exact found
  have course : Course server cluster o (reconcile server cluster kind key) := reconcile_course found
  generalize reconcile server cluster kind key = result at course
  cases course with
  | unaccepted phase unaccepted _ set =>
    have children : ChildrenOwn cluster _ o := (setStatus_childrenOwn set).mpr
      ⟨fun _ changed => absurd rfl changed,fun _ changed => absurd rfl changed,fun _ changed => absurd rfl changed⟩
    obtain ⟨others,status⟩ := setStatus_frame set here
    refine ⟨fun _ spec accepted => absurd accepted (unaccepted spec),fun _ =>
      ⟨children.deployments,children.services,children.jobs,?_,?_,others,status⟩⟩
    · exact fun reported => by cases reported
    · exact fun reported => by cases reported
  | @stopped spec after outcome accepted reconciled unfinished =>
    have frame := children_frame reconciled
    constructor
    · intro own other also
      cases accepted.unique also
      exact (unclaimed_iff reconciled).mpr
        ⟨⟨own.deployments,own.services,own.jobs⟩,fun done => absurd done unfinished⟩
    · intro unclaimed
      obtain ⟨children,_⟩ := (unclaimed_iff reconciled).mp (unclaimed spec accepted)
      refine ⟨children.deployments,children.services,children.jobs,(fun reported => by cases reported),
        (fun reported => by cases reported),?_,?_⟩
      · exact fun kind key _ => congrFun (congrFun frame.resources kind) key
      · refine ⟨o.phase,o.message,o.observedGeneration,?_⟩
        dsimp only
        rw [frame.resources]
        exact here
  | unobserved accepted reconciled missing =>
    have observed := children_observed reconciled
    rw [missing] at observed
    cases observed
  | @reported spec middle phase message complete after outcome requeue accepted reconciled observed set =>
    have frame := children_frame reconciled
    obtain ⟨others,status⟩ := setStatus_frame set (by rw [frame.resources]; exact here)
    constructor
    · intro own other also
      cases accepted.unique also
      have children : ChildrenOwn cluster after o := ⟨own.deployments,own.services,own.jobs⟩
      have mine := reportedOwn_iff.mpr ⟨own.reportedDeployment,own.reportedJob⟩
      exact (unclaimed_iff reconciled).mpr ⟨(setStatus_childrenOwn set).mp children,fun _ => mine⟩
    · intro unclaimed
      obtain ⟨touched,done⟩ := (unclaimed_iff reconciled).mp (unclaimed spec accepted)
      have children : ChildrenOwn cluster after o := (setStatus_childrenOwn set).mpr touched
      obtain ⟨deployment,job⟩ := reportedOwn_iff.mp (done rfl)
      refine ⟨children.deployments,children.services,children.jobs,deployment,job,?_,status⟩
      intro kind key other
      dsimp only
      rw [others kind key other,frame.resources]

def openServer : Server Text Unit :=
  ⟨fun _ _ => false,fun _ _ => false,fun _ => false,fun _ => false,id,id,id,quantity⟩

def nightly : CustomResource where
  apiVersion := text "platform.openmodelops.io/v1alpha1"
  kind := .evaluationRun
  namespace_ := text "models"
  name := text "nightly"
  uid := text "u-1"
  generation := 1
  spec := .obj [(text "image",.str (text "registry/eval@sha256:0a")),(text "approved",.bool true),
    (text "resources",.obj [(text "cpuRequest",.str (text "500m")),(text "memoryRequest",.str (text "256Mi")),
      (text "cpuLimit",.str (text "1")),(text "memoryLimit",.str (text "1Gi"))])]
  phase := []
  message := []
  observedGeneration := 0

def handmadeJob : JobObject Text Unit :=
  ⟨[],[],⟨6,[],⟨text "default",false,[],[],.never⟩,()⟩,1,0,()⟩

def clusterWith (job : Option (JobObject Text Unit)) : Cluster Text Unit where
  resources kind key := if kind = .evaluationRun ∧ key = nightly.key then some nightly else none
  deployments _ := none
  services _ := none
  jobs key := if key = nightly.key then job else none
  placed := by
    intro kind key o found
    split at found
    · rename_i here
      cases Option.some.inj found
      exact ⟨here.1.symm,here.2.symm⟩
    · cases found

theorem handmade_job_reported : ¬ ∀ (server : Server Text Unit) (cluster : Cluster Text Unit) (kind : Kind) (key : Key)
    (o : CustomResource), cluster.resources kind key = some o → OwnOnly cluster o (reconcile server cluster kind key) := by
  intro holds
  have own := holds openServer (clusterWith (some handmadeJob)) .evaluationRun nightly.key nightly rfl
  have reported : (reconcile openServer (clusterWith (some handmadeJob)) .evaluationRun nightly.key).reported =
      some .job := by decide +kernel
  have controlled := own.reportedJob reported handmadeJob rfl
  exact absurd controlled (by decide)

theorem first_run_own : (reconcile openServer (clusterWith none) .evaluationRun nightly.key).reported = some .job ∧
    OwnOnly (clusterWith none) nightly (reconcile openServer (clusterWith none) .evaluationRun nightly.key) := by
  refine ⟨by decide +kernel,(own_only_iff openServer (clusterWith none) .evaluationRun nightly.key nightly rfl).mpr ?_⟩
  intro spec _ job held
  cases held

end OpenModelOps.OperatorOwnership
