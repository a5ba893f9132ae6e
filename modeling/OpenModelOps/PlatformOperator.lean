import OpenModelOps.PlatformSpec

namespace OpenModelOps.PlatformOperator
open JsonText PlatformSpec
variable {Quantity : Type}

-- Accessors of an unstructured object; an absent field reads as empty.
def getName (object : Object GoNumber) : Text := (nestedString object ["metadata","name"]).getD []
def getNamespace (object : Object GoNumber) : Text := (nestedString object ["metadata","namespace"]).getD []
def getUID (object : Object GoNumber) : Text := (nestedString object ["metadata","uid"]).getD []
def getKind (object : Object GoNumber) : Text := (nestedString object ["kind"]).getD []
def getAPIVersion (object : Object GoNumber) : Text := (nestedString object ["apiVersion"]).getD []

structure OwnerReference where
  apiVersion : Text
  kind : Text
  name : Text
  uid : Text
  controller : Bool
  blockOwnerDeletion : Bool

structure ObjectMeta where
  name : Text
  namespace_ : Text
  labels : List (Text × Text)
  ownerReferences : List OwnerReference

def labelsFor (object : Object GoNumber) : List (Text × Text) :=
  [(text "app.kubernetes.io/name",getName object),
   (text "app.kubernetes.io/managed-by",text "openmodelops-operator"),
   (text "openmodelops.io/kind",getKind object)]

def owner (object : Object GoNumber) : List OwnerReference :=
  [⟨getAPIVersion object,getKind object,getName object,getUID object,true,true⟩]

structure ResourceList (Quantity : Type) where
  cpu : Quantity
  memory : Quantity

structure ResourceRequirements (Quantity : Type) where
  requests : ResourceList Quantity
  limits : ResourceList Quantity

structure Container (Quantity : Type) where
  name : Text
  image : Text
  imagePullPolicy : Text
  portName : Text
  containerPort : Int
  resources : ResourceRequirements Quantity
  allowPrivilegeEscalation : Bool
  readOnlyRootFilesystem : Bool
  dropped : List Text

inductive RestartPolicy where
  | unset
  | never

structure PodSpec (Quantity : Type) where
  serviceAccountName : Text
  runAsNonRoot : Bool
  seccompProfile : Text
  containers : List (Container Quantity)
  restartPolicy : RestartPolicy

structure Deployment (Quantity : Type) where
  metadata : ObjectMeta
  replicas : Int
  selector : List (Text × Text)
  templateLabels : List (Text × Text)
  template : PodSpec Quantity

structure Job (Quantity : Type) where
  metadata : ObjectMeta
  backoffLimit : Int
  templateLabels : List (Text × Text)
  template : PodSpec Quantity

-- Below none is a panic, and mustParse stands for resource.MustParse: it has a
-- value exactly on the texts that are quantities.
def resources (mustParse : Text → Option Quantity) (spec : WorkloadSpec) : Option (ResourceRequirements Quantity) := do
  let cpuRequest ← mustParse spec.cpuRequest
  let memoryRequest ← mustParse spec.memoryRequest
  let cpuLimit ← mustParse spec.cpuLimit
  let memoryLimit ← mustParse spec.memoryLimit
  return ⟨⟨cpuRequest,memoryRequest⟩,⟨cpuLimit,memoryLimit⟩⟩

def podSpec (mustParse : Text → Option Quantity) (spec : WorkloadSpec) : Option (PodSpec Quantity) := do
  let required ← resources mustParse spec
  return ⟨spec.serviceAccount,true,text "RuntimeDefault",
    [⟨text "workload",spec.image,text "IfNotPresent",text "http",spec.port,required,false,true,[text "ALL"]⟩],.unset⟩

def metadataFor (object : Object GoNumber) : ObjectMeta :=
  ⟨getName object,getNamespace object,labelsFor object,owner object⟩

-- The desired object of reconcileDeployment.
def desiredDeployment (mustParse : Text → Option Quantity) (object : Object GoNumber) (spec : WorkloadSpec) :
    Option (Deployment Quantity) := do
  let pod ← podSpec mustParse spec
  return ⟨metadataFor object,spec.replicas,labelsFor object,labelsFor object,pod⟩

-- The desired object of reconcileJob.
def desiredJob (mustParse : Text → Option Quantity) (object : Object GoNumber) (spec : WorkloadSpec) :
    Option (Job Quantity) := do
  let pod ← podSpec mustParse spec
  return ⟨metadataFor object,1,labelsFor object,{ pod with restartPolicy := .never }⟩

def Builds (mustParse : Text → Option Quantity) (object : Object GoNumber) (spec : WorkloadSpec) : Prop :=
  (∃ deployment, desiredDeployment mustParse object spec = some deployment) ∧
    ∃ job, desiredJob mustParse object spec = some job

def Quantified (mustParse : Text → Option Quantity) (object : Object GoNumber) : Prop :=
  ∀ name ∈ resourceNames, ∃ value, nestedString object ["spec","resources",name] = some value ∧
    (mustParse value).isSome = true

theorem resources_isSome (mustParse : Text → Option Quantity) (spec : WorkloadSpec) :
    (resources mustParse spec).isSome = true ↔ (mustParse spec.cpuRequest).isSome = true ∧
      (mustParse spec.memoryRequest).isSome = true ∧ (mustParse spec.cpuLimit).isSome = true ∧
      (mustParse spec.memoryLimit).isSome = true := by
  unfold resources
  cases mustParse spec.cpuRequest with
  | none => simp
  | some cpuRequest =>
    cases mustParse spec.memoryRequest with
    | none => simp
    | some memoryRequest =>
      cases mustParse spec.cpuLimit with
      | none => simp
      | some cpuLimit => cases mustParse spec.memoryLimit <;> simp

theorem builds_iff (mustParse : Text → Option Quantity) (object : Object GoNumber) (spec : WorkloadSpec) :
    Builds mustParse object spec ↔ (resources mustParse spec).isSome = true := by
  unfold Builds desiredDeployment desiredJob podSpec
  cases resources mustParse spec <;> simp

theorem parse_resources (parsed : parse object = .ok spec) :
    spec.cpuRequest = (nestedString object ["spec","resources","cpuRequest"]).getD [] ∧
      spec.memoryRequest = (nestedString object ["spec","resources","memoryRequest"]).getD [] ∧
      spec.cpuLimit = (nestedString object ["spec","resources","cpuLimit"]).getD [] ∧
      spec.memoryLimit = (nestedString object ["spec","resources","memoryLimit"]).getD [] := by
  unfold parse at parsed
  dsimp only at parsed
  split at parsed
  · cases parsed
  · cases Except.ok.inj parsed
    exact ⟨rfl,rfl,rfl,rfl⟩

-- Validate asks the four texts to be present, the build asks them to be
-- quantities.
theorem accepted_builds_iff_quantified (mustParse : Text → Option Quantity) (object : Object GoNumber)
    (spec : WorkloadSpec) (parsed : parse object = .ok spec) (clean : validate spec = []) :
    Builds mustParse object spec ↔ Quantified mustParse object := by
  have present := ((accepted_iff object).mp ⟨spec,parsed,clean⟩).1.resourced
  obtain ⟨cpuRequest,memoryRequest,cpuLimit,memoryLimit⟩ := parse_resources parsed
  rw [builds_iff,resources_isSome,cpuRequest,memoryRequest,cpuLimit,memoryLimit]
  have given : ∀ name ∈ resourceNames, (mustParse ((nestedString object ["spec","resources",name]).getD [])).isSome = true ↔
      ∃ value, nestedString object ["spec","resources",name] = some value ∧ (mustParse value).isSome = true := by
    intro name member
    obtain ⟨value,found,_⟩ := present name member
    simp [found]
  constructor
  · rintro ⟨first,second,third,fourth⟩ name member
    refine (given name member).mp ?_
    simp only [resourceNames,List.mem_cons,List.not_mem_nil,or_false] at member
    rcases member with rfl | rfl | rfl | rfl
    · exact first
    · exact second
    · exact third
    · exact fourth
  · intro all
    have parses : ∀ name ∈ resourceNames, (mustParse ((nestedString object ["spec","resources",name]).getD [])).isSome = true :=
      fun name member => (given name member).mpr (all name member)
    exact ⟨parses "cpuRequest" (by decide),parses "memoryRequest" (by decide),parses "cpuLimit" (by decide),
      parses "memoryLimit" (by decide)⟩

-- The documented grammar of a quantity: a signed decimal and a suffix.
def suffixes : List String :=
  ["","n","u","m","k","M","G","T","P","E","Ki","Mi","Gi","Ti","Pi","Ei"]

def unsigned : Text → Text
  | 0x2b :: rest => rest
  | 0x2d :: rest => rest
  | t => t

def isExponent : Text → Bool
  | letter :: rest => (letter == 0x65 || letter == 0x45) && !(unsigned rest).isEmpty && (unsigned rest).all isDigit
  | [] => false

def quantity (t : Text) : Option Text :=
  let whole := (unsigned t).takeWhile isDigit
  let (fraction,suffix) := match (unsigned t).dropWhile isDigit with
    | 0x2e :: rest => (rest.takeWhile isDigit,rest.dropWhile isDigit)
    | rest => ([],rest)
  if (whole ++ fraction).isEmpty then none
  else if (suffixes.map text).contains suffix || isExponent suffix then some t else none

def model (cpuRequest : String) : Object GoNumber :=
  [(text "apiVersion",.str (text "openmodelops.io/v1alpha1")),(text "kind",.str (text "ModelDeployment")),
   (text "metadata",.obj [(text "name",.str (text "risk")),(text "namespace",.str (text "models")),
     (text "uid",.str (text "u-1"))]),
   (text "spec",.obj [(text "image",.str (text "registry/risk@sha256:0a")),(text "approved",.bool true),
     (text "resources",.obj [(text "cpuRequest",.str (text cpuRequest)),(text "memoryRequest",.str (text "256Mi")),
       (text "cpuLimit",.str (text "1.5")),(text "memoryLimit",.str (text "1e9"))])])]

theorem model_passes (cpuRequest : String) (given : text cpuRequest ≠ []) :
    ∃ spec, parse (model cpuRequest) = .ok spec ∧ validate spec = [] := by
  have ranged : Ranged (model cpuRequest) := by
    have replicas : nestedInt64 (model cpuRequest) ["spec","replicas"] = none := rfl
    have port : nestedInt64 (model cpuRequest) ["spec","port"] = none := rfl
    simp only [Ranged,replicas,port,Option.getD_none]
    decide
  refine (accepted_iff _).mpr ⟨⟨⟨_,rfl,by decide +kernel⟩,rfl,?_⟩,ranged⟩
  intro name member
  simp only [resourceNames,List.mem_cons,List.not_mem_nil,or_false] at member
  rcases member with rfl | rfl | rfl | rfl
  · exact ⟨_,rfl,given⟩
  · exact ⟨_,rfl,by decide⟩
  · exact ⟨_,rfl,by decide⟩
  · exact ⟨_,rfl,by decide⟩

theorem halfCpu_builds : ∃ spec, parse (model "500m") = .ok spec ∧ validate spec = [] ∧
    Builds quantity (model "500m") spec := by
  obtain ⟨spec,parsed,clean⟩ := model_passes "500m" (by decide)
  refine ⟨spec,parsed,clean,(accepted_builds_iff_quantified quantity _ spec parsed clean).mpr ?_⟩
  intro name member
  simp only [resourceNames,List.mem_cons,List.not_mem_nil,or_false] at member
  rcases member with rfl | rfl | rfl | rfl
  · exact ⟨_,rfl,by decide +kernel⟩
  · exact ⟨_,rfl,by decide +kernel⟩
  · exact ⟨_,rfl,by decide +kernel⟩
  · exact ⟨_,rfl,by decide +kernel⟩

theorem accepted_model_panics : ∃ spec, parse (model "lots") = .ok spec ∧ validate spec = [] ∧
    desiredDeployment quantity (model "lots") spec = none := by
  obtain ⟨spec,parsed,clean⟩ := model_passes "lots" (by decide)
  refine ⟨spec,parsed,clean,?_⟩
  have request : spec.cpuRequest = text "lots" := (parse_resources parsed).1
  have refused : quantity (text "lots") = none := by decide +kernel
  simp [desiredDeployment,podSpec,resources,request,refused]

end OpenModelOps.PlatformOperator
