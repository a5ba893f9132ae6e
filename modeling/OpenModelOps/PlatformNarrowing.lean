import OpenModelOps.PlatformOperator

namespace OpenModelOps.PlatformNarrowing
open JsonText PlatformSpec PlatformOperator
variable {Quantity : Type}

def FitsInt32 (n : Int) : Prop := -2^31 ≤ n ∧ n < 2^31

instance (n : Int) : Decidable (FitsInt32 n) := inferInstanceAs (Decidable (_ ∧ _))

theorem int32_exact (n : Int) : int32 n = n ↔ FitsInt32 n := by
  unfold int32 FitsInt32
  rw [Int.bmod_def]
  constructor
  · intro same
    split at same <;> omega
  · intro fits
    split <;> omega

structure Deploys (mustParse : Text → Option Quantity) (object : Object GoNumber) (spec : WorkloadSpec)
    (replicas port : Int) : Prop where
  counted : 1 ≤ replicas ∧ replicas ≤ 100
  listening : 1 ≤ port ∧ port ≤ 65535
  built : ∀ deployment, desiredDeployment mustParse object spec = some deployment → deployment.replicas = replicas ∧
    deployment.template.containers.map Container.containerPort = [port]

theorem desiredDeployment_numbers {mustParse : Text → Option Quantity}
    (built : desiredDeployment mustParse object spec = some deployment) : deployment.replicas = spec.replicas ∧
      deployment.template.containers.map Container.containerPort = [spec.port] := by
  unfold desiredDeployment podSpec at built
  cases required : resources mustParse spec with
  | none => simp [required] at built
  | some found =>
    simp only [required,Option.bind_eq_bind,Option.bind_some,Option.pure_def,Option.some.injEq] at built
    subst built
    exact ⟨rfl,rfl⟩

theorem parse_numbers (parsed : parse object = .ok spec) :
    spec.replicas = int32 ((nestedInt64 object ["spec","replicas"]).getD 1) ∧
      spec.port = int32 ((nestedInt64 object ["spec","port"]).getD 8000) := by
  unfold parse at parsed
  dsimp only at parsed
  split at parsed
  · cases parsed
  · cases Except.ok.inj parsed
    exact ⟨rfl,rfl⟩

-- An accepted object is deployed with its own numbers exactly when both survive
-- the conversion that Parse makes before Validate compares.
theorem accepted_deploys_iff_fits (mustParse : Text → Option Quantity) (object : Object GoNumber) (spec : WorkloadSpec)
    (replicas port : Int) (counted : nestedInt64 object ["spec","replicas"] = some replicas)
    (listening : nestedInt64 object ["spec","port"] = some port) (parsed : parse object = .ok spec)
    (clean : validate spec = []) :
    Deploys mustParse object spec replicas port ↔ FitsInt32 replicas ∧ FitsInt32 port := by
  obtain ⟨_,ranged⟩ := (accepted_iff object).mp ⟨spec,parsed,clean⟩
  obtain ⟨replicasSpec,portSpec⟩ := parse_numbers parsed
  simp only [Ranged,counted,listening,Option.getD_some] at ranged replicasSpec portSpec
  constructor
  · intro deploys
    obtain ⟨_,few⟩ := deploys.counted
    obtain ⟨_,small⟩ := deploys.listening
    exact ⟨⟨by omega,by omega⟩,by omega,by omega⟩
  · intro fits
    have sameReplicas := (int32_exact replicas).mpr fits.1
    have samePort := (int32_exact port).mpr fits.2
    rw [sameReplicas] at ranged replicasSpec
    rw [samePort] at ranged portSpec
    refine ⟨ranged.1,ranged.2,?_⟩
    intro deployment built
    obtain ⟨deployed,exposed⟩ := desiredDeployment_numbers built
    exact ⟨deployed.trans replicasSpec,by rw [exposed,portSpec]⟩

-- The schema of ModelDeployment has the same bounds in front of Parse; the
-- schemas of AgentDeployment and EvaluationRun have none.
def SchemaBounds (replicas port : Int) : Prop := (1 ≤ replicas ∧ replicas ≤ 100) ∧ 1 ≤ port ∧ port ≤ 65535

theorem schema_fits (bounds : SchemaBounds replicas port) : FitsInt32 replicas ∧ FitsInt32 port := by
  obtain ⟨⟨_,few⟩,_,small⟩ := bounds
  exact ⟨⟨by omega,by omega⟩,by omega,by omega⟩

def agent (replicas : Int) : Object GoNumber :=
  [(text "apiVersion",.str (text "platform.openmodelops.io/v1alpha1")),(text "kind",.str (text "AgentDeployment")),
   (text "metadata",.obj [(text "name",.str (text "support")),(text "namespace",.str (text "agents")),
     (text "uid",.str (text "u-2"))]),
   (text "spec",.obj [(text "image",.str (text "registry/support@sha256:0a")),(text "approved",.bool true),
     (text "replicas",.num (.int64 replicas)),(text "port",.num (.int64 8080)),
     (text "resources",.obj [(text "cpuRequest",.str (text "100m")),(text "memoryRequest",.str (text "128Mi")),
       (text "cpuLimit",.str (text "1")),(text "memoryLimit",.str (text "1Gi"))])])]

theorem agent_passes (replicas : Int) (low : 1 ≤ int32 replicas) (high : int32 replicas ≤ 100) :
    ∃ spec, parse (agent replicas) = .ok spec ∧ validate spec = [] := by
  have ranged : Ranged (agent replicas) := by
    have counted : nestedInt64 (agent replicas) ["spec","replicas"] = some replicas := rfl
    have listening : nestedInt64 (agent replicas) ["spec","port"] = some 8080 := rfl
    simp only [Ranged,counted,listening,Option.getD_some]
    exact ⟨⟨low,high⟩,by decide⟩
  refine (accepted_iff _).mpr ⟨⟨⟨_,rfl,by decide +kernel⟩,rfl,?_⟩,ranged⟩
  intro name member
  simp only [resourceNames,List.mem_cons,List.not_mem_nil,or_false] at member
  rcases member with rfl | rfl | rfl | rfl
  · exact ⟨_,rfl,by decide⟩
  · exact ⟨_,rfl,by decide⟩
  · exact ⟨_,rfl,by decide⟩
  · exact ⟨_,rfl,by decide⟩

theorem twoReplicas_deployed : ∃ spec, parse (agent 2) = .ok spec ∧ validate spec = [] ∧
    Deploys quantity (agent 2) spec 2 8080 := by
  obtain ⟨spec,parsed,clean⟩ := agent_passes 2 (by decide) (by decide)
  exact ⟨spec,parsed,clean,(accepted_deploys_iff_fits quantity (agent 2) spec 2 8080 rfl rfl parsed clean).mpr (by decide)⟩

-- More than four billion replicas are asked for, and one is deployed.
theorem wrapped_accepted : ¬ ∀ (mustParse : Text → Option Text) (object : Object GoNumber) (spec : WorkloadSpec)
    (replicas port : Int), nestedInt64 object ["spec","replicas"] = some replicas →
    nestedInt64 object ["spec","port"] = some port → parse object = .ok spec → validate spec = [] →
    Deploys mustParse object spec replicas port := by
  intro holds
  obtain ⟨spec,parsed,clean⟩ := agent_passes 4294967297 (by decide) (by decide)
  have deploys := holds quantity (agent 4294967297) spec 4294967297 8080 rfl rfl parsed clean
  exact absurd deploys.counted.2 (by decide)

end OpenModelOps.PlatformNarrowing
