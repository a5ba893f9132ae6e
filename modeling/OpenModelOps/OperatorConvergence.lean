import OpenModelOps.Footprints
import OpenModelOps.OperatorOwnership

namespace OpenModelOps.OperatorConvergence
open JsonText PlatformSpec PlatformOperator OperatorReconcile OperatorOwnership Footprints
variable {Quantity Extra : Type}

inductive Slot where
  | resource (kind : Kind) (key : Key)
  | deployment (key : Key)
  | service (key : Key)
  | job (key : Key)
  deriving DecidableEq

@[reducible] def Slot.Held (Quantity Extra : Type) : Slot → Type
  | .resource _ _ => Option CustomResource
  | .deployment _ => Option (DeploymentObject Quantity Extra)
  | .service _ => Option (ServiceObject Extra)
  | .job _ => Option (JobObject Quantity Extra)

def slots (cluster : Cluster Quantity Extra) : (slot : Slot) → slot.Held Quantity Extra
  | .resource kind key => cluster.resources kind key
  | .deployment key => cluster.deployments key
  | .service key => cluster.services key
  | .job key => cluster.jobs key

def footprint (kind : Kind) (key : Key) : Set Slot :=
  {slot | slot = .resource kind key ∨
    if kind = .evaluationRun then slot = .job key else slot = .deployment key ∨ slot = .service key}

abbrev Request := Kind × Key

variable [DecidableEq Quantity] [DecidableEq Extra] [Inhabited Extra]

variable {server : Server Quantity Extra} {cluster after middle : Cluster Quantity Extra} {o again : CustomResource}

-- A ModelDeployment and an AgentDeployment of one name share their Deployment
-- and their Service.
def Apart (cluster : Cluster Quantity Extra) : Prop :=
  ∀ key, cluster.resources .modelDeployment key = none ∨ cluster.resources .agentDeployment key = none

def named (held : Kind → Bool) : Cluster Text Unit where
  resources kind key := if held kind ∧ key = nightly.key then some {nightly with kind := kind, uid := text kind.value}
    else none
  deployments _ := none
  services _ := none
  jobs _ := none
  placed := by
    intro kind key o found
    split at found
    · rename_i here
      cases Option.some.inj found
      exact ⟨rfl,here.2.symm⟩
    · cases found

end OpenModelOps.OperatorConvergence
