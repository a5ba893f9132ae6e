import OpenModelOps.AuditTrail
import OpenModelOps.KeyedTable
import OpenModelOps.ObjectMethods
import OpenModelOps.PythonText
import OpenModelOps.RunHistory

namespace OpenModelOps.AiopsIncident
open AuditTrail KeyedTable ObjectMethods PythonText RunHistory

inductive IncidentState where
  | detected | correlated | investigating | recommended | approved | executing | verifying | resolved | escalated
  deriving DecidableEq

def IncidentState.value : IncidentState → String
  | .detected => "detected"
  | .correlated => "correlated"
  | .investigating => "investigating"
  | .recommended => "recommended"
  | .approved => "approved"
  | .executing => "executing"
  | .verifying => "verifying"
  | .resolved => "resolved"
  | .escalated => "escalated"

structure Signal where
  source : String
  service : String
  severity : String
  fingerprint : String
  observedAt : Instant
  attributes : Dict String String

structure Remediation where
  action : String
  target : String
  rationale : String
  risk : String
  rollback : String
  sideEffecting : Bool
  deriving DecidableEq

-- The audit list holds the values of the two states, which tell them apart.
structure AuditEntry where
  source : IncidentState
  target : IncidentState
  actor : String
  reason : String
  at_ : String
  deriving DecidableEq

structure Incident where
  service : String
  signals : List Signal
  incidentId : String
  state : IncidentState
  recommendation : Option Remediation
  approvedBy : Option String
  audit : List AuditEntry

def risks : List String := ["low","medium","high"]

namespace Incident

def fresh (service : String) (signals : List Signal) (incidentId : String) : Incident :=
  ⟨service,signals,incidentId,.detected,none,none,[]⟩

def move (target : IncidentState) (actor reason : String) (now : Instant) : Method Incident Unit := do
  modify fun self => {self with audit := self.audit ++ [⟨self.state,target,actor,reason,isoformat now⟩]}
  modify fun self => {self with state := target}

def correlate (actor : String) (now : Instant) : Method Incident Unit := do
  let self ← get
  refuse (self.state ≠ .detected ∨ self.signals.any (fun signal => signal.service != self.service) = true)
    "incident signals cannot be correlated"
  move .correlated actor "signals correlated by service" now

def investigate (actor : String) (now : Instant) : Method Incident Unit := do
  let self ← get
  refuse (self.state ≠ .correlated) "incident must be correlated first"
  move .investigating actor "investigation started" now

def recommend (remediation : Remediation) (actor : String) (now : Instant) : Method Incident Unit := do
  let self ← get
  refuse (self.state ≠ .investigating) "incident must be under investigation"
  refuse (remediation.sideEffecting = true ∧ (remediation.rollback = "" ∨ remediation.risk ∉ risks))
    "side-effecting remediation requires risk and rollback"
  modify fun self => {self with recommendation := some remediation}
  move .recommended actor remediation.rationale now

def approve (approver : String) (now : Instant) : Method Incident Unit := do
  let self ← get
  refuse (self.state ≠ .recommended) "only a recommendation can be approved"
  refuse (∃ entry ∈ self.audit, entry.actor = approver ∧ entry.target = .recommended)
    "recommendation author cannot approve remediation"
  modify fun self => {self with approvedBy := some approver}
  move .approved approver "remediation approved" now

def execute (actor : String) (now : Instant) : Method Incident Unit := do
  let self ← get
  refuse (self.state ≠ .approved ∨ self.recommendation = none) "approved remediation required"
  move .executing actor ((self.recommendation.map Remediation.action).getD "") now

def verify (healthy : Bool) (actor : String) (first second : Instant) : Method Incident Unit := do
  let self ← get
  refuse (self.state ≠ .executing) "execution must precede verification"
  move .verifying actor "post-action verification" first
  move (if healthy then .resolved else .escalated) actor
    (if healthy then "service recovered" else "verification failed") second

end Incident

structure ActionRequest where
  actor : String
  action : Option String
  target : Option String
  rationale : Option String
  risk : Option String
  rollback : Option String
  healthy : Option Bool

-- The method that an operation of the API calls. Only a verification reads the
-- clock twice.
def method (operation : String) (request : ActionRequest) (first second : Instant) : Option (Method Incident Unit) :=
  if operation = "correlate" then some (Incident.correlate request.actor first)
  else if operation = "investigate" then some (Incident.investigate request.actor first)
  else if operation = "recommend" then
    some (Incident.recommend ⟨request.action.getD "",request.target.getD "",request.rationale.getD "",
      request.risk.getD "",request.rollback.getD "",true⟩ request.actor first)
  else if operation = "approve" then some (Incident.approve request.actor first)
  else if operation = "execute" then some (Incident.execute request.actor first)
  else if operation = "verify" then some (Incident.verify (request.healthy.getD false) request.actor first second)
  else none

inductive Response where
  | ok
  | notFound (detail : String)
  | conflict (detail : String)
  deriving DecidableEq

-- The body of advance for an incident that was found.
def advance (incident : Incident) (operation : String) (request : ActionRequest) (first second : Instant) :
    Response × Incident :=
  match method operation request first second with
  | none => (.notFound "unknown operation",incident)
  | some body => match call body incident with
    | (.error message,left) => (.conflict message,left)
    | (.ok _,left) => (.ok,left)

structure Request where
  operation : String
  action : ActionRequest
  first : Instant
  second : Instant

def step (incident : Incident) (request : Request) : Option Incident :=
  some (advance incident request.operation request.action request.first request.second).2

-- The methods that the API calls: it always recommends with side effects.
inductive Chosen : Method Incident Unit → Prop where
  | correlate : Chosen (Incident.correlate actor now)
  | investigate : Chosen (Incident.investigate actor now)
  | recommend : remediation.sideEffecting = true → Chosen (Incident.recommend remediation actor now)
  | approve : Chosen (Incident.approve approver now)
  | execute : Chosen (Incident.execute actor now)
  | verify : Chosen (Incident.verify healthy actor first second)

theorem method_chosen (chosen : method operation request first second = some body) : Chosen body := by
  unfold method at chosen
  split at chosen
  · cases chosen; exact .correlate
  · split at chosen
    · cases chosen; exact .investigate
    · split at chosen
      · cases chosen; exact .recommend rfl
      · split at chosen
        · cases chosen; exact .approve
        · split at chosen
          · cases chosen; exact .execute
          · split at chosen
            · cases chosen; exact .verify
            · cases chosen

theorem move_sure : Sure (Incident.move target actor reason now) :=
  (sure_modify _).bind fun _ => sure_modify _

theorem Chosen.atomic (chosen : Chosen body) : Atomic body := by
  cases chosen with
  | correlate | investigate | execute => exact .read_bind fun _ => .refuse_bind move_sure.atomic
  | recommend | approve =>
    exact .read_bind fun _ => .refuse_bind (.refuse_bind ((sure_modify _).bind fun _ => move_sure).atomic)
  | verify => exact .read_bind fun _ => .refuse_bind (move_sure.bind fun _ => move_sure).atomic

def Incident.moved (incident : Incident) (target : IncidentState) (actor reason : String) (now : Instant) : Incident :=
  {incident with
    audit := incident.audit ++ [⟨incident.state,target,actor,reason,isoformat now⟩]
    state := target}

theorem call_move : call (Incident.move target actor reason now) incident =
    (.ok (),incident.moved target actor reason now) := rfl

theorem call_move_bind (next : Unit → Method Incident Unit) :
    call (Incident.move target actor reason now >>= next) incident =
      call (next ()) (incident.moved target actor reason now) := rfl

inductive Moves (incident : Incident) : Incident → Prop where
  | correlated : incident.state = .detected → Moves incident (incident.moved .correlated actor reason now)
  | investigating : incident.state = .correlated → Moves incident (incident.moved .investigating actor reason now)
  | recommended : incident.state = .investigating → remediation.rollback ≠ "" → remediation.risk ∈ risks →
      Moves incident ({incident with recommendation := some remediation}.moved .recommended actor reason now)
  | approved : incident.state = .recommended →
      (∀ entry ∈ incident.audit, entry.target = .recommended → entry.actor ≠ approver) →
      Moves incident ({incident with approvedBy := some approver}.moved .approved approver reason now)
  | executing : incident.state = .approved → Moves incident (incident.moved .executing actor reason now)
  | verified : incident.state = .executing → target = .resolved ∨ target = .escalated →
      Moves incident ((incident.moved .verifying actor reason first).moved target actor outcome second)

theorem Chosen.moves (chosen : Chosen body) (done : call body incident = (.ok value,next)) : Moves incident next := by
  cases chosen with
  | correlate =>
    simp only [Incident.correlate,call_read_bind,call_refuse_bind,call_move] at done
    split at done
    · cases done
    · rename_i ready
      cases done
      exact .correlated (not_not.mp fun other => ready (.inl other))
  | investigate =>
    simp only [Incident.investigate,call_read_bind,call_refuse_bind,call_move] at done
    split at done
    · cases done
    · rename_i ready
      cases done
      exact .investigating (not_not.mp ready)
  | recommend sideEffecting =>
    simp only [Incident.recommend,call_read_bind,call_refuse_bind,call_modify_bind,call_move] at done
    split at done
    · cases done
    · rename_i ready
      split at done
      · cases done
      · rename_i checked
        cases done
        rw [sideEffecting] at checked
        push Not at checked
        exact .recommended (not_not.mp ready) (checked rfl).1 (checked rfl).2
  | approve =>
    simp only [Incident.approve,call_read_bind,call_refuse_bind,call_modify_bind,call_move] at done
    split at done
    · cases done
    · rename_i ready
      split at done
      · cases done
      · rename_i independent
        cases done
        exact .approved (not_not.mp ready) fun entry member into same => independent ⟨entry,member,same,into⟩
  | execute =>
    simp only [Incident.execute,call_read_bind,call_refuse_bind,call_move] at done
    split at done
    · cases done
    · rename_i ready
      cases done
      exact .executing (not_not.mp fun other => ready (.inl other))
  | @verify healthy =>
    simp only [Incident.verify,call_read_bind,call_refuse_bind,call_move_bind,call_move] at done
    split at done
    · cases done
    · rename_i ready
      cases done
      refine .verified (not_not.mp ready) ?_
      cases healthy with
      | true => exact .inl rfl
      | false => exact .inr rfl

theorem advance_cases (incident : Incident) (operation : String) (request : ActionRequest) (first second : Instant) :
    (advance incident operation request first second).2 = incident ∨
      (advance incident operation request first second).1 = .ok ∧
        Moves incident (advance incident operation request first second).2 := by
  unfold advance
  split
  · exact .inl rfl
  · rename_i body chosen
    split
    · rename_i message left raised
      exact .inl ((method_chosen chosen).atomic incident message left raised)
    · rename_i value left done
      exact .inr ⟨rfl,(method_chosen chosen).moves done⟩

def entered : IncidentState → List IncidentState
  | .detected => []
  | .correlated => [.correlated]
  | .investigating => [.correlated,.investigating]
  | .recommended => [.correlated,.investigating,.recommended]
  | .approved => [.correlated,.investigating,.recommended,.approved]
  | .executing => [.correlated,.investigating,.recommended,.approved,.executing]
  | .verifying => [.correlated,.investigating,.recommended,.approved,.executing,.verifying]
  | .resolved => [.correlated,.investigating,.recommended,.approved,.executing,.verifying,.resolved]
  | .escalated => [.correlated,.investigating,.recommended,.approved,.executing,.verifying,.escalated]

def Sanctioned (state : IncidentState) : Prop := .approved ∈ entered state

instance (state : IncidentState) : Decidable (Sanctioned state) := inferInstanceAs (Decidable (_ ∈ _))

def Planned (recommendation : Option Remediation) : Prop :=
  ∃ remediation, recommendation = some remediation ∧ remediation.risk ∈ risks ∧ remediation.rollback ≠ ""

def Independent (approvedBy : Option String) (audit : List AuditEntry) : Prop :=
  ∃ approver, approvedBy = some approver ∧ ∀ entry ∈ audit, entry.target = .recommended → entry.actor ≠ approver

structure Sound (incident : Incident) : Prop where
  trail : Leads AuditEntry.source AuditEntry.target .detected incident.audit incident.state
  order : incident.audit.map AuditEntry.target = entered incident.state
  planned : .recommended ∈ entered incident.state → Planned incident.recommendation
  approved : Sanctioned incident.state → Independent incident.approvedBy incident.audit

theorem fresh_sound (service : String) (signals : List Signal) (incidentId : String) :
    Sound (.fresh service signals incidentId) :=
  ⟨rfl,rfl,fun reached => absurd reached List.not_mem_nil,fun reached => absurd reached List.not_mem_nil⟩

theorem Independent.extended (independent : Independent approvedBy audit) (other : entry.target ≠ .recommended) :
    Independent approvedBy (audit ++ [entry]) := by
  obtain ⟨approver,approved,separate⟩ := independent
  refine ⟨approver,approved,fun seen member => ?_⟩
  rcases List.mem_append.mp member with earlier | last
  · exact separate seen earlier
  · cases List.mem_singleton.mp last
    exact fun into => absurd into other

theorem Sound.moved {incident held : Incident} (sound : Sound incident) (state : held.state = incident.state)
    (audit : held.audit = incident.audit) (next : entered target = entered incident.state ++ [target])
    (planned : .recommended ∈ entered target → Planned held.recommendation)
    (approved : Sanctioned target → Independent held.approvedBy
      (incident.audit ++ [⟨incident.state,target,actor,reason,isoformat now⟩])) :
    Sound (held.moved target actor reason now) := by
  unfold Incident.moved
  rw [state,audit]
  refine ⟨sound.trail.append ⟨rfl,rfl⟩,?_,planned,approved⟩
  rw [List.map_append,sound.order,next]
  rfl

theorem Sound.continued (sound : Sound incident) (sanctioned : Sanctioned incident.state)
    (next : entered target = entered incident.state ++ [target]) (other : target ≠ .recommended)
    (recommended : .recommended ∈ entered incident.state) : Sound (incident.moved target actor reason now) :=
  sound.moved rfl rfl next (fun _ => sound.planned recommended) fun _ => (sound.approved sanctioned).extended other

theorem Moves.sound (moves : Moves incident next) (sound : Sound incident) : Sound next := by
  cases moves with
  | correlated before =>
    exact sound.moved rfl rfl (by rw [before]; rfl) (fun reached => absurd reached (by decide))
      fun reached => absurd reached (by decide)
  | investigating before =>
    exact sound.moved rfl rfl (by rw [before]; rfl) (fun reached => absurd reached (by decide))
      fun reached => absurd reached (by decide)
  | recommended before rollback risk =>
    exact sound.moved rfl rfl (by rw [before]; rfl) (fun _ => ⟨_,rfl,risk,rollback⟩)
      fun reached => absurd reached (by decide)
  | approved before separate =>
    have independent : Independent (some _) incident.audit := ⟨_,rfl,separate⟩
    exact sound.moved rfl rfl (by rw [before]; rfl) (fun _ => sound.planned (by rw [before]; decide))
      fun _ => independent.extended (by simp)
  | executing before =>
    exact sound.continued (by rw [before]; decide) (by rw [before]; rfl) (by decide) (by rw [before]; decide)
  | verified before outcome =>
    have sanctioned : Sanctioned incident.state := by rw [before]; decide
    have recommended : .recommended ∈ entered incident.state := by rw [before]; decide
    have sanctionedAfter : Sanctioned .verifying := by decide
    have recommendedAfter : .recommended ∈ entered .verifying := by decide
    rcases outcome with rfl | rfl
    · refine Sound.continued ?_ sanctionedAfter rfl (by decide) recommendedAfter
      exact sound.continued sanctioned (by rw [before]; rfl) (by decide) recommended
    · refine Sound.continued ?_ sanctionedAfter rfl (by decide) recommendedAfter
      exact sound.continued sanctioned (by rw [before]; rfl) (by decide) recommended

theorem Moves.unfinished (moves : Moves incident next) :
    incident.state ≠ .resolved ∧ incident.state ≠ .escalated := by
  cases moves with
  | correlated before | investigating before | recommended before | approved before | executing before
  | verified before => rw [before]; decide

theorem step_sound (sound : Sound incident) (taken : step incident request = some next) : Sound next := by
  cases Option.some.inj taken
  rcases advance_cases incident request.operation request.action request.first request.second with same | ⟨_,moves⟩
  · rw [same]; exact sound
  · exact moves.sound sound

theorem step_final (ended : incident.state = .resolved ∨ incident.state = .escalated)
    (taken : step incident request = some next) : next = incident := by
  cases Option.some.inj taken
  rcases advance_cases incident request.operation request.action request.first request.second with same | ⟨_,moves⟩
  · exact same
  · rcases ended with ended | ended
    · exact absurd ended moves.unfinished.1
    · exact absurd ended moves.unfinished.2

theorem run_final (path : Runs step incident requests later)
    (ended : incident.state = .resolved ∨ incident.state = .escalated) : later = incident := by
  induction path with
  | stop => rfl
  | take taken _ ih =>
    cases step_final ended taken
    exact ih ended

-- The whole service: the dictionary of incidents, filled by create_incident and
-- changed by advance.
inductive Event where
  | createIncident (service : String) (signals : List Signal) (incidentId : String)
  | advance (incidentId : String) (request : Request)

def handle (incidents : Dict String Incident) : Event → Response × Dict String Incident
  | .createIncident service signals incidentId =>
    (.ok,Dict.set incidents incidentId (.fresh service signals incidentId))
  | .advance incidentId request => match Dict.get incidents incidentId with
    | none => (.notFound "incident not found",incidents)
    | some incident =>
      let answered := advance incident request.operation request.action request.first request.second
      (answered.1,Dict.set incidents incidentId answered.2)

def serve (incidents : Dict String Incident) (event : Event) : Option (Dict String Incident) :=
  some (handle incidents event).2

def Reached (incident : Incident) : Prop :=
  ∃ service signals incidentId requests, Runs step (.fresh service signals incidentId) requests incident

def AllReached (incidents : Dict String Incident) : Prop :=
  ∀ id incident, Dict.get incidents id = some incident → Reached incident

theorem AllReached.set {incidents : Dict String Incident} (held : AllReached incidents) (reached : Reached written) :
    AllReached (Dict.set incidents key written) := by
  intro id incident found
  rw [Dict.get_set] at found
  split at found
  · cases Option.some.inj found
    exact reached
  · exact held id incident found

theorem serve_reached (held : AllReached before) (taken : serve before event = some next) : AllReached next := by
  cases Option.some.inj taken
  cases event with
  | createIncident service signals incidentId =>
    exact held.set ⟨service,signals,incidentId,[],.stop⟩
  | advance incidentId request =>
    dsimp only [handle]
    cases found : Dict.get before incidentId with
    | none => exact held
    | some incident =>
      obtain ⟨service,signals,origin,requests,earlier⟩ := held incidentId incident found
      exact held.set ⟨service,signals,origin,requests ++ [request],earlier.trans (.single rfl)⟩

theorem stored_reached (path : Runs serve Table.empty events incidents) : AllReached incidents :=
  path.invariant serve_reached fun _ _ found => by cases found

def enteredBefore (audit : List AuditEntry) (position : Nat) : List IncidentState :=
  (audit.take position).map AuditEntry.target

theorem entered_executing : ∀ (state : IncidentState) (position : Nat),
    (entered state)[position]? = some .executing → ((entered state).take position).count .approved = 1 := by
  intro state position found
  have inside : position < 7 := by
    have bound := (List.getElem?_eq_some_iff.mp found).1
    have most : (entered state).length ≤ 7 := by cases state <;> decide
    omega
  revert found
  revert position
  cases state <;> decide

theorem Sound.executing_once (sound : Sound incident) :
    (incident.audit.map AuditEntry.target).count .executing ≤ 1 := by
  rw [sound.order]
  cases incident.state <;> decide

theorem Sound.executing_sanctioned (sound : Sound incident) (position : Nat)
    (found : (incident.audit[position]?).map AuditEntry.target = some .executing) :
    (enteredBefore incident.audit position).count .approved = 1 := by
  unfold enteredBefore
  rw [List.map_take,sound.order]
  apply entered_executing
  rw [← sound.order,List.getElem?_map]
  exact found

theorem incident_sound (service : String) (signals : List Signal) (incidentId : String) (requests : List Request)
    (incident : Incident) (path : Runs step (.fresh service signals incidentId) requests incident) :
    Leads AuditEntry.source AuditEntry.target .detected incident.audit incident.state ∧
      (Sanctioned incident.state →
        Planned incident.recommendation ∧ Independent incident.approvedBy incident.audit) ∧
      (incident.audit.map AuditEntry.target).count .executing ≤ 1 ∧
      (∀ position, (incident.audit[position]?).map AuditEntry.target = some .executing →
        (enteredBefore incident.audit position).count .approved = 1) ∧
      (incident.state = .resolved ∨ incident.state = .escalated →
        ∀ further later, Runs step incident further later → later = incident) ∧
      ∀ operation request first second, (advance incident operation request first second).1 ≠ .ok →
        (advance incident operation request first second).2 = incident := by
  have sound : Sound incident := path.invariant step_sound (fresh_sound service signals incidentId)
  refine ⟨sound.trail,fun sanctioned => ⟨sound.planned ?_,sound.approved sanctioned⟩,sound.executing_once,
    sound.executing_sanctioned,fun ended further later rest => run_final rest ended,?_⟩
  · revert sanctioned
    cases incident.state <;> decide
  · intro operation request first second refused
    rcases advance_cases incident operation request first second with same | ⟨accepted,_⟩
    · exact same
    · exact absurd accepted refused

def plainly (actor : String) : ActionRequest := ⟨actor,none,none,none,none,none,none⟩

-- The planner recommends and may not approve.
def recovery : List Request :=
  [⟨"correlate",plainly "correlator-agent",0,0⟩,
    ⟨"investigate",plainly "diagnostic-agent",1,1⟩,
    ⟨"recommend",⟨"planner-agent",some "restart deployment",some "inference",some "unhealthy replicas",some "low",
      some "undo rollout",none⟩,2,2⟩,
    ⟨"approve",plainly "planner-agent",3,3⟩,
    ⟨"approve",plainly "human-operator",4,4⟩,
    ⟨"execute",plainly "runbook-executor",5,5⟩,
    ⟨"verify",{plainly "health-verifier" with healthy := some true},6,7⟩]

theorem recovery_sound : ∃ incident, Runs step (.fresh "inference" [] "incident-1") recovery incident ∧
    incident.state = .resolved ∧ incident.audit.length = 7 ∧
    Planned incident.recommendation ∧ Independent incident.approvedBy incident.audit :=
  have path : Runs step (.fresh "inference" [] "incident-1") recovery _ := consume_exact.mp rfl
  ⟨_,path,by decide +kernel,by decide +kernel,(incident_sound _ _ _ _ _ path).2.1 (by decide +kernel)⟩

end OpenModelOps.AiopsIncident
