import OpenModelOps.FactoryIsolation
import OpenModelOps.Simulation

namespace OpenModelOps.FactoryNoninterference
open KeyedTable FactoryDomain FactoryRequests FactoryHistory FactoryIsolation RunHistory Simulation

-- A request made under the tenant, at any of its statements.
def Asks (tenant : String) (s : State) (event : Event) : Prop := tenantOf s event = some tenant

instance decideAsks (tenant : String) (s : State) (event : Event) : Decidable (Asks tenant s event) :=
  inferInstanceAs (Decidable (tenantOf s event = some tenant))

-- uuid4 hands out no identifier twice.
def FreshIds (s : State) (event : Event) : Prop := Event.unused s.db event

instance decideFreshIds (s : State) : (event : Event) → Decidable (FreshIds s event)
  | .create _ _ workloadId => inferInstanceAs (Decidable (s.db.find workloadId = none))
  | .read .. => .isTrue trivial
  | .write .. => .isTrue trivial

def inFlight (tenant : String) : Client → Client
  | .idle => .idle
  | .loaded identity workloadId call w version =>
    if identity.tenant = tenant then .loaded identity workloadId call w version else .idle

structure Alone (settings : Settings) (tenant : String) (s u : State) : Prop where
  valid : Valid settings s
  only : Valid settings u
  rows : ∀ id, u.db.find id = visible tenant s.db id
  clients : ∀ client, u.clients client = inFlight tenant (s.clients client)

theorem Alone.owned {id : String} (apart : Alone settings tenant s u) (found : u.db.find id = some row) : row.tenant = tenant := by
  rw [apart.rows] at found
  exact (visible_exact.mp found).2

theorem visible_owned {db : Database} {id : String} (owned : ∀ row, db.find id = some row → row.tenant = tenant) :
    visible tenant db id = db.find id := by
  unfold visible
  cases found : db.find id with
  | none => rfl
  | some row => simp [owned row found]

theorem Alone.agrees (apart : Alone settings tenant s u) : Agrees tenant s.db u.db := by
  intro id
  rw [visible_owned fun row found => apart.owned found]
  exact (apart.rows id).symm

theorem Alone.unused (apart : Alone settings tenant s u) (fresh : FreshIds s event) : FreshIds u event := by
  cases event with
  | create identity request workloadId =>
    have absent : s.db.find workloadId = none := fresh
    have missing : u.db.find workloadId = none := by rw [apart.rows]; simp [visible,absent]
    exact missing
  | read client identity workloadId call => trivial
  | write client now => trivial

theorem Alone.asks (apart : Alone settings tenant s u) (asked : Asks tenant s event) : Asks tenant u event := by
  cases event with
  | create identity request workloadId => exact asked
  | read client identity workloadId call => exact asked
  | write client now =>
    have here := apart.clients client
    cases held : s.clients client with
    | idle => simp [Asks,tenantOf,held] at asked
    | loaded identity workloadId call w version =>
      simp only [Asks,tenantOf,held,Option.some.injEq] at asked
      rw [held,inFlight,if_pos asked] at here
      simp [Asks,tenantOf,here,asked]

theorem Alone.client {client : Nat} (apart : Alone settings tenant s u) (asked : Asks tenant s event)
    (answered : respond settings s event = some (next,outcome)) (named : Event.client event = some client) :
    u.clients client = s.clients client := by
  rw [apart.clients client]
  cases respond_cases answered with
  | create identity request workloadId answer => cases named
  | read slot identity workloadId call idle answer =>
    cases named
    simp [idle,inFlight]
  | write slot now identity workloadId call w version loaded answer =>
    cases named
    simp only [Asks,tenantOf,loaded,Option.some.injEq] at asked
    simp [loaded,inFlight,asked]

theorem inFlight_update (clients : Nat → Client) (client slot : Nat) (after : Client) :
    inFlight tenant (Function.update clients client after slot) =
      Function.update (fun other => inFlight tenant (clients other)) client (inFlight tenant after) slot := by
  by_cases here : slot = client
  · subst slot; simp
  · simp [here]

theorem respondCreate_clients : (respondCreate s identity request workloadId).1.clients = s.clients := by
  unfold respondCreate
  split
  · rfl
  · split <;> rfl

theorem respondWrite_clients : (respondWrite settings s client identity workloadId call w version now).1.clients =
    Function.update s.clients client .idle := by
  unfold respondWrite
  dsimp only
  split
  · rfl
  · split <;> rfl

theorem respondRead_clients (agree : Agrees identity.tenant s.db u.db)
    (clients : ∀ client, u.clients client = inFlight identity.tenant (s.clients client)) (slot : Nat) :
    (respondRead u client identity workloadId call).1.clients slot =
      inFlight identity.tenant ((respondRead s client identity workloadId call).1.clients slot) := by
  unfold respondRead
  split
  · exact clients slot
  · rw [get_visible,get_visible,agree]
    cases visible identity.tenant u.db workloadId with
    | none => exact clients slot
    | some row =>
      simp only [Option.map_some]
      rw [inFlight_update,← funext clients]
      simp [inFlight]

theorem alone_answered (apart : Alone settings tenant s u) (asked : Asks tenant s event) (fresh : FreshIds s event)
    (answered : respond settings s event = some (next,outcome)) :
    ∃ after, respond settings u event = some (after,outcome) ∧ Alone settings tenant next after := by
  obtain ⟨after,also,together⟩ := respond_agrees apart.valid asked apart.agrees
    (fun client named => apart.client asked answered named) fresh (apart.unused fresh) answered
  refine ⟨after,also,respond_valid apart.valid answered,respond_valid apart.only also,?_,?_⟩
  · intro id
    obtain ⟨owner,byOwner,changes⟩ := respond_rows apart.only also
    have same : owner = tenant := Option.some.inj (byOwner.symm.trans (apart.asks asked))
    subst owner
    rw [together id]
    refine (visible_owned fun row found => ?_).symm
    have change := changes id
    rw [found] at change
    generalize before : u.db.find id = old at change
    cases change with
    | kept => exact apart.owned before
    | created owner _ _ _ => exact owner
    | saved _ owner _ _ _ _ _ => exact owner
  · intro slot
    cases respond_cases answered with
    | create identity request workloadId answer =>
      obtain rfl := congrArg Prod.fst answer
      obtain rfl := congrArg Prod.fst (Option.some.inj also)
      simp only [respondCreate_clients]
      exact apart.clients slot
    | read client identity workloadId call idle answer =>
      obtain rfl := congrArg Prod.fst answer
      cases Option.some.inj asked
      have waiting : u.clients client = .idle := by rw [apart.clients client,idle]; rfl
      simp only [respond,waiting,Option.some.injEq] at also
      obtain rfl := congrArg Prod.fst also
      exact respondRead_clients apart.agrees apart.clients slot
    | write client now identity workloadId call w version loaded answer =>
      obtain rfl := congrArg Prod.fst answer
      have held := apart.client asked answered rfl
      rw [loaded] at held
      simp only [respond,held,Option.some.injEq] at also
      obtain rfl := congrArg Prod.fst also
      rw [respondWrite_clients,respondWrite_clients,inFlight_update,← funext apart.clients]
      rfl

theorem alone_unseen (apart : Alone settings tenant s u) (foreign : ¬ Asks tenant s event)
    (answered : respond settings s event = some (next,outcome)) : Alone settings tenant next u := by
  obtain ⟨owner,byOwner,changes⟩ := respond_rows apart.valid answered
  have other : owner ≠ tenant := by
    intro same
    subst same
    exact foreign byOwner
  refine ⟨respond_valid apart.valid answered,apart.only,?_,?_⟩
  · intro id
    rw [apart.rows id]
    have change := changes id
    unfold visible
    generalize s.db.find id = before at change
    generalize next.db.find id = now at change
    cases change with
    | kept => rfl
    | created owned _ _ _ => simp [Option.filter,owned,other]
    | saved owned still _ _ _ _ _ => simp [Option.filter,owned,still,other]
  · intro slot
    rw [apart.clients slot]
    cases respond_cases answered with
    | create identity request workloadId answer =>
      obtain rfl := congrArg Prod.fst answer
      rw [respondCreate_clients]
    | read client identity workloadId call idle answer =>
      obtain rfl := congrArg Prod.fst answer
      cases Option.some.inj byOwner
      unfold respondRead
      split
      · rfl
      · split
        · rfl
        · by_cases here : slot = client
          · subst slot
            simp [idle,inFlight,other]
          · simp [here]
    | write client now identity workloadId call w version loaded answer =>
      obtain rfl := congrArg Prod.fst answer
      simp only [tenantOf,loaded,Option.some.injEq] at byOwner
      rw [respondWrite_clients]
      by_cases here : slot = client
      · subst slot
        simp [loaded,inFlight,byOwner,other]
      · simp [here]

theorem alone_simulates (settings : Settings) (tenant : String) :
    Simulates (respond settings) (respond settings) (Asks tenant) FreshIds (Alone settings tenant) :=
  ⟨alone_answered,alone_unseen⟩

theorem initial_alone (settings : Settings) (tenant : String) : Alone settings tenant initial initial :=
  ⟨initial_valid settings,initial_valid settings,fun _ => rfl,fun _ => rfl⟩

-- Tenants share the service without a trace of one another: each is answered
-- as if it were alone, and nothing that the others do can be told from it.
theorem tenants_noninterfering (settings : Settings) (tenant : String) (events : List Event) (s : State)
    (path : Runs (step settings) initial events s) (fresh : Throughout (step settings) FreshIds initial events) :
    (∃ u, Runs (step settings) initial (own (respond settings) (Asks tenant) initial events) u ∧
      transcript (respond settings) initial (own (respond settings) (Asks tenant) initial events) =
        observed (respond settings) (Asks tenant) initial events ∧
      ∀ id, u.db.find id = visible tenant s.db id) ∧
    ∀ others other, Runs (step settings) initial others other →
      Throughout (step settings) FreshIds initial others →
      own (respond settings) (Asks tenant) initial events = own (respond settings) (Asks tenant) initial others →
      observed (respond settings) (Asks tenant) initial events =
          observed (respond settings) (Asks tenant) initial others ∧
        Agrees tenant s.db other.db := by
  have simulates := alone_simulates settings tenant
  have start := initial_alone settings tenant
  constructor
  · obtain ⟨u,purged,same,apart⟩ := simulates.run path fresh start
    exact ⟨u,purged,same,apart.rows⟩
  · intro others other elsewhere also same
    obtain ⟨alike,u,left,right⟩ := simulates.alike path fresh start elsewhere also start same
    exact ⟨alike,fun id => (left.rows id).symm.trans (right.rows id)⟩

def neighbour : Identity := ⟨"builder",["factory-admin","gate-evaluator"],"tenant-b"⟩

-- The neighbour registers a workload, looks for that of the first tenant and
-- comes in between the two statements of its request.
def neighbouring : List Event :=
  [.create neighbour rehearsalRequest "w-2",.create builder rehearsalRequest "w-1",
    .read 1 neighbour "w-1" (.recordGate (passingGate "cost")),
    .read 0 evaluator "w-1" (.recordGate (passingGate "quality")),
    .read 1 neighbour "w-2" (.recordGate (passingGate "cost")),.write 1 0,.write 0 60000000]

theorem neighbouring_unnoticed : ∃ s u, Runs (step rehearsalSettings) initial neighbouring s ∧
    (observed (respond rehearsalSettings) (Asks "tenant-a") initial neighbouring).length = 3 ∧
    Runs (step rehearsalSettings) initial (own (respond rehearsalSettings) (Asks "tenant-a") initial neighbouring) u ∧
    ∀ id, u.db.find id = visible "tenant-a" s.db id := by
  have accepted : (consume (step rehearsalSettings) initial neighbouring).isSome = true := by decide +kernel
  obtain ⟨s,consumed⟩ := Option.isSome_iff_exists.mp accepted
  have path := consume_exact.mp consumed
  have fresh : Throughout (step rehearsalSettings) FreshIds initial neighbouring := by decide +kernel
  obtain ⟨u,purged,_,rows⟩ := (tenants_noninterfering rehearsalSettings "tenant-a" neighbouring s path fresh).1
  exact ⟨s,u,path,by decide +kernel,purged,rows⟩

end OpenModelOps.FactoryNoninterference
