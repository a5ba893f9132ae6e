import OpenModelOps.FactoryHistory

namespace OpenModelOps.FactoryIsolation
open KeyedTable PythonText FactoryDomain FactoryGovernance FactoryRequests FactoryHistory RunHistory

def visible (tenant : String) (db : Database) (workloadId : String) : Option Row :=
  (db.find workloadId).filter (fun row => decide (row.tenant = tenant))

def Agrees (tenant : String) (left right : Database) : Prop :=
  ∀ workloadId, visible tenant left workloadId = visible tenant right workloadId

theorem visible_exact {db : Database} : visible tenant db workloadId = some row ↔
    db.find workloadId = some row ∧ row.tenant = tenant := by
  simp [visible,Option.filter_eq_some_iff]

theorem get_visible (db : Database) (workloadId tenant : String) :
    get db workloadId tenant = (visible tenant db workloadId).map (fun row => (row.document,row.version)) := by
  unfold FactoryRequests.get visible
  cases found : db.find workloadId with
  | none => rfl
  | some row => by_cases same : row.tenant = tenant <;> simp [same,Option.filter]

theorem RowStep.foreign (change : RowStep settings tenant before after)
    (other : (∃ row, before = some row ∧ row.tenant ≠ tenant) ∨ ∃ row, after = some row ∧ row.tenant ≠ tenant) :
    after = before := by
  cases change with
  | kept => rfl
  | created owner => rcases other with ⟨row,equal,_⟩ | ⟨row,equal,foreign⟩ <;> simp_all
  | saved owner nextOwner =>
    rcases other with ⟨row,equal,foreign⟩ | ⟨row,equal,foreign⟩
    · cases Option.some.inj equal; exact absurd owner foreign
    · cases Option.some.inj equal; exact absurd nextOwner foreign

theorem save_of_match {db : Database} (found : db.find w.workloadId = some row) (owner : row.tenant = w.spec.tenant)
    (current : row.version = version) : ∃ next, save db w version = some (next,version + 1) := by
  have hit : (db.update w.workloadId
      (fun row => decide (row.tenant = w.spec.tenant) && decide (row.version = version))
      (written w (version + 1))).2 = 1 := by
    rw [Table.rowcount_eq,found]
    simp [owner,current]
  exact ⟨_,by simp only [save]; rw [if_neg (not_not.mpr hit)]⟩

theorem save_agrees {left right next : Database} (agree : Agrees w.spec.tenant left right)
    (saved : save left w version = some (next,result)) :
    ∃ other, save right w version = some (other,result) ∧ Agrees w.spec.tenant next other := by
  obtain ⟨rfl,row,found,owner,current,finds⟩ := save_parts saved
  have seen := visible_exact.mpr ⟨found,owner⟩
  rw [agree] at seen
  obtain ⟨there,_⟩ := visible_exact.mp seen
  obtain ⟨other,also⟩ := save_of_match there owner current
  obtain ⟨_,again,present,_,_,otherFinds⟩ := save_parts also
  rw [there] at present
  cases Option.some.inj present
  refine ⟨other,also,fun id => ?_⟩
  unfold visible
  rw [finds,otherFinds]
  split
  · rfl
  · exact agree id

theorem save_refused_agrees {left right : Database} (agree : Agrees w.spec.tenant left right)
    (refused : save left w version = none) : save right w version = none := by
  cases saved : save right w version with
  | none => rfl
  | some pair =>
    obtain ⟨_,also,_⟩ := save_agrees (fun id => (agree id).symm) saved
    rw [also] at refused; cases refused

def Event.client : Event → Option Nat
  | .create .. => none
  | .read client .. => some client
  | .write client _ => some client

-- uuid4 hands out identifiers that no row has.
def Event.unused (db : Database) : Event → Prop
  | .create _ _ workloadId => db.find workloadId = none
  | _ => True

theorem respondCreate_agrees (request : WorkloadRequest) (agree : Agrees identity.tenant s.db other.db)
    (freshHere : s.db.find workloadId = none) (freshThere : other.db.find workloadId = none) :
    (respondCreate other identity request workloadId).2 = (respondCreate s identity request workloadId).2 ∧
      Agrees identity.tenant (respondCreate s identity request workloadId).1.db
        (respondCreate other identity request workloadId).1.db := by
  unfold respondCreate
  split
  · exact ⟨rfl,agree⟩
  · rename_i w made
    have sameId := (createWorkload_parts made).1
    obtain ⟨here,insertedHere⟩ := @Table.insert_of_fresh _ _ _ _ ⟨w.workloadId,w.spec.tenant,1,w⟩ s.db
      (by rw [sameId]; exact freshHere)
    obtain ⟨there,insertedThere⟩ := @Table.insert_of_fresh _ _ _ _ ⟨w.workloadId,w.spec.tenant,1,w⟩ other.db
      (by rw [sameId]; exact freshThere)
    simp only [create,insertedHere,insertedThere]
    refine ⟨trivial,fun id => ?_⟩
    unfold visible
    rw [Table.find_insert insertedHere,Table.find_insert insertedThere]
    split
    · rfl
    · exact agree id

theorem respondRead_agrees (client : Nat) (workloadId : String) (call : Call) (agree : Agrees identity.tenant s.db other.db) :
    (respondRead other client identity workloadId call).2 = (respondRead s client identity workloadId call).2 ∧
      Agrees identity.tenant (respondRead s client identity workloadId call).1.db
        (respondRead other client identity workloadId call).1.db := by
  refine ⟨?_,by rw [respondRead_rows,respondRead_rows]; exact agree⟩
  unfold respondRead
  split
  · rfl
  · rw [get_visible,get_visible,agree]
    cases visible identity.tenant other.db workloadId <;> rfl

theorem respondWrite_agrees (settings : Settings) (client : Nat) (workloadId : String) (call : Call)
    (version : Nat) (now : Instant) (agree : Agrees identity.tenant s.db other.db)
    (owner : w.spec.tenant = identity.tenant) :
    (respondWrite settings other client identity workloadId call w version now).2 =
        (respondWrite settings s client identity workloadId call w version now).2 ∧
      Agrees identity.tenant (respondWrite settings s client identity workloadId call w version now).1.db
        (respondWrite settings other client identity workloadId call w version now).1.db := by
  unfold respondWrite
  dsimp only
  cases done : perform settings identity workloadId call w now with
  | error failure => exact ⟨rfl,agree⟩
  | ok next =>
    have sameOwner : next.spec.tenant = identity.tenant := by rw [(perform_evolves done).2.1]; exact owner
    rw [← sameOwner] at agree ⊢
    dsimp only
    cases saved : save s.db next version with
    | none => rw [save_refused_agrees agree saved]; exact ⟨rfl,agree⟩
    | some pair =>
      obtain ⟨after,also,together⟩ := save_agrees agree saved
      rw [also]
      exact ⟨rfl,together⟩

theorem respond_agrees (valid : Valid settings s) (tenant : tenantOf s event = some t) (agree : Agrees t s.db other.db)
    (held : ∀ client, Event.client event = some client → other.clients client = s.clients client)
    (here : Event.unused s.db event) (there : Event.unused other.db event)
    (answered : respond settings s event = some (next,outcome)) :
    ∃ after, respond settings other event = some (after,outcome) ∧ Agrees t next.db after.db := by
  cases respond_cases answered with
  | create identity request workloadId answer =>
    cases Option.some.inj tenant
    obtain ⟨outcomes,together⟩ := respondCreate_agrees request agree here there
    rw [answer] at outcomes together
    exact ⟨_,congrArg some (Prod.ext rfl outcomes),together⟩
  | read client identity workloadId call idle answer =>
    cases Option.some.inj tenant
    obtain ⟨outcomes,together⟩ := respondRead_agrees client workloadId call agree
    rw [answer] at outcomes together
    simp only [respond,held client rfl,idle]
    exact ⟨_,congrArg some (Prod.ext rfl outcomes),together⟩
  | write client now identity workloadId call w version loaded answer =>
    have ours := valid.clients client
    rw [loaded] at ours
    simp only [tenantOf,loaded,Option.some.injEq] at tenant
    subst t
    obtain ⟨outcomes,together⟩ := respondWrite_agrees settings client workloadId call version now agree ours.2.1
    rw [answer] at outcomes together
    simp only [respond,held client rfl,loaded]
    exact ⟨_,congrArg some (Prod.ext rfl outcomes),together⟩

-- In every reachable state: late rows are governed and frozen since the step
-- that approved them; whatever request is served next neither changes nor
-- depends on a row of another tenant; and if it fails it changes no row.
theorem lifecycle_governed (settings : Settings) (events : List Event) (s : State)
    (path : Runs (step settings) initial events s) :
    (∀ key row, s.db.find key = some row → Late row.document.stage → Governed settings row.document ∧
      ∃ earlier event later before next prior entered, events = earlier ++ event :: later ∧
        Runs (step settings) initial earlier before ∧ step settings before event = some next ∧
        Runs (step settings) next later s ∧
        before.db.find key = some prior ∧ prior.document.stage = .validated ∧
        next.db.find key = some entered ∧ entered.document.stage = .approved ∧
        Frozen entered.document row.document) ∧
    (∀ event t next outcome, tenantOf s event = some t → respond settings s event = some (next,outcome) →
      (∀ key row, row.tenant ≠ t → (s.db.find key = some row ↔ next.db.find key = some row)) ∧
      ∀ other, Agrees t s.db other.db →
        (∀ client, Event.client event = some client → other.clients client = s.clients client) →
        Event.unused s.db event → Event.unused other.db event →
        ∃ after, respond settings other event = some (after,outcome) ∧ Agrees t next.db after.db) ∧
    (∀ event next refusal, respond settings s event = some (next,.failed refusal) → next.db = s.db) := by
  have valid := reached_valid path
  refine ⟨?_,?_,fun _ _ _ answered => failed_unchanged answered⟩
  · intro key row found late
    exact ⟨(valid.rows key row found).2.2 late,run_entered path found late⟩
  · intro event t next outcome tenant answered
    refine ⟨?_,fun other agree held here there => respond_agrees valid tenant agree held here there answered⟩
    intro key row foreign
    obtain ⟨t',tenant',rows⟩ := respond_rows valid answered
    rw [tenant] at tenant'
    cases Option.some.inj tenant'
    constructor
    · intro found
      rw [RowStep.foreign (rows key) (.inl ⟨row,found,foreign⟩)]; exact found
    · intro found
      rw [← RowStep.foreign (rows key) (.inr ⟨row,found,foreign⟩)]; exact found

def rehearsalSettings : Settings :=
  ⟨⟨fun _ => "6eacc3d57105baea7bb1157e74f41cad8e7534d1771b9dc159f0a13af9494daf",fun _ _ _ => false⟩,
    false,Table.empty⟩

def builder : Identity := ⟨"builder",["factory-admin"],"tenant-a"⟩
def evaluator : Identity := ⟨"gate-bot",["gate-evaluator"],"tenant-a"⟩
def manager : Identity := ⟨"release-manager",["release-approver"],"tenant-a"⟩

def rehearsalRequest : WorkloadRequest :=
  ⟨"risk-agent",.agent,"builder","production","sha256:abc123","restricted",999/1000,750,1/100,false,false⟩

def passingGate (gate : String) : GateRequest := ⟨gate,true,"https://evidence/" ++ gate,"sha256:0a","",""⟩

def rehearsal : List Event :=
  .create builder rehearsalRequest "w-1" ::
    (requiredGates.flatMap fun gate => [.read 0 evaluator "w-1" (.recordGate (passingGate gate)),.write 0 0]) ++
    [.read 1 manager "w-1" (.advance "approve" ""),.write 1 60000000]

theorem lifecycle_governed_rehearsal : ∃ s row, Runs (step rehearsalSettings) initial rehearsal s ∧
    s.db.find "w-1" = some row ∧ Late row.document.stage ∧ Governed rehearsalSettings row.document := by
  have stages : ((consume (step rehearsalSettings) initial rehearsal).bind fun s => s.db.find "w-1").map
      (fun row => row.document.stage) = some .approved := by decide +kernel
  obtain ⟨row,found,approved⟩ := Option.map_eq_some_iff.mp stages
  obtain ⟨s,consumed,present⟩ := Option.bind_eq_some_iff.mp found
  have path := consume_exact.mp consumed
  have late : Late row.document.stage := by rw [approved]; decide
  exact ⟨s,row,path,present,late,((lifecycle_governed _ _ _ path).1 "w-1" row present late).1⟩

end OpenModelOps.FactoryIsolation
