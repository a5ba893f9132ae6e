import OpenModelOps.FactoryIsolation
import OpenModelOps.Possibility
import Mathlib.Data.Fintype.EquivFin

namespace OpenModelOps.FactoryProgress
open KeyedTable PythonText FactoryDomain FactoryGovernance FactoryRequests FactoryHistory FactoryIsolation RunHistory
open Possibility

inductive Leads (settings : Settings) (spec : FactorySpec) : WorkloadStage → WorkloadStage → Prop where
  | gated : ¬ Late stage → Leads settings spec stage .validated
  | approved : (evaluate settings.crypto spec).allowed = true → Leads settings spec .validated .approved
  | provisioned : Leads settings spec .approved .provisioned
  | released : Leads settings spec .provisioned .released
  | suspended : Leads settings spec .released .suspended
  | retired : stage = .released ∨ stage = .suspended → Leads settings spec stage .retired

-- What has not been approved needs the policy; what was approved only needs
-- time, unless it was suspended or retired.
def releasable (settings : Settings) (w : FactoryWorkload) : Bool :=
  match w.stage with
  | .draft | .validated => (evaluate settings.crypto w.spec).allowed
  | .approved | .provisioned | .released => true
  | .suspended | .retired => false

def retirable (settings : Settings) (w : FactoryWorkload) : Bool :=
  match w.stage with
  | .suspended | .retired => true
  | _ => releasable settings w

def InStage (id : String) (stage : WorkloadStage) (s : State) : Prop :=
  ∃ row, s.db.find id = some row ∧ row.document.stage = stage

-- In production somebody holds a trusted key.
def Attestable (settings : Settings) : Prop := settings.production = true → ∀ statement, ∃ keyId signature,
  keyId ≠ "" ∧ signature ≠ "" ∧
    (EvidenceVerifier.mk settings.publicKeys).verify settings.crypto statement keyId signature = .ok ()

section Leading
variable {settings : Settings} {s next : State} {event : Event} {w after : FactoryWorkload}

theorem retire_source (done : w.retire actor reason now = .ok after) : w.stage = .released ∨ w.stage = .suspended := by
  unfold FactoryWorkload.retire at done
  split at done
  · cases done
  · rename_i ready
    push Not at ready
    by_cases released : w.stage = .released
    · exact .inl released
    · exact .inr (ready.1 released)

theorem advance_leads (done : advance settings identity operation reason w now = .ok after) :
    Leads settings w.spec w.stage after.stage := by
  unfold advance at done
  split at done
  · dsimp only at done
    split at done
    · cases done
    · rename_i allowed
      obtain ⟨ready,_,stage,_⟩ := approve_parts (refuse_ok done)
      rw [ready,stage]
      exact .approved (not_not.mp allowed)
  · split at done
    · obtain ⟨ready,_,rfl⟩ := provision_parts (refuse_ok done)
      rw [ready]
      exact .provisioned
    · split at done
      · obtain ⟨ready,_,rfl⟩ := release_parts (refuse_ok done)
        rw [ready]
        exact .released
      · split at done
        · obtain ⟨ready,rfl⟩ := suspend_parts (refuse_ok done)
          rw [ready]
          exact .suspended
        · split at done
          · have source := retire_source (refuse_ok done)
            obtain ⟨_,rfl⟩ := retire_parts (refuse_ok done)
            exact .retired source
          · cases done

theorem perform_leads (done : perform settings identity workloadId call w now = .ok after) :
    Leads settings w.spec w.stage after.stage := by
  cases call with
  | recordGate request =>
    obtain ⟨_,_,_,_,_,_,_,_,_,_,_,recorded⟩ := recordGate_parts done
    obtain ⟨early,_,rfl⟩ := recordGate_exact.mp recorded
    exact .gated early
  | advance operation reason => exact advance_leads done

theorem respond_leads {id : String} {row : Row} (valid : Valid settings s)
    (answered : respond settings s event = some (next,outcome)) (found : s.db.find id = some row) :
    ∃ later, next.db.find id = some later ∧ later.document.spec = row.document.spec ∧
      (later.document.stage = row.document.stage ∨
        Leads settings row.document.spec row.document.stage later.document.stage) := by
  cases respond_cases answered with
  | create identity request workloadId answer =>
    obtain rfl := congrArg Prod.fst answer
    unfold respondCreate
    split
    · exact ⟨row,found,rfl,.inl rfl⟩
    · rename_i w made
      split
      · exact ⟨row,found,rfl,.inl rfl⟩
      · rename_i db inserted
        have absent := Table.insert_fresh inserted
        refine ⟨row,?_,rfl,.inl rfl⟩
        rw [Table.find_insert inserted,if_neg]
        · exact found
        · intro same
          rw [same] at found
          exact absurd (found.symm.trans absent) (Option.some_ne_none row)
  | read client identity workloadId call idle answer =>
    obtain rfl := congrArg Prod.fst answer
    rw [respondRead_rows]
    exact ⟨row,found,rfl,.inl rfl⟩
  | write client now identity workloadId call w version loaded answer =>
    obtain rfl := congrArg Prod.fst answer
    obtain ⟨heldId,_,held,present,_,_,current⟩ := show ClientValid s.db (.loaded identity workloadId call w version) by
      rw [← loaded]; exact valid.clients client
    unfold respondWrite
    dsimp only
    split
    · exact ⟨row,found,rfl,.inl rfl⟩
    · rename_i document done
      obtain ⟨sameId,sameSpec,_⟩ := perform_evolves done
      split
      · exact ⟨row,found,rfl,.inl rfl⟩
      · rename_i db saved stored
        obtain ⟨_,selected,there,_,atVersion,finds⟩ := save_parts stored
        rw [sameId,heldId,present] at there
        cases Option.some.inj there
        have read := current atVersion
        subst read
        dsimp only
        rw [finds]
        by_cases here : id = document.workloadId
        · rw [here,sameId,heldId,present] at found
          cases Option.some.inj found
          exact ⟨_,if_pos here,sameSpec,.inr (perform_leads done)⟩
        · exact ⟨row,by rw [if_neg here]; exact found,rfl,.inl rfl⟩

end Leading

def Spare (s : State) : Prop := ∃ bound, ∀ client, bound ≤ client → s.clients client = .idle

theorem initial_spare : Spare initial := ⟨0,fun _ _ => rfl⟩

theorem spare_update (spare : Spare s) (client : Nat) (after : Client) (clients : next.clients = Function.update s.clients client after) :
    Spare next := by
  obtain ⟨bound,idle⟩ := spare
  refine ⟨max bound (client + 1),fun slot above => ?_⟩
  rw [clients,Function.update_of_ne (by omega)]
  exact idle slot (by omega)

theorem step_spare (spare : Spare s) (taken : step settings s event = some next) : Spare next := by
  obtain ⟨outcome,answered⟩ := step_parts taken
  cases respond_cases answered with
  | create identity request workloadId answer =>
    obtain rfl := congrArg Prod.fst answer
    unfold respondCreate
    split
    · exact spare
    · split <;> exact spare
  | read client identity workloadId call idle answer =>
    obtain rfl := congrArg Prod.fst answer
    unfold respondRead
    split
    · exact spare
    · split
      · exact spare
      · exact spare_update spare client _ rfl
  | write client now identity workloadId call w version loaded answer =>
    obtain rfl := congrArg Prod.fst answer
    unfold respondWrite
    dsimp only
    split
    · exact spare_update spare client _ rfl
    · split <;> exact spare_update spare client _ rfl

structure Stored (settings : Settings) (id tenant : String) (client : Nat) (holds : FactoryWorkload → Prop) (s : State) :
    Prop where
  valid : Valid settings s
  idle : s.clients client = .idle
  row : ∃ row, s.db.find id = some row ∧ row.tenant = tenant ∧ holds row.document

section Asking
variable {settings : Settings} {id tenant : String} {client : Nat} {holds after : FactoryWorkload → Prop} {s : State}

theorem Stored.exchange (stored : Stored settings id tenant client holds s) (identity : Identity) (call : Call)
    (now : Instant) (ours : identity.tenant = tenant) (role : call.role ∈ identity.roles)
    (done : ∀ w, holds w → ∃ next, perform settings identity id call w now = .ok next ∧ after next) :
    Possible (step settings) (Stored settings id tenant client after) s := by
  obtain ⟨row,found,owner,held⟩ := stored.row
  obtain ⟨next,performed,reached⟩ := done row.document held
  obtain ⟨sameId,sameTenant,_⟩ := stored.valid.rows id row found
  obtain ⟨keptId,keptSpec,_⟩ := perform_evolves performed
  have key : next.workloadId = id := by rw [keptId,sameId]; exact Table.find_key found
  have located : s.db.find next.workloadId = some row := by rw [key]; exact found
  obtain ⟨db,saved⟩ := save_of_match located (by rw [keptSpec,sameTenant]) rfl
  obtain ⟨_,again,there,_,_,finds⟩ := save_parts saved
  rw [located] at there
  cases Option.some.inj there
  have selected : get s.db id identity.tenant = some (row.document,row.version) :=
    get_exact.mpr ⟨row,found,owner.trans ours.symm,rfl,rfl⟩
  have read : step settings s (.read client identity id call) =
      some {s with clients := Function.update s.clients client (.loaded identity id call row.document row.version)} := by
    simp [step,respond,stored.idle,respondRead,authorize,role,selected]
  have write : step settings
      {s with clients := Function.update s.clients client (.loaded identity id call row.document row.version)}
      (.write client now) = some ⟨db,Function.update (Function.update s.clients client
        (.loaded identity id call row.document row.version)) client .idle⟩ := by
    simp [step,respond,respondWrite,performed,saved]
  have path := Runs.take read (.single write)
  refine ⟨_,_,path,path.invariant step_valid stored.valid,by simp,
    {row with version := row.version + 1, document := next},?_,owner,reached⟩
  rw [finds,key,if_pos rfl]

theorem Stored.imp {stronger : FactoryWorkload → Prop} (stored : Stored settings id tenant client stronger s)
    (weaker : ∀ w, stronger w → holds w) : Stored settings id tenant client holds s := by
  obtain ⟨row,found,owner,held⟩ := stored.row
  exact ⟨stored.valid,stored.idle,row,found,owner,weaker _ held⟩

end Asking

section Schedule
variable {settings : Settings} {id tenant : String} {client : Nat} {s : State}

def operator (tenant : String) : Identity := ⟨"operator",["factory-admin"],tenant⟩

def assessor (tenant : String) : Identity := ⟨"assessor",["gate-evaluator"],tenant⟩

theorem attested (attestable : Attestable settings) (required : gate ∈ requiredGates) (id tenant : String) (now : Instant) :
    ∃ request result, result.gate = gate ∧ result.status = GateStatus.pass ∧ result.evaluator = (assessor tenant).subject ∧
      ∀ w, ¬ Late w.stage → perform settings (assessor tenant) id (.recordGate request) w now =
        .ok {w with gates := Dict.set w.gates gate result, stage := .validated} := by
  let statement : EvidenceStatement :=
    ⟨id,gate,"https://evidence","sha256:0",(assessor tenant).subject,by decide +kernel,by decide +kernel⟩
  have signed : ∃ keyId signature, verifyGateEvidence settings statement
      ⟨gate,true,"https://evidence","sha256:0",keyId,signature⟩ = .ok () := by
    by_cases production : settings.production = true
    · obtain ⟨keyId,signature,named,given,verified⟩ := attestable production statement
      refine ⟨keyId,signature,?_⟩
      simp [verifyGateEvidence,named,given,verified,refuse,Except.mapError]
    · exact ⟨"","",by simp [verifyGateEvidence,production]⟩
  obtain ⟨keyId,signature,verified⟩ := signed
  have evidenced : blank "https://evidence" = false := by decide +kernel
  let result : GateResult :=
    ⟨gate,.pass,"https://evidence",(assessor tenant).subject,"sha256:0",keyId,signature,now,evidenced⟩
  refine ⟨⟨gate,true,"https://evidence","sha256:0",keyId,signature⟩,result,rfl,rfl,rfl,?_⟩
  intro w early
  have made : EvidenceStatement.make id gate "https://evidence" "sha256:0" (assessor tenant).subject = .ok statement := by
    unfold EvidenceStatement.make
    rw [dif_pos statement.located,dif_pos statement.digested]
  have built : GateResult.make gate .pass "https://evidence" (assessor tenant).subject "sha256:0" keyId signature now =
      .ok result := by
    unfold GateResult.make
    rw [dif_pos evidenced]
  have recorded : w.recordGate result = .ok {w with gates := Dict.set w.gates gate result, stage := .validated} :=
    recordGate_exact.mpr ⟨early,required,rfl⟩
  unfold perform recordGate
  simp only [made,refuse,Except.mapError,bind,Except.bind,verified,if_true,built,recorded]

structure Assessed (spec : FactorySpec) (approver : String) (w : FactoryWorkload) : Prop where
  early : ¬ Late w.stage
  same : w.spec = spec
  others : ∀ gate result, Dict.get w.gates gate = some result → result.evaluator ≠ approver

def Passed (w : FactoryWorkload) (gate : String) : Prop := w.passes gate = true ∧ w.stage = .validated

theorem passed_set {w : FactoryWorkload} (passed : result.status = .pass) (held : other = gate ∨ w.passes other = true) :
    Passed {w with gates := Dict.set w.gates gate result, stage := .validated} other := by
  refine ⟨passes_exact.mpr ?_,rfl⟩
  dsimp only
  rw [Dict.get_set]
  by_cases here : other = gate
  · exact ⟨result,if_pos here,passed⟩
  · rw [if_neg here]
    exact passes_exact.mp (held.resolve_left here)

theorem gates_possible (attestable : Attestable settings) (apart : (assessor tenant).subject ≠ approver)
    (stored : Stored settings id tenant client (Assessed spec approver) s) :
    Possible (step settings) (Stored settings id tenant client fun w =>
      Assessed spec approver w ∧ ∀ gate ∈ requiredGates, Passed w gate) s := by
  let settled (gate : {gate // gate ∈ requiredGates}) (t : State) : Prop :=
    ∃ row, t.db.find id = some row ∧ Passed row.document gate.val
  have one : ∀ gate t, Stored settings id tenant client (Assessed spec approver) t → Possible (step settings)
      (fun u => Stored settings id tenant client (Assessed spec approver) u ∧ settled gate u ∧
        ∀ other, settled other t → settled other u) t := by
    intro gate t stored
    obtain ⟨row,found,owner,assessed⟩ := stored.row
    obtain ⟨request,result,named,passed,evaluated,done⟩ := attested attestable gate.property id tenant 0
    have read : Stored settings id tenant client (fun w => w = row.document) t :=
      ⟨stored.valid,stored.idle,row,found,owner,rfl⟩
    have answered := @Stored.exchange _ _ _ _ _
      (fun w => w = {row.document with gates := Dict.set row.document.gates gate.val result, stage := .validated}) _
      read (assessor tenant) (.recordGate request) 0 rfl List.mem_cons_self (by
        intro w same
        subst same
        exact ⟨_,done _ assessed.early,rfl⟩)
    refine answered.imp fun u after => ⟨after.imp ?_,?_,?_⟩
    · intro w same
      subst same
      refine ⟨validated_early,assessed.same,fun name kept listed => ?_⟩
      rw [Dict.get_set] at listed
      split at listed
      · cases Option.some.inj listed
        rw [evaluated]
        exact apart
      · exact assessed.others name kept listed
    · obtain ⟨later,present,_,same⟩ := after.row
      refine ⟨later,present,?_⟩
      rw [same]
      exact passed_set passed (.inl rfl)
    · intro other held
      obtain ⟨earlier,present,passes,_⟩ := held
      rw [found] at present
      cases Option.some.inj present
      obtain ⟨later,there,_,same⟩ := after.row
      refine ⟨later,there,?_⟩
      rw [same]
      exact passed_set passed (.inr passes)
  refine (Possible.each one requiredGates.attach stored).imp fun t reached => ?_
  obtain ⟨after,all⟩ := reached
  obtain ⟨row,found,owner,assessed⟩ := after.row
  refine ⟨after.valid,after.idle,row,found,owner,assessed,fun gate required => ?_⟩
  obtain ⟨other,again,passed⟩ := all ⟨gate,required⟩ (List.mem_attach _ _)
  rw [found] at again
  cases Option.some.inj again
  exact passed

theorem approve_done {w : FactoryWorkload} (assessed : Assessed spec approver w) (all : ∀ gate ∈ requiredGates, Passed w gate)
    (other : approver ≠ spec.owner) (digest : String) (now : Instant) :
    ∃ next, w.approve approver digest now = .ok next ∧ next.stage = .approved := by
  have validated : w.stage = .validated := (all "cost" List.mem_cons_self).2
  have complete : w.missingOrFailedGates = [] :=
    missing_none_iff.mpr fun gate required => passes_exact.mp (all gate required).1
  have separate : ¬ (approver = w.spec.owner ∨ approver ∈ (Dict.values w.gates).map GateResult.evaluator) := by
    intro involved
    rcases involved with owner | evaluator
    · rw [assessed.same] at owner
      exact other owner
    · obtain ⟨result,listed,same⟩ := List.mem_map.mp evaluator
      obtain ⟨gate,held⟩ := Dict.mem_values_iff.mp listed
      exact assessed.others gate result held same
  unfold FactoryWorkload.approve
  dsimp only
  rw [if_neg (by simp [validated,complete]),if_neg separate]
  exact ⟨_,rfl,rfl⟩

theorem approval_possible (allowed : (evaluate settings.crypto spec).allowed = true) (other : approver ≠ spec.owner)
    (stored : Stored settings id tenant client
      (fun w => Assessed spec approver w ∧ ∀ gate ∈ requiredGates, Passed w gate) s) :
    Possible (step settings) (Stored settings id tenant client fun w => w.stage = .approved) s := by
  refine stored.exchange ⟨approver,["release-approver"],tenant⟩ (.advance "approve" "") 0 rfl List.mem_cons_self ?_
  intro w ready
  obtain ⟨next,approved,stage⟩ :=
    approve_done ready.1 ready.2 other (evaluate settings.crypto w.spec).policyDigest 0
  have permitted : (evaluate settings.crypto w.spec).allowed = true := by rw [ready.1.same]; exact allowed
  refine ⟨next,?_,stage⟩
  simp [perform,advance,permitted,approved,refuse,Except.mapError]

theorem operation_possible {source target : WorkloadStage} (operation : String)
    (stored : Stored settings id tenant client (fun w => w.stage = source) s) (ordinary : operation ≠ "approve")
    (done : ∀ w : FactoryWorkload, w.stage = source →
      ∃ next, advance settings (operator tenant) operation "done" w 0 = .ok next ∧ next.stage = target) :
    Possible (step settings) (Stored settings id tenant client fun w => w.stage = target) s := by
  refine stored.exchange (operator tenant) (.advance operation "done") 0 rfl ?_ done
  simp [Call.role,ordinary,operator]

theorem provision_possible (stored : Stored settings id tenant client (fun w => w.stage = .approved) s) :
    Possible (step settings) (Stored settings id tenant client fun w => w.stage = .provisioned) s := by
  refine operation_possible "provision" stored (by decide) fun w approved => ?_
  simp [advance,FactoryWorkload.provision,approved,refuse,Except.mapError,FactoryWorkload.move]

theorem release_possible (stored : Stored settings id tenant client (fun w => w.stage = .provisioned) s) :
    Possible (step settings) (Stored settings id tenant client fun w => w.stage = .released) s := by
  refine operation_possible "release" stored (by decide) fun w provisioned => ?_
  simp [advance,FactoryWorkload.release,provisioned,refuse,Except.mapError,FactoryWorkload.move]

theorem retire_possible (live : source = .released ∨ source = .suspended)
    (stored : Stored settings id tenant client (fun w => w.stage = source) s) :
    Possible (step settings) (Stored settings id tenant client fun w => w.stage = .retired) s := by
  refine operation_possible "retire" stored (by decide) fun w stage => ?_
  have reasoned : blank "done" = false := by decide +kernel
  rcases live with rfl | rfl <;>
    simp [advance,FactoryWorkload.retire,stage,reasoned,refuse,Except.mapError,FactoryWorkload.move]

theorem releasable_possible (attestable : Attestable settings)
    (stored : Stored settings id tenant client (fun w => releasable settings w = true) s) :
    Possible (step settings) (Stored settings id tenant client fun w => w.stage = .released) s := by
  obtain ⟨row,found,owner,able⟩ := stored.row
  have staged : Stored settings id tenant client (fun w => w.stage = row.document.stage) s :=
    ⟨stored.valid,stored.idle,row,found,owner,rfl⟩
  have unapproved : ¬ Late row.document.stage → (evaluate settings.crypto row.document.spec).allowed = true →
      Possible (step settings) (Stored settings id tenant client fun w => w.stage = .released) s := by
    intro early allowed
    obtain ⟨approver,unknown⟩ := Infinite.exists_notMem_finset (row.document.spec.owner :: (assessor tenant).subject ::
      (Dict.values row.document.gates).map GateResult.evaluator).toFinset
    simp only [List.mem_toFinset,List.mem_cons,not_or] at unknown
    obtain ⟨notOwner,notAssessor,notEvaluator⟩ := unknown
    have assessed : Assessed row.document.spec approver row.document := by
      refine ⟨early,rfl,fun gate result held same => notEvaluator ?_⟩
      rw [← same]
      exact List.mem_map_of_mem (Dict.mem_values_iff.mpr ⟨gate,held⟩)
    have start : Stored settings id tenant client (Assessed row.document.spec approver) s :=
      ⟨stored.valid,stored.idle,row,found,owner,assessed⟩
    refine (gates_possible attestable (Ne.symm notAssessor) start).through fun t gated => ?_
    refine (approval_possible allowed notOwner gated).through fun u approved => ?_
    exact (provision_possible approved).through fun v provisioned => release_possible provisioned
  unfold releasable at able
  cases stage : row.document.stage with
  | draft => exact unapproved (by rw [stage]; decide) (by rw [stage] at able; exact able)
  | validated => exact unapproved (by rw [stage]; decide) (by rw [stage] at able; exact able)
  | approved =>
    rw [stage] at staged
    exact (provision_possible staged).through fun t provisioned => release_possible provisioned
  | provisioned =>
    rw [stage] at staged
    exact release_possible staged
  | released =>
    rw [stage] at staged
    exact .here staged
  | suspended =>
    rw [stage] at able
    cases able
  | retired =>
    rw [stage] at able
    cases able

end Schedule

section Stuck
variable {settings : Settings} {id : String} {s : State} {w after : FactoryWorkload}

theorem leads_unreleasable (stuck : releasable settings w = false) (same : after.spec = w.spec)
    (leads : Leads settings w.spec w.stage after.stage) : releasable settings after = false := by
  unfold releasable at stuck ⊢
  rw [same]
  generalize w.stage = source at stuck leads
  generalize after.stage = target at leads ⊢
  cases leads with
  | gated early => cases source <;> simp_all [Late]
  | approved allowed => simp [allowed] at stuck
  | provisioned => cases stuck
  | released => cases stuck
  | suspended => rfl
  | retired _ => rfl

theorem leads_unretirable (stuck : retirable settings w = false) (same : after.spec = w.spec)
    (leads : Leads settings w.spec w.stage after.stage) : retirable settings after = false := by
  unfold retirable releasable at stuck ⊢
  rw [same]
  generalize w.stage = source at stuck leads
  generalize after.stage = target at leads ⊢
  cases leads with
  | gated early => cases source <;> simp_all [Late]
  | approved allowed => simp [allowed] at stuck
  | provisioned => cases stuck
  | released => cases stuck
  | suspended => cases stuck
  | retired live => rcases live with rfl | rfl <;> cases stuck

theorem stuck_impossible (able : FactoryWorkload → Bool)
    (leads : ∀ {w after : FactoryWorkload}, able w = false → after.spec = w.spec →
      Leads settings w.spec w.stage after.stage → able after = false)
    (staged : ∀ {w after : FactoryWorkload}, after.spec = w.spec → after.stage = w.stage → able after = able w)
    (there : ∀ {w : FactoryWorkload}, w.stage = stage → able w = true) (valid : Valid settings s)
    (found : s.db.find id = some row) (stuck : able row.document = false) :
    ¬ Possible (step settings) (InStage id stage) s := by
  refine @impossible _ _ (step settings) s _
    (fun t => Valid settings t ∧ ∃ row, t.db.find id = some row ∧ able row.document = false) ?_
    ⟨valid,row,found,stuck⟩ ?_
  · intro before event next trapped taken
    obtain ⟨valid,row,found,stuck⟩ := trapped
    obtain ⟨outcome,answered⟩ := step_parts taken
    obtain ⟨later,present,same,moved⟩ := respond_leads valid answered found
    refine ⟨step_valid valid taken,later,present,?_⟩
    rcases moved with still | moved
    · rw [staged same still]
      exact stuck
    · exact leads stuck same moved
  · intro t trapped reached
    obtain ⟨_,row,found,stuck⟩ := trapped
    obtain ⟨other,present,stage⟩ := reached
    rw [found] at present
    cases Option.some.inj present
    rw [there stage] at stuck
    cases stuck

end Stuck

-- From any state that the service can be in, whatever is in flight: which
-- workloads can still be released and which can still be retired. What the
-- policy denies before its approval can be neither.
theorem progress_exact (settings : Settings) (attestable : Attestable settings) (events : List Event) (s : State)
    (path : Runs (step settings) initial events s) (id : String) (row : Row) (found : s.db.find id = some row) :
    (Possible (step settings) (InStage id .released) s ↔ releasable settings row.document = true) ∧
      (Possible (step settings) (InStage id .retired) s ↔ retirable settings row.document = true) := by
  have valid := reached_valid path
  obtain ⟨client,idle⟩ : ∃ client, s.clients client = .idle := by
    obtain ⟨bound,idle⟩ := path.invariant step_spare initial_spare
    exact ⟨bound,idle bound (Nat.le_refl _)⟩
  have stored {holds : FactoryWorkload → Prop} (held : holds row.document) : Stored settings id row.tenant client holds s :=
    ⟨valid,idle,row,found,rfl,held⟩
  have inStage : ∀ stage t, Stored settings id row.tenant client (fun w => w.stage = stage) t → InStage id stage t := by
    intro stage t reached
    obtain ⟨later,present,_,held⟩ := reached.row
    exact ⟨later,present,held⟩
  constructor
  · constructor
    · intro possible
      by_contra stuck
      refine stuck_impossible (releasable settings) leads_unreleasable ?_ ?_ valid found (by simpa using stuck) possible
      · intro w after same still
        simp [releasable,same,still]
      · intro w released
        simp [releasable,released]
    · intro able
      exact (releasable_possible attestable (stored able)).imp (inStage .released)
  · constructor
    · intro possible
      by_contra stuck
      refine stuck_impossible (retirable settings) leads_unretirable ?_ ?_ valid found (by simpa using stuck) possible
      · intro w after same still
        simp [retirable,releasable,same,still]
      · intro w retired
        simp [retirable,retired]
    · intro able
      refine Possible.imp ?_ (inStage .retired)
      by_cases live : releasable settings row.document = true
      · exact (releasable_possible attestable (stored live)).through fun t released => retire_possible (.inl rfl) released
      · cases stage : row.document.stage with
        | suspended => exact retire_possible (.inr rfl) (stored stage)
        | retired => exact .here (stored stage)
        | draft | validated | approved | provisioned | released =>
          unfold retirable at able
          rw [stage] at able
          exact absurd able live

def exposedRequest : WorkloadRequest :=
  ⟨"open-agent",.agent,"builder","production","sha256:abc123","internal",999/1000,750,1/100,false,true⟩

def twoDrafts : List Event := [.create builder rehearsalRequest "w-1",.create builder exposedRequest "w-2"]

theorem exposed_draft_stuck : ∃ s, Runs (step rehearsalSettings) initial twoDrafts s ∧
    Possible (step rehearsalSettings) (InStage "w-1" .retired) s ∧
    ¬ Possible (step rehearsalSettings) (InStage "w-2" .released) s ∧
    ¬ Possible (step rehearsalSettings) (InStage "w-2" .retired) s := by
  have accepted : ((consume (step rehearsalSettings) initial twoDrafts).bind fun s =>
      (s.db.find "w-1").bind fun first => (s.db.find "w-2").map fun second =>
        (retirable rehearsalSettings first.document,releasable rehearsalSettings second.document,
          retirable rehearsalSettings second.document)) = some (true,false,false) := by decide +kernel
  obtain ⟨s,consumed,accepted⟩ := Option.bind_eq_some_iff.mp accepted
  obtain ⟨first,found,accepted⟩ := Option.bind_eq_some_iff.mp accepted
  obtain ⟨second,also,accepted⟩ := Option.map_eq_some_iff.mp accepted
  simp only [Prod.mk.injEq] at accepted
  have path := consume_exact.mp consumed
  have attestable : Attestable rehearsalSettings := fun production => nomatch production
  have ours := progress_exact rehearsalSettings attestable twoDrafts s path "w-1" first found
  have denied := progress_exact rehearsalSettings attestable twoDrafts s path "w-2" second also
  exact ⟨s,path,ours.2.mpr accepted.1,by rw [denied.1]; simp [accepted],by rw [denied.2]; simp [accepted]⟩

end OpenModelOps.FactoryProgress
