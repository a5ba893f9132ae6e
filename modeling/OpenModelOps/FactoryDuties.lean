import OpenModelOps.FactorySerial

namespace OpenModelOps.FactoryDuties
open KeyedTable PythonText FactoryDomain FactoryRequests FactoryHistory FactorySerial RunHistory

def registeredBy : Origin → Option Identity
  | .created identity _ => some identity
  | .operated .. => none

def approvedBy : Origin → Option Identity
  | .created .. => none
  | .operated _ identity (.advance operation _) _ => if operation = "approve" then some identity else none
  | .operated _ _ (.recordGate _) _ => none

-- No workload of the log was approved by the actor who registered it.
def SeparateDuties (log : List Commit) : Prop :=
  ∀ registered ∈ log, ∀ approved ∈ log, approved.workloadId = registered.workloadId →
    ∀ registrar ∈ registeredBy registered.origin, ∀ approver ∈ approvedBy approved.origin,
      ¬ (approver.subject = registrar.subject ∧ approver.tenant = registrar.tenant)

def NamesActor : Event → Prop
  | .create identity request _ => request.owner = identity.subject
  | _ => True

theorem approval_not_owner (done : perform settings identity workloadId (.advance "approve" reason) w now = .ok next) :
    identity.subject ≠ w.spec.owner := by
  simp only [perform,advance,if_true] at done
  split at done
  · cases done
  · exact (approve_parts (refuse_ok done)).2.1.notOwner

theorem follows_spec (follows : Follows settings (some (version,before)) log) (member : c ∈ log) :
    ∃ read held, Extends settings (some (read,held)) c ∧ held.spec = before.spec := by
  induction log generalizing version before with
  | nil => cases member
  | cons head rest ih =>
    obtain ⟨extended,follows⟩ := follows
    rcases List.mem_cons.mp member with rfl | later
    · exact ⟨version,before,extended,rfl⟩
    · obtain ⟨read,held,extends_,same⟩ := ih follows later
      refine ⟨read,held,extends_,same.trans ?_⟩
      cases extended with
      | operated done => exact (perform_evolves done).2.1

theorem extends_registeredBy {held : Nat × FactoryWorkload} (extended : Extends settings (some held) c) : registeredBy c.origin = none := by
  cases extended with
  | operated done => rfl

theorem extends_approvedBy {approver : Identity} (extended : Extends settings (some (version,before)) c)
    (approves : approvedBy c.origin = some approver) : approver.subject ≠ before.spec.owner := by
  cases extended with
  | @operated identity workloadId call _ now document _ client done =>
    cases call with
    | recordGate request => cases approves
    | advance operation reason =>
      simp only [approvedBy] at approves
      split at approves
      · rename_i approve
        subst operation
        cases Option.some.inj approves
        exact approval_not_owner done
      · cases approves

theorem mem_commitsOf {log : List Commit} {id : String} (member : c ∈ log) (named : c.workloadId = id) : c ∈ commitsOf id log :=
  List.mem_filter.mpr ⟨member,by simpa using named⟩

theorem commits_registered (path : Runs (step settings) s events t) (member : c ∈ commits settings s events)
    (registered : c.origin = .created identity request) : .create identity request c.workloadId ∈ events := by
  induction path with
  | stop => cases member
  | @take s t u event rest taken remaining ih =>
    simp only [commits,taken,List.mem_append] at member
    rcases member with here | later
    · refine List.mem_cons.mpr (.inl ?_)
      cases event with
      | create actor body workloadId =>
        simp only [committed] at here
        split at here
        · cases here
        · rw [Option.mem_toList] at here
          obtain ⟨_,_,rfl⟩ := Option.map_eq_some_iff.mp here
          cases registered
          rfl
      | read client actor workloadId call => cases here
      | write client now =>
        simp only [committed] at here
        split at here
        · cases here
        · split at here
          · cases here
          · rw [Option.mem_toList] at here
            obtain ⟨_,_,rfl⟩ := Option.map_eq_some_iff.mp here
            cases registered
    · exact List.mem_cons_of_mem _ (ih later)

theorem duties_separate_when_owner_is_actor (path : Runs (step settings) initial events t)
    (named : ∀ event ∈ events, NamesActor event) : SeparateDuties (commits settings initial events) := by
  rintro registered first approved second same registrar registers approver approves ⟨subject,_⟩
  have chain := (run_follows (initial_sound settings) path registered.workloadId).1
  have firstHere := mem_commitsOf first rfl
  have secondHere := mem_commitsOf second same
  cases log : commitsOf registered.workloadId (commits settings initial events) with
  | nil => rw [log] at firstHere; cases firstHere
  | cons head rest =>
    rw [log] at chain firstHere secondHere
    obtain ⟨made,later⟩ := chain
    change Extends settings none head at made
    -- Only the head of a workload's commits is a registration.
    have opens : registered = head := by
      rcases List.mem_cons.mp firstHere with rfl | inside
      · rfl
      · obtain ⟨_,_,extended,_⟩ := follows_spec later inside
        rw [extends_registeredBy extended] at registers
        cases registers
    subst opens
    generalize stated : registered.origin = origin at registers
    cases origin with
    | operated client identity call now => cases registers
    | created identity request =>
      cases Option.some.inj registers
      have owner : request.owner = registrar.subject := named _ (commits_registered path first stated)
      rcases List.mem_cons.mp secondHere with rfl | inside
      · rw [stated] at approves; cases approves
      · obtain ⟨_,held,extended,spec⟩ := follows_spec later inside
        refine extends_approvedBy extended approves ?_
        rw [subject,spec,← owner]
        cases made with
        | created built =>
          cases stated
          exact (createWorkload_parts built).2.2.1.symm

section Rehearsal
open FactoryIsolation

theorem rehearsal_separates : ∃ t, Runs (step rehearsalSettings) initial rehearsal t ∧
    SeparateDuties (commits rehearsalSettings initial rehearsal) := by
  have ran : (consume (step rehearsalSettings) initial rehearsal).isSome = true := by decide +kernel
  obtain ⟨t,consumed⟩ := Option.isSome_iff_exists.mp ran
  have path := consume_exact.mp consumed
  refine ⟨t,path,duties_separate_when_owner_is_actor path fun event member => ?_⟩
  cases event with
  | create identity request workloadId =>
    simp [rehearsal,requiredGates] at member
    obtain ⟨rfl,rfl,_⟩ := member
    rfl
  | read client identity workloadId call => trivial
  | write client now => trivial

-- The registration names another owner in its body.
def registrant : Identity := ⟨"builder",["factory-admin","release-approver"],"tenant-a"⟩

def selfApproval : List Event :=
  .create registrant { rehearsalRequest with owner := "platform-team" } "w-1" ::
    (requiredGates.flatMap fun gate => [.read 0 evaluator "w-1" (.recordGate (passingGate gate)),.write 0 0]) ++
    [.read 1 registrant "w-1" (.advance "approve" ""),.write 1 60000000]

theorem registrant_approves : (∃ t, Runs (step rehearsalSettings) initial selfApproval t) ∧
    ¬ SeparateDuties (commits rehearsalSettings initial selfApproval) := by
  constructor
  · have ran : (consume (step rehearsalSettings) initial selfApproval).isSome = true := by decide +kernel
    obtain ⟨t,consumed⟩ := Option.isSome_iff_exists.mp ran
    exact ⟨t,consume_exact.mp consumed⟩
  · unfold SeparateDuties
    decide +kernel

end Rehearsal

end OpenModelOps.FactoryDuties
