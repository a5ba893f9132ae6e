import OpenModelOps.FactoryRequests

namespace OpenModelOps.FactoryHistory
open KeyedTable PythonText FactoryDomain FactoryGovernance FactoryRequests RunHistory

def Governed (settings : Settings) (w : FactoryWorkload) : Prop :=
  ∃ actor, w.approvedBy = some actor ∧ Separated w actor ∧
    (evaluate settings.crypto w.spec).allowed = true ∧
    w.policyDigest = some (evaluate settings.crypto w.spec).policyDigest

theorem Governed.frozen (governed : Governed settings before) (frozen : Frozen before after) :
    Governed settings after := by
  obtain ⟨actor,approved,separated,allowed,digest⟩ := governed
  refine ⟨actor,frozen.approvedBy.trans approved,⟨?_,?_,?_⟩,?_,?_⟩
  · rw [frozen.gates]; exact separated.passed
  · rw [frozen.spec]; exact separated.notOwner
  · rw [frozen.gates]; exact separated.notEvaluator
  · rw [frozen.spec]; exact allowed
  · rw [frozen.policyDigest,frozen.spec]; exact digest

inductive Evolves (settings : Settings) (before after : FactoryWorkload) : Prop where
  | gated : ¬ Late before.stage → after.stage = .validated → Evolves settings before after
  | approved : before.stage = .validated → after.stage = .approved → Governed settings after →
      Evolves settings before after
  | moved : Late before.stage → Late after.stage → Frozen before after → Evolves settings before after

theorem validated_early : ¬ Late .validated := by decide

theorem Evolves.governed (evolves : Evolves settings before after)
    (held : Late before.stage → Governed settings before) (late : Late after.stage) : Governed settings after := by
  cases evolves with
  | gated _ stage => rw [stage] at late; exact absurd late validated_early
  | approved _ _ governed => exact governed
  | moved before _ frozen => exact (held before).frozen frozen

theorem moved_evolves (settings : Settings) (late : Late w.stage) (target : Late stage) (actor reason : String)
    (now : Instant) : Evolves settings w (w.move stage actor reason now) :=
  .moved late target (move_frozen _ _ _ _ _)

theorem recordGate_evolves (done : w.recordGate result = .ok next) :
    next.workloadId = w.workloadId ∧ next.spec = w.spec ∧ Evolves settings w next := by
  obtain ⟨early,_,rfl⟩ := recordGate_exact.mp done
  exact ⟨rfl,rfl,.gated early rfl⟩

theorem approve_evolves (allowed : (evaluate settings.crypto w.spec).allowed = true)
    (done : w.approve actor (evaluate settings.crypto w.spec).policyDigest now = .ok next) :
    next.workloadId = w.workloadId ∧ next.spec = w.spec ∧ Evolves settings w next := by
  obtain ⟨ready,separated,stage,id,spec,gates,approvedBy,digest⟩ := approve_parts done
  rw [if_neg (policyDigest_nonempty _ _)] at digest
  refine ⟨id,spec,.approved ready stage ⟨actor,approvedBy,⟨?_,?_,?_⟩,?_,?_⟩⟩
  · rw [gates]; exact separated.passed
  · rw [spec]; exact separated.notOwner
  · rw [gates]; exact separated.notEvaluator
  · rw [spec]; exact allowed
  · rw [digest,spec]

theorem advance_evolves (done : advance settings identity operation reason w now = .ok next) :
    next.workloadId = w.workloadId ∧ next.spec = w.spec ∧ Evolves settings w next := by
  unfold advance at done
  split at done
  · dsimp only at done
    split at done
    · cases done
    · rename_i allowed
      exact approve_evolves (not_not.mp allowed) (refuse_ok done)
  · split at done
    · obtain ⟨ready,_,rfl⟩ := provision_parts (refuse_ok done)
      exact ⟨rfl,rfl,moved_evolves settings (by rw [ready]; decide) (by decide) _ _ _⟩
    · split at done
      · obtain ⟨ready,_,rfl⟩ := release_parts (refuse_ok done)
        exact ⟨rfl,rfl,moved_evolves settings (by rw [ready]; decide) (by decide) _ _ _⟩
      · split at done
        · obtain ⟨ready,rfl⟩ := suspend_parts (refuse_ok done)
          exact ⟨rfl,rfl,moved_evolves settings (by rw [ready]; decide) (by decide) _ _ _⟩
        · split at done
          · obtain ⟨ready,rfl⟩ := retire_parts (refuse_ok done)
            exact ⟨rfl,rfl,moved_evolves settings ready (by decide) _ _ _⟩
          · cases done

theorem perform_evolves (done : perform settings identity workloadId call w now = .ok next) :
    next.workloadId = w.workloadId ∧ next.spec = w.spec ∧ Evolves settings w next := by
  cases call with
  | recordGate request =>
    obtain ⟨_,_,_,_,_,_,_,_,_,_,_,recorded⟩ := recordGate_parts done
    exact recordGate_evolves recorded
  | advance operation reason => exact advance_evolves done

-- The document of a row agrees with its columns.
def RowValid (settings : Settings) (row : Row) : Prop :=
  row.document.workloadId = row.workloadId ∧ row.document.spec.tenant = row.tenant ∧
    (Late row.document.stage → Governed settings row.document)

-- A request in flight holds a past content of its row, and the present one if
-- the version has not moved.
def ClientValid (db : Database) : Client → Prop
  | .idle => True
  | .loaded identity workloadId _ w version => w.workloadId = workloadId ∧ w.spec.tenant = identity.tenant ∧
      ∃ row, db.find workloadId = some row ∧ row.tenant = identity.tenant ∧ version ≤ row.version ∧
        (row.version = version → row.document = w)

structure Valid (settings : Settings) (s : State) : Prop where
  rows : ∀ id row, s.db.find id = some row → RowValid settings row
  clients : ∀ client, ClientValid s.db (s.clients client)

theorem initial_valid (settings : Settings) : Valid settings initial :=
  ⟨fun _ _ found => (nomatch found),fun _ => trivial⟩

inductive RowStep (settings : Settings) (tenant : String) : Option Row → Option Row → Prop where
  | kept : RowStep settings tenant row row
  | created : row.tenant = tenant → row.document.stage = .draft → RowValid settings row → row.version = 1 →
      RowStep settings tenant none (some row)
  | saved : row.tenant = tenant → next.tenant = tenant → next.version = row.version + 1 →
      next.document.workloadId = row.document.workloadId → next.workloadId = row.workloadId →
      next.document.spec = row.document.spec →
      Evolves settings row.document next.document → RowStep settings tenant (some row) (some next)

theorem respondCreate_rows (id : String) :
    RowStep settings identity.tenant (s.db.find id) ((respondCreate s identity request workloadId).1.db.find id) := by
  unfold respondCreate
  split
  · exact .kept
  · rename_i w made
    obtain ⟨sameId,tenant,_,stage⟩ := createWorkload_parts made
    split
    · exact .kept
    · rename_i db inserted
      have fresh := Table.insert_fresh inserted
      have finds := Table.find_insert inserted id
      by_cases here : id = w.workloadId
      · subst id
        rw [if_pos rfl] at finds
        rw [finds,show s.db.find w.workloadId = none from fresh]
        exact .created tenant stage ⟨rfl,rfl,fun late => absurd stage late.1⟩ rfl
      · rw [if_neg here] at finds
        rw [finds]; exact .kept

theorem respondRead_rows : (respondRead s client identity workloadId call).1.db = s.db := by
  unfold respondRead
  split
  · rfl
  · split <;> rfl

theorem respondWrite_rows (valid : ClientValid s.db (.loaded identity workloadId call w version)) (id : String) :
    RowStep settings identity.tenant (s.db.find id)
      ((respondWrite settings s client identity workloadId call w version now).1.db.find id) := by
  unfold respondWrite
  dsimp only
  split
  · exact .kept
  · rename_i next done
    obtain ⟨sameId,sameSpec,evolves⟩ := perform_evolves done
    obtain ⟨heldId,_,held,found,tenant,_,current⟩ := valid
    split
    · exact .kept
    · rename_i db saved stored
      obtain ⟨_,row,present,_,atVersion,finds⟩ := save_parts stored
      rw [sameId,heldId,found] at present
      cases Option.some.inj present
      have document := current atVersion
      rw [finds]
      by_cases here : id = next.workloadId
      · rw [if_pos here,here,sameId,heldId,found]
        subst w
        exact .saved tenant tenant (by rw [atVersion]) sameId rfl sameSpec evolves
      · rw [if_neg here]; exact .kept

theorem respond_rows (valid : Valid settings s) (answered : respond settings s event = some (next,outcome)) :
    ∃ tenant, tenantOf s event = some tenant ∧ ∀ id, RowStep settings tenant (s.db.find id) (next.db.find id) := by
  cases respond_cases answered with
  | create identity request workloadId answer =>
    obtain rfl := congrArg Prod.fst answer
    exact ⟨identity.tenant,rfl,fun id => respondCreate_rows id⟩
  | read client identity workloadId call idle answer =>
    obtain rfl := congrArg Prod.fst answer
    exact ⟨identity.tenant,rfl,fun id => by rw [respondRead_rows]; exact .kept⟩
  | write client now identity workloadId call w version loaded answer =>
    obtain rfl := congrArg Prod.fst answer
    have held := valid.clients client
    rw [loaded] at held
    exact ⟨identity.tenant,by simp [tenantOf,loaded],fun id => respondWrite_rows held id⟩

theorem RowStep.valid (change : RowStep settings tenant before (some row))
    (held : ∀ old, before = some old → RowValid settings old) : RowValid settings row := by
  cases change with
  | kept => exact held row rfl
  | created _ _ valid _ => exact valid
  | @saved old _ tenant nextTenant _ sameId sameKey sameSpec evolves =>
    obtain ⟨oldId,oldTenant,oldGoverned⟩ := held old rfl
    refine ⟨by rw [sameId,sameKey,oldId],by rw [sameSpec,oldTenant,tenant,nextTenant],?_⟩
    exact evolves.governed oldGoverned

theorem RowStep.present (change : RowStep settings tenant (some row) after) :
    ∃ next, after = some next ∧ next.tenant = row.tenant ∧ row.version ≤ next.version ∧
      (next.version = row.version → next.document = row.document) := by
  cases change with
  | kept => exact ⟨row,rfl,rfl,Nat.le_refl _,fun _ => rfl⟩
  | @saved _ next tenant nextTenant version _ _ _ _ =>
    exact ⟨next,rfl,nextTenant.trans tenant.symm,by omega,fun same => by omega⟩

theorem RowStep.late (change : RowStep settings tenant (some row) after) (late : Late row.document.stage) :
    ∃ next, after = some next ∧ Late next.document.stage ∧ Frozen row.document next.document := by
  cases change with
  | kept => exact ⟨row,rfl,late,Frozen.refl _⟩
  | @saved _ next _ _ _ _ _ _ evolves =>
    cases evolves with
    | gated early _ => exact absurd late early
    | approved validated _ _ => rw [validated] at late; exact absurd late validated_early
    | moved _ still frozen => exact ⟨next,rfl,still,frozen⟩

theorem RowStep.entered (change : RowStep settings tenant before (some row)) (late : Late row.document.stage)
    (early : ∀ old, before = some old → ¬ Late old.document.stage) :
    ∃ old, before = some old ∧ old.document.stage = .validated ∧ row.document.stage = .approved := by
  cases change with
  | kept => exact absurd late (early row rfl)
  | created _ draft _ _ => rw [draft] at late; exact absurd rfl late.1
  | @saved old _ _ _ _ _ _ _ evolves =>
    cases evolves with
    | gated _ stage => rw [stage] at late; exact absurd late validated_early
    | approved validated approved _ => exact ⟨old,rfl,validated,approved⟩
    | moved before _ _ => exact absurd before (early old rfl)

theorem ClientValid.kept (held : ClientValid before client)
    (changes : ∀ id, ∃ tenant, RowStep settings tenant (before.find id) (after.find id)) :
    ClientValid after client := by
  cases client with
  | idle => trivial
  | loaded identity workloadId call w version =>
    obtain ⟨sameId,tenant,row,found,rowTenant,older,current⟩ := held
    obtain ⟨t,change⟩ := changes workloadId
    rw [found] at change
    obtain ⟨next,there,nextTenant,grows,stays⟩ := change.present
    refine ⟨sameId,tenant,next,there,nextTenant.trans rowTenant,Nat.le_trans older grows,?_⟩
    intro same
    have unchanged : row.version = version := by omega
    rw [stays (by omega),current unchanged]

theorem respond_client (valid : Valid settings s) (answered : respond settings s event = some (next,outcome)) :
    ∀ client, ClientValid s.db (next.clients client) := by
  have idled : ∀ client slot, ClientValid s.db (Function.update s.clients client .idle slot) := by
    intro client slot
    by_cases here : slot = client
    · subst slot; simp [ClientValid]
    · simpa [here] using valid.clients slot
  cases respond_cases answered with
  | create identity request workloadId answer =>
    obtain rfl := congrArg Prod.fst answer
    have same : (respondCreate s identity request workloadId).1.clients = s.clients := by
      unfold respondCreate
      split
      · rfl
      · split <;> rfl
    intro client
    rw [same]; exact valid.clients client
  | read client identity workloadId call idle answer =>
    obtain rfl := congrArg Prod.fst answer
    intro slot
    unfold respondRead
    split
    · exact valid.clients slot
    · split
      · exact valid.clients slot
      · rename_i w version selected
        obtain ⟨row,found,tenant,document,atVersion⟩ := get_exact.mp selected
        by_cases here : slot = client
        · subst slot
          obtain ⟨sameId,sameTenant,_⟩ := valid.rows _ _ found
          have key := Table.find_key found
          simp only [Function.update_self,ClientValid]
          refine ⟨by rw [← document,sameId,key],by rw [← document,sameTenant,tenant],row,found,tenant,?_,?_⟩
          · exact Nat.le_of_eq atVersion.symm
          · exact fun _ => document
        · simpa [here] using valid.clients slot
  | write client now identity workloadId call w version loaded answer =>
    obtain rfl := congrArg Prod.fst answer
    intro slot
    unfold respondWrite
    dsimp only
    split
    · exact idled client slot
    · split
      · exact idled client slot
      · exact idled client slot

theorem respond_valid (valid : Valid settings s) (answered : respond settings s event = some (next,outcome)) :
    Valid settings next := by
  obtain ⟨tenant,_,rows⟩ := respond_rows valid answered
  refine ⟨?_,fun client => (respond_client valid answered client).kept fun id => ⟨tenant,rows id⟩⟩
  intro id row found
  have change := rows id
  rw [found] at change
  exact change.valid fun old present => valid.rows id old present

theorem step_parts (taken : step settings s event = some next) :
    ∃ outcome, respond settings s event = some (next,outcome) := by
  obtain ⟨⟨state,outcome⟩,answered,rfl⟩ := Option.map_eq_some_iff.mp taken
  exact ⟨outcome,answered⟩

theorem step_valid (valid : Valid settings s) (taken : step settings s event = some next) : Valid settings next := by
  obtain ⟨_,answered⟩ := step_parts taken
  exact respond_valid valid answered

theorem reached_valid (path : Runs (step settings) initial events s) : Valid settings s :=
  path.invariant step_valid (initial_valid settings)

theorem run_frozen (valid : Valid settings s) (path : Runs (step settings) s events next)
    (found : s.db.find key = some row) (late : Late row.document.stage) :
    ∃ last, next.db.find key = some last ∧ Late last.document.stage ∧ Frozen row.document last.document := by
  have kept : Valid settings next ∧
      ∃ last, next.db.find key = some last ∧ Late last.document.stage ∧ Frozen row.document last.document := by
    refine @Runs.invariant _ _ _ _ _ _ (fun t => Valid settings t ∧
      ∃ last, t.db.find key = some last ∧ Late last.document.stage ∧ Frozen row.document last.document) ?_ path
      ⟨valid,row,found,late,Frozen.refl _⟩
    rintro before event after ⟨held,last,present,still,frozen⟩ taken
    obtain ⟨_,answered⟩ := step_parts taken
    obtain ⟨tenant,_,rows⟩ := respond_rows held answered
    have change := rows key
    rw [present] at change
    obtain ⟨newer,there,stays,more⟩ := change.late still
    exact ⟨step_valid held taken,newer,there,stays,frozen.trans more⟩
  exact kept.2

theorem run_entered (path : Runs (step settings) initial events s) (found : s.db.find key = some row)
    (late : Late row.document.stage) :
    ∃ earlier event later before next prior entered, events = earlier ++ event :: later ∧
      Runs (step settings) initial earlier before ∧ step settings before event = some next ∧
      Runs (step settings) next later s ∧
      before.db.find key = some prior ∧ prior.document.stage = .validated ∧
      next.db.find key = some entered ∧ entered.document.stage = .approved ∧
      Frozen entered.document row.document := by
  have absent : ¬ ∃ old, initial.db.find key = some old ∧ Late old.document.stage := by
    rintro ⟨old,present,_⟩; cases present
  obtain ⟨earlier,event,later,before,next,split,left,taken,right,out,entered,there,nowLate⟩ :=
    @Runs.entered _ _ _ _ _ _ (fun t => ∃ old, t.db.find key = some old ∧ Late old.document.stage)
      path absent ⟨row,found,late⟩
  obtain ⟨_,answered⟩ := step_parts taken
  obtain ⟨tenant,_,rows⟩ := respond_rows (reached_valid left) answered
  have change := rows key
  rw [there] at change
  obtain ⟨prior,present,validated,approved⟩ := change.entered nowLate fun old present stage => out ⟨old,present,stage⟩
  obtain ⟨last,final,_,frozen⟩ := run_frozen (step_valid (reached_valid left) taken) right there nowLate
  rw [found] at final
  cases Option.some.inj final
  exact ⟨earlier,event,later,before,next,prior,entered,split,left,taken,right,present,validated,there,approved,frozen⟩

theorem failed_unchanged (answered : respond settings s event = some (next,.failed refusal)) : next.db = s.db := by
  cases respond_cases answered with
  | create identity request workloadId answer =>
    unfold respondCreate at answer
    split at answer
    · cases answer; rfl
    · split at answer
      · cases answer; rfl
      · cases answer
  | read client identity workloadId call idle answer =>
    obtain rfl := congrArg Prod.fst answer
    exact respondRead_rows
  | write client now identity workloadId call w version loaded answer =>
    unfold respondWrite at answer
    dsimp only at answer
    split at answer
    · cases answer; rfl
    · split at answer
      · cases answer; rfl
      · cases answer

end OpenModelOps.FactoryHistory
