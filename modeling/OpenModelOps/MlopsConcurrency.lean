import OpenModelOps.MlopsStore

namespace OpenModelOps.MlopsConcurrency
open KeyedTable MlopsStore RunHistory
open MlopsDomain (ModelRun)

inductive Enters (s : State) (client : Nat) : Client → Prop where
  | idle : Enters s client .idle
  | created : savePlan s.db run none = .ok .insert → Enters s client (.saving none run .insert)
  | loaded : MlopsStore.get s.db runId = some (run,revision) → Enters s client (.holding run revision)
  | selected {change : Change} : s.clients client = .holding run revision →
      savePlan s.db (change.apply run) (some revision) = .ok plan →
      Enters s client (.saving (some (revision,run)) (change.apply run) plan)

theorem step_cases (taken : step s event = some next) :
    (∃ client after, next = place s client after ∧ Enters s client after) ∨
    ∃ client basis run plan db revision, event = .write client ∧ s.clients client = .saving basis run plan ∧
      saveWrite s.db run plan = some (db,revision) ∧
      next = ⟨db,Function.update s.clients client .idle,s.log ++ [⟨run.runId,basis,run,revision⟩]⟩ := by
  cases event with
  | create client run =>
    simp only [step,stepCreate] at taken
    split at taken
    · rename_i planned
      exact .inl ⟨client,_,(Option.some.inj taken).symm,.created planned⟩
    · cases taken
  | read client runId =>
    simp only [step,stepRead] at taken
    split at taken
    · rename_i idle
      cases Option.some.inj taken
      split
      · refine .inl ⟨client,.idle,?_,.idle⟩
        rw [place,← idle,Function.update_eq_self]
      · rename_i run revision selected
        exact .inl ⟨client,_,rfl,.loaded selected⟩
    · cases taken
  | select client change =>
    simp only [step,stepSelect] at taken
    split at taken
    · rename_i run revision holding
      cases Option.some.inj taken
      split
      · exact .inl ⟨client,_,rfl,.idle⟩
      · rename_i plan planned
        exact .inl ⟨client,_,rfl,.selected holding planned⟩
    · cases taken
  | write client =>
    simp only [step,stepWrite] at taken
    split at taken
    · rename_i basis run plan saving
      cases Option.some.inj taken
      split
      · exact .inl ⟨client,_,rfl,.idle⟩
      · rename_i db revision saved
        exact .inr ⟨client,basis,run,plan,db,revision,rfl,saving,saved,rfl⟩
    · cases taken

theorem savePlan_insert (planned : savePlan db run expected = .ok .insert) : db.find run.runId = none := by
  unfold savePlan at planned
  split at planned
  · assumption
  · split at planned <;> cases planned

theorem savePlan_update (planned : savePlan db run (some expected) = .ok (.update revision)) :
    ∃ row, db.find run.runId = some row ∧ row.revision = expected ∧ revision = expected + 1 := by
  unfold savePlan at planned
  split at planned
  · split at planned <;> cases planned
  · rename_i row found
    split at planned
    · cases planned
    · rename_i matching
      have same : expected = row.revision := by simpa using matching
      cases Except.ok.inj planned
      exact ⟨row,found,same.symm,by rw [same]⟩

def Ready (db : Database) : Client → Prop
  | .idle => True
  | .holding run _ => ∃ row, db.find run.runId = some row
  | .saving basis _ .insert => basis = none
  | .saving basis run (.update revision) => (∃ base, basis = some (revision - 1,base)) ∧
      ∃ row, db.find run.runId = some row

structure Valid (s : State) : Prop where
  heads : ∀ runId, latest none (commitsOf runId s.log) =
    (s.db.find runId).map fun row => (row.revision,row.payload)
  named : ∀ runId row, s.db.find runId = some row → row.payload.runId = runId
  linked : ∀ c ∈ s.log, c.revision = (c.read.map Prod.fst).getD 0 + 1
  clients : ∀ client, Ready s.db (s.clients client)

theorem initial_valid : Valid initial :=
  ⟨fun _ => rfl,fun _ _ found => (nomatch found),fun _ member => (nomatch member),fun _ => trivial⟩

theorem saveWrite_parts {db next : Database} (ready : Ready db (.saving basis run plan))
    (saved : saveWrite db run plan = some (next,revision)) :
    revision = (basis.map Prod.fst).getD 0 + 1 ∧
      ∀ runId, next.find runId = if runId = run.runId then some ⟨run.runId,run,revision⟩ else db.find runId := by
  cases plan with
  | insert =>
    obtain ⟨table,inserted,same⟩ := Option.map_eq_some_iff.mp saved
    cases same
    cases ready
    exact ⟨rfl,Table.find_insert inserted⟩
  | update target =>
    cases Option.some.inj saved
    obtain ⟨⟨base,rfl⟩,row,found⟩ := ready
    refine ⟨by simp,fun runId => ?_⟩
    rw [Table.find_update,found]
    have key := Table.find_key found
    simp [written,key]

theorem Ready.kept (ready : Ready db client) (grows : ∀ runId, db.find runId ≠ none → next.find runId ≠ none) :
    Ready next client := by
  have present : ∀ {runId}, (∃ row, db.find runId = some row) → ∃ row, next.find runId = some row :=
    fun found => Option.ne_none_iff_exists'.mp (grows _ (Option.ne_none_iff_exists'.mpr found))
  cases client with
  | idle => trivial
  | holding run revision => exact present ready
  | saving basis run plan =>
    cases plan with
    | insert => exact ready
    | update revision => exact ⟨ready.1,present ready.2⟩

theorem enters_ready (valid : Valid s) (enters : Enters s client after) : Ready s.db after := by
  cases enters with
  | idle => trivial
  | created planned => rfl
  | @loaded runId run revision selected =>
    obtain ⟨row,found,same⟩ := Option.map_eq_some_iff.mp selected
    obtain ⟨rfl,_⟩ := Prod.mk.inj same
    exact ⟨row,by rw [valid.named runId row found]; exact found⟩
  | @selected run revision plan change holding planned =>
    have ready := valid.clients client
    rw [holding] at ready
    obtain ⟨row,found⟩ := ready
    cases plan with
    | insert =>
      have absent := savePlan_insert planned
      rw [change.keeps,found] at absent
      cases absent
    | update target =>
      obtain ⟨row,there,_,rfl⟩ := savePlan_update planned
      exact ⟨⟨run,by simp⟩,row,there⟩

theorem step_valid (valid : Valid s) (taken : step s event = some next) : Valid next := by
  rcases step_cases taken with ⟨client,after,rfl,enters⟩ | ⟨client,basis,run,plan,db,revision,_,saving,saved,rfl⟩
  · have clients : ∀ slot, Ready s.db (Function.update s.clients client after slot) :=
      updated_all valid.clients (enters_ready valid enters)
    exact ⟨valid.heads,valid.named,valid.linked,clients⟩
  · have ready := valid.clients client
    rw [saving] at ready
    obtain ⟨linked,finds⟩ := saveWrite_parts ready saved
    have grows : ∀ runId, s.db.find runId ≠ none → db.find runId ≠ none := by
      intro runId present
      rw [finds]
      split
      · exact Option.some_ne_none _
      · exact present
    refine ⟨?_,?_,?_,updated_all (fun slot => (valid.clients slot).kept grows) trivial⟩
    · intro runId
      rw [commitsOf_append,commitsOf_single,finds]
      by_cases here : run.runId = runId
      · rw [if_pos here,if_pos here.symm,latest_concat]; rfl
      · rw [if_neg here,if_neg (Ne.symm here),List.append_nil,valid.heads]
    · intro runId row found
      rw [finds] at found
      split at found
      · rename_i here
        cases Option.some.inj found
        exact here.symm
      · exact valid.named runId row found
    · intro c member
      rcases List.mem_append.mp member with old | new
      · exact valid.linked c old
      · cases List.mem_singleton.mp new
        exact linked

def Held (db : Database) : Client → Prop
  | .idle => True
  | .holding run revision => ∀ row, db.find run.runId = some row →
      revision ≤ row.revision ∧ (row.revision = revision → row.payload = run)
  | .saving none _ _ => True
  | .saving (some (revision,base)) run _ => ∀ row, db.find run.runId = some row →
      revision ≤ row.revision ∧ (row.revision = revision → row.payload = base)

structure Unstale (s : State) : Prop where
  valid : Valid s
  chained : ∀ runId, Chained none (commitsOf runId s.log)
  held : ∀ client, Held s.db (s.clients client)

theorem initial_unstale : Unstale initial := ⟨initial_valid,fun _ => trivial,fun _ => trivial⟩

theorem enters_held (unstale : Unstale s) (enters : Enters s client after) : Held s.db after := by
  cases enters with
  | idle => trivial
  | created planned => trivial
  | @loaded runId run revision selected =>
    obtain ⟨row,found,same⟩ := Option.map_eq_some_iff.mp selected
    obtain ⟨rfl,rfl⟩ := Prod.mk.inj same
    intro other there
    rw [unstale.valid.named runId row found,found] at there
    cases Option.some.inj there
    exact ⟨le_refl _,fun _ => rfl⟩
  | @selected run revision plan change holding planned =>
    have held := unstale.held client
    rw [holding] at held
    intro row found
    rw [change.keeps] at found
    exact held row found

theorem Held.passed (held : Held db client) (ready : Ready db client)
    (finds : ∀ runId, next.find runId = if runId = run.runId then some ⟨run.runId,run,revision⟩ else db.find runId)
    (beyond : ∀ row, db.find run.runId = some row → row.revision < revision) : Held next client := by
  have moves : ∀ {runId : String} {basis : Int} {base : ModelRun}, (∃ row, db.find runId = some row) →
      (∀ row, db.find runId = some row → basis ≤ row.revision ∧ (row.revision = basis → row.payload = base)) →
      ∀ row, next.find runId = some row → basis ≤ row.revision ∧ (row.revision = basis → row.payload = base) := by
    rintro runId basis base ⟨old,present⟩ known row found
    rw [finds] at found
    split at found
    · rename_i here
      cases Option.some.inj found
      have grown := beyond old (here ▸ present)
      have bound := (known old present).1
      exact ⟨by dsimp only; omega,fun same => by dsimp only at same; omega⟩
    · exact known row found
  cases client with
  | idle => trivial
  | holding run revision => exact moves ready held
  | saving basis run plan =>
    cases basis with
    | none => trivial
    | some pair =>
      obtain ⟨expected,base⟩ := pair
      cases plan with
      | insert => cases ready
      | update target => exact moves ready.2 held

theorem step_unstale (unstale : Unstale s) (current : Current s event) (taken : step s event = some next) :
    Unstale next := by
  have valid := unstale.valid
  have nextValid := step_valid valid taken
  rcases step_cases taken with ⟨client,after,rfl,enters⟩ | ⟨client,basis,run,plan,db,revision,rfl,saving,saved,rfl⟩
  · have held : ∀ slot, Held s.db (Function.update s.clients client after slot) :=
      updated_all unstale.held (enters_held unstale enters)
    exact ⟨nextValid,unstale.chained,held⟩
  · have ready := valid.clients client
    have held := unstale.held client
    rw [saving] at ready held
    obtain ⟨linked,finds⟩ := saveWrite_parts ready saved
    have continues : basis = (s.db.find run.runId).map fun row => (row.revision,row.payload) := by
      cases plan with
      | insert =>
        obtain ⟨table,inserted,_⟩ := Option.map_eq_some_iff.mp saved
        have absent : s.db.find run.runId = none := Table.insert_fresh inserted
        rw [absent]; exact ready
      | update target =>
        simp only [Current,saving,Unmoved] at current
        obtain ⟨row,found,same⟩ := Option.map_eq_some_iff.mp current
        obtain ⟨⟨base,rfl⟩,_⟩ := ready
        have unmoved : row.revision = target - 1 := by omega
        rw [found,Option.map_some,(held row found).2 unmoved,unmoved]
    refine ⟨nextValid,?_,updated_all (fun slot => (unstale.held slot).passed (valid.clients slot) finds ?_) trivial⟩
    · intro runId
      rw [commitsOf_append,commitsOf_single]
      by_cases here : run.runId = runId
      · subst runId
        rw [if_pos rfl,chained_append,valid.heads,← continues]
        exact ⟨unstale.chained run.runId,linked,rfl,trivial⟩
      · rw [if_neg here,List.append_nil]
        exact unstale.chained runId
    · intro row found
      rw [linked,continues,found]
      simp

theorem log_grows (taken : step s event = some next) : ∃ more, next.log = s.log ++ more := by
  rcases step_cases taken with ⟨_,_,rfl,_⟩ | ⟨_,_,_,_,_,_,_,_,_,rfl⟩
  · exact ⟨[],by simp [place]⟩
  · exact ⟨_,rfl⟩

theorem run_log_grows (path : Runs step s events next) : ∃ more, next.log = s.log ++ more := by
  induction path with
  | stop => exact ⟨[],by simp⟩
  | take taken _ ih =>
    obtain ⟨first,one⟩ := log_grows taken
    obtain ⟨rest,many⟩ := ih
    exact ⟨first ++ rest,by rw [many,one,List.append_assoc]⟩

theorem chained_once (valid : Valid s) (chained : Chained none (commitsOf runId s.log)) :
    ((commitsOf runId s.log).map fun c => c.read.map Prod.fst).Nodup := by
  have revisions := chained_nodup chained
  have linked : (commitsOf runId s.log).map Commit.revision =
      ((commitsOf runId s.log).map fun c => c.read.map Prod.fst).map fun basis => basis.getD 0 + 1 := by
    rw [List.map_map]
    exact List.map_congr_left fun c member => valid.linked c (List.mem_of_mem_filter member)
  rw [linked] at revisions
  exact List.Nodup.of_map _ revisions

theorem serial_current (valid : Valid s) (taken : step s event = some next)
    (more : List Commit) (chained : ∀ runId, Chained none (commitsOf runId (next.log ++ more))) : Current s event := by
  rcases step_cases taken with ⟨client,after,rfl,enters⟩ | ⟨client,basis,run,plan,db,revision,rfl,saving,saved,rfl⟩
  · cases event with
    | write client' =>
      simp only [step,stepWrite] at taken
      simp only [Current]
      cases slot : s.clients client' with
      | idle => trivial
      | holding run revision => trivial
      | saving basis run plan =>
        cases plan with
        | insert => trivial
        | update revision =>
          rw [slot] at taken
          have stored := congrArg State.log (Option.some.inj taken)
          simp [saveWrite,place] at stored
    | create client' run => trivial
    | read client' runId => trivial
    | select client' change => trivial
  · simp only [Current,saving]
    cases plan with
    | insert => trivial
    | update target =>
      have ready := valid.clients client
      rw [saving] at ready
      obtain ⟨_,row,found⟩ := ready
      cases Option.some.inj saved
      have linked := chained run.runId
      rw [commitsOf_append,commitsOf_append,commitsOf_single,if_pos rfl,chained_append,chained_append,
        valid.heads,found] at linked
      rw [Unmoved,found]
      exact congrArg some linked.1.2.1.symm

-- A history of saves is serial exactly when no UPDATE finds the row moved on
-- from the revision that its SELECT read.
theorem saves_serial_iff (events : List Event) (s : State) (path : Runs step initial events s) :
    Serial s.log ↔ Throughout step Current initial events := by
  constructor
  · intro serial earlier event later middle split reached
    subst events
    obtain ⟨state,left,right⟩ := path.parts
    cases left.unique reached
    cases right with
    | take taken remaining =>
      obtain ⟨more,grown⟩ := run_log_grows remaining
      have valid := left.invariant step_valid initial_valid
      refine serial_current valid taken more fun runId => ?_
      rw [← grown]
      exact serial.chained runId
  · intro current
    have unstale := path.invariant_under step_unstale current initial_unstale
    exact ⟨fun runId => chained_once unstale.valid (unstale.chained runId),unstale.chained⟩

def draftRun : ModelRun := .fresh "run-1" "fraud-risk" "sha256:aa" "abc1234" "trainer"

def starts (actor : String) : Change := called (fun _ => "0.9") (.transition .training actor "start" 0)

def sequential : List Event := [.create 0 draftRun,.write 0,.read 1 "run-1",.select 1 (starts "first"),.write 1]

theorem saves_serial_sequential : ∃ s, Runs step initial sequential s ∧ s.log.length = 2 ∧ Serial s.log := by
  have commits : (consume step initial sequential).map (fun s => s.log.length) = some 2 := by decide +kernel
  obtain ⟨s,consumed,length⟩ := Option.map_eq_some_iff.mp commits
  have path := consume_exact.mp consumed
  have current : Throughout step Current initial sequential := by decide +kernel
  exact ⟨s,path,length,(saves_serial_iff sequential s path).mpr current⟩

-- Both SELECTs stand before both UPDATEs. Both saves return revision 2, and the
-- first one is lost.
def overwriting : List Event :=
  [.create 0 draftRun,.write 0,.read 1 "run-1",.read 2 "run-1",.select 1 (starts "first"),
    .select 2 (starts "second"),.write 1,.write 2]

theorem saves_overwrite : ¬ ∀ events s, Runs step initial events s → Serial s.log := by
  intro serial
  have revisions : (consume step initial overwriting).map (fun s =>
      (commitsOf "run-1" s.log).map fun c => (c.read.map Prod.fst)) = some [none,some 1,some 1] := by decide +kernel
  obtain ⟨s,consumed,twice⟩ := Option.map_eq_some_iff.mp revisions
  have once := (serial overwriting s (consume_exact.mp consumed)).once "run-1"
  rw [twice] at once
  exact absurd once (by decide)

end OpenModelOps.MlopsConcurrency
