import OpenModelOps.SreService

namespace OpenModelOps.SreExecution
open KeyedTable PythonText SreActions SreService RunHistory
variable {settings : Settings} {db after : Database} {clients : Nat → Client} {log : List Entry} {s next : State}

-- No statement changes a payload, or an approval once it is there.
structure Grows (before after : Row) : Prop where
  payload : after.payload = before.payload
  approval : before.approval ≠ none → after.approval = before.approval

def Reads (db : Database) : Client → Prop
  | .idle => True
  | .approving _ _ => True
  | .loaded proposalId proposal _ => ∃ row, db.find proposalId = some row ∧ row.payload = proposal
  | .ready proposalId proposal approval _ =>
    ∃ row, db.find proposalId = some row ∧ row.payload = proposal ∧ row.approval = some approval
  | .claimed proposalId proposal approval _ =>
    ∃ row, db.find proposalId = some row ∧ row.payload = proposal ∧ row.approval = some approval
  | .writing _ => True
  | .finishing _ _ => True

def holds : Client → Option String
  | .claimed proposalId _ _ _ => some proposalId
  | .writing proposalId => some proposalId
  | .finishing proposalId _ => some proposalId
  | _ => none

def owes : Client → Option String
  | .claimed proposalId _ _ _ => some proposalId
  | _ => none

theorem owes_holds (owing : owes client = some proposalId) : holds client = some proposalId := by
  cases client with
  | claimed id proposal approval actor => exact owing
  | _ => cases owing

def Begun (status : Status) : Prop := status = .executing ∨ status = .executed ∨ status = .failed

structure Backed (settings : Settings) (db : Database) (entry : Entry) : Prop where
  stored : ∃ row approval, db.find entry.proposalId = some row ∧ Begun row.status ∧ row.approval = some approval ∧
    Authorized settings.sha256 settings.managedNamespaces row.payload approval entry.actor entry.checkedAt entry.call

structure Sound (settings : Settings) (db : Database) (clients : Nat → Client) (log : List Entry) : Prop where
  unsigned : ∀ proposalId row, db.find proposalId = some row → row.status = .proposed → row.approval = none
  reads : ∀ client, Reads db (clients client)
  holding : ∀ client proposalId, holds (clients client) = some proposalId →
    ∃ row, db.find proposalId = some row ∧ row.status = .executing
  single : ∀ client other proposalId, holds (clients client) = some proposalId →
    holds (clients other) = some proposalId → client = other
  owing : ∀ client proposalId, owes (clients client) = some proposalId → proposalId ∉ log.map Entry.proposalId
  backed : ∀ entry ∈ log, Backed settings db entry
  once : (log.map Entry.proposalId).Nodup

theorem initial_sound (settings : Settings) : Sound settings initial.db initial.clients initial.log :=
  ⟨fun _ _ found => (nomatch found),fun _ => trivial,fun _ _ held => (nomatch held),fun _ _ _ held => (nomatch held),
    fun _ _ owing => (nomatch owing),fun _ member => (nomatch member),.nil⟩

theorem approve_parts {db after : Database} (done : approve db approval = some after) :
    ∃ row, db.find approval.proposalId = some row ∧ row.status = .proposed ∧
      ∀ j, after.find j = if j = approval.proposalId then some ((markApproved approval).apply row) else db.find j := by
  unfold approve at done
  dsimp only at done
  split at done
  · cases done
  · rename_i hit
    cases Option.some.inj done
    obtain ⟨row,found,guarded,finds⟩ := Table.update_matched (not_not.mp hit)
    simp only [Bool.and_eq_true,decide_eq_true_eq] at guarded
    exact ⟨row,found,guarded.2,finds⟩

theorem claimExecution_parts {db after : Database} (done : claimExecution db proposalId = some after) :
    ∃ row, db.find proposalId = some row ∧ row.status = .approved ∧
      ∀ j, after.find j = if j = proposalId then some ((markStatus .executing).apply row) else db.find j := by
  unfold claimExecution at done
  dsimp only at done
  split at done
  · cases done
  · rename_i hit
    cases Option.some.inj done
    obtain ⟨row,found,guarded,finds⟩ := Table.update_matched (not_not.mp hit)
    exact ⟨row,found,by simpa using guarded,finds⟩

theorem finishExecution_finds {db : Database} (found : db.find proposalId = some row) (executing : row.status = .executing)
    (succeeded : Bool) (j : String) : (finishExecution db proposalId succeeded).find j =
      if j = proposalId then some ((markStatus (if succeeded then .executed else .failed)).apply row) else db.find j := by
  unfold finishExecution
  rw [Table.find_update,found]
  simp [executing]

theorem Reads.kept (reads : Reads db client)
    (grows : ∀ id row, db.find id = some row → ∃ new, after.find id = some new ∧ Grows row new) :
    Reads after client := by
  have approved : ∀ {id proposal approval}, (∃ row, db.find id = some row ∧ row.payload = proposal ∧
      row.approval = some approval) → ∃ row, after.find id = some row ∧ row.payload = proposal ∧
      row.approval = some approval := by
    rintro id proposal approval ⟨row,found,same,signed⟩
    obtain ⟨new,there,grown⟩ := grows id row found
    exact ⟨new,there,grown.payload.trans same,(grown.approval (by simp [signed])).trans signed⟩
  cases client with
  | loaded id proposal actor =>
    obtain ⟨row,found,same⟩ := reads
    obtain ⟨new,there,grown⟩ := grows id row found
    exact ⟨new,there,grown.payload.trans same⟩
  | ready id proposal approval actor => exact approved reads
  | claimed id proposal approval actor => exact approved reads
  | idle => trivial
  | approving proposal approver => trivial
  | writing id => trivial
  | finishing id succeeded => trivial

theorem Backed.kept (backed : Backed settings db entry) (found : db.find entry.proposalId = some row)
    (there : after.find entry.proposalId = some new) (grown : Grows row new) (begun : Begun new.status) :
    Backed settings after entry := by
  obtain ⟨old,approval,present,_,signed,authorized⟩ := backed.stored
  rw [found] at present
  cases Option.some.inj present
  refine ⟨new,approval,there,begun,(grown.approval (by simp [signed])).trans signed,?_⟩
  rw [grown.payload]
  exact authorized

theorem Sound.unbegun (sound : Sound settings db clients log) (found : db.find proposalId = some row)
    (early : ¬ Begun row.status) :
    proposalId ∉ log.map Entry.proposalId ∧ ∀ client, holds (clients client) ≠ some proposalId := by
  constructor
  · intro member
    obtain ⟨entry,inside,same⟩ := List.mem_map.mp member
    obtain ⟨other,_,present,begun,_⟩ := (sound.backed entry inside).stored
    rw [same,found] at present
    cases Option.some.inj present
    exact early begun
  · intro client held
    obtain ⟨other,present,executing⟩ := sound.holding client proposalId held
    rw [found] at present
    cases Option.some.inj present
    exact early (.inl executing)

theorem Sound.moved (sound : Sound settings db clients log) (entered : Client) (reads : Reads db entered)
    (keeps : ∀ proposalId, holds entered = some proposalId → holds (clients client) = some proposalId)
    (quiet : owes entered = none) : Sound settings db (Function.update clients client entered) log := by
  have held : ∀ {slot proposalId}, holds (Function.update clients client entered slot) = some proposalId →
      holds (clients slot) = some proposalId := by
    intro slot proposalId present
    rcases updated_read present with ⟨rfl,here⟩ | ⟨_,there⟩
    · exact keeps proposalId here
    · exact there
  refine ⟨sound.unsigned,updated_all sound.reads reads,?_,?_,?_,sound.backed,sound.once⟩
  · exact fun slot proposalId present => sound.holding slot proposalId (held present)
  · exact fun slot other proposalId first second => sound.single slot other proposalId (held first) (held second)
  · intro slot proposalId owing
    rcases updated_read owing with ⟨_,here⟩ | ⟨_,there⟩
    · rw [quiet] at here; cases here
    · exact sound.owing slot proposalId there

theorem Sound.wrote (sound : Sound settings db clients log) (found : db.find proposalId = some row)
    (finds : ∀ j, after.find j = if j = proposalId then some new else db.find j) (grown : Grows row new)
    (advanced : new.status ≠ .proposed) (entered : Client) (reads : Reads after entered)
    (alone : ∀ slot, slot ≠ client → holds (clients slot) ≠ some proposalId)
    (held : ∀ id, holds entered = some id → id = proposalId ∧ new.status = .executing)
    (begun : proposalId ∈ log.map Entry.proposalId → Begun new.status)
    (owing : ∀ id, owes entered = some id → id ∉ log.map Entry.proposalId) :
    Sound settings after (Function.update clients client entered) log := by
  have grows : ∀ id row, db.find id = some row → ∃ new, after.find id = some new ∧ Grows row new := by
    intro id old there
    rw [finds]
    split
    · rename_i here
      rw [here,found] at there
      cases Option.some.inj there
      exact ⟨new,rfl,grown⟩
    · exact ⟨old,there,rfl,fun _ => rfl⟩
  refine ⟨?_,updated_all (fun slot => (sound.reads slot).kept grows) reads,?_,?_,?_,?_,sound.once⟩
  · intro id old there proposed
    rw [finds] at there
    split at there
    · cases Option.some.inj there
      exact absurd proposed advanced
    · exact sound.unsigned id old there proposed
  · intro slot id present
    rcases updated_read present with ⟨_,here⟩ | ⟨away,there⟩
    · obtain ⟨rfl,executing⟩ := held id here
      exact ⟨new,by rw [finds,if_pos rfl],executing⟩
    · obtain ⟨old,before,executing⟩ := sound.holding slot id there
      have other : id ≠ proposalId := by
        rintro rfl; exact alone slot away there
      exact ⟨old,by rw [finds,if_neg other]; exact before,executing⟩
  · intro slot other id first second
    rcases updated_read first with ⟨rfl,here⟩ | ⟨away,there⟩
    · rcases updated_read second with ⟨rfl,_⟩ | ⟨apart,also⟩
      · rfl
      · obtain ⟨rfl,_⟩ := held id here
        exact absurd also (alone other apart)
    · rcases updated_read second with ⟨rfl,here⟩ | ⟨_,also⟩
      · obtain ⟨rfl,_⟩ := held id here
        exact absurd there (alone slot away)
      · exact sound.single slot other id there also
  · intro slot id owed
    rcases updated_read owed with ⟨_,here⟩ | ⟨_,there⟩
    · exact owing id here
    · exact sound.owing slot id there
  · intro entry member
    obtain ⟨old,_,before,started,_⟩ := (sound.backed entry member).stored
    by_cases here : entry.proposalId = proposalId
    · have same := before
      rw [here,found] at same
      cases Option.some.inj same
      exact (sound.backed entry member).kept before (by rw [finds,if_pos here]) grown
        (begun (here ▸ List.mem_map_of_mem member))
    · exact (sound.backed entry member).kept before (by rw [finds,if_neg here]; exact before) ⟨rfl,fun _ => rfl⟩ started

theorem Sound.proposed (sound : Sound settings db clients log) (saved : saveProposal settings db proposal = some after) :
    Sound settings after clients log := by
  have fresh : db.find proposal.proposalId = none := Table.insert_fresh saved
  have finds := Table.find_insert saved
  have kept : ∀ id row, db.find id = some row → after.find id = some row := by
    intro id row found
    rw [finds,if_neg]
    · exact found
    · rintro rfl; rw [fresh] at found; cases found
  refine ⟨?_,?_,?_,sound.single,sound.owing,?_,sound.once⟩
  · intro id row found proposed
    rw [finds] at found
    split at found
    · cases Option.some.inj found; rfl
    · exact sound.unsigned id row found proposed
  · exact fun client => (sound.reads client).kept fun id row found => ⟨row,kept id row found,rfl,fun _ => rfl⟩
  · intro client id held
    obtain ⟨row,found,executing⟩ := sound.holding client id held
    exact ⟨row,kept id row found,executing⟩
  · intro entry member
    obtain ⟨row,_,found,begun,_⟩ := (sound.backed entry member).stored
    exact (sound.backed entry member).kept found (kept _ row found) ⟨rfl,fun _ => rfl⟩ begun

theorem Sound.approved (sound : Sound settings db clients log) (done : approve db approval = some after) :
    Sound settings after (Function.update clients client .idle) log := by
  obtain ⟨row,found,proposed,finds⟩ := approve_parts done
  have early : ¬ Begun row.status := by rw [proposed]; simp [Begun]
  obtain ⟨unlogged,unheld⟩ := sound.unbegun found early
  have grown : Grows row ((markApproved approval).apply row) :=
    ⟨rfl,fun signed => absurd (sound.unsigned _ row found proposed) signed⟩
  exact sound.wrote found finds grown (by simp [markApproved]) .idle trivial (fun slot _ => unheld slot)
    (fun _ held => (nomatch held)) (fun logged => absurd logged unlogged) fun _ owed => (nomatch owed)

-- The claim is where at most once is decided: the row leaves approved, and no
-- row that was begun is approved again.
theorem Sound.claimed (sound : Sound settings db clients log)
    (ready : clients client = .ready proposalId proposal approval actor)
    (done : claimExecution db proposalId = some after) :
    Sound settings after (Function.update clients client (.claimed proposalId proposal approval actor)) log := by
  obtain ⟨row,found,approved,finds⟩ := claimExecution_parts done
  have early : ¬ Begun row.status := by rw [approved]; simp [Begun]
  obtain ⟨unlogged,unheld⟩ := sound.unbegun found early
  have read := sound.reads client
  rw [ready] at read
  obtain ⟨old,present,same,signed⟩ := read
  rw [found] at present
  cases Option.some.inj present
  refine sound.wrote found finds ⟨rfl,fun _ => rfl⟩ (by simp [markStatus]) _ ?_ (fun slot _ => unheld slot) ?_ ?_ ?_
  · exact ⟨(markStatus .executing).apply row,by rw [finds,if_pos rfl],same,signed⟩
  · exact fun id held => ⟨(Option.some.inj held).symm,rfl⟩
  · exact fun logged => absurd logged unlogged
  · intro id owed
    cases Option.some.inj owed
    exact unlogged

theorem Sound.called (sound : Sound settings db clients log)
    (claimed : clients client = .claimed proposalId proposal approval actor)
    (done : execute settings.sha256 settings.managedNamespaces proposal approval actor now = .ok call) :
    Sound settings db (Function.update clients client (.writing proposalId)) (log ++ [⟨proposalId,actor,now,call⟩]) := by
  have read := sound.reads client
  have owed : owes (clients client) = some proposalId := by rw [claimed]; rfl
  have held := owes_holds owed
  rw [claimed] at read
  obtain ⟨row,found,same,signed⟩ := read
  obtain ⟨other,present,executing⟩ := sound.holding client proposalId held
  rw [found] at present
  cases Option.some.inj present
  have moved := @Sound.moved settings db clients log client sound (.writing proposalId) trivial
    (fun id holding => holding ▸ held) rfl
  have ids : (log ++ [Entry.mk proposalId actor now call]).map Entry.proposalId = log.map Entry.proposalId ++ [proposalId] := by
    simp
  refine ⟨moved.unsigned,moved.reads,moved.holding,moved.single,?_,?_,?_⟩
  · intro slot id owing
    rw [ids,List.mem_append,not_or]
    refine ⟨moved.owing slot id owing,?_⟩
    intro equal
    cases List.mem_singleton.mp equal
    rcases updated_read owing with ⟨_,here⟩ | ⟨away,there⟩
    · cases here
    · exact away (sound.single slot client _ (owes_holds there) held)
  · intro entry member
    rcases List.mem_append.mp member with old | new
    · exact sound.backed entry old
    · cases List.mem_singleton.mp new
      refine ⟨row,approval,found,.inl executing,signed,?_⟩
      rw [same]
      exact execute_authorized done
  · exact snoc_unique sound.once (sound.owing client proposalId owed)

theorem Sound.finished (sound : Sound settings db clients log)
    (finishing : clients client = .finishing proposalId succeeded) :
    Sound settings (finishExecution db proposalId succeeded) (Function.update clients client .idle) log := by
  have held : holds (clients client) = some proposalId := by rw [finishing]; rfl
  obtain ⟨row,found,executing⟩ := sound.holding client proposalId held
  refine sound.wrote found (finishExecution_finds found executing succeeded) ⟨rfl,fun _ => rfl⟩ ?_ .idle trivial ?_
    (fun _ held => (nomatch held)) ?_ fun _ owed => (nomatch owed)
  · cases succeeded <;> simp [markStatus]
  · exact fun slot away other => away (sound.single slot client proposalId other held)
  · intro _
    cases succeeded <;> simp [markStatus,Begun]

def Good (settings : Settings) (s : State) : Prop := Sound settings s.db s.clients s.log

theorem getProposal_reads (found : getProposal db proposalId = some proposal) :
    ∃ row, db.find proposalId = some row ∧ row.payload = proposal := Option.map_eq_some_iff.mp found

theorem approvalRead_good (good : Good settings s) (taken : step settings s (.approvalRead client) = some next) :
    Good settings next := by
  simp only [step] at taken
  split at taken
  · rename_i id proposal executor loaded
    have read := good.reads client
    rw [loaded] at read
    obtain ⟨row,present,same⟩ := read
    cases Option.some.inj taken
    split
    · exact good.moved _ trivial (fun _ held => (nomatch held)) rfl
    · rename_i approval signed
      have approved : row.approval = some approval := by
        rw [getApproval,present] at signed; exact signed
      exact good.moved _ ⟨row,present,same,approved⟩ (fun _ held => (nomatch held)) rfl
  · cases taken

theorem step_good (good : Good settings s) (taken : step settings s event = some next) : Good settings next := by
  cases event with
  | propose proposal =>
    cases Option.some.inj taken
    split
    · exact good
    · rename_i saved
      exact good.proposed saved
  | approveRead client proposalId approver =>
    simp only [step] at taken
    split at taken
    · cases Option.some.inj taken
      split
      · exact good
      · split
        · exact good
        · exact good.moved _ trivial (fun _ held => (nomatch held)) rfl
    · cases taken
  | approveWrite client approvedAt expiryBase =>
    simp only [step] at taken
    split at taken
    · cases Option.some.inj taken
      split
      · exact good.moved _ trivial (fun _ held => (nomatch held)) rfl
      · rename_i done
        exact good.approved done
    · cases taken
  | executeRead client proposalId actor =>
    simp only [step] at taken
    split at taken
    · cases Option.some.inj taken
      split
      · exact good
      · rename_i found
        exact good.moved _ (getProposal_reads found) (fun _ held => (nomatch held)) rfl
    · cases taken
  | approvalRead client => exact approvalRead_good good taken
  | claim client =>
    simp only [step] at taken
    split at taken
    · rename_i ready
      cases Option.some.inj taken
      split
      · exact good.moved _ trivial (fun _ held => (nomatch held)) rfl
      · rename_i done
        exact good.claimed ready done
    · cases taken
  | check client now =>
    simp only [step] at taken
    split at taken
    · rename_i claimed
      cases Option.some.inj taken
      split
      · exact good.moved _ trivial (fun _ held => by rw [claimed]; exact held) rfl
      · rename_i done
        exact good.called claimed done
    · cases taken
  | answer client succeeded =>
    simp only [step] at taken
    split at taken
    · rename_i writing
      cases Option.some.inj taken
      exact good.moved _ trivial (fun _ held => by rw [writing]; exact held) rfl
    · cases taken
  | finish client =>
    simp only [step] at taken
    split at taken
    · rename_i finishing
      cases Option.some.inj taken
      exact good.finished finishing
    · cases taken

-- Every call that reaches the writer is authorized by what is stored for its
-- proposal, and no proposal has two calls.
theorem writer_calls_authorized (settings : Settings) (events : List Event) (s : State)
    (path : Runs (step settings) initial events s) :
    (∀ entry ∈ s.log, ∃ row approval, s.db.find entry.proposalId = some row ∧ row.approval = some approval ∧
      Authorized settings.sha256 settings.managedNamespaces row.payload approval entry.actor entry.checkedAt
        entry.call) ∧
    (s.log.map Entry.proposalId).Nodup := by
  have good : Good settings s := path.invariant step_good (initial_sound settings)
  refine ⟨?_,good.once⟩
  intro entry member
  obtain ⟨row,approval,found,_,signed,authorized⟩ := (good.backed entry member).stored
  exact ⟨row,approval,found,signed,authorized⟩

def scaling : ActionProposal :=
  ⟨.scaleDeployment,"prod","models","ranker","uid-1","42","alice","load","scale back to 3",
    Dict.set Table.empty "replicas" (.int 5),"p-1",0⟩

-- The digest is the SHA-256 of the proposal above.
def live : Settings :=
  ⟨fun _ => "fe0c0241fa4af29af303d235d01e49a393ea432a2b74d177e872c7028c27cbef",["models"]⟩

def raced : List Event :=
  [.propose scaling,.approveRead 0 "p-1" "bob",.approveWrite 0 1000 1000,.executeRead 1 "p-1" "carol",
    .executeRead 2 "p-1" "dave",.approvalRead 1,.approvalRead 2,.claim 2,.claim 1,.check 2 2000,.answer 2 true,.finish 2]

theorem writer_calls_authorized_raced : ∃ s, Runs (step live) initial raced s ∧
    s.log = [⟨"p-1","dave",2000,.scaleDeployment "models" "ranker" 5 "uid-1" "42"⟩] ∧
    (∀ entry ∈ s.log, ∃ row approval, s.db.find entry.proposalId = some row ∧ row.approval = some approval ∧
      Authorized live.sha256 live.managedNamespaces row.payload approval entry.actor entry.checkedAt entry.call) ∧
    (s.log.map Entry.proposalId).Nodup := by
  have logged : (consume (step live) initial raced).map State.log =
      some [⟨"p-1","dave",2000,.scaleDeployment "models" "ranker" 5 "uid-1" "42"⟩] := by decide +kernel
  obtain ⟨s,consumed,log⟩ := Option.map_eq_some_iff.mp logged
  have path := consume_exact.mp consumed
  exact ⟨s,path,log,writer_calls_authorized live raced s path⟩

end OpenModelOps.SreExecution
