import OpenModelOps.SreExecution

namespace OpenModelOps.SreRefusal
open KeyedTable PythonText SreActions SreService SreExecution RunHistory

inductive Raised where
  | runtimeError (message : String)
  | keyError (key : String)
  | valueError (message : String)
  | writerError (message : String)
  deriving DecidableEq

-- What a call of execute leaves: its result, the rows, and what the writer was
-- asked to do.
structure Done where
  result : Except Raised String
  db : Database
  calls : List WriterCall

-- KubernetesSREService.execute with nothing beside it; writer is the answer of
-- the KubernetesWriter.
def executeService (settings : Settings) (enabled : Bool) (writer : WriterCall → Except String String) (db : Database)
    (proposalId actor : String) (now : Instant) : Done :=
  if enabled = false then ⟨.error (.runtimeError "change execution is disabled"),db,[]⟩
  else match getProposal db proposalId with
    | none => ⟨.error (.keyError proposalId),db,[]⟩
    | some proposal => match getApproval db proposalId with
      | none => ⟨.error (.keyError proposalId),db,[]⟩
      | some approval => match claimExecution db proposalId with
        | none => ⟨.error (.valueError "proposal is not approved or execution was already claimed"),db,[]⟩
        | some claimed => match execute settings.sha256 settings.managedNamespaces proposal approval actor now with
          | .error message => ⟨.error (.valueError message),finishExecution claimed proposalId false,[]⟩
          | .ok call => match writer call with
            | .ok resourceVersion => ⟨.ok resourceVersion,finishExecution claimed proposalId true,[call]⟩
            | .error message => ⟨.error (.writerError message),finishExecution claimed proposalId false,[call]⟩

variable {settings : Settings} {enabled : Bool} {writer : WriterCall → Except String String} {db claimed : Database}
  {proposalId actor message : String} {now : Instant} {row : Row} {approval : Approval}

def concluded (s : State) (proposalId actor : String) (now : Instant) (done : Done) : State :=
  {s with db := done.db, log := s.log ++ done.calls.map fun call => ⟨proposalId,actor,now,call⟩}

theorem executeService_runs {s : State} {client : Nat} (idle : s.clients client = .idle) (writer : WriterCall → Except String String)
    (proposalId actor : String) (now : Instant) : ∃ events, Runs (step settings) s events
      (concluded s proposalId actor now (executeService settings true writer s.db proposalId actor now)) := by
  have back : Function.update s.clients client Client.idle = s.clients := by rw [← idle,Function.update_eq_self]
  unfold executeService
  rw [if_neg (by decide)]
  cases read : getProposal s.db proposalId with
  | none =>
    refine ⟨[.executeRead client proposalId actor],consume_exact.mp ?_⟩
    simp [consume,step,idle,read,concluded]
  | some proposal =>
    cases signed : getApproval s.db proposalId with
    | none =>
      refine ⟨[.executeRead client proposalId actor,.approvalRead client],consume_exact.mp ?_⟩
      simp [consume,step,idle,read,signed,place,back,concluded]
    | some approval =>
      cases claims : claimExecution s.db proposalId with
      | none =>
        refine ⟨[.executeRead client proposalId actor,.approvalRead client,.claim client],consume_exact.mp ?_⟩
        simp [consume,step,idle,read,signed,claims,place,back,concluded]
      | some claimed =>
        cases checked : execute settings.sha256 settings.managedNamespaces proposal approval actor now with
        | error message =>
          refine ⟨[.executeRead client proposalId actor,.approvalRead client,.claim client,.check client now,
            .finish client],consume_exact.mp ?_⟩
          simp [consume,step,idle,read,signed,claims,checked,place,back,concluded]
        | ok call =>
          have ends : ∀ succeeded, Runs (step settings) s [.executeRead client proposalId actor,.approvalRead client,
              .claim client,.check client now,.answer client succeeded,.finish client]
              {s with db := finishExecution claimed proposalId succeeded, log := s.log ++ [⟨proposalId,actor,now,call⟩]} := by
            intro succeeded
            refine consume_exact.mp ?_
            simp [consume,step,idle,read,signed,claims,checked,place,back]
          cases answered : writer call with
          | ok resourceVersion => exact ⟨_,by simpa [checked,answered,concluded] using ends true⟩
          | error message => exact ⟨_,by simpa [checked,answered,concluded] using ends false⟩

theorem claimExecution_approved (found : db.find proposalId = some row) (approved : row.status = .approved) :
    ∃ claimed, claimExecution db proposalId = some claimed ∧
      ∀ j, claimed.find j = if j = proposalId then some {row with status := .executing} else db.find j := by
  have hit : (db.update proposalId (fun row => decide (row.status = .approved)) (markStatus .executing)).2 = 1 := by
    rw [Table.rowcount_eq,found]
    simp [approved]
  refine ⟨_,if_neg (not_not_intro hit),?_⟩
  intro j
  rw [Table.find_update,found]
  simp [approved,markStatus]

theorem claimExecution_unapproved (found : db.find proposalId = some row) (other : row.status ≠ .approved) :
    claimExecution db proposalId = none := by
  have missed : (db.update proposalId (fun row => decide (row.status = .approved)) (markStatus .executing)).2 = 0 := by
    rw [Table.rowcount_eq,found]
    simp [other]
  exact if_pos (by rw [missed]; decide)

theorem executeService_spent (found : db.find proposalId = some row) (signed : row.approval = some approval)
    (other : row.status ≠ .approved) : executeService settings true writer db proposalId actor now =
      ⟨.error (.valueError "proposal is not approved or execution was already claimed"),db,[]⟩ := by
  simp [executeService,getProposal,getApproval,found,signed,claimExecution_unapproved found other]

-- The proposal has failed, no call is past its claim on it, and of its own the
-- log holds what it held before.
structure Failed (proposalId : String) (row : Row) (calls : List Entry) (s : State) : Prop where
  failed : s.db.find proposalId = some {row with status := .failed}
  unheld : ∀ client, holds (s.clients client) ≠ some proposalId
  quiet : s.log.filter (fun entry => decide (entry.proposalId = proposalId)) = calls

theorem Failed.moved {s : State} (failed : Failed proposalId row calls s) (client : Nat) (entered : Client)
    (keeps : holds entered = some proposalId → holds (s.clients client) = some proposalId) :
    Failed proposalId row calls (place s client entered) := by
  refine ⟨failed.failed,fun slot held => ?_,failed.quiet⟩
  rcases updated_read held with ⟨_,here⟩ | ⟨_,there⟩
  · exact failed.unheld client (keeps here)
  · exact failed.unheld slot there

theorem Failed.released {s : State} (failed : Failed proposalId row calls s) (client : Nat) (entered : Client)
    (free : holds entered = none) : Failed proposalId row calls (place s client entered) := by
  refine failed.moved client entered fun held => ?_
  rw [free] at held
  cases held

theorem Failed.stored {s : State} {after : Database} (failed : Failed proposalId row calls s)
    (kept : after.find proposalId = s.db.find proposalId) : Failed proposalId row calls {s with db := after} :=
  ⟨kept.trans failed.failed,failed.unheld,failed.quiet⟩

theorem step_failed {s next : State} {event : Event} (failed : Failed proposalId row calls s)
    (taken : step settings s event = some next) : Failed proposalId row calls next := by
  cases event with
  | propose proposal =>
    cases Option.some.inj taken
    split
    · exact failed
    · rename_i db saved
      refine failed.stored ((Table.find_insert saved proposalId).trans (if_neg ?_))
      intro same
      have fresh := Table.insert_fresh saved
      rw [← same,failed.failed] at fresh
      cases fresh
  | approveRead client id approver =>
    simp only [step] at taken
    split at taken
    · cases Option.some.inj taken
      split
      · exact failed
      · split
        · exact failed
        · exact failed.released _ _ rfl
    · cases taken
  | approveWrite client approvedAt expiryBase =>
    simp only [step] at taken
    split at taken
    · cases Option.some.inj taken
      split
      · exact failed.released _ _ rfl
      · rename_i db done
        obtain ⟨proposed,found,waiting,finds⟩ := approve_parts done
        refine (failed.released client .idle rfl).stored ((finds _).trans (if_neg ?_))
        intro same
        rw [← same,failed.failed] at found
        cases Option.some.inj found
        cases waiting
    · cases taken
  | executeRead client id actor =>
    simp only [step] at taken
    split at taken
    · cases Option.some.inj taken
      split
      · exact failed
      · exact failed.released _ _ rfl
    · cases taken
  | approvalRead client =>
    simp only [step] at taken
    split at taken
    · cases Option.some.inj taken
      split
      · exact failed.released _ _ rfl
      · exact failed.released _ _ rfl
    · cases taken
  | claim client =>
    simp only [step] at taken
    split at taken
    · rename_i id proposal approval actor ready
      cases Option.some.inj taken
      split
      · exact failed.released _ _ rfl
      · rename_i db done
        -- The claim of a row that has failed is refused, so this is another.
        obtain ⟨claimed,found,approved,finds⟩ := claimExecution_parts done
        have other : proposalId ≠ id := by
          intro same
          rw [← same,failed.failed] at found
          cases Option.some.inj found
          cases approved
        refine (failed.moved client _ fun held => ?_).stored ((finds _).trans (if_neg other))
        exact absurd (Option.some.inj held).symm other
    · cases taken
  | check client now =>
    simp only [step] at taken
    split at taken
    · rename_i id proposal approval actor claimed
      have held : holds (s.clients client) = some id := by rw [claimed]; rfl
      have other : id ≠ proposalId := fun same => failed.unheld client (same ▸ held)
      cases Option.some.inj taken
      split
      · exact failed.moved _ _ fun holding => by rw [held]; exact holding
      · rename_i call checked
        have moved := failed.moved client (.writing id) fun holding => by rw [held]; exact holding
        refine ⟨moved.failed,moved.unheld,?_⟩
        rw [List.filter_append,List.filter_cons_of_neg (by simpa using other),List.filter_nil,List.append_nil]
        exact failed.quiet
    · cases taken
  | answer client succeeded =>
    simp only [step] at taken
    split at taken
    · rename_i id writing
      cases Option.some.inj taken
      exact failed.moved _ _ fun held => by rw [writing]; exact held
    · cases taken
  | finish client =>
    simp only [step] at taken
    split at taken
    · rename_i id succeeded finishing
      have held : holds (s.clients client) = some id := by rw [finishing]; rfl
      have other : proposalId ≠ id := fun same => failed.unheld client (same ▸ held)
      cases Option.some.inj taken
      refine (failed.released client .idle rfl).stored ?_
      exact (Table.find_update ..).trans (if_neg other)
    · cases taken

def TurnedAway (settings : Settings) (db : Database) (proposalId : String) : Prop :=
  ∀ (writer : WriterCall → Except String String) (actor : String) (now : Instant),
    executeService settings true writer db proposalId actor now =
      ⟨.error (.valueError "proposal is not approved or execution was already claimed"),db,[]⟩

-- What a refusal by the executor leaves of the proposal, in every state that
-- calls of the service reach from there, in whatever order their statements
-- come.
structure Consumed (settings : Settings) (db : Database) (proposalId message : String) (row : Row) (done : Done) :
    Prop where
  result : done.result = .error (.valueError message)
  unwritten : done.calls = []
  spent : done.db.find proposalId = some {row with status := .failed}
  others : ∀ j, j ≠ proposalId → done.db.find j = db.find j
  final : ∀ (s later : State) (events : List Event), s.db = done.db →
    (∀ client, holds (s.clients client) ≠ some proposalId) → Runs (step settings) s events later →
    later.db.find proposalId = some {row with status := .failed} ∧ TurnedAway settings later.db proposalId ∧
      later.log.filter (fun entry => decide (entry.proposalId = proposalId)) =
        s.log.filter (fun entry => decide (entry.proposalId = proposalId))

theorem executeService_refused (found : db.find proposalId = some row) (approved : row.status = .approved)
    (signed : row.approval = some approval)
    (refused : execute settings.sha256 settings.managedNamespaces row.payload approval actor now = .error message) :
    ∃ claimed, (∀ j, claimed.find j = if j = proposalId then some {row with status := .executing} else db.find j) ∧
      executeService settings true writer db proposalId actor now =
        ⟨.error (.valueError message),finishExecution claimed proposalId false,[]⟩ := by
  obtain ⟨claimed,claims,finds⟩ := claimExecution_approved found approved
  refine ⟨claimed,finds,?_⟩
  simp [executeService,getProposal,getApproval,found,signed,claims,refused]

theorem refused_execution_consumes (settings : Settings) (writer : WriterCall → Except String String) (actor : String)
    (now : Instant) (found : db.find proposalId = some row) (approved : row.status = .approved)
    (signed : row.approval = some approval)
    (refused : execute settings.sha256 settings.managedNamespaces row.payload approval actor now = .error message) :
    Consumed settings db proposalId message row (executeService settings true writer db proposalId actor now) := by
  obtain ⟨claimed,finds,done⟩ := @executeService_refused _ writer _ _ _ _ _ _ _ found approved signed refused
  have executing : claimed.find proposalId = some {row with status := .executing} := (finds proposalId).trans (if_pos rfl)
  have finished := finishExecution_finds executing rfl false
  have spent : (finishExecution claimed proposalId false).find proposalId = some {row with status := .failed} :=
    (finished proposalId).trans (if_pos rfl)
  rw [done]
  refine ⟨rfl,rfl,spent,?_,?_⟩
  · intro j apart
    rw [finished,if_neg apart,finds,if_neg apart]
  · intro s later events same unheld path
    have failed : Failed proposalId row _ s := ⟨same ▸ spent,unheld,rfl⟩
    have reached : Failed proposalId row _ later := path.invariant step_failed failed
    exact ⟨reached.failed,fun _ _ _ => executeService_spent reached.failed signed (by simp),reached.quiet⟩

def signed : Approval :=
  ⟨"p-1","fe0c0241fa4af29af303d235d01e49a393ea432a2b74d177e872c7028c27cbef","bob",1000,1000 + minutes 15⟩

def approvedRow : Row :=
  ⟨"p-1",scaling,"fe0c0241fa4af29af303d235d01e49a393ea432a2b74d177e872c7028c27cbef",.approved,some signed⟩

def approvedOnly : Database := ⟨[approvedRow],by decide⟩

def answering (_ : WriterCall) : Except String String := .ok "43"

def refusal : String := "executor must be independent from proposer and approver"

theorem approver_refused : execute live.sha256 live.managedNamespaces approvedRow.payload signed "bob" 2000 =
    .error refusal := by decide +kernel

theorem approver_consumes : Consumed live approvedOnly "p-1" refusal approvedRow
    (executeService live true answering approvedOnly "p-1" "bob" 2000) :=
  refused_execution_consumes live answering "bob" 2000 rfl rfl rfl approver_refused

theorem refusal_changes_proposal : ¬ ∀ (settings : Settings) (writer : WriterCall → Except String String) (db : Database)
    (proposalId actor message : String) (now : Instant) (row : Row) (approval : Approval), db.find proposalId = some row →
      row.status = .approved → row.approval = some approval →
      execute settings.sha256 settings.managedNamespaces row.payload approval actor now = .error message →
      (executeService settings true writer db proposalId actor now).db.find proposalId = some row := by
  intro left
  have kept := left live answering approvedOnly "p-1" "bob" refusal 2000 approvedRow signed rfl rfl rfl approver_refused
  have status := congrArg (Option.map Row.status) kept
  exact absurd status (by decide +kernel)

end OpenModelOps.SreRefusal
