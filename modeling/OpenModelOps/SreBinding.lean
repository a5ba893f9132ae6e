import OpenModelOps.SreExecution
import OpenModelOps.SreStorage

namespace OpenModelOps.SreBinding
open JsonText KeyedTable PythonText PythonDatetime RunHistory SreActions SreStorage
open SreService (Status Settings)
open SreExecution (scaling)

def encoded (row : SreService.Row) : Row :=
  ⟨row.proposalId,sortedText (payload row.payload),row.digest,row.status,row.approval.map approvalText⟩

theorem encoded_key (row : SreService.Row) : (encoded row).proposalId = row.proposalId := rfl

def encode (db : SreService.Database) : Database := db.recode encoded encoded_key

theorem find_encode (db : SreService.Database) (proposalId : String) :
    (encode db).find proposalId = (db.find proposalId).map encoded := Table.find_recode db proposalId

section Encoded
variable {settings : Settings} {db : SreService.Database}

theorem saveProposal_encode (spelled : Spelled p) :
    saveProposal settings.sha256 (encode db) p = (SreService.saveProposal settings db p).map encode := by
  rw [saveProposal,dumped ((payload_short p).mpr spelled)]
  exact Table.insert_recode db ⟨p.proposalId,p,p.digest settings.sha256,.proposed,none⟩

theorem guarded_encode (proposalId : String) {guard : SreService.Row → Bool} {codedGuard : Row → Bool}
    {change : Assignment SreService.Row.proposalId} {codedChange : Assignment Row.proposalId}
    (guards : ∀ row, codedGuard (encoded row) = guard row)
    (changes : ∀ row, codedChange.apply (encoded row) = encoded (change.apply row)) :
    (if ((encode db).update proposalId codedGuard codedChange).2 ≠ 1 then none
      else some ((encode db).update proposalId codedGuard codedChange).1) =
    (if (db.update proposalId guard change).2 ≠ 1 then none else some (db.update proposalId guard change).1).map encode := by
  have updated := @Table.update_recode _ _ _ _ _ _ encoded encoded_key db proposalId _ _ _ _ guards changes
  rw [encode,updated]
  split <;> rfl

theorem approve_encode (approval : Approval) :
    approve (encode db) approval = (SreService.approve db approval).map encode :=
  guarded_encode approval.proposalId (fun _ => rfl) (fun _ => rfl)

theorem claimExecution_encode (proposalId : String) :
    claimExecution (encode db) proposalId = (SreService.claimExecution db proposalId).map encode :=
  guarded_encode proposalId (fun _ => rfl) (fun _ => rfl)

theorem finishExecution_encode (proposalId : String) (succeeded : Bool) :
    finishExecution (encode db) proposalId succeeded = encode (SreService.finishExecution db proposalId succeeded) :=
  congrArg Prod.fst (@Table.update_recode _ _ _ _ _ _ encoded encoded_key db proposalId _ _ _ _ (fun _ => rfl) (fun _ => rfl))

theorem proposal_back (uuid4 : String) (spelled : Spelled p) (representable : Representable p.createdAt) :
    ∃ read, (do proposalOf uuid4 (← loadsText (sortedText (payload p)))) = some read ∧ Same read p := by
  obtain ⟨read,back,same⟩ := proposalOf_read uuid4 representable
  exact ⟨read,bind_read (loads_sortedText (payload_whole p) ((payload_short p).mpr spelled)) back,same⟩

theorem getProposal_encode (uuid4 : String) (found : SreService.getProposal db proposalId = some p) (spelled : Spelled p)
    (representable : Representable p.createdAt) :
    ∃ read, getProposal uuid4 (encode db) proposalId = some read ∧ Same read p := by
  obtain ⟨row,there,same⟩ := Option.map_eq_some_iff.mp found
  have coded : (encode db).find proposalId = some (encoded row) := by rw [find_encode,there,Option.map_some]
  have text_ : (encoded row).payload = sortedText (payload p) := congrArg (fun q => sortedText (payload q)) same
  unfold getProposal
  rw [coded,Option.bind_eq_bind,Option.bind_some,text_]
  exact proposal_back uuid4 spelled representable

theorem approval_back (timed : Approval.Timed a) : (do approvalOf (← loadsText (approvalText a))) = some a :=
  bind_read (approval_loaded a) (approvalOf_read timed)

theorem getApproval_encode (timed : ∀ row a, db.find proposalId = some row → row.approval = some a → Approval.Timed a) :
    getApproval (encode db) proposalId = SreService.getApproval db proposalId := by
  unfold getApproval SreService.getApproval
  rw [find_encode]
  cases found : db.find proposalId with
  | none => rfl
  | some row =>
    change (row.approval.map approvalText >>= fun t => loadsText t >>= approvalOf) = row.approval
    cases signed : row.approval with
    | none => rfl
    | some a => exact approval_back (timed row a found signed)

end Encoded

inductive Operation where
  | save (proposal : ActionProposal)
  | approve (approval : Approval)
  | claim (proposalId : String)
  | finish (proposalId : String) (succeeded : Bool)

-- A call that raises leaves the database as it was.
def step (settings : Settings) (db : Database) : Operation → Option Database
  | .save proposal => some ((saveProposal settings.sha256 db proposal).getD db)
  | .approve approval => some ((approve db approval).getD db)
  | .claim proposalId => some ((claimExecution db proposalId).getD db)
  | .finish proposalId succeeded => some (finishExecution db proposalId succeeded)

-- The times of an operation are times that a datetime can have.
def Operation.Timed : Operation → Prop
  | .save proposal => Representable proposal.createdAt
  | .approve approval => Approval.Timed approval
  | _ => True

structure Bound (settings : Settings) (row : SreService.Row) : Prop where
  digest : row.digest = row.payload.digest settings.sha256
  spelled : Spelled row.payload
  representable : Representable row.payload.createdAt
  approved : ∀ a, row.approval = some a → a.proposalDigest = row.digest
  timed : ∀ a, row.approval = some a → Approval.Timed a

def Binds (settings : Settings) (db : SreService.Database) : Prop :=
  ∀ proposalId row, db.find proposalId = some row → Bound settings row

def Stored (settings : Settings) (db : Database) : Prop := ∃ records, db = encode records ∧ Binds settings records

section Runs
variable {settings : Settings} {records : SreService.Database} {proposalId : String} {guard : SreService.Row → Bool}
  {change : Assignment SreService.Row.proposalId}

theorem Binds.update (binds : Binds settings records)
    (kept : ∀ row, Bound settings row → guard row = true → Bound settings (change.apply row)) :
    Binds settings (records.update proposalId guard change).1 := by
  intro id row found
  rw [Table.find_update] at found
  split at found
  · obtain ⟨old,there,rfl⟩ := Option.map_eq_some_iff.mp found
    have bound := binds proposalId old there
    split
    · rename_i guarded
      exact kept old bound guarded
    · exact bound
  · exact binds id row found

theorem Binds.guarded (binds : Binds settings records)
    (kept : ∀ row, Bound settings row → guard row = true → Bound settings (change.apply row)) :
    Binds settings ((if (records.update proposalId guard change).2 ≠ 1 then none
      else some (records.update proposalId guard change).1).getD records) := by
  split
  · exact binds
  · exact binds.update kept

theorem Bound.status (bound : Bound settings row) (status : Status) : Bound settings ((SreService.markStatus status).apply row) :=
  ⟨bound.digest,bound.spelled,bound.representable,bound.approved,bound.timed⟩

theorem saveProposal_spelled {db next : Database} (saved : saveProposal sha256 db p = some next) : Spelled p := by
  rw [saveProposal,Option.bind_eq_bind,Option.bind_eq_some_iff] at saved
  obtain ⟨cs,written,_⟩ := saved
  exact (payload_short p).mp (dumped_parts written).1

theorem save_stored (binds : Binds settings records) (representable : Representable p.createdAt) :
    Stored settings ((saveProposal settings.sha256 (encode records) p).getD (encode records)) := by
  cases saved : saveProposal settings.sha256 (encode records) p with
  | none => exact ⟨records,rfl,binds⟩
  | some next =>
    have spelled := saveProposal_spelled saved
    rw [saveProposal_encode spelled] at saved
    obtain ⟨after,inserted,rfl⟩ := Option.map_eq_some_iff.mp saved
    refine ⟨after,rfl,fun id row found => ?_⟩
    rw [Table.find_insert inserted] at found
    split at found
    · cases Option.some.inj found
      refine ⟨rfl,spelled,representable,fun a signed => ?_,fun a signed => ?_⟩
      · cases signed
      · cases signed
    · exact binds id row found

theorem approve_bound {a : Approval} (timed : Approval.Timed a) (row : SreService.Row) (bound : Bound settings row)
    (guarded : (decide (row.digest = a.proposalDigest) && decide (row.status = .proposed)) = true) :
    Bound settings ((SreService.markApproved a).apply row) := by
  simp only [Bool.and_eq_true,decide_eq_true_eq] at guarded
  refine ⟨bound.digest,bound.spelled,bound.representable,fun b signed => ?_,fun b signed => ?_⟩
  · cases Option.some.inj signed
    exact guarded.1.symm
  · cases Option.some.inj signed
    exact timed

theorem getD_encode (after : Option SreService.Database) :
    (after.map encode).getD (encode records) = encode (after.getD records) := by
  cases after <;> rfl

theorem step_stored {db next : Database} (stored : Stored settings db) (timed : operation.Timed)
    (taken : step settings db operation = some next) : Stored settings next := by
  obtain ⟨records,rfl,binds⟩ := stored
  cases operation with
  | save p =>
    cases Option.some.inj taken
    exact save_stored binds timed
  | approve a =>
    cases Option.some.inj taken
    rw [approve_encode,getD_encode]
    exact ⟨_,rfl,binds.guarded (approve_bound timed)⟩
  | claim id =>
    cases Option.some.inj taken
    rw [claimExecution_encode,getD_encode]
    exact ⟨_,rfl,binds.guarded fun _ bound _ => bound.status _⟩
  | finish id succeeded =>
    cases Option.some.inj taken
    rw [finishExecution_encode]
    exact ⟨_,rfl,binds.update fun _ bound _ => bound.status _⟩

theorem run_stored {db : Database} (path : Runs (step settings) Table.empty operations db)
    (timed : ∀ operation ∈ operations, operation.Timed) : Stored settings db := by
  have start : Stored settings Table.empty := ⟨Table.empty,rfl,fun _ _ found => by cases found⟩
  generalize Table.empty = first at path start
  induction path with
  | stop => exact start
  | take taken _ ih =>
    exact ih (fun operation member => timed operation (List.mem_cons_of_mem _ member))
      (step_stored start (timed _ List.mem_cons_self) taken)

theorem Stored.approval {db : Database} {read : ActionProposal} {a : Approval} (stored : Stored settings db) (uuid4 : String)
    (there : getProposal uuid4 db proposalId = some read) (signed : getApproval db proposalId = some a) :
    Representable read.createdAt ∧ a.proposalDigest = read.digest settings.sha256 := by
  obtain ⟨records,rfl,binds⟩ := stored
  rw [getApproval_encode fun row a found => (binds proposalId row found).timed a] at signed
  obtain ⟨row,found,approved⟩ := Option.bind_eq_some_iff.mp signed
  have bound := binds proposalId row found
  have kept : SreService.getProposal records proposalId = some row.payload := congrArg (Option.map _) found
  obtain ⟨again,back,same⟩ := getProposal_encode uuid4 kept bound.spelled bound.representable
  cases Option.some.inj (there.symm.trans back)
  have representable : Representable read.createdAt := same.createdAt ▸ bound.representable
  refine ⟨representable,?_⟩
  rw [bound.approved a approved,bound.digest,same.digest representable]

end Runs

def CollisionFree (settings : Settings) (p q : ActionProposal) : Prop :=
  settings.sha256 (digestBytes p) = settings.sha256 (digestBytes q) → digestBytes p = digestBytes q

instance (settings : Settings) (p q : ActionProposal) : Decidable (CollisionFree settings p q) :=
  inferInstanceAs (Decidable (_ → _))

theorem digest_exact {settings : Settings} (left : Representable p.createdAt) (right : Representable q.createdAt)
    (collisionFree : CollisionFree settings p q) : p.digest settings.sha256 = q.digest settings.sha256 ↔ Same p q :=
  ⟨fun same => (digestBytes_exact left right).mp (collisionFree same),fun same => same.digest left settings.sha256⟩

theorem save_exact {db : Database} (settings : Settings) (fresh : db.find p.proposalId = none) :
    (∃ next, saveProposal settings.sha256 db p = some next) ↔ Spelled p := by
  constructor
  · rintro ⟨next,saved⟩
    exact saveProposal_spelled saved
  · intro spelled
    obtain ⟨next,inserted⟩ := @Table.insert_of_fresh _ _ _ _
      ⟨p.proposalId,sortedText (payload p),p.digest settings.sha256,.proposed,none⟩ db fresh
    refine ⟨next,?_⟩
    rw [saveProposal,dumped ((payload_short p).mpr spelled)]
    exact inserted

theorem save_returns {db next : Database} (uuid4 : String) (representable : Representable p.createdAt)
    (saved : saveProposal sha256 db p = some next) :
    ∃ read, getProposal uuid4 next p.proposalId = some read ∧ Same read p := by
  have spelled := saveProposal_spelled saved
  rw [saveProposal,dumped ((payload_short p).mpr spelled)] at saved
  have found := Table.find_insert saved p.proposalId
  rw [if_pos rfl] at found
  unfold getProposal
  rw [found,Option.bind_eq_bind,Option.bind_some]
  exact proposal_back uuid4 spelled representable

-- A proposal is read back as it was saved, with its digest. A digest stands for
-- one proposal, and an approval that is read with a proposal for no other.
theorem approval_binds_proposal (settings : Settings) (uuid4 : String) (p : ActionProposal)
    (representable : Representable p.createdAt) :
    (∀ db : Database, db.find p.proposalId = none →
      ((∃ next, saveProposal settings.sha256 db p = some next) ↔ Spelled p)) ∧
    (∀ db next, saveProposal settings.sha256 db p = some next → ∃ read, getProposal uuid4 next p.proposalId = some read ∧
      Same read p ∧ read.digest settings.sha256 = p.digest settings.sha256) ∧
    (∀ q, Representable q.createdAt → CollisionFree settings p q →
      (p.digest settings.sha256 = q.digest settings.sha256 ↔ Same p q)) ∧
    ∀ operations db, Runs (step settings) Table.empty operations db → (∀ operation ∈ operations, operation.Timed) →
      ∀ proposalId read approval, getProposal uuid4 db proposalId = some read → getApproval db proposalId = some approval →
        approval.proposalDigest = read.digest settings.sha256 ∧
        ∀ q, Representable q.createdAt → CollisionFree settings read q →
          (approval.proposalDigest = q.digest settings.sha256 → Same read q) ∧
          ∀ actor now call, execute settings.sha256 settings.managedNamespaces q approval actor now = .ok call →
            Same read q := by
  refine ⟨fun db fresh => save_exact settings fresh,fun db next saved => ?_,
    fun q right collisionFree => digest_exact representable right collisionFree,?_⟩
  · obtain ⟨read,back,same⟩ := save_returns uuid4 representable saved
    have left : Representable read.createdAt := same.createdAt ▸ representable
    exact ⟨read,back,same,same.digest left settings.sha256⟩
  · intro operations db path timed proposalId read approval there signed
    obtain ⟨left,stands⟩ := (run_stored path timed).approval uuid4 there signed
    refine ⟨stands,fun q right collisionFree => ?_⟩
    have only : approval.proposalDigest = q.digest settings.sha256 → Same read q := fun same =>
      (digest_exact left right collisionFree).mp (stands.symm.trans same)
    exact ⟨only,fun actor now call done => only (execute_authorized done).digested⟩

def quoted : ActionProposal := {scaling with parameters := Dict.set Table.empty "replicas" (.str "5")}

-- The digests are the SHA-256 of the two proposals.
def hashing : Settings where
  sha256 bytes :=
    if bytes = digestBytes scaling then "fe0c0241fa4af29af303d235d01e49a393ea432a2b74d177e872c7028c27cbef"
    else if bytes = digestBytes quoted then "79cc9665c749ea8e57c9c4d633290fb7c585c4cc5de45e0c3b9abe3d01346734"
    else ""
  managedNamespaces := ["models"]

def signed : Approval :=
  ⟨"p-1","fe0c0241fa4af29af303d235d01e49a393ea432a2b74d177e872c7028c27cbef","bob",1000,1000 + minutes 15⟩

def approvedOnce : List Operation := [.save scaling,.approve signed]

theorem quoted_unapproved : ∃ db read, Runs (step hashing) Table.empty approvedOnce db ∧
    getProposal "" db "p-1" = some read ∧ getApproval db "p-1" = some signed ∧
    signed.proposalDigest = read.digest hashing.sha256 ∧
    (scaling.digest hashing.sha256 = quoted.digest hashing.sha256 ↔ Same scaling quoted) := by
  have consumed : ((consume (step hashing) Table.empty approvedOnce).bind fun db =>
      (getProposal "" db "p-1").bind fun _ => getApproval db "p-1") = some signed := by decide +kernel
  obtain ⟨db,taken,rest⟩ := Option.bind_eq_some_iff.mp consumed
  obtain ⟨read,there,approved⟩ := Option.bind_eq_some_iff.mp rest
  have path := consume_exact.mp taken
  have zero : Representable scaling.createdAt := by decide
  have timed : ∀ operation ∈ approvedOnce, operation.Timed := by
    intro operation member
    rcases List.mem_cons.mp member with rfl | member
    · exact zero
    · cases List.mem_singleton.mp member
      exact ⟨by decide,by decide⟩
  have collisionFree : CollisionFree hashing scaling quoted := by decide +kernel
  have binds := approval_binds_proposal hashing "" scaling zero
  exact ⟨db,read,path,there,approved,(binds.2.2.2 approvedOnce db path timed "p-1" read signed there approved).1,
    binds.2.2.1 quoted zero collisionFree⟩

def asking (replicas : Int) : ActionProposal := {scaling with parameters := Dict.set Table.empty "replicas" (.int replicas)}

theorem asking_spelled (replicas : Int) (spelled : Spelled (asking replicas)) : replicas.natAbs < 10 ^ maxStrDigits :=
  spelled "replicas" replicas (Dict.get_set_self Table.empty "replicas" (Parameter.int replicas))

theorem unspelled_unsaved : ¬ ∀ (settings : Settings) (uuid4 : String) (p : ActionProposal), Representable p.createdAt →
    ∃ next read, saveProposal settings.sha256 Table.empty p = some next ∧
      getProposal uuid4 next p.proposalId = some read ∧ Same read p := by
  intro returns
  obtain ⟨next,_,saved,_⟩ := returns hashing "" (asking (10 ^ maxStrDigits : Nat)) (by decide)
  have short := asking_spelled _ (saveProposal_spelled saved)
  rw [Int.natAbs_natCast] at short
  exact lt_irrefl _ short

end OpenModelOps.SreBinding
