import OpenModelOps.JudgeGate
import OpenModelOps.LockedTransactions

namespace OpenModelOps.JudgeStore
open KeyedTable PythonText Raising RunHistory LockedTransactions
open JudgeEnsemble (Verdict EnsembleResult EnsembleJudge JudgeSample Rubric)

-- The JSON document of the row is the result itself.
structure EvaluationRow where
  evaluationId : String
  sampleId : String
  sampleDigest : String
  rubricId : String
  rubricDigest : String
  verdict : Verdict
  resultJson : EnsembleResult
  createdAt : String

inductive Status where
  | pending | resolved
  deriving DecidableEq

structure ReviewRow where
  evaluationId : String
  status : Status
  humanVerdict : Option Verdict
  reviewer : Option String
  reason : Option String
  resolvedAt : Option String
  deriving DecidableEq

structure Database where
  evaluations : Table EvaluationRow.evaluationId
  reviews : Table ReviewRow.evaluationId

def Database.empty : Database := ⟨Table.empty,Table.empty⟩

inductive Failure where
  | valueError (message : String)
  | keyError (key : String)
  | indexError
  | integrityError
  deriving DecidableEq

-- The identifier of a record is the uuid4 that the call draws.
inductive Call where
  | record (evaluationId : String) (result : EnsembleResult) (queueReview : Option Bool) (now : Instant)
  | resolve (evaluationId reviewer : String) (verdict : Verdict) (reason : String) (now : Instant)

def queued (result : EnsembleResult) (queueReview : Option Bool) : Bool :=
  queueReview.getD (decide (result.verdict = .review))

def evaluationRow (evaluationId : String) (result : EnsembleResult) (now : Instant) : Option EvaluationRow :=
  result.judgeResults.head?.map fun first =>
    ⟨evaluationId,result.sampleId,first.sampleDigest,first.rubricId,first.rubricDigest,result.verdict,result,isoformat now⟩

def insertEvaluation (row : EvaluationRow) (db : Database) : Except Failure Database :=
  match db.evaluations.insert row with
  | some evaluations => .ok {db with evaluations := evaluations}
  | none => .error .integrityError

def insertReview (evaluationId : String) (db : Database) : Except Failure Database :=
  match db.reviews.insert ⟨evaluationId,.pending,none,none,none,none⟩ with
  | some reviews => .ok {db with reviews := reviews}
  | none => .error .integrityError

def resolution (reviewer : String) (verdict : Verdict) (reason : String) (now : Instant) :
    Assignment ReviewRow.evaluationId where
  apply row := {row with
    status := .resolved, humanVerdict := some verdict, reviewer := some reviewer, reason := some reason
    resolvedAt := some (isoformat now)}
  keeps _ := rfl

def isPending (row : ReviewRow) : Bool := decide (row.status = .pending)

-- The UPDATE and the check of its rowcount.
def resolveReview (evaluationId reviewer : String) (verdict : Verdict) (reason : String) (now : Instant) (db : Database) :
    Except Failure Database :=
  let (reviews,rowcount) := db.reviews.update evaluationId isPending (resolution reviewer verdict reason now)
  if rowcount = 1 then .ok {db with reviews := reviews} else .error (.keyError "pending review not found")

def check : Call → Option Failure
  | .record _ result _ _ => if result.judgeResults = [] then some .indexError else none
  | .resolve _ reviewer verdict reason _ =>
    if verdict = .review then some (.valueError "a human review must resolve to pass or fail")
    else if blank reviewer || blank reason then some (.valueError "reviewer and reason are required")
    else none

def statements : Call → List (Database → Except Failure Database)
  | .record evaluationId result queueReview now => match evaluationRow evaluationId result now with
    | some row => insertEvaluation row :: if queued result queueReview then [insertReview evaluationId] else []
    | none => []
  | .resolve evaluationId reviewer verdict reason now => [resolveReview evaluationId reviewer verdict reason now]

def judgeStore : Program Database Call Failure := ⟨check,statements⟩

-- SELECT ... WHERE r.status = 'pending' ORDER BY e.created_at LIMIT ?
def pendingReviews (db : Database) (limit : Nat) : List EvaluationRow :=
  ((db.evaluations.rows.filter fun row => (db.reviews.find row.evaluationId).any isPending).insertionSort
    fun a b => a.createdAt ≤ b.createdAt).take limit

-- The evaluation endpoint, as far as the store: what raises is answered with an
-- error and records nothing.
def evaluate (arithmetic : PythonFloat.Arithmetic) (ensemble : EnsembleJudge) (n : Nat) (sample : JudgeSample)
    (rubric : Rubric) (evaluationId : String) (now : Instant) : Except JudgeEnsemble.Raised Call := do
  let result ← ensemble.evaluate arithmetic n sample rubric
  return .record evaluationId result (some (decide (result.verdict = .review) ||
    decide (sample.riskTier = "high") || decide (sample.riskTier = "critical"))) now

inductive Performed (db : Database) : Call → Database → Option Failure → Prop where
  | raised {call : Call} {failure : Failure} : Performed db call db (some failure)
  | recorded {evaluationId : String} {result : EnsembleResult} {queueReview : Option Bool} {now : Instant}
      {row : EvaluationRow} {evaluations : Table EvaluationRow.evaluationId} :
      row.evaluationId = evaluationId → db.evaluations.insert row = some evaluations →
      queued result queueReview = false →
      Performed db (.record evaluationId result queueReview now) {db with evaluations := evaluations} none
  | queued {evaluationId : String} {result : EnsembleResult} {queueReview : Option Bool} {now : Instant}
      {row : EvaluationRow} {evaluations : Table EvaluationRow.evaluationId} {reviews : Table ReviewRow.evaluationId} :
      row.evaluationId = evaluationId → db.evaluations.insert row = some evaluations →
      queued result queueReview = true →
      db.reviews.insert ⟨evaluationId,.pending,none,none,none,none⟩ = some reviews →
      Performed db (.record evaluationId result queueReview now) ⟨evaluations,reviews⟩ none
  | resolved {evaluationId reviewer reason : String} {verdict : Verdict} {now : Instant} {row : ReviewRow}
      {after : Database} : verdict ≠ .review → blank reviewer = false → blank reason = false →
      db.reviews.find evaluationId = some row → row.status = .pending →
      (∀ j, after.reviews.find j = if j = evaluationId then some ((resolution reviewer verdict reason now).apply row)
        else db.reviews.find j) → after.evaluations = db.evaluations →
      Performed db (.resolve evaluationId reviewer verdict reason now) after none

section Calls
variable {db after : Database} {call : Call} {raised : Option Failure} {evaluationId reviewer reason : String}
  {verdict : Verdict} {now : Instant}

theorem resolve_checked (checked : check (.resolve evaluationId reviewer verdict reason now) = none) :
    verdict ≠ .review ∧ blank reviewer = false ∧ blank reason = false := by
  rw [check] at checked
  split at checked
  · cases checked
  split at checked
  · cases checked
  rename_i named stated
  rw [Bool.not_eq_true,Bool.or_eq_false_iff] at stated
  exact ⟨named,stated⟩

theorem resolveReview_ok (done : resolveReview evaluationId reviewer verdict reason now db = .ok after) :
    ∃ row, db.reviews.find evaluationId = some row ∧ row.status = .pending ∧
      (∀ j, after.reviews.find j = if j = evaluationId then some ((resolution reviewer verdict reason now).apply row)
        else db.reviews.find j) ∧ after.evaluations = db.evaluations := by
  unfold resolveReview at done
  dsimp only at done
  split at done
  · rename_i hit
    obtain ⟨row,found,guarded,others⟩ := Table.update_matched hit
    cases Except.ok.inj done
    exact ⟨row,found,by simpa [isPending] using guarded,others,rfl⟩
  · cases done

theorem insertEvaluation_ok {row : EvaluationRow} (done : insertEvaluation row db = .ok after) :
    ∃ evaluations, db.evaluations.insert row = some evaluations ∧ after = {db with evaluations := evaluations} := by
  unfold insertEvaluation at done
  split at done
  · rename_i evaluations inserted
    exact ⟨evaluations,inserted,(Except.ok.inj done).symm⟩
  · cases done

theorem insertReview_ok (done : insertReview evaluationId db = .ok after) :
    ∃ reviews, db.reviews.insert ⟨evaluationId,.pending,none,none,none,none⟩ = some reviews ∧
      after = {db with reviews := reviews} := by
  unfold insertReview at done
  split at done
  · rename_i reviews inserted
    exact ⟨reviews,inserted,(Except.ok.inj done).symm⟩
  · cases done

theorem perform_cases (done : judgeStore.perform db call = (after,raised)) : Performed db call after raised := by
  rw [Program.perform] at done
  cases checked : judgeStore.check call with
  | some failure =>
    rw [checked] at done
    cases done
    exact .raised
  | none =>
    rw [checked] at done
    dsimp only at done
    cases ran : runAll (judgeStore.statements call) db with
    | error failure =>
      rw [ran] at done
      cases done
      exact .raised
    | ok t =>
      rw [ran] at done
      cases done
      cases call with
      | record evaluationId result queueReview now =>
        have answers : result.judgeResults ≠ [] := by
          intro none_
          change (if result.judgeResults = [] then some Failure.indexError else none) = none at checked
          rw [if_pos none_] at checked
          cases checked
        obtain ⟨first,rest,shape⟩ := List.exists_cons_of_ne_nil answers
        change runAll (statements (.record evaluationId result queueReview now)) db = .ok after at ran
        rw [statements,evaluationRow,shape] at ran
        simp only [List.head?_cons,Option.map_some,runAll] at ran
        split at ran
        · cases ran
        rename_i middle first_
        obtain ⟨evaluations,inserted,rfl⟩ := insertEvaluation_ok first_
        cases needed : queued result queueReview with
        | false =>
          rw [needed] at ran
          cases ran
          exact .recorded rfl inserted needed
        | true =>
          rw [needed] at ran
          simp only [if_true,runAll] at ran
          split at ran
          · cases ran
          rename_i last second
          cases Except.ok.inj ran
          obtain ⟨reviews,entered,rfl⟩ := insertReview_ok second
          exact .queued rfl inserted needed entered
      | resolve evaluationId reviewer verdict reason now =>
        obtain ⟨named,reviewed,stated⟩ := @resolve_checked evaluationId reviewer reason verdict now checked
        change runAll [resolveReview evaluationId reviewer verdict reason now] db = .ok after at ran
        simp only [runAll] at ran
        split at ran
        · cases ran
        rename_i middle done
        cases Except.ok.inj ran
        obtain ⟨row,found,pending,others,kept⟩ := resolveReview_ok done
        exact .resolved named reviewed stated found pending others kept

theorem resolve_exact (checked : check (.resolve evaluationId reviewer verdict reason now) = none) (db : Database) :
    (((db.reviews.find evaluationId).any isPending = true) →
      ∃ after, judgeStore.perform db (.resolve evaluationId reviewer verdict reason now) = (after,none)) ∧
    (((db.reviews.find evaluationId).any isPending = false) →
      judgeStore.perform db (.resolve evaluationId reviewer verdict reason now) =
        (db,some (.keyError "pending review not found"))) := by
  have count := db.reviews.rowcount_eq evaluationId isPending (resolution reviewer verdict reason now)
  constructor
  · intro pending
    rw [pending,if_pos rfl] at count
    have ran : runAll (judgeStore.statements (.resolve evaluationId reviewer verdict reason now)) db =
        .ok {db with reviews := (db.reviews.update evaluationId isPending (resolution reviewer verdict reason now)).1} := by
      simp only [judgeStore,statements,runAll,resolveReview,count,if_true]
    exact ⟨_,perform_commits checked ran⟩
  · intro settled
    rw [settled,if_neg Bool.false_ne_true] at count
    refine perform_rolls_back checked ?_
    simp only [judgeStore,statements,runAll,resolveReview,count,Nat.zero_ne_one,if_false]

end Calls

structure Reviewed (row : ReviewRow) : Prop where
  open_ : row.status = .pending → row.humanVerdict = none ∧ row.reviewer = none ∧ row.reason = none ∧ row.resolvedAt = none
  closed : row.status = .resolved → (row.humanVerdict = some .pass ∨ row.humanVerdict = some .fail) ∧
    (∃ reviewer, row.reviewer = some reviewer ∧ blank reviewer = false) ∧
    (∃ reason, row.reason = some reason ∧ blank reason = false) ∧ ∃ now, row.resolvedAt = some now

structure Sound (db : Database) : Prop where
  reviewed : ∀ id row, db.reviews.find id = some row → Reviewed row
  evaluated : ∀ id row, db.reviews.find id = some row → ∃ evaluation, db.evaluations.find id = some evaluation

structure Grows (before after : Database) : Prop where
  stays : ∀ id row, before.reviews.find id = some row → ∃ later, after.reviews.find id = some later
  resolved : ∀ id row, before.reviews.find id = some row → row.status = .resolved → after.reviews.find id = some row

theorem Grows.refl (db : Database) : Grows db db := ⟨fun _ row found => ⟨row,found⟩,fun _ _ found _ => found⟩

theorem Grows.trans {first middle last : Database} (left : Grows first middle) (right : Grows middle last) :
    Grows first last := by
  refine ⟨fun id row found => ?_,fun id row found settled => ?_⟩
  · obtain ⟨next,there⟩ := left.stays id row found
    exact right.stays id next there
  · exact right.resolved id row (left.resolved id row found settled) settled

section Performing
variable {db after : Database} {call : Call} {raised : Option Failure}

theorem Performed.grows (performed : Performed db call after raised) : Grows db after := by
  cases performed with
  | raised => exact .refl db
  | recorded _ _ _ => exact ⟨fun _ row found => ⟨row,found⟩,fun _ _ found _ => found⟩
  | @queued evaluationId _ _ _ _ _ reviews _ _ _ inserted =>
    have kept : ∀ id row, db.reviews.find id = some row → reviews.find id = some row := by
      intro id row found
      rw [Table.find_insert inserted]
      split
      · rename_i same
        have fresh := Table.insert_fresh inserted
        rw [same] at found
        rw [fresh] at found
        cases found
      · exact found
    exact ⟨fun id row found => ⟨row,kept id row found⟩,fun id row found _ => kept id row found⟩
  | @resolved evaluationId _ _ _ _ row _ _ _ _ found pending others _ =>
    constructor
    · intro id other there
      rw [others]
      split
      · exact ⟨_,rfl⟩
      · exact ⟨other,there⟩
    · intro id other there settled
      rw [others]
      split
      · rename_i same
        rw [same,found] at there
        cases Option.some.inj there
        rw [pending] at settled
        cases settled
      · exact there

theorem Performed.sound (performed : Performed db call after raised) (sound : Sound db) : Sound after := by
  have kept : ∀ {row : EvaluationRow} {evaluations : Table EvaluationRow.evaluationId} {id : String}
      {evaluation : EvaluationRow}, db.evaluations.insert row = some evaluations →
      db.evaluations.find id = some evaluation → ∃ later, evaluations.find id = some later := by
    intro row evaluations id evaluation inserted found
    rw [Table.find_insert inserted]
    split
    · exact ⟨_,rfl⟩
    · exact ⟨_,found⟩
  cases performed with
  | raised => exact sound
  | recorded _ inserted _ =>
    refine ⟨sound.reviewed,fun id row found => ?_⟩
    obtain ⟨evaluation,there⟩ := sound.evaluated id row found
    exact kept inserted there
  | @queued evaluationId _ _ _ row _ _ named inserted _ entered =>
    constructor
    · intro id review found
      rw [Table.find_insert entered] at found
      split at found
      · cases Option.some.inj found
        exact ⟨fun _ => ⟨rfl,rfl,rfl,rfl⟩,fun other => by cases other⟩
      · exact sound.reviewed id review found
    · intro id review found
      rw [Table.find_insert entered] at found
      split at found
      · rename_i same
        refine ⟨row,?_⟩
        rw [Table.find_insert inserted,same,named]
        exact if_pos rfl
      · obtain ⟨evaluation,there⟩ := sound.evaluated id review found
        exact kept inserted there
  | @resolved evaluationId reviewer reason verdict now row _ decided reviewed stated found pending others same =>
    constructor
    · intro id review there
      rw [others] at there
      split at there
      · cases Option.some.inj there
        refine ⟨(fun other => by cases other),fun _ => ⟨?_,⟨reviewer,rfl,reviewed⟩,⟨reason,rfl,stated⟩,_,rfl⟩⟩
        cases verdict with
        | pass => exact .inl rfl
        | fail => exact .inr rfl
        | review => exact absurd rfl decided
      · exact sound.reviewed id review there
    · intro id review there
      rw [others] at there
      rw [same]
      split at there
      · rename_i here
        rw [here]
        exact sound.evaluated _ _ found
      · exact sound.evaluated id review there

end Performing

def Contends (evaluationId : String) (call : Call) : Prop :=
  ∃ reviewer verdict reason now, call = .resolve evaluationId reviewer verdict reason now ∧ check call = none

def Pending (evaluationId : String) (db : Database) : Prop :=
  ∃ row, db.reviews.find evaluationId = some row ∧ row.status = .pending

theorem pending_iff {evaluationId : String} {db : Database} :
    Pending evaluationId db ↔ (db.reviews.find evaluationId).any isPending = true := by
  cases found : db.reviews.find evaluationId <;> simp [Pending,found,isPending]

theorem pendingReviews_listed {db : Database} {limit : Nat} (enough : db.evaluations.rows.length ≤ limit)
    (row : EvaluationRow) :
    row ∈ pendingReviews db limit ↔ row ∈ db.evaluations.rows ∧ Pending row.evaluationId db := by
  have whole : ((db.evaluations.rows.filter fun row => (db.reviews.find row.evaluationId).any isPending).insertionSort
      fun a b => a.createdAt ≤ b.createdAt).length ≤ limit := by
    rw [List.length_insertionSort]
    exact le_trans (List.length_filter_le _ _) enough
  rw [pendingReviews,List.take_of_length_le whole,List.mem_insertionSort,List.mem_filter,pending_iff]

section Contending
variable {db after : Database} {call : Call} {raised : Option Failure} {evaluationId : String}
  {log : List (Call × Option Failure)}

theorem contends_settles (contends : Contends evaluationId call)
    (done : judgeStore.perform db call = (after,raised)) : ¬ Pending evaluationId after := by
  obtain ⟨reviewer,verdict,reason,now,rfl,checked⟩ := contends
  intro still
  by_cases pending : (db.reviews.find evaluationId).any isPending = true
  · obtain ⟨next,succeeds⟩ := (resolve_exact checked db).1 pending
    rw [done] at succeeds
    cases succeeds
    cases perform_cases done with
    | resolved _ _ _ _ _ others _ =>
      obtain ⟨row,found,status⟩ := still
      rw [others,if_pos rfl] at found
      cases Option.some.inj found
      cases status
  · rw [Bool.not_eq_true] at pending
    rw [(resolve_exact checked db).2 pending] at done
    cases done
    rw [pending_iff,pending] at still
    cases still

theorem others_leave (quiet : ¬ Contends evaluationId call) (done : judgeStore.perform db call = (after,raised))
    (pending : Pending evaluationId db) : Pending evaluationId after := by
  obtain ⟨row,found,status⟩ := pending
  cases perform_cases done with
  | raised => exact ⟨row,found,status⟩
  | recorded _ _ _ => exact ⟨row,found,status⟩
  | queued _ _ _ inserted =>
    refine ⟨row,?_,status⟩
    rw [Table.find_insert inserted]
    split
    · rename_i same
      have fresh := Table.insert_fresh inserted
      rw [← same,found] at fresh
      cases fresh
    · exact found
  | @resolved other reviewer reason verdict now _ _ decided reviewed stated _ _ others _ =>
    refine ⟨row,?_,status⟩
    rw [others]
    split
    · rename_i same
      subst same
      refine absurd ⟨reviewer,verdict,reason,now,rfl,?_⟩ quiet
      rw [check,if_neg decided,reviewed,stated]
      rfl
    · exact found

theorem settled_stays (grows : Grows db after) (found : ∃ row, db.reviews.find evaluationId = some row)
    (settled : ¬ Pending evaluationId db) : ¬ Pending evaluationId after := by
  obtain ⟨row,here⟩ := found
  have resolved : row.status = .resolved := by
    cases status : row.status with
    | pending => exact absurd ⟨row,here,status⟩ settled
    | resolved => rfl
  rintro ⟨later,there,status⟩
  rw [grows.resolved _ _ here resolved] at there
  cases Option.some.inj there
  rw [resolved] at status
  cases status

theorem run_grows (path : Runs (replay judgeStore) db log after) : Grows db after :=
  path.invariant (fun grows taken => grows.trans (perform_cases (replay_parts taken)).grows) (.refl db)

theorem run_sound (path : Runs (replay judgeStore) db log after) (sound : Sound db) : Sound after :=
  path.invariant (fun sound taken => (perform_cases (replay_parts taken)).sound sound) sound

theorem run_pending (path : Runs (replay judgeStore) db log after) (pending : Pending evaluationId db) :
    Pending evaluationId after ↔ ∀ entry ∈ log, ¬ Contends evaluationId entry.1 := by
  induction path with
  | stop => exact iff_of_true pending fun entry none_ => absurd none_ List.not_mem_nil
  | @take s t u entry rest taken remaining ih =>
    have done := replay_parts taken
    rw [List.forall_mem_cons]
    by_cases contends : Contends evaluationId entry.1
    · refine iff_of_false ?_ fun both => both.1 contends
      obtain ⟨row,found,_⟩ := pending
      have present := (perform_cases done).grows.stays evaluationId row found
      have settled := contends_settles contends done
      have grown := run_grows remaining
      exact settled_stays grown present settled
    · rw [ih (others_leave contends done pending)]
      exact (and_iff_right contends).symm

end Contending

theorem empty_sound : Sound .empty := ⟨nofun,nofun⟩

theorem recorded_review {result : EnsembleResult} {queueReview : Option Bool} {evaluationId : String} {now : Instant}
    (done : judgeStore.perform db (.record evaluationId result queueReview now) = (after,none))
    (needed : queued result queueReview = true) : ∃ row, after.reviews.find evaluationId = some row := by
  cases perform_cases done with
  | recorded _ _ unneeded =>
    rw [needed] at unneeded
    cases unneeded
  | queued _ _ _ inserted => exact ⟨_,(Table.find_insert inserted evaluationId).trans (if_pos rfl)⟩

theorem evaluate_queues {sample : JudgeSample} {result : EnsembleResult} {queueReview : Option Bool}
    (called : evaluate arithmetic ensemble n sample rubric evaluationId now = .ok (.record evaluationId result queueReview now))
    (serious : result.verdict = .review ∨ sample.riskTier = "high" ∨ sample.riskTier = "critical") :
    queued result queueReview = true := by
  obtain ⟨found,_,made⟩ := bind_ok called
  cases Except.ok.inj made
  simpa [queued,or_assoc] using serious

-- Of the contending calls after a state with the review pending, the first one
-- succeeds. The others raise a KeyError and leave the rows as they are.
theorem contending_calls {db t : Database} {earlier later : List (Call × Option Failure)} {raised : Option Failure}
    (pending : Pending evaluationId db)
    (path : Runs (replay judgeStore) db (earlier ++ (call,raised) :: later) t) (contends : Contends evaluationId call) :
    (raised = none ↔ ∀ entry ∈ earlier, ¬ Contends evaluationId entry.1) ∧
      (raised ≠ none → raised = some (.keyError "pending review not found") ∧
        ∃ middle, Runs (replay judgeStore) db earlier middle ∧ judgeStore.perform middle call = (middle,raised)) := by
  obtain ⟨middle,first,rest⟩ := path.parts
  cases rest with
  | take taken _ =>
    have done := replay_parts taken
    obtain ⟨reviewer,verdict,reason,now,rfl,checked⟩ := contends
    rw [← run_pending first pending,pending_iff]
    by_cases still : (middle.reviews.find evaluationId).any isPending = true
    · obtain ⟨next,succeeds⟩ := (resolve_exact checked middle).1 still
      rw [done] at succeeds
      cases succeeds
      exact ⟨iff_of_true rfl still,fun other => absurd rfl other⟩
    · rw [Bool.not_eq_true] at still
      have fails := (resolve_exact checked middle).2 still
      rw [done] at fails
      cases fails
      refine ⟨iff_of_false nofun fun pending => ?_,fun _ => ⟨rfl,_,first,done⟩⟩
      rw [still] at pending
      cases pending

theorem reviews_settle_once {events : List (Event Call)} {shared : Shared Database Call Failure}
    (path : Runs (advance judgeStore) (start .empty) events shared) :
    Runs (replay judgeStore) .empty shared.log shared.committed ∧
    ∀ before after db, shared.log = before ++ after → Runs (replay judgeStore) .empty before db →
      Runs (replay judgeStore) db after shared.committed ∧
      (∀ one ∈ db.reviews.rows, ∀ other ∈ db.reviews.rows, one.evaluationId = other.evaluationId → one = other) ∧
      (∀ id row, db.reviews.find id = some row → row.status = .resolved →
        shared.committed.reviews.find id = some row) ∧
      (∀ row ∈ db.reviews.rows, row.status = .resolved →
        (row.humanVerdict = some .pass ∨ row.humanVerdict = some .fail) ∧
        (∃ reviewer, row.reviewer = some reviewer ∧ blank reviewer = false) ∧
        (∃ reason, row.reason = some reason ∧ blank reason = false) ∧ ∃ now, row.resolvedAt = some now) ∧
      (∀ id, Pending id db → ∀ earlier call raised later, after = earlier ++ (call,raised) :: later → Contends id call →
        (raised = none ↔ ∀ entry ∈ earlier, ¬ Contends id entry.1) ∧
        (raised ≠ none → raised = some (.keyError "pending review not found") ∧
          ∃ middle, Runs (replay judgeStore) db earlier middle ∧ judgeStore.perform middle call = (middle,raised))) ∧
      ∀ arithmetic ensemble n sample rubric id now result queueReview,
        evaluate arithmetic ensemble n sample rubric id now = .ok (.record id result queueReview now) →
        (Call.record id result queueReview now,none) ∈ before →
        result.verdict = .review ∨ sample.riskTier = "high" ∨ sample.riskTier = "critical" →
        ∃ row, db.reviews.find id = some row := by
  have serial := interleaved_serial path
  refine ⟨serial,fun before after db split first => ?_⟩
  obtain ⟨middle,left,right⟩ := Runs.parts (split ▸ serial)
  cases left.unique first
  have sound := run_sound first empty_sound
  refine ⟨right,fun one inside other there same => ?_,fun id row => (run_grows right).resolved id row,
    fun row inside => (sound.reviewed _ row (Table.find_of_mem inside)).closed,?_,?_⟩
  · exact List.inj_on_of_nodup_map db.reviews.unique inside there same
  · rintro id pending earlier call raised later rfl contends
    exact contending_calls pending right contends
  · intro arithmetic ensemble n sample rubric id now result queueReview called logged serious
    obtain ⟨earlier,later,rfl⟩ := List.append_of_mem logged
    obtain ⟨previous,_,rest⟩ := first.parts
    cases rest with
    | take taken remaining =>
      obtain ⟨row,there⟩ := recorded_review (replay_parts taken) (evaluate_queues called serious)
      exact (run_grows remaining).stays id row there

theorem full_confidence : JudgeEnsemble.probability 1 = true := by decide +kernel

def unsureResult : EnsembleResult where
  sampleId := "case-1"
  verdict := .review
  scores := Table.empty
  weightedScore := 0
  confidence := 0
  maximumDisagreement := 0
  judgeResults := [JudgeGate.opinion 1 full_confidence]
  reason := "ensemble confidence below rubric policy"

-- Two reviewers race for one review; the second one waits for the lock.
def contested : List (Event Call) :=
  [.call 0 (.record "e-1" unsureResult none 0),.acquire 0,.statement,.statement,.commit,
   .call 1 (.resolve "e-1" "ana" .pass "Supported." 1),.call 2 (.resolve "e-1" "ben" .fail "Unsupported." 2),
   .acquire 2,.statement,.commit,.acquire 1,.statement]

theorem reviews_settle_once_contested : ∃ shared, Runs (advance judgeStore) (start .empty) contested shared ∧
    shared.log.map Prod.snd = [none,none,some (.keyError "pending review not found")] ∧
    ∀ one ∈ shared.committed.reviews.rows, ∀ other ∈ shared.committed.reviews.rows,
      one.evaluationId = other.evaluationId → one = other := by
  have ends : (consume (advance judgeStore) (start .empty) contested).map (fun shared => shared.log.map Prod.snd) =
      some [none,none,some (.keyError "pending review not found")] := by decide +kernel
  obtain ⟨shared,reached,answers⟩ := Option.map_eq_some_iff.mp ends
  have path := consume_exact.mp reached
  obtain ⟨serial,every⟩ := reviews_settle_once path
  exact ⟨shared,path,answers,(every shared.log [] shared.committed (List.append_nil _).symm serial).2.1⟩

end OpenModelOps.JudgeStore
