import OpenModelOps.JsonText
import OpenModelOps.JudgeEnsemble
import OpenModelOps.KeyedTable
import OpenModelOps.PythonLines
import Mathlib.Data.List.Dedup

namespace OpenModelOps.JudgeAnnotation
open JsonText KeyedTable PythonLines
open JudgeEnsemble (Verdict)

instance (c : Nat) : Decidable (Scalar c) := inferInstanceAs (Decidable (_ ∨ _))

-- A row of annotations, with its CHECK. Its texts were encoded.
structure Annotation where
  sampleId : Text
  reviewer : Text
  verdict : Verdict
  rationale : Text
  createdAt : String
  resolved : verdict ≠ .review
  encoded : ∀ c ∈ sampleId ++ (reviewer ++ rationale), Scalar c

def Annotation.key (a : Annotation) : Text × Text := (a.sampleId,a.reviewer)

abbrev AnnotationLedger := Table Annotation.key

structure Call where
  sampleId : Text
  reviewer : Text
  verdict : Verdict
  rationale : Text
  currentTimestamp : String

inductive LabelError where
  | valueError (message : String)
  | unicodeEncodeError
  | integrityError
  deriving DecidableEq

def strip (cs : Text) : Text :=
  ((cs.dropWhile PythonText.spaces.contains).reverse.dropWhile PythonText.spaces.contains).reverse

-- The driver encodes the arguments, and the primary key admits one label of a
-- reviewer for a sample.
def label (ledger : AnnotationLedger) (call : Call) : Except LabelError AnnotationLedger :=
  if review : call.verdict = .review then .error (.valueError "reviewers must resolve labels to pass or fail")
  else if blankLine call.sampleId ∨ blankLine call.reviewer ∨ (strip call.rationale).length < 10 then
    .error (.valueError "sample ID, reviewer and a meaningful rationale are required")
  else if scalar : ∀ c ∈ call.sampleId ++ (call.reviewer ++ call.rationale), Scalar c then
    match ledger.insert
      ⟨call.sampleId,call.reviewer,call.verdict,call.rationale,call.currentTimestamp,review,scalar⟩ with
    | some next => .ok next
    | none => .error .integrityError
  else .error .unicodeEncodeError

def attempt (ledger : AnnotationLedger) (call : Call) : AnnotationLedger :=
  match label ledger call with
  | .ok next => next
  | .error _ => ledger

def labelled (ledger : AnnotationLedger) (calls : List Call) : AnnotationLedger := calls.foldl attempt ledger

inductive Status where
  | consensus
  | conflict
  | pending
  deriving DecidableEq

structure SampleStatus where
  sampleId : Text
  labels : List Annotation
  status : Status

def rowsOf (ledger : AnnotationLedger) (sampleId : Text) : List Annotation :=
  (ledger.rows.filter fun a => decide (a.sampleId = sampleId)).insertionSort
    (fun a b => textLe a.reviewer b.reviewer = true)

def status (ledger : AnnotationLedger) (sampleId : Text) : SampleStatus :=
  let labels := rowsOf ledger sampleId
  let verdicts := (labels.map Annotation.verdict).dedup
  { sampleId := sampleId
    labels := labels
    status := if 2 ≤ labels.length ∧ verdicts.length = 1 then .consensus
      else if 1 < verdicts.length then .conflict else .pending }

def Agreed (ledger : AnnotationLedger) (sampleId : Text) : Prop :=
  (∃ a ∈ ledger.rows, ∃ b ∈ ledger.rows, a.sampleId = sampleId ∧ b.sampleId = sampleId ∧ a.reviewer ≠ b.reviewer) ∧
    ∀ a ∈ ledger.rows, ∀ b ∈ ledger.rows, a.sampleId = sampleId → b.sampleId = sampleId → a.verdict = b.verdict

instance (ledger : AnnotationLedger) (sampleId : Text) : Decidable (Agreed ledger sampleId) :=
  inferInstanceAs (Decidable (_ ∧ _))

theorem mem_rowsOf {ledger : AnnotationLedger} {sampleId : Text} {a : Annotation} :
    a ∈ rowsOf ledger sampleId ↔ a ∈ ledger.rows ∧ a.sampleId = sampleId := by
  rw [rowsOf,(List.perm_insertionSort _ _).mem_iff,List.mem_filter,decide_eq_true_eq]

theorem rowsOf_unique (ledger : AnnotationLedger) (sampleId : Text) : ((rowsOf ledger sampleId).map Annotation.key).Nodup := by
  have sorted := List.perm_insertionSort (fun (a b : Annotation) => textLe a.reviewer b.reviewer = true)
    (ledger.rows.filter fun a => decide (a.sampleId = sampleId))
  exact (sorted.map Annotation.key).nodup_iff.mpr (ledger.unique.sublist (List.filter_sublist.map Annotation.key))

theorem dedup_single {vs : List Verdict} : vs.dedup.length ≤ 1 ↔ ∀ v ∈ vs, ∀ w ∈ vs, v = w := by
  constructor
  · intro short v hereV w hereW
    have inV := List.mem_dedup.mpr hereV
    have inW := List.mem_dedup.mpr hereW
    match shape : vs.dedup with
    | [] => rw [shape] at inV; cases inV
    | [only] =>
      rw [shape] at inV inW
      rw [List.mem_singleton.mp inV,List.mem_singleton.mp inW]
    | _ :: _ :: _ => rw [shape] at short; simp at short
  · intro same
    have unique := List.nodup_dedup vs
    match shape : vs.dedup with
    | [] => simp
    | [_] => simp
    | v :: w :: rest =>
      have inV : v ∈ vs := List.mem_dedup.mp (by simp [shape])
      have inW : w ∈ vs := List.mem_dedup.mp (by simp [shape])
      rw [shape] at unique
      exact absurd (List.mem_cons.mpr (.inl (same v inV w inW))) (List.nodup_cons.mp unique).1

theorem agreeing {ledger : AnnotationLedger} {sampleId : Text} :
    ((rowsOf ledger sampleId).map Annotation.verdict).dedup.length ≤ 1 ↔
      ∀ a ∈ ledger.rows, ∀ b ∈ ledger.rows, a.sampleId = sampleId → b.sampleId = sampleId → a.verdict = b.verdict := by
  rw [dedup_single]
  constructor
  · intro same a hereA b hereB ofA ofB
    exact same _ (List.mem_map_of_mem (mem_rowsOf.mpr ⟨hereA,ofA⟩)) _ (List.mem_map_of_mem (mem_rowsOf.mpr ⟨hereB,ofB⟩))
  · intro same v hereV w hereW
    obtain ⟨a,inA,rfl⟩ := List.mem_map.mp hereV
    obtain ⟨b,inB,rfl⟩ := List.mem_map.mp hereW
    obtain ⟨hereA,ofA⟩ := mem_rowsOf.mp inA
    obtain ⟨hereB,ofB⟩ := mem_rowsOf.mp inB
    exact same a hereA b hereB ofA ofB

theorem two_reviewers {ledger : AnnotationLedger} {sampleId : Text} : 2 ≤ (rowsOf ledger sampleId).length ↔
    ∃ a ∈ ledger.rows, ∃ b ∈ ledger.rows, a.sampleId = sampleId ∧ b.sampleId = sampleId ∧ a.reviewer ≠ b.reviewer := by
  constructor
  · intro enough
    have unique := rowsOf_unique ledger sampleId
    match shape : rowsOf ledger sampleId with
    | [] => rw [shape] at enough; simp at enough
    | [_] => rw [shape] at enough; simp at enough
    | a :: b :: rest =>
      obtain ⟨hereA,ofA⟩ := mem_rowsOf.mp (show a ∈ rowsOf ledger sampleId by simp [shape])
      obtain ⟨hereB,ofB⟩ := mem_rowsOf.mp (show b ∈ rowsOf ledger sampleId by simp [shape])
      refine ⟨a,hereA,b,hereB,ofA,ofB,fun same => ?_⟩
      rw [shape,List.map_cons,List.map_cons] at unique
      have keys : a.key = b.key := Prod.ext (ofA.trans ofB.symm) same
      exact (List.nodup_cons.mp unique).1 (by simp [keys])
  · rintro ⟨a,hereA,b,hereB,ofA,ofB,differ⟩
    have inA := mem_rowsOf.mpr ⟨hereA,ofA⟩
    have inB := mem_rowsOf.mpr ⟨hereB,ofB⟩
    match shape : rowsOf ledger sampleId with
    | [] => rw [shape] at inA; cases inA
    | [only] =>
      rw [shape] at inA inB
      rw [List.mem_singleton.mp inA,List.mem_singleton.mp inB] at differ
      exact absurd rfl differ
    | _ :: _ :: _ => simp

theorem verdicts_nonempty {ledger : AnnotationLedger} {sampleId : Text} (enough : 2 ≤ (rowsOf ledger sampleId).length) :
    ((rowsOf ledger sampleId).map Annotation.verdict).dedup.length ≠ 0 := by
  obtain ⟨a,here⟩ := List.exists_mem_of_length_pos (Nat.lt_of_lt_of_le (by decide) enough)
  have verdict := List.mem_dedup.mpr (List.mem_map_of_mem (f := Annotation.verdict) here)
  exact Nat.ne_of_gt (List.length_pos_of_mem verdict)

theorem consensus_iff {ledger : AnnotationLedger} {sampleId : Text} :
    (status ledger sampleId).status = .consensus ↔ Agreed ledger sampleId := by
  have decided : (status ledger sampleId).status = .consensus ↔ 2 ≤ (rowsOf ledger sampleId).length ∧
      ((rowsOf ledger sampleId).map Annotation.verdict).dedup.length = 1 := by
    simp only [status]
    split
    · rename_i consensus
      exact ⟨fun _ => consensus,fun _ => rfl⟩
    · rename_i other
      refine ⟨fun same => ?_,fun consensus => absurd consensus other⟩
      split at same <;> cases same
  rw [decided,Agreed,← two_reviewers,← agreeing]
  constructor
  · rintro ⟨enough,one⟩
    exact ⟨enough,Nat.le_of_eq one⟩
  · rintro ⟨enough,short⟩
    have some := verdicts_nonempty enough
    exact ⟨enough,by omega⟩

theorem conflict_iff {ledger : AnnotationLedger} {sampleId : Text} : (status ledger sampleId).status = .conflict ↔
    ∃ a ∈ ledger.rows, ∃ b ∈ ledger.rows, a.sampleId = sampleId ∧ b.sampleId = sampleId ∧ a.verdict ≠ b.verdict := by
  have decided : (status ledger sampleId).status = .conflict ↔
      ¬ ((rowsOf ledger sampleId).map Annotation.verdict).dedup.length ≤ 1 := by
    simp only [status]
    split
    · rename_i consensus
      exact ⟨nofun,fun more => absurd (Nat.le_of_eq consensus.2) more⟩
    · split
      · rename_i several
        exact ⟨fun _ => Nat.not_le.mpr several,fun _ => rfl⟩
      · rename_i few
        exact ⟨nofun,fun more => absurd (Nat.not_le.mp more) few⟩
  rw [decided,agreeing]
  push Not
  rfl

theorem attempt_grows (ledger : AnnotationLedger) (call : Call) : ledger.rows <+: (attempt ledger call).rows := by
  unfold attempt
  split
  · rename_i next done
    unfold label at done
    split at done
    · cases done
    split at done
    · cases done
    split at done
    swap
    · cases done
    split at done
    · rename_i found inserted
      cases Except.ok.inj done
      unfold Table.insert at inserted
      split at inserted
      · cases Option.some.inj inserted
        exact List.prefix_append _ _
      · cases inserted
    · cases done
  · exact List.prefix_rfl

theorem labelled_grows (ledger : AnnotationLedger) (calls : List Call) : ledger.rows <+: (labelled ledger calls).rows := by
  induction calls generalizing ledger with
  | nil => exact List.prefix_rfl
  | cons call rest ih => exact (attempt_grows ledger call).trans (ih (attempt ledger call))

theorem conflict_stays {ledger : AnnotationLedger} {sampleId : Text} (conflict : (status ledger sampleId).status = .conflict)
    (calls : List Call) : (status (labelled ledger calls) sampleId).status = .conflict := by
  obtain ⟨a,hereA,b,hereB,rest⟩ := conflict_iff.mp conflict
  have kept := (labelled_grows ledger calls).subset
  exact conflict_iff.mpr ⟨a,kept hereA,b,kept hereB,rest⟩

end OpenModelOps.JudgeAnnotation
