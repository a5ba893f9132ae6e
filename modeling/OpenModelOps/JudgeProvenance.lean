import OpenModelOps.JudgeDatasets

namespace OpenModelOps.JudgeProvenance
open JsonText PythonLines JudgeDatasets Raising
open JudgeEnsemble (Verdict)

-- What the line says about its label, where it says something, is that a human
-- gave it and that it is verified.
structure Verified (payload : List (Text × Json Number)) : Prop where
  source : ∀ v, field payload (text "label_source") = some v → v = .str (text "human")
  status : ∀ v, field payload (text "label_status") = some v → v = .str (text "verified")

-- What the loader has read of a line. The verdict is the one under
-- human_verdict, and without that key the one under expected_verdict.
structure FromPayload (payload : List (Text × Json Number)) (c : GoldenCase) : Prop where
  sample : (field payload (text "sample")).bind modelValidate = some c.sample
  verdict : verdictOf (verdictField payload) = some c.humanVerdict
  resolved : c.humanVerdict = .pass ∨ c.humanVerdict = .fail
  verified : Verified payload
  source : c.labelSource = text "human"
  status : c.labelStatus = text "verified"

def FromLine (line : Text) (c : GoldenCase) : Prop :=
  ∃ payload, loadsText line = some (.obj payload) ∧ FromPayload payload c

theorem labelledAs_iff {expected : Text} {found : Option (Json Number)} :
    labelledAs expected found = true ↔ ∀ v, found = some v → v = .str expected := by
  cases found with
  | none => simp [labelledAs]
  | some v => cases v <;> simp [labelledAs]

theorem verified_iff {payload : List (Text × Json Number)} :
    (labelledAs (text "human") (field payload (text "label_source")) &&
      labelledAs (text "verified") (field payload (text "label_status"))) = true ↔ Verified payload := by
  rw [Bool.and_eq_true,labelledAs_iff,labelledAs_iff]
  constructor
  · intro both
    exact ⟨both.1,both.2⟩
  · intro verified
    exact ⟨verified.source,verified.status⟩

theorem resolved_iff {verdict : Verdict} : verdict ≠ .review ↔ verdict = .pass ∨ verdict = .fail := by
  cases verdict <;> simp

theorem parsedCase_ok {number : Nat} {line : Text} {payload : List (Text × Json Number)} {sample : JudgeSample}
    {verdict : Verdict} : parsedCase number line = .ok (payload,sample,verdict) ↔
      loadsText line = some (.obj payload) ∧ (field payload (text "sample")).bind modelValidate = some sample ∧
        verdictOf (verdictField payload) = some verdict := by
  unfold parsedCase
  constructor
  · intro parsed
    split at parsed
    · rename_i found loaded
      split at parsed
      · rename_i validated chosen
        cases Except.ok.inj parsed
        exact ⟨loaded,validated,chosen⟩
      · cases parsed
    · cases parsed
    · cases parsed
  · intro parts
    obtain ⟨loaded,validated,chosen⟩ := parts
    simp only [loaded,validated,chosen]

def ids (cases : List GoldenCase) : List Text := cases.map fun c => c.sample.sampleId

structure Continues (identifiers : List Text) (ls : List Text) (cases : List GoldenCase) : Prop where
  each : List.Forall₂ FromLine (ls.filter fun line => !blankLine line) cases
  distinct : (ids cases).Nodup
  fresh : ∀ identifier ∈ ids cases, identifier ∉ identifiers

theorem continues_cons {identifiers : List Text} {line : Text} {rest : List Text} {cases : List GoldenCase}
    (filled : blankLine line = false) : Continues identifiers (line :: rest) cases ↔
      ∃ c later, cases = c :: later ∧ FromLine line c ∧ c.sample.sampleId ∉ identifiers ∧
        Continues (c.sample.sampleId :: identifiers) rest later := by
  have kept : (line :: rest).filter (fun line => !blankLine line) = line :: rest.filter fun line => !blankLine line :=
    List.filter_cons_of_pos (by simp [filled])
  constructor
  · intro continues
    have each := continues.each
    rw [kept] at each
    obtain ⟨c,later,here,after,rfl⟩ := List.forall₂_cons_left_iff.mp each
    obtain ⟨apart,distinct⟩ := List.nodup_cons.mp continues.distinct
    refine ⟨c,later,rfl,here,continues.fresh _ List.mem_cons_self,after,distinct,fun identifier member used => ?_⟩
    rcases List.mem_cons.mp used with rfl | old
    · exact apart member
    · exact continues.fresh identifier (List.mem_cons_of_mem _ member) old
  · intro parts
    obtain ⟨c,later,rfl,here,unused,continues⟩ := parts
    refine ⟨by rw [kept]; exact .cons here continues.each,?_,?_⟩
    · refine List.nodup_cons.mpr ⟨fun again => ?_,continues.distinct⟩
      exact continues.fresh _ again List.mem_cons_self
    · intro identifier member
      rcases List.mem_cons.mp member with rfl | later
      · exact unused
      · exact fun old => continues.fresh identifier later (List.mem_cons_of_mem _ old)

theorem loadCases_filled {number : Nat} {identifiers : List Text} {line : Text} {rest : List Text}
    {cases : List GoldenCase} (filled : blankLine line = false) :
    loadCases number identifiers (line :: rest) = .ok cases ↔
      ∃ c later, cases = c :: later ∧ FromLine line c ∧ c.sample.sampleId ∉ identifiers ∧
        loadCases (number + 1) (c.sample.sampleId :: identifiers) rest = .ok later := by
  rw [loadCases,filled]
  simp only [Bool.false_eq_true,if_false]
  constructor
  · intro loaded
    split at loaded
    · cases loaded
    rename_i payload sample verdict parsed
    obtain ⟨read,validated,chosen⟩ := parsedCase_ok.mp parsed
    split at loaded
    · cases loaded
    rename_i resolved
    split at loaded
    · cases loaded
    rename_i unused
    split at loaded
    · cases loaded
    rename_i labelled
    cases after : loadCases (number + 1) (sample.sampleId :: identifiers) rest with
    | error failure => rw [after] at loaded; cases loaded
    | ok later =>
      rw [after] at loaded
      cases Except.ok.inj loaded
      have unseen : sample.sampleId ∉ identifiers := by
        intro used
        exact unused (List.any_eq_true.mpr ⟨_,used,decide_eq_true rfl⟩)
      refine ⟨⟨sample,verdict,text "human",text "verified"⟩,later,rfl,⟨payload,read,?_⟩,unseen,after⟩
      have verified := verified_iff.mp (Bool.not_eq_false _ ▸ labelled)
      exact ⟨validated,chosen,resolved_iff.mp resolved,verified,rfl,rfl⟩
  · intro parts
    obtain ⟨c,later,rfl,⟨payload,read,of⟩,unused,after⟩ := parts
    have unseen : (identifiers.any fun identifier => decide (identifier = c.sample.sampleId)) = false := by
      refine List.any_eq_false.mpr fun identifier used same => ?_
      rw [of_decide_eq_true same] at used
      exact unused used
    rw [parsedCase_ok.mpr ⟨read,of.sample,of.verdict⟩]
    simp only [resolved_iff.mpr of.resolved,unseen,verified_iff.mpr of.verified,after,Bool.false_eq_true,if_false,
      Bool.true_eq_false]
    rw [← of.source,← of.status]
    rfl

theorem loadCases_ok {number : Nat} {identifiers ls : List Text} {cases : List GoldenCase} :
    loadCases number identifiers ls = .ok cases ↔ Continues identifiers ls cases := by
  induction ls generalizing number identifiers cases with
  | nil =>
    constructor
    · intro loaded
      cases Except.ok.inj loaded
      exact ⟨.nil,.nil,by simp [ids]⟩
    · intro continues
      cases continues.each
      rfl
  | cons line rest ih =>
    cases blank : blankLine line with
    | true =>
      have skipped : (line :: rest).filter (fun line => !blankLine line) = rest.filter fun line => !blankLine line :=
        List.filter_cons_of_neg (by simp [blank])
      rw [loadCases,if_pos blank,ih]
      constructor
      · intro continues
        exact ⟨by rw [skipped]; exact continues.each,continues.distinct,continues.fresh⟩
      · intro continues
        exact ⟨by rw [← skipped]; exact continues.each,continues.distinct,continues.fresh⟩
    | false =>
      rw [loadCases_filled blank,continues_cons blank]
      simp only [ih]

-- A file is accepted exactly when each of its filled lines gives a case, the
-- sample ids are pairwise different and there are two cases or more.
theorem accepted_cases (file : Text) (cases : List GoldenCase) : loadGoldenDataset file = .ok cases ↔
    List.Forall₂ FromLine (candidateLines file) cases ∧ (ids cases).Nodup ∧ 2 ≤ cases.length := by
  have start : loadCases 1 [] (lines file) = .ok cases ↔
      List.Forall₂ FromLine (candidateLines file) cases ∧ (ids cases).Nodup := by
    rw [loadCases_ok]
    exact ⟨fun continues => ⟨continues.each,continues.distinct⟩,fun both => ⟨both.1,both.2,by simp⟩⟩
  rw [← and_assoc,← start]
  unfold loadGoldenDataset
  cases loadCases 1 [] (lines file) with
  | error failure => simp
  | ok found =>
    by_cases few : found.length < 2
    · simp only [if_pos few]
      constructor
      · intro loaded
        cases loaded
      · intro both
        cases Except.ok.inj both.1
        omega
    · simp only [if_neg few,Except.ok.injEq]
      constructor
      · intro same
        cases same
        exact ⟨rfl,Nat.not_lt.mp few⟩
      · intro both
        exact both.1

def Carries (line : Text) : Prop :=
  ∃ payload, loadsText line = some (.obj payload) ∧
    field payload (text "label_source") = some (.str (text "human")) ∧
    field payload (text "label_status") = some (.str (text "verified")) ∧
    (field payload (text "human_verdict")).isSome = true

def bareLine (sampleId verdict : String) : Text :=
  text "\x7b\"sample\": \x7b" ++ text "\"sample_id\": \"" ++ text sampleId ++ text "\", \"question\": " ++
    text "\"Settled?\", " ++ text "\"candidate_" ++ text "answer\": \"It is.\"\x7d, " ++ text "\"expected_" ++
    text "verdict\": \"" ++ text verdict ++ text "\"\x7d\n"

def bareFile : Text := bareLine "bank-1" "pass" ++ bareLine "bank-2" "fail"

def keyed (key : Text) : Option (Json Number) → Bool
  | some (.obj payload) => (field payload key).isSome
  | _ => false

theorem carries_keyed {line : Text} (carries : Carries line) : keyed (text "label_source") (loadsText line) = true := by
  obtain ⟨payload,loaded,source,_⟩ := carries
  rw [loaded,keyed,source]
  rfl

theorem bare_accepted : ∃ cases, loadGoldenDataset bareFile = .ok cases ∧
    cases.map GoldenCase.humanVerdict = [.pass,.fail] ∧ ∀ line ∈ candidateLines bareFile, ¬ Carries line := by
  have loads : (loadGoldenDataset bareFile).toOption.map (fun cases => cases.map GoldenCase.humanVerdict) =
      some [.pass,.fail] := by decide +kernel
  obtain ⟨cases,made,verdicts⟩ := Option.map_eq_some_iff.mp loads
  have unlabelled : ∀ line ∈ candidateLines bareFile, keyed (text "label_source") (loadsText line) = false := by
    decide +kernel
  refine ⟨cases,toOption_ok.mp made,verdicts,fun line member carries => ?_⟩
  have none := unlabelled line member
  rw [carries_keyed carries] at none
  cases none

end OpenModelOps.JudgeProvenance
