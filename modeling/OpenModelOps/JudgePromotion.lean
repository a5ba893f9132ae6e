import OpenModelOps.JsonDecimal
import OpenModelOps.JsonDumps
import OpenModelOps.JsonReading
import OpenModelOps.JudgeDatasets
import OpenModelOps.Raising

namespace OpenModelOps.JudgePromotion
open JsonText KeyedTable PythonLines JudgeAnnotation JudgeDatasets Raising
open JudgeEnsemble (Verdict)
open AriaIntelligence (dumps reprinted reprinted_object loads_dumps dumps_printable)
variable {driver : Driver} {reread : Number → Number} {ledger : AnnotationLedger}

-- The reader of a sample sees texts and lists of texts only, so it does not
-- notice that the document was printed and read again.

theorem strOf_reprinted (reread : Number → Number) (v : Json Number) : strOf (reprinted reread v) = strOf v := by
  cases v <;> rfl

theorem strOf_map (reread : Number → Number) (found : Option (Json Number)) :
    (found.map (reprinted reread)).bind strOf = found.bind strOf := by
  cases found with
  | none => rfl
  | some v => exact strOf_reprinted reread v

theorem required_map (reread : Number → Number) (low high : Nat) (found : Option (Json Number)) :
    required low high (found.map (reprinted reread)) = required low high found := by
  rw [required,strOf_map,required]

theorem reference_map (reread : Number → Number) (found : Option (Json Number)) :
    reference (found.map (reprinted reread)) = reference found := by
  cases found with
  | none => rfl
  | some v => cases v <;> rfl

theorem tier_map (reread : Number → Number) (found : Option (Json Number)) :
    tier (found.map (reprinted reread)) = tier found := by
  cases found with
  | none => rfl
  | some v => simp only [Option.map_some,tier,strOf_reprinted]

theorem reprinted_items (reread : Number → Number) (items : List (Json Number)) :
    reprinted reread (.arr items) = .arr (items.map (reprinted reread)) := by
  have mapped : ∀ items : List (Json Number),
      convertItems reread (sortItems (AriaIntelligence.dictionaryItems items)) = items.map (reprinted reread) := by
    intro items
    induction items with
    | nil => rfl
    | cons item rest ih => simp only [AriaIntelligence.dictionaryItems,sortItems,convertItems,ih,List.map_cons,reprinted]
  exact congrArg Json.arr (mapped items)

theorem strList_map (reread : Number → Number) (found : Option (Json Number)) :
    strList (found.map (reprinted reread)) = strList found := by
  have strings : ∀ items : List (Json Number), (items.map (reprinted reread)).mapM strOf = items.mapM strOf := by
    intro items
    induction items with
    | nil => rfl
    | cons item rest ih => rw [List.map_cons,List.mapM_cons,List.mapM_cons,ih,strOf_reprinted]
  cases found with
  | none => rfl
  | some v =>
    cases v with
    | arr items => rw [Option.map_some,reprinted_items,strList,strList,List.length_map,strings]
    | _ => rfl

theorem modelValidate_reprinted (reread : Number → Number) (v : Json Number) :
    modelValidate (reprinted reread v) = modelValidate v := by
  cases v with
  | obj fields =>
    obtain ⟨again,shape,found⟩ := reprinted_object reread fields
    rw [shape]
    simp only [modelValidate,found,required_map,reference_map,strList_map,tier_map]
  | _ => rfl

structure Candidate where
  payload : List (Text × Json Number)
  sample : JudgeSample

def candidate (line : Text) : Option Candidate :=
  match loadsText line with
  | some (.obj payload) => ((field payload (text "sample")).bind modelValidate).map fun sample => ⟨payload,sample⟩
  | _ => none

-- Every non-blank line is a JSON object with a valid sample, and no two samples
-- share their id.
structure CandidateFile (file : Text) (candidates : List Candidate) : Prop where
  decoded : Scalars file
  valid : (candidateLines file).mapM candidate = some candidates
  distinct : (candidates.map fun c => c.sample.sampleId).Nodup

theorem modelValidate_parts {v : Json Number} (validated : modelValidate v = some sample) :
    ∃ fields, v = .obj fields ∧ field fields (text "sample_id") = some (.str sample.sampleId) ∧ Scalars sample.sampleId := by
  cases v with
  | obj fields =>
    simp only [modelValidate,Option.bind_eq_bind,Option.bind_eq_some_iff] at validated
    obtain ⟨sampleId,found,_,_,_,_,_,_,_,_,_,_,_,_,same⟩ := validated
    cases Option.some.inj same
    obtain ⟨t,str,bounded⟩ := Option.bind_eq_some_iff.mp found
    obtain ⟨v,present,string⟩ := Option.bind_eq_some_iff.mp str
    unfold constrained at bounded
    split at bounded
    · rename_i within
      cases Option.some.inj bounded
      cases v with
      | str u =>
        cases Option.some.inj string
        exact ⟨fields,rfl,present,within.2.2⟩
      | _ => cases string
    · cases bounded
  | _ => cases validated

theorem candidate_parts (read : candidate line = some c) : loadsText line = some (.obj c.payload) ∧
    ∃ fields, field c.payload (text "sample") = some (.obj fields) ∧ modelValidate (.obj fields) = some c.sample ∧
      field fields (text "sample_id") = some (.str c.sample.sampleId) ∧ Scalars c.sample.sampleId := by
  unfold candidate at read
  split at read
  · rename_i payload loaded
    obtain ⟨sample,found,rfl⟩ := Option.map_eq_some_iff.mp read
    obtain ⟨v,present,validated⟩ := Option.bind_eq_some_iff.mp found
    obtain ⟨fields,rfl,named,scalars⟩ := modelValidate_parts validated
    exact ⟨loaded,fields,present,validated,named,scalars⟩
  · cases read

def outcome (ledger : AnnotationLedger) (c : Candidate) : Outcome :=
  let state := status ledger c.sample.sampleId
  match state.status with
  | .consensus => .promoted (verified c.payload state.labels)
  | .conflict => .conflict
  | .pending => .pending

def promotable (ledger : AnnotationLedger) (candidates : List Candidate) : List Candidate :=
  candidates.filter fun c => decide (Agreed ledger c.sample.sampleId)

def rewritten (ledger : AnnotationLedger) (c : Candidate) : List (Text × Json Number) :=
  verified c.payload (rowsOf ledger c.sample.sampleId)

theorem exportLine_candidate (bound : ∀ t, Scalars t → driver.bind (.str t) = some t) (read : candidate line = some c) :
    exportLine driver ledger line = some (outcome ledger c) := by
  obtain ⟨loaded,fields,present,_,named,scalars⟩ := candidate_parts read
  have chosen : (field fields (text "sample_id")).bind driver.bind = some c.sample.sampleId := by
    rw [named]
    exact bound _ scalars
  unfold exportLine
  simp only [loaded,present,chosen]
  rfl

theorem exported_outcomes (bound : ∀ t, Scalars t → driver.bind (.str t) = some t) {ls : List Text}
    {candidates : List Candidate} (read : List.Forall₂ (fun line c => candidate line = some c) ls candidates) :
    ls.mapM (exportLine driver ledger) = some (candidates.map (outcome ledger)) := by
  induction read with
  | nil => rfl
  | cons here _ ih => rw [List.mapM_cons,exportLine_candidate bound here,ih]; rfl

theorem promoted_payloads (ledger : AnnotationLedger) (candidates : List Candidate) :
    (candidates.map (outcome ledger)).filterMap Outcome.payload = (promotable ledger candidates).map (rewritten ledger) := by
  induction candidates with
  | nil => rfl
  | cons c rest ih =>
    have agreed := @consensus_iff ledger c.sample.sampleId
    rw [promotable] at ih ⊢
    by_cases promoted : Agreed ledger c.sample.sampleId
    · have here : outcome ledger c = .promoted (rewritten ledger c) := by
        simp only [outcome,agreed.mpr promoted]
        rfl
      rw [List.map_cons,here,List.filterMap_cons_some (by rfl),List.filter_cons_of_pos (by simpa using promoted),ih]
      rfl
    · have here : (outcome ledger c).payload = none := by
        unfold outcome
        cases found : (status ledger c.sample.sampleId).status with
        | consensus => exact absurd (agreed.mp found) promoted
        | _ => simp only [found]; rfl
      rw [List.map_cons,List.filterMap_cons_none here,List.filter_cons_of_neg (by simpa using promoted),ih]

theorem outcomes_counted (outcomes : List Outcome) : (outcomes.filterMap Outcome.payload).length +
    outcomes.countP Outcome.isPending + outcomes.countP Outcome.isConflict = outcomes.length := by
  induction outcomes with
  | nil => rfl
  | cons here rest ih =>
    cases here <;> simp only [List.filterMap_cons,Outcome.payload,List.countP_cons,Outcome.isPending,Outcome.isConflict,
      List.length_cons,if_true,Bool.false_eq_true,if_false] <;> omega

theorem agreed_verdict (agreed : Agreed ledger sampleId) : ∃ verdict, verdict ≠ .review ∧
    humanVerdict (rowsOf ledger sampleId) = text (value verdict) ∧
    ∀ a ∈ ledger.rows, a.sampleId = sampleId → a.verdict = verdict := by
  have enough := two_reviewers.mpr agreed.1
  cases shape : rowsOf ledger sampleId with
  | nil => rw [shape] at enough; simp at enough
  | cons first rest =>
    obtain ⟨here,of⟩ := mem_rowsOf.mp (show first ∈ rowsOf ledger sampleId by simp [shape])
    exact ⟨first.verdict,first.resolved,rfl,fun a member named => agreed.2 a member first here named of⟩

def rewrittenKeys : List Text :=
  [text "expected_verdict",text "human_verdict",text "label_source",text "label_status",text "reviewers"]

theorem field_rewritten (ledger : AnnotationLedger) (c : Candidate) :
    field (rewritten ledger c) (text "expected_verdict") = none ∧
    field (rewritten ledger c) (text "human_verdict") = some (.str (humanVerdict (rowsOf ledger c.sample.sampleId))) ∧
    field (rewritten ledger c) (text "label_source") = some (.str (text "human")) ∧
    field (rewritten ledger c) (text "label_status") = some (.str (text "verified")) ∧
    ∀ key ∉ rewrittenKeys, field (rewritten ledger c) key = field c.payload key := by
  have empty : ∀ key, field ([] : List (Text × Json Number)) key = none := fun _ => rfl
  refine ⟨?_,?_,?_,?_,fun key other => ?_⟩
  · rw [rewritten,verified,field_append,field_filter,if_pos rfl]
    simp [field_cons,empty,text]
  · simp [rewritten,verified,field_append,field_cons,empty,text]
  · simp [rewritten,verified,field_append,field_cons,empty,text]
  · simp [rewritten,verified,field_append,field_cons,empty,text]
  · simp only [rewrittenKeys,List.mem_cons,List.not_mem_nil,or_false,not_or] at other
    obtain ⟨expected,human,source,status,reviewers⟩ := other
    simp only [rewritten,verified,field_append,field_filter,field_cons,empty,if_neg expected,if_neg (Ne.symm human),
      if_neg (Ne.symm source),if_neg (Ne.symm status),if_neg (Ne.symm reviewers),Option.or_none,Option.none_or]

theorem loadsText_parts (loaded : loadsText cs = some v) : loads cs = some v ∧ EachNumber (Short PythonText.maxStrDigits) v := by
  unfold loadsText at loaded
  split at loaded
  · cases loaded
  · rename_i found read
    split at loaded
    · rename_i short
      cases Option.some.inj loaded
      exact ⟨read,(intsWithin_iff _ _).mp short⟩
    · cases loaded

theorem reviewers_whole (labels : List Annotation) :
    WholeItems (labels.map fun a => (.str a.reviewer : Json Number)) := by
  induction labels with
  | nil => trivial
  | cons a rest ih =>
    refine ⟨whole_of_scalars fun c member => a.encoded c ?_,ih⟩
    exact List.mem_append_right _ (List.mem_append_left _ member)

theorem reviewers_plain {P : Number → Prop} (labels : List Annotation) :
    EachItem P (labels.map fun a => .str a.reviewer) := by
  induction labels with
  | nil => trivial
  | cons a rest ih => exact ⟨trivial,ih⟩

theorem rewritten_whole (scalars : Scalars line) (read : candidate line = some c) : WholeFields (rewritten ledger c) ∧
    EachField (Short PythonText.maxStrDigits) (rewritten ledger c) := by
  obtain ⟨loaded,_⟩ := candidate_parts read
  obtain ⟨parsed,short⟩ := loadsText_parts loaded
  have whole := wholeFields_iff.mp (loads_whole scalars parsed)
  have each := eachField_iff.mp short
  have verdict : Whole (humanVerdict (rowsOf ledger c.sample.sampleId)) := by
    cases rowsOf ledger c.sample.sampleId with
    | nil => trivial
    | cons first _ => exact text_whole _
  refine ⟨wholeFields_iff.mpr fun entry member => ?_,eachField_iff.mpr fun entry member => ?_⟩
  · rcases List.mem_append.mp member with old | new
    · exact whole entry (List.mem_of_mem_filter old)
    · simp only [List.mem_cons,List.not_mem_nil,or_false] at new
      rcases new with rfl | rfl | rfl | rfl
      · exact ⟨text_whole _,verdict⟩
      · exact ⟨text_whole _,text_whole _⟩
      · exact ⟨text_whole _,text_whole _⟩
      · exact ⟨text_whole _,reviewers_whole _⟩
  · rcases List.mem_append.mp member with old | new
    · exact each entry (List.mem_of_mem_filter old)
    · simp only [List.mem_cons,List.not_mem_nil,or_false] at new
      rcases new with rfl | rfl | rfl | rfl
      · trivial
      · trivial
      · trivial
      · exact reviewers_plain _

structure Written (reread : Number → Number) (ledger : AnnotationLedger) (line : Text) (c : Candidate) : Prop where
  agreed : Agreed ledger c.sample.sampleId
  content : ∃ fields, loadsText line = some (.obj fields) ∧ field fields (text "expected_verdict") = none ∧
    (∀ a ∈ ledger.rows, a.sampleId = c.sample.sampleId →
      field fields (text "human_verdict") = some (.str (text (value a.verdict)))) ∧
    field fields (text "label_source") = some (.str (text "human")) ∧
    field fields (text "label_status") = some (.str (text "verified")) ∧
    (field fields (text "sample")).bind modelValidate = some c.sample ∧
    ∀ key ∉ rewrittenKeys, field fields key = (field c.payload key).map (reprinted reread)

theorem written_line (reading : Reading driver.numberText reread)
    (kept : ∀ n, Short PythonText.maxStrDigits n → Short PythonText.maxStrDigits (reread n)) (scalars : Scalars line)
    (read : candidate line = some c) (agreed : Agreed ledger c.sample.sampleId) :
    Written reread ledger (dumps driver.numberText (rewritten ledger c)) c := by
  obtain ⟨whole,each⟩ := @rewritten_whole ledger _ _ scalars read
  obtain ⟨_,sample,present,validated,_⟩ := candidate_parts read
  obtain ⟨expected,human,source,status,others⟩ := field_rewritten ledger c
  obtain ⟨verdict,_,named,same⟩ := agreed_verdict agreed
  obtain ⟨fields,loaded,found,numbers⟩ := loads_dumps reading whole
  have short : intsWithin PythonText.maxStrDigits (.obj fields) = true := (intsWithin_iff _ _).mpr (numbers kept each)
  have sampled : field (rewritten ledger c) (text "sample") = some (.obj sample) := by
    rw [others (text "sample") (by decide +kernel),present]
  refine ⟨agreed,fields,by rw [loadsText,loaded]; exact if_pos short,?_,?_,?_,?_,?_,?_⟩
  · rw [found,expected]
    rfl
  · intro a member of
    rw [found,human,named,same a member of]
    rfl
  · rw [found,source]
    rfl
  · rw [found,status]
    rfl
  · rw [found,sampled]
    exact (modelValidate_reprinted reread (.obj sample)).trans validated
  · intro key other
    rw [found,others key other]

theorem dumps_readable (reading : Reading driver.numberText reread) (payload : List (Text × Json Number)) :
    Unbroken (dumps driver.numberText payload) ∧ blankLine (dumps driver.numberText payload) = false := by
  refine ⟨fun c member => ?_,rfl⟩
  obtain ⟨lower,upper⟩ := dumps_printable reading payload c member
  rw [Bool.eq_false_iff]
  intro found
  have isBreak := List.contains_iff_mem.mp found
  simp only [lineBreaks,List.mem_cons,List.not_mem_nil,or_false] at isBreak
  omega

structure Golden (ledger : AnnotationLedger) (c : Candidate) (golden : GoldenCase) : Prop where
  sample : golden.sample = c.sample
  verdict : ∀ a ∈ ledger.rows, a.sampleId = c.sample.sampleId → golden.humanVerdict = a.verdict
  source : golden.labelSource = text "human"
  status : golden.labelStatus = text "verified"

theorem verdictOf_value (verdict : Verdict) : verdictOf (some (.str (text (value verdict)))) = some verdict := by
  cases verdict <;> decide

theorem labelledAs_text (t : Text) : labelledAs t (some (.str t)) = true := decide_eq_true rfl

theorem parsedCase_written (written : Written reread ledger line c) (number : Nat) :
    ∃ fields verdict, parsedCase number line = .ok (fields,c.sample,verdict) ∧ verdict ≠ .review ∧
      labelledAs (text "human") (field fields (text "label_source")) = true ∧
      labelledAs (text "verified") (field fields (text "label_status")) = true ∧
      ∀ a ∈ ledger.rows, a.sampleId = c.sample.sampleId → verdict = a.verdict := by
  obtain ⟨verdict,resolved,_,same⟩ := agreed_verdict written.agreed
  obtain ⟨⟨a,here,b,_,of,_⟩,_⟩ := written.agreed
  obtain ⟨fields,loaded,_,human,source,status,sample,_⟩ := written.content
  have chosen : verdictOf (verdictField fields) = some verdict := by
    rw [verdictField,human a here of,Option.some_or,verdictOf_value,same a here of]
  refine ⟨fields,verdict,?_,resolved,?_,?_,fun a member named => (same a member named).symm⟩
  · simp only [parsedCase,loaded,sample,chosen]
  · rw [source]
    exact labelledAs_text _
  · rw [status]
    exact labelledAs_text _

theorem loadCases_written {ls : List Text} {promoted : List Candidate}
    (written : List.Forall₂ (Written reread ledger) ls promoted) (filled : ∀ line ∈ ls, blankLine line = false)
    (number : Nat) (identifiers : List Text)
    (fresh : (identifiers.reverse ++ promoted.map fun c => c.sample.sampleId).Nodup) :
    ∃ cases, loadCases number identifiers ls = .ok cases ∧ List.Forall₂ (Golden ledger) promoted cases := by
  induction written generalizing number identifiers with
  | nil => exact ⟨[],rfl,.nil⟩
  | @cons line c rest later here _ ih =>
    obtain ⟨fields,verdict,parsed,resolved,source,status,same⟩ := parsedCase_written here number
    have unused : (identifiers.any fun identifier => decide (identifier = c.sample.sampleId)) = false := by
      refine List.any_eq_false.mpr fun identifier used same => ?_
      rw [of_decide_eq_true same] at used
      rw [List.map_cons] at fresh
      exact List.disjoint_of_nodup_append fresh (List.mem_reverse.mpr used) List.mem_cons_self
    have again : ((c.sample.sampleId :: identifiers).reverse ++ later.map fun c => c.sample.sampleId).Nodup := by
      simpa using fresh
    obtain ⟨cases,loaded,golden⟩ := ih (fun line member => filled line (List.mem_cons_of_mem _ member)) (number + 1)
      (c.sample.sampleId :: identifiers) again
    refine ⟨⟨c.sample,verdict,text "human",text "verified"⟩ :: cases,?_,.cons ⟨rfl,same,rfl,rfl⟩ golden⟩
    rw [loadCases,filled line List.mem_cons_self]
    simp only [Bool.false_eq_true,if_false,parsed,resolved,unused,source,status,Bool.and_self,loaded]
    rfl

def writtenLines (driver : Driver) (ledger : AnnotationLedger) (promoted : List Candidate) : List Text :=
  promoted.map fun c => dumps driver.numberText (rewritten ledger c)

theorem promotable_written (reading : Reading driver.numberText reread)
    (kept : ∀ n, Short PythonText.maxStrDigits n → Short PythonText.maxStrDigits (reread n)) {file : Text}
    {candidates : List Candidate} (valid : CandidateFile file candidates) (ledger : AnnotationLedger) :
    List.Forall₂ (Written reread ledger) (writtenLines driver ledger (promotable ledger candidates))
      (promotable ledger candidates) := by
  refine List.forall₂_map_left_iff.mpr (List.forall₂_same.mpr fun c member => ?_)
  obtain ⟨inside,agreed⟩ := List.mem_filter.mp member
  obtain ⟨line,among,read⟩ := related_right (mapM_some valid.valid) inside
  have scalars : Scalars line := by
    intro d here
    rcases lines_chars (List.mem_of_mem_filter among) here with old | rfl
    · exact valid.decoded d old
    · exact .inl (by decide)
  exact written_line reading kept scalars read (of_decide_eq_true agreed)

theorem writtenLines_read (reading : Reading driver.numberText reread) (ledger : AnnotationLedger)
    (promoted : List Candidate) : lines (unlines (writtenLines driver ledger promoted)) = writtenLines driver ledger promoted ∧
      ∀ line ∈ writtenLines driver ledger promoted, blankLine line = false := by
  constructor
  · refine lines_unlines fun line member => ?_
    obtain ⟨c,_,rfl⟩ := List.mem_map.mp member
    exact (dumps_readable reading _).1
  · intro line member
    obtain ⟨c,_,rfl⟩ := List.mem_map.mp member
    exact (dumps_readable reading _).2

-- The exported file has one line for each candidate that two reviewers agree
-- on, and the loader reads it back.
theorem consensus_exported_loaded (bound : ∀ t, Scalars t → driver.bind (.str t) = some t)
    (reading : Reading driver.numberText reread)
    (kept : ∀ n, Short PythonText.maxStrDigits n → Short PythonText.maxStrDigits (reread n))
    (calls : List Call) {file : Text} {candidates : List Candidate} (valid : CandidateFile file candidates) :
    let ledger := labelled Table.empty calls
    ∃ report written, exportConsensus driver ledger file = some (report,written) ∧
      List.Forall₂ (Written reread ledger) (lines written) (promotable ledger candidates) ∧
      report.promoted = (promotable ledger candidates).length ∧
      report.promoted + report.pending + report.conflicts = (candidateLines file).length ∧
      (∀ sampleId more, (status ledger sampleId).status = .conflict →
        (status (labelled ledger more) sampleId).status = .conflict ∧ ¬ Agreed (labelled ledger more) sampleId) ∧
      (2 ≤ report.promoted → ∃ cases, loadGoldenDataset written = .ok cases ∧
        List.Forall₂ (Golden ledger) (promotable ledger candidates) cases) := by
  intro ledger
  have outcomes := @exported_outcomes _ ledger bound _ _ (mapM_some valid.valid)
  have exported : exportConsensus driver ledger file = some
      (⟨(promotable ledger candidates).length,(candidates.map (outcome ledger)).countP Outcome.isPending,
        (candidates.map (outcome ledger)).countP Outcome.isConflict⟩,
      unlines (writtenLines driver ledger (promotable ledger candidates))) := by
    unfold exportConsensus writtenLines
    rw [outcomes]
    simp only [Option.map_some,promoted_payloads,List.length_map,List.map_map]
    rfl
  have contents := @promotable_written driver _ reading kept _ _ valid ledger
  obtain ⟨read,filled⟩ := writtenLines_read reading ledger (promotable ledger candidates)
  refine ⟨_,_,exported,by rwa [read],rfl,?_,?_,?_⟩
  · have counted := outcomes_counted (candidates.map (outcome ledger))
    rw [promoted_payloads,List.length_map,List.length_map] at counted
    rw [(mapM_some valid.valid).length_eq]
    exact counted
  · intro sampleId more conflict
    have stays := conflict_stays conflict more
    refine ⟨stays,fun agreed => ?_⟩
    rw [consensus_iff.mpr agreed] at stays
    cases stays
  · intro enough
    have distinct : ((promotable ledger candidates).map fun c => c.sample.sampleId).Nodup :=
      valid.distinct.sublist (List.filter_sublist.map _)
    obtain ⟨cases,loaded,golden⟩ := loadCases_written contents filled 1 [] distinct
    refine ⟨cases,?_,golden⟩
    have plenty : ¬ cases.length < 2 := by
      rw [← golden.length_eq]
      exact Nat.not_lt.mpr enough
    rw [loadGoldenDataset,read,loaded]
    exact if_neg plenty

-- No number stands in the file below.
def sqlite : Driver where
  numberText _ := (decimal 0 0 []).text
  bind := fun
    | .str t => some t
    | _ => none

def corpusLine (sampleId answer : String) : Text :=
  text "\x7b\"sample\": \x7b" ++ text "\"sample_id\": \"" ++ text sampleId ++ text "\", \"question\": " ++
    text "\"Settled?\", " ++ text "\"candidate_" ++ text "answer\": \"" ++ text answer ++ text "\"\x7d, " ++
    text "\"expected_" ++ text "verdict\": " ++ text "\"pass\"\x7d\n"

def corpus : Text :=
  corpusLine "bank-1" "It is." ++ [0x0a] ++ corpusLine "bank-2" "Not \\u2028 so." ++ corpusLine "bank-3" "Maybe."

def said (sampleId reviewer : String) (verdict : Verdict) : Call :=
  ⟨text sampleId,text reviewer,verdict,text "It says so.","2026-01-01 00:00:00"⟩

def history : List Call :=
  [said "bank-1" "reviewer-a" .pass,said "bank-2" "reviewer-b" .fail,said "bank-2" "reviewer-b" .pass,
    said "bank-1" "reviewer-b" .pass,said "bank-3" "reviewer-a" .pass,said "bank-3" "reviewer-b" .fail,
    said "bank-3" "reviewer-c" .review,said "bank-2" "reviewer-a" .fail]

theorem consensus_exported_loaded_banking : ∃ report written,
    exportConsensus sqlite (labelled Table.empty history) corpus = some (report,written) ∧ report = ⟨2,0,1⟩ ∧
    ∃ cases, loadGoldenDataset written = .ok cases ∧ cases.length = 2 := by
  have named : ((candidateLines corpus).mapM candidate).map (fun cs => cs.map fun c => c.sample.sampleId) =
      some [text "bank-1",text "bank-2",text "bank-3"] := by decide +kernel
  obtain ⟨candidates,valid,ids⟩ := Option.map_eq_some_iff.mp named
  have decoded : ∀ c ∈ corpus, Scalar c := by decide +kernel
  have file : CandidateFile corpus candidates := ⟨decoded,valid,by rw [ids]; decide +kernel⟩
  obtain ⟨report,written,exported,_,promoted,_,_,loads⟩ := @consensus_exported_loaded sqlite _
    (fun _ _ => rfl) (decimal_reading _) (fun _ _ => rfl) history _ _ file
  have counted : (exportConsensus sqlite (labelled Table.empty history) corpus).map Prod.fst = some ⟨2,0,1⟩ := by
    decide +kernel
  rw [exported] at counted
  cases Option.some.inj counted
  obtain ⟨cases,loaded,golden⟩ := loads (by decide)
  exact ⟨_,written,exported,rfl,cases,loaded,by rw [← golden.length_eq,← promoted]⟩

end OpenModelOps.JudgePromotion
