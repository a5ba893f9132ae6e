import OpenModelOps.StreamingSkew

namespace OpenModelOps.StreamingDrill
open JsonText KeyedTable PythonNumber PythonChoice StreamingReliability StreamingSkew
variable {δ : Type} {runtime : Runtime δ}

-- ^sha256:[0-9a-f]{64}$
def digested (t : Text) : Bool :=
  (text "sha256:").isPrefixOf t && decide (t.length = 71) &&
    (t.drop 7).all fun c => decide (0x30 ≤ c ∧ c ≤ 0x39 ∨ 0x61 ≤ c ∧ c ≤ 0x66)

structure FireDrillEnvelope (δ : Type) where
  schemaVersion : String := "1.0"
  source : String := "fire-drill"
  evidenceMode : String := "synthetic"
  eventId : Str
  experimentId : Str
  service : Str
  environment : String
  scenario : Str
  phase : String := "observed"
  observedAt : Str
  planDigest : Str
  approvedBy : Option Str := none
  blastRadiusPercent : Nat
  stopConditions : List Str
  reportCard : List (Text × Json PyNumber)
  snapshot : StreamingSnapshot δ
  literal : schemaVersion = "1.0" ∧ source = "fire-drill" ∧ evidenceMode = "synthetic" ∧ phase = "observed" := by decide
  placed : environment = "development" ∨ environment = "staging"
  planned : digested planDigest.val = true
  radius : 1 ≤ blastRadiusPercent ∧ blastRadiusPercent ≤ 25
  stopped : stopConditions ≠ []

structure DrillIncident where
  incidentId : String
  service : Str
  severity : String
  source : String
  signals : List String
  topic : Option Str
  consumerGroup : Option Str

structure DrillContext (δ : Type) where
  experimentId : Str
  eventId : Str
  planDigest : Str
  evidenceDigest : String
  scenario : Str
  evidenceMode : String
  environment : String
  approvedBy : Option Str
  blastRadiusPercent : Nat
  automaticRemediation : Bool
  streamingObservation : StreamingSnapshot δ
  findings : List Finding
  slo : SLOAssessment
  fireDrillReport : List (Text × Json PyNumber)
  qualificationVerdict : String

structure DrillResult (δ : Type) where
  schemaVersion : String
  source : String
  evidenceMode : String
  experimentId : Str
  eventId : Str
  planDigest : Str
  fireDrillReport : List (Text × Json PyNumber)
  qualificationVerdict : String
  assessment : StreamingAssessment δ
  incident : DrillIncident
  context : DrillContext δ

-- record, with what it keeps for later requests.
def record (runtime : Runtime δ) (recent : Dict String (StreamingAssessment δ)) (snapshot : StreamingSnapshot δ) :
    Except Error (Dict String (StreamingAssessment δ) × StreamingAssessment δ) := do
  let assessment ← diagnose runtime snapshot
  return (recent.set assessment.incidentId assessment,assessment)

def priority : Severity → String
  | .critical => "P1"
  | .high => "P2"
  | .medium => "P3"
  | .low => "P4"
  | .info => "P4"

-- A report card of objects compares equal to a str only where it is that str.
def reportPasses (reportCard : List (Text × Json PyNumber)) : Bool :=
  match field reportCard (text "verdict") with
  | some (.str verdict) => decide (verdict = text "PASS")
  | _ => false

def qualification (envelope : FireDrillEnvelope δ) (assessment : StreamingAssessment δ) : String :=
  if reportPasses envelope.reportCard = false ∨ assessment.slo.status ≠ "healthy" then "ACTION_REQUIRED" else "PASS"

def drillResult (envelope : FireDrillEnvelope δ) (assessment : StreamingAssessment δ) : DrillResult δ where
  schemaVersion := "1.0"
  source := "openmodelops"
  evidenceMode := envelope.evidenceMode
  experimentId := envelope.experimentId
  eventId := envelope.eventId
  planDigest := envelope.planDigest
  fireDrillReport := envelope.reportCard
  qualificationVerdict := qualification envelope assessment
  assessment := assessment
  incident :=
    { incidentId := assessment.incidentId
      service := envelope.service
      severity := priority assessment.severity
      source := "fire-drill"
      signals := "kafka" :: "streaming" :: assessment.findings.map Finding.code
      topic := envelope.snapshot.topic
      consumerGroup := envelope.snapshot.consumerGroup }
  context :=
    { experimentId := envelope.experimentId
      eventId := envelope.eventId
      planDigest := envelope.planDigest
      evidenceDigest := assessment.evidenceDigest
      scenario := envelope.scenario
      evidenceMode := envelope.evidenceMode
      environment := envelope.environment
      approvedBy := envelope.approvedBy
      blastRadiusPercent := envelope.blastRadiusPercent
      automaticRemediation := false
      streamingObservation := envelope.snapshot
      findings := assessment.findings
      slo := assessment.slo
      fireDrillReport := envelope.reportCard
      qualificationVerdict := qualification envelope assessment }

def evaluateFireDrill (runtime : Runtime δ) (recent : Dict String (StreamingAssessment δ))
    (envelope : FireDrillEnvelope δ) : Except Error (Dict String (StreamingAssessment δ) × DrillResult δ) :=
  if envelope.schemaVersion ≠ "1.0" ∨ envelope.source ≠ "fire-drill" ∨ envelope.phase ≠ "observed" then
    .error (.valueError "unsupported Fire Drill evidence contract")
  else do
    let (next,assessment) ← record runtime recent envelope.snapshot
    return (next,drillResult envelope assessment)

variable {envelope : FireDrillEnvelope δ} {recent next : Dict String (StreamingAssessment δ)} {result : DrillResult δ}

def Finds (result : DrillResult δ) (severity : Severity) : Prop :=
  ∃ finding ∈ result.assessment.findings, finding.severity = severity

structure Certified (envelope : FireDrillEnvelope δ) (result : DrillResult δ) : Prop where
  verdict : result.qualificationVerdict = "PASS" ↔
    field envelope.reportCard (text "verdict") = some (.str (text "PASS")) ∧ result.assessment.slo.status = "healthy"
  withheld : result.qualificationVerdict ≠ "PASS" → result.qualificationVerdict = "ACTION_REQUIRED"
  forwarded : result.context.qualificationVerdict = result.qualificationVerdict
  budget : result.qualificationVerdict = "PASS" →
    ∀ finding ∈ result.assessment.findings, finding.code ≠ "ERROR_BUDGET_EXHAUSTED"
  page : result.incident.severity = "P1" ↔ Finds result .critical
  urgent : result.incident.severity = "P2" ↔ Finds result .high ∧ ¬ Finds result .critical

theorem evaluate_parts (evaluated : evaluateFireDrill runtime recent envelope = .ok (next,result)) :
    ∃ assessment, diagnose runtime envelope.snapshot = .ok assessment ∧ result = drillResult envelope assessment := by
  unfold evaluateFireDrill record at evaluated
  rw [envelope.literal.1,envelope.literal.2.1,envelope.literal.2.2.2,if_neg (by decide)] at evaluated
  cases diagnosed : diagnose runtime envelope.snapshot with
  | error error =>
    rw [diagnosed] at evaluated
    cases evaluated
  | ok assessment =>
    rw [diagnosed] at evaluated
    cases evaluated
    exact ⟨assessment,rfl,rfl⟩

theorem worst_critical (severities : List Severity) :
    (maxBy Severity.rank severities).getD .info = .critical ↔ .critical ∈ severities := by
  cases worst : maxBy Severity.rank severities with
  | none =>
    rw [maxBy_none.mp worst]
    exact ⟨nofun,nofun⟩
  | some top =>
    obtain ⟨inside,above⟩ := maxBy_greatest worst
    constructor
    · intro same
      rw [← (same : top = .critical)]
      exact inside
    · intro critical
      have most := above _ critical
      cases top with
      | critical => rfl
      | info | low | medium | high => exact absurd most (by decide)

theorem worst_high (severities : List Severity) :
    (maxBy Severity.rank severities).getD .info = .high ↔ .high ∈ severities ∧ .critical ∉ severities := by
  rw [← worst_critical severities]
  cases worst : maxBy Severity.rank severities with
  | none =>
    rw [maxBy_none.mp worst]
    exact ⟨nofun,nofun⟩
  | some top =>
    obtain ⟨inside,above⟩ := maxBy_greatest worst
    constructor
    · intro same
      have high : top = .high := same
      subst high
      exact ⟨inside,nofun⟩
    · intro high
      have most := above _ high.1
      cases top with
      | high => rfl
      | critical => exact absurd rfl high.2
      | info | low | medium => exact absurd most (by decide)

theorem finds_mem (envelope : FireDrillEnvelope δ) (assessment : StreamingAssessment δ) (severity : Severity) :
    Finds (drillResult envelope assessment) severity ↔ severity ∈ assessment.findings.map Finding.severity :=
  List.mem_map.symm

theorem priority_page (severity : Severity) : priority severity = "P1" ↔ severity = .critical := by
  cases severity <;> decide

theorem priority_urgent (severity : Severity) : priority severity = "P2" ↔ severity = .high := by
  cases severity <;> decide

theorem reportPasses_iff {reportCard : List (Text × Json PyNumber)} : reportPasses reportCard = true ↔
    field reportCard (text "verdict") = some (.str (text "PASS")) := by
  unfold reportPasses
  split
  · rename_i verdict found
    rw [found,decide_eq_true_eq,Option.some.injEq,Json.str.injEq]
  · rename_i other
    exact iff_of_false nofun (other _)

theorem qualification_pass (envelope : FireDrillEnvelope δ) (assessment : StreamingAssessment δ) :
    qualification envelope assessment = "PASS" ↔
      reportPasses envelope.reportCard = true ∧ assessment.slo.status = "healthy" := by
  unfold qualification
  split
  · rename_i withheld
    refine iff_of_false (by decide) ?_
    intro both
    rcases withheld with report | slo
    · rw [both.1] at report
      cases report
    · exact slo both.2
  · rename_i passed
    rw [not_or,Bool.not_eq_false,not_not] at passed
    exact iff_of_true rfl passed

theorem evaluate_certified (evaluated : evaluateFireDrill runtime recent envelope = .ok (next,result)) :
    Certified envelope result := by
  obtain ⟨assessment,diagnosed,rfl⟩ := evaluate_parts evaluated
  obtain ⟨hot,parts⟩ := diagnose_diagnosed diagnosed
  refine ⟨?_,?_,rfl,?_,?_,?_⟩
  · rw [← reportPasses_iff]
    exact qualification_pass envelope assessment
  · intro withheld
    have differ : qualification envelope assessment ≠ "PASS" := withheld
    have either : qualification envelope assessment = "ACTION_REQUIRED" ∨ qualification envelope assessment = "PASS" :=
      ite_eq_or_eq ..
    exact either.resolve_right differ
  · intro passed finding member code
    have healthy := ((qualification_pass envelope assessment).mp passed).2
    have inside : finding ∈ coded "ERROR_BUDGET_EXHAUSTED" assessment.findings :=
      List.mem_filter.mpr ⟨member,decide_eq_true code⟩
    rw [parts.exhausted,exhaustedBudget,healthy] at inside
    cases inside
  · rw [finds_mem,← worst_critical,← parts.severity]
    exact priority_page assessment.severity
  · rw [finds_mem,finds_mem,← worst_high,← parts.severity]
    exact priority_urgent assessment.severity

section OfflinePartition

def onTime : StreamingSnapshot String :=
  { observedAt := "2026-09-21T00:00:00Z",producedTotal := 1000,consumedTotal := 1000,eligibleEventsTotal := some 1000
    completedWithinObjectiveTotal := some 1000,consumerLag := 0,offlinePartitions := 1
    nonnegative := default_nonnegative,rates := default_rates,percent := default_percent,together := Eq.refl false }

def offlineDrill : FireDrillEnvelope String where
  eventId := str "event-1"
  experimentId := str "drill-1"
  service := str "payment-events"
  environment := "staging"
  scenario := str "broker-failure"
  observedAt := str "2026-09-21T00:00:00Z"
  planDigest := str "sha256:aaaaaaaaaaaaaaaaaaaaaaaaaaaaaaaaaaaaaaaaaaaaaaaaaaaaaaaaaaaaaaaa"
  blastRadiusPercent := 10
  stopConditions := [str "lag above 10000"]
  reportCard := [(text "verdict",.str (text "PASS"))]
  snapshot := onTime
  placed := .inr rfl
  planned := by decide
  radius := by decide
  stopped := by decide

theorem offlineDrill_evaluated : ∃ assessment next, diagnose (exact laboratory) onTime = .ok assessment ∧
    evaluateFireDrill (exact laboratory) Table.empty offlineDrill = .ok (next,drillResult offlineDrill assessment) := by
  obtain ⟨assessment,diagnosed⟩ := diagnose_exact laboratory onTime ⟨defaultTarget,by decide +kernel⟩
  refine ⟨assessment,Dict.set Table.empty assessment.incidentId assessment,diagnosed,?_⟩
  have taken : diagnose (exact laboratory) offlineDrill.snapshot = .ok assessment := diagnosed
  unfold evaluateFireDrill record
  rw [taken,if_neg (by decide)]
  rfl

theorem offlineDrill_certified : ∃ assessment next, evaluateFireDrill (exact laboratory) Table.empty offlineDrill =
    .ok (next,drillResult offlineDrill assessment) ∧ Certified offlineDrill (drillResult offlineDrill assessment) := by
  obtain ⟨assessment,next,_,evaluated⟩ := offlineDrill_evaluated
  exact ⟨assessment,next,evaluated,evaluate_certified evaluated⟩

-- The drill that opens a P1 incident is certified PASS.
theorem offline_drill_passes : ¬ ∀ (runtime : Runtime String) (recent next : Dict String (StreamingAssessment String))
    (envelope : FireDrillEnvelope String) (result : DrillResult String),
      evaluateFireDrill runtime recent envelope = .ok (next,result) → result.qualificationVerdict = "PASS" →
        field envelope.reportCard (text "verdict") = some (.str (text "PASS")) ∧
          result.assessment.slo.status = "healthy" ∧ ¬ Finds result .high ∧ ¬ Finds result .critical := by
  intro all
  obtain ⟨assessment,next,diagnosed,evaluated⟩ := offlineDrill_evaluated
  obtain ⟨hot,parts⟩ := diagnose_diagnosed diagnosed
  have healthy : assessment.slo.status = "healthy" := by
    have measured : (assessSlo (exact laboratory) onTime defaultTarget).toOption.map SLOAssessment.status =
        some "healthy" := by decide +kernel
    rw [parts.slo] at measured
    exact Option.some.inj measured
  have passed := (qualification_pass offlineDrill assessment).mpr ⟨by decide +kernel,healthy⟩
  apply (all _ _ _ _ _ evaluated passed).2.2.2
  exact ⟨_,parts.offline _ (List.mem_singleton_self _),rfl⟩

end OfflinePartition

end OpenModelOps.StreamingDrill
