import OpenModelOps.JsonQuoting
import OpenModelOps.KeyedTable
import OpenModelOps.PythonChoice
import OpenModelOps.PythonNumber

namespace OpenModelOps.StreamingReliability
open JsonText KeyedTable PythonFloat PythonNumber PythonChoice

-- A str that a JSON text can denote: a pair of escaped surrogates is one code
-- point.
abbrev Str := {t : Text // Whole t}

def str (s : String) : Str := ⟨text s,text_whole s⟩

inductive Severity where
  | info
  | low
  | medium
  | high
  | critical
  deriving DecidableEq

def Severity.value : Severity → String
  | .info => "info"
  | .low => "low"
  | .medium => "medium"
  | .high => "high"
  | .critical => "critical"

-- SEVERITY_RANK.
def Severity.rank : Severity → Nat
  | .info => 0
  | .low => 1
  | .medium => 2
  | .high => 3
  | .critical => 4

-- What the service takes from the language and from pydantic: the hex digest of
-- SHA-256, the text of a number in json.dumps, the two texts of a datetime, the
-- JSON value of a number, and the arithmetic of floats. The ratio of two ints
-- is none when it is too large for a float.
structure Runtime (δ : Type) where
  sha256 : List UInt8 → String
  number : PyNumber → Text
  isoformat : δ → String
  dumpTime : δ → String
  dumpFloat : PyNumber → Json PyNumber
  sub : PyFloat → PyFloat → PyFloat
  mul : PyFloat → PyFloat → PyFloat
  div : PyFloat → PyFloat → PyFloat
  ratio : Nat → Nat → Option PyFloat
  round : PyFloat → Nat → PyFloat

-- The value that is compared: a default is not validated and stays an int.
def real : PyNumber → PyFloat
  | .int n => .finite n
  | .float x => x

def below (lower : PyFloat) (x : PyNumber) : Prop := PyFloat.lt (real x) lower = true

def above (upper : PyFloat) (x : PyNumber) : Prop := PyFloat.lt upper (real x) = true

instance (lower : PyFloat) (x : PyNumber) : Decidable (below lower x) := inferInstanceAs (Decidable (_ = true))

instance (upper : PyFloat) (x : PyNumber) : Decidable (above upper x) := inferInstanceAs (Decidable (_ = true))

-- A validated snapshot.
structure StreamingSnapshot (δ : Type) where
  cluster : Str := str "local-redpanda"
  workloadId : Str := str "streaming-reference"
  topic : Option Str := none
  consumerGroup : Option Str := none
  observedAt : δ
  producedTotal : Nat
  consumedTotal : Nat
  eligibleEventsTotal : Option Nat := none
  completedWithinObjectiveTotal : Option Nat := none
  consumerLag : Nat
  partitionLag : Dict Str Nat := Table.empty
  rebalances5m : Nat := 0
  underReplicatedPartitions : Nat := 0
  offlinePartitions : Nat := 0
  schemaErrors5m : Nat := 0
  duplicateRate : PyNumber := .int 0
  dlqRate : PyNumber := .int 0
  diskUsedPercent : PyNumber := .int 0
  p99LatencyMs : PyNumber := .int 0
  nonnegative : ∀ x ∈ [duplicateRate,dlqRate,diskUsedPercent,p99LatencyMs], ¬ below (.finite 0) x := by
    decide +kernel
  rates : ∀ x ∈ [duplicateRate,dlqRate], ¬ above (.finite 1) x := by decide +kernel
  percent : ¬ above (.finite 100) diskUsedPercent := by decide +kernel
  together : eligibleEventsTotal.isNone = completedWithinObjectiveTotal.isNone := by rfl
  onTime : ∀ eligible ∈ eligibleEventsTotal, ∀ completed ∈ completedWithinObjectiveTotal, completed ≤ eligible := by simp

theorem default_nonnegative : ∀ x ∈ [PyNumber.int 0,.int 0,.int 0,.int 0], ¬ below (.finite 0) x := by decide +kernel

theorem default_rates : ∀ x ∈ [PyNumber.int 0,.int 0], ¬ above (.finite 1) x := by decide +kernel

theorem default_percent : ¬ above (.finite 100) (.int 0) := by decide +kernel

theorem default_together : (none : Option Nat).isNone = (none : Option Nat).isNone := rfl

theorem default_onTime : ∀ eligible ∈ (none : Option Nat), ∀ completed ∈ (none : Option Nat), completed ≤ eligible :=
  nofun

structure Finding where
  code : String
  severity : Severity
  summary : String
  evidence : List (Text × Json PyNumber)
  safeActions : List String

structure SLOAssessment where
  target : PyFloat
  completionRatio : Option PyFloat
  errorBudgetFraction : PyFloat
  budgetConsumedPercent : Option PyFloat
  burnRate : Option PyFloat
  status : String

structure StreamingAssessment (δ : Type) where
  incidentId : String
  cluster : Str
  workloadId : Str
  observedAt : δ
  severity : Severity
  findings : List Finding
  slo : SLOAssessment
  evidenceDigest : String
  automaticRemediation : Bool := false

def optional (x : Option PyFloat) : Json PyFloat := (x.map .num).getD .null

-- model_dump of an SLOAssessment.
def SLOAssessment.modelDump (slo : SLOAssessment) : List (Text × Json PyFloat) :=
  [(text "target",.num slo.target),(text "completion_ratio",optional slo.completionRatio),
    (text "error_budget_fraction",.num slo.errorBudgetFraction),
    (text "budget_consumed_percent",optional slo.budgetConsumedPercent),(text "burn_rate",optional slo.burnRate),
    (text "status",.str (text slo.status))]

-- The double nearest to 0.8.
def assumed : PyFloat := .finite (3602879701896397 / 4503599627370496)

def StreamingAssessment.ariaEvidence (runtime : Runtime δ) (assessment : StreamingAssessment δ) (tenant : Str) :
    List (Text × Json PyFloat) :=
  [(text "source",.str (text "aria")),(text "schema_version",.str (text "1.0")),
    (text "signal_id",.str (text assessment.incidentId)),(text "tenant",.str tenant.val),
    (text "workload_id",.str assessment.workloadId.val),(text "severity",.str (text assessment.severity.value)),
    (text "confidence",.num (if assessment.findings.isEmpty then assumed else .finite 1)),
    (text "observed_at",.str (text (runtime.isoformat assessment.observedAt))),
    (text "evidence_digest",.str (text assessment.evidenceDigest)),
    (text "finding_codes",.arr (assessment.findings.map fun finding => .str (text finding.code))),
    (text "slo",.obj assessment.slo.modelDump),(text "automatic_remediation",.bool false)]

inductive Error where
  | valueError (message : String)
  | overflowError
  deriving DecidableEq

def insufficient (runtime : Runtime δ) (target allowedError : PyFloat) : SLOAssessment :=
  ⟨target,none,runtime.round allowedError 6,none,none,"insufficient-data"⟩

def SLOAssessment.measured (runtime : Runtime δ) (target allowedError completionRatio : PyFloat) : SLOAssessment :=
  let observedError := runtime.sub (.finite 1) completionRatio
  let burnRate := runtime.div observedError allowedError
  let percent := runtime.mul (runtime.div observedError allowedError) (.finite 100)
  let consumed := if PyFloat.lt (.finite 0) percent then percent else .finite 0
  ⟨target,some (runtime.round completionRatio 6),runtime.round allowedError 6,some (runtime.round consumed 2),
    some (runtime.round burnRate 2),
    if PyFloat.le (.finite 100) consumed then "exhausted" else if PyFloat.le (.finite 50) consumed then "at-risk"
    else "healthy"⟩

-- The two counters are there together.
def assessSlo (runtime : Runtime δ) (snapshot : StreamingSnapshot δ) (target : PyFloat) : Except Error SLOAssessment :=
  if (PyFloat.lt (.finite 0) target && PyFloat.lt target (.finite 1)) = false then
    .error (.valueError "SLO target must be between zero and one")
  else
    let allowedError := runtime.sub (.finite 1) target
    match snapshot.eligibleEventsTotal,snapshot.completedWithinObjectiveTotal with
    | some eligible,some completed =>
      if eligible = 0 then .ok (insufficient runtime target allowedError)
      else match runtime.ratio completed eligible with
        | some completionRatio => .ok (.measured runtime target allowedError completionRatio)
        | none => .error .overflowError
    | _,_ => .ok (insufficient runtime target allowedError)

def when (condition : Bool) (finding : Finding) : List Finding := if condition then [finding] else []

def natural (n : Nat) : Json PyNumber := .num (.int n)

def offline (snapshot : StreamingSnapshot δ) : List Finding :=
  when (decide (snapshot.offlinePartitions ≠ 0))
    ⟨"OFFLINE_PARTITIONS",.critical,"Partitions are unavailable.",
      [(text "offline_partitions",natural snapshot.offlinePartitions)],
      ["Page the streaming incident commander","Inspect broker and quorum health","Pause unsafe releases"]⟩

def underReplicated (snapshot : StreamingSnapshot δ) : List Finding :=
  when (decide (snapshot.underReplicatedPartitions ≠ 0))
    ⟨"UNDER_REPLICATED_PARTITIONS",.high,"Replication durability is degraded.",
      [(text "under_replicated_partitions",natural snapshot.underReplicatedPartitions)],
      ["Inspect broker health and disk pressure","Confirm replica recovery before changing replication"]⟩

def laggingConsumer (snapshot : StreamingSnapshot δ) : List Finding :=
  when (decide (10000 ≤ snapshot.consumerLag))
    ⟨"CONSUMER_LAG",.high,"Consumer processing is materially behind production.",
      [(text "consumer_lag",natural snapshot.consumerLag)],
      ["Inspect consumer errors and saturation","Scale only after confirming partition parallelism"]⟩

-- 2 * max(mean, 1).
def doubled (runtime : Runtime δ) (mean : PyFloat) : PyFloat :=
  if PyFloat.lt mean (.finite 1) then .finite 2 else runtime.mul (.finite 2) mean

-- The first partition with the greatest lag; the mean can be too large for a
-- float.
def hotPartition (runtime : Runtime δ) (snapshot : StreamingSnapshot δ) : Except Error (List Finding) :=
  match maxBy Prod.snd snapshot.partitionLag.rows with
  | none => .ok []
  | some (hot,lag) =>
    if lag < 1000 then .ok []
    else match runtime.ratio ((Dict.values snapshot.partitionLag).foldl (· + ·) 0) (Dict.values snapshot.partitionLag).length with
      | none => .error .overflowError
      | some mean => .ok (when (PyFloat.lt (doubled runtime mean) (.finite lag))
        ⟨"HOT_PARTITION",.high,"One partition carries disproportionate lag.",
          [(text "partition",.str hot.val),(text "lag",natural lag),
            (text "mean_lag",.num (.float (runtime.round mean 2)))],
          ["Inspect key cardinality and partition assignment","Plan a compatible repartitioning migration"]⟩)

def rebalanceStorm (snapshot : StreamingSnapshot δ) : List Finding :=
  when (decide (5 ≤ snapshot.rebalances5m))
    ⟨"REBALANCE_STORM",.medium,"The consumer group is repeatedly rebalancing.",
      [(text "rebalances_5m",natural snapshot.rebalances5m)],
      ["Inspect membership churn and heartbeat timeouts","Stabilize deployments before scaling"]⟩

def schemaIncompatibility (snapshot : StreamingSnapshot δ) : List Finding :=
  when (decide (snapshot.schemaErrors5m ≠ 0))
    ⟨"SCHEMA_INCOMPATIBILITY",.high,"Messages are failing schema validation.",
      [(text "schema_errors_5m",natural snapshot.schemaErrors5m)],
      ["Stop the incompatible producer rollout","Validate compatibility and replay quarantined records"]⟩

-- The double nearest to 0.001.
def duplicateProcessing (snapshot : StreamingSnapshot δ) : List Finding :=
  when (PyFloat.lt (.finite (1152921504606847 / 1152921504606846976)) (real snapshot.duplicateRate))
    ⟨"DUPLICATE_PROCESSING",.high,"Observed duplicates exceed the idempotency SLO.",
      [(text "duplicate_rate",.num snapshot.duplicateRate)],
      ["Verify idempotency keys and transaction boundaries","Reconcile downstream side effects"]⟩

-- The double nearest to 0.01.
def poisonMessages (snapshot : StreamingSnapshot δ) : List Finding :=
  when (PyFloat.lt (.finite (5764607523034235 / 576460752303423488)) (real snapshot.dlqRate))
    ⟨"POISON_MESSAGES",.medium,"Dead-letter traffic exceeds the operating threshold.",
      [(text "dlq_rate",.num snapshot.dlqRate)],
      ["Sample redacted DLQ records","Fix parser safely before controlled replay"]⟩

def diskPressure (snapshot : StreamingSnapshot δ) : List Finding :=
  when (PyFloat.le (.finite 85) (real snapshot.diskUsedPercent))
    ⟨"DISK_PRESSURE",.high,"Broker disk utilization threatens retention and availability.",
      [(text "disk_used_percent",.num snapshot.diskUsedPercent)],
      ["Page storage owner","Verify retention and tiered-storage health","Add capacity through an approved change"]⟩

def latencySlo (snapshot : StreamingSnapshot δ) : List Finding :=
  when (PyFloat.le (.finite 1000) (real snapshot.p99LatencyMs))
    ⟨"LATENCY_SLO",.medium,"End-to-end event latency is outside the service objective.",
      [(text "p99_latency_ms",.num snapshot.p99LatencyMs)],
      ["Inspect broker, network, and consumer latency spans","Correlate with deploy and saturation events"]⟩

def rate (x : Option PyFloat) : Json PyNumber := (x.map fun value => Json.num (.float value)).getD .null

def exhaustedBudget (slo : SLOAssessment) : List Finding :=
  when (decide (slo.status = "exhausted"))
    ⟨"ERROR_BUDGET_EXHAUSTED",.high,"The on-time event completion budget is exhausted.",
      [(text "burn_rate",rate slo.burnRate),(text "completion_ratio",rate slo.completionRatio),
        (text "target",.num (.float slo.target))],
      ["Freeze non-remediation changes","Open a reliability review with accountable owners"]⟩

def optionalStr (t : Option Str) : Json PyNumber := (t.map fun value => Json.str value.val).getD .null

def optionalNat (n : Option Nat) : Json PyNumber := (n.map natural).getD .null

-- model_dump(mode="json") of a snapshot.
def StreamingSnapshot.modelDump (runtime : Runtime δ) (snapshot : StreamingSnapshot δ) : List (Text × Json PyNumber) :=
  [(text "cluster",.str snapshot.cluster.val),(text "workload_id",.str snapshot.workloadId.val),
    (text "topic",optionalStr snapshot.topic),(text "consumer_group",optionalStr snapshot.consumerGroup),
    (text "observed_at",.str (text (runtime.dumpTime snapshot.observedAt))),
    (text "produced_total",natural snapshot.producedTotal),(text "consumed_total",natural snapshot.consumedTotal),
    (text "eligible_events_total",optionalNat snapshot.eligibleEventsTotal),
    (text "completed_within_objective_total",optionalNat snapshot.completedWithinObjectiveTotal),
    (text "consumer_lag",natural snapshot.consumerLag),
    (text "partition_lag",.obj (snapshot.partitionLag.rows.map fun row => (row.1.val,natural row.2))),
    (text "rebalances_5m",natural snapshot.rebalances5m),
    (text "under_replicated_partitions",natural snapshot.underReplicatedPartitions),
    (text "offline_partitions",natural snapshot.offlinePartitions),
    (text "schema_errors_5m",natural snapshot.schemaErrors5m),
    (text "duplicate_rate",runtime.dumpFloat snapshot.duplicateRate),
    (text "dlq_rate",runtime.dumpFloat snapshot.dlqRate),
    (text "disk_used_percent",runtime.dumpFloat snapshot.diskUsedPercent),
    (text "p99_latency_ms",runtime.dumpFloat snapshot.p99LatencyMs)]

-- json.dumps(evidence, sort_keys=True).encode().
def StreamingSnapshot.evidenceBytes (runtime : Runtime δ) (snapshot : StreamingSnapshot δ) : List UInt8 :=
  asciiBytes (write runtime.number (text ", ") (text ": ") (sortKeys (.obj (snapshot.modelDump runtime))))

def removePrefix (s lead : String) : List Char :=
  if lead.toList.isPrefixOf s.toList then s.toList.drop lead.length else s.toList

def assessment (runtime : Runtime δ) (snapshot : StreamingSnapshot δ) (findings : List Finding) (slo : SLOAssessment) :
    StreamingAssessment δ :=
  let digest := "sha256:" ++ runtime.sha256 (snapshot.evidenceBytes runtime)
  { incidentId := "stream-" ++ String.ofList ((removePrefix digest "sha256:").take 16)
    cluster := snapshot.cluster
    workloadId := snapshot.workloadId
    observedAt := snapshot.observedAt
    severity := (maxBy Severity.rank (findings.map Finding.severity)).getD .info
    findings := findings
    slo := slo
    evidenceDigest := digest }

-- The double nearest to 0.999.
def defaultTarget : PyFloat := .finite (8998192055486251 / 9007199254740992)

def diagnose (runtime : Runtime δ) (snapshot : StreamingSnapshot δ) (target : PyFloat := defaultTarget) :
    Except Error (StreamingAssessment δ) :=
  match hotPartition runtime snapshot with
  | .error error => .error error
  | .ok hot => match assessSlo runtime snapshot target with
    | .error error => .error error
    | .ok slo => .ok (assessment runtime snapshot (offline snapshot ++ underReplicated snapshot ++
        laggingConsumer snapshot ++ hot ++ rebalanceStorm snapshot ++ schemaIncompatibility snapshot ++
        duplicateProcessing snapshot ++ poisonMessages snapshot ++ diskPressure snapshot ++ latencySlo snapshot ++
        exhaustedBudget slo) slo)

theorem diagnose_parts {runtime : Runtime δ} {snapshot : StreamingSnapshot δ} {target : PyFloat}
    {produced : StreamingAssessment δ} (diagnosed : diagnose runtime snapshot target = .ok produced) :
    ∃ findings slo, produced = assessment runtime snapshot findings slo := by
  unfold diagnose at diagnosed
  split at diagnosed
  · cases diagnosed
  split at diagnosed
  · cases diagnosed
  exact ⟨_,_,(Except.ok.inj diagnosed).symm⟩

theorem diagnose_named {runtime : Runtime δ} {snapshot : StreamingSnapshot δ} {target : PyFloat}
    {produced : StreamingAssessment δ} (diagnosed : diagnose runtime snapshot target = .ok produced) :
    ∃ rest, text produced.incidentId = 0x73 :: rest := by
  obtain ⟨findings,slo,rfl⟩ := diagnose_parts diagnosed
  simp only [assessment,text,String.toList_append]
  exact ⟨_,rfl⟩

end OpenModelOps.StreamingReliability
