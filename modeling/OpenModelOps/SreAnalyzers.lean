import Mathlib.Data.String.Basic
import OpenModelOps.JsonRecords
import OpenModelOps.OrderStatistics
import OpenModelOps.PythonNumber
import OpenModelOps.Raising

namespace OpenModelOps.SreAnalyzers
open JsonText KeyedTable OrderStatistics PythonNumber PythonText

inductive Severity where
  | info | warning | critical
  deriving DecidableEq

structure Workload where
  kind : String
  namespace_ : String
  name : String
  uid : String
  resourceVersion : String
  desiredReplicas : Int := 1
  readyReplicas : Int := 0
  restartCount : Int := 0
  waitingReasons : List String := []
  images : List String := []
  hasReadinessProbe : Bool := true
  hasLivenessProbe : Bool := true
  deriving DecidableEq

structure Autoscaler where
  namespace_ : String
  name : String
  target : String
  currentReplicas : Int
  maximumReplicas : Int
  deriving DecidableEq

structure ClusterSnapshot where
  cluster : String
  collectedAt : Instant
  workloads : List Workload := []
  autoscalers : List Autoscaler := []
  namespaces : List String := []

inductive Value where
  | str (s : String)
  | int (n : Int)
  | bool (b : Bool)
  deriving DecidableEq

@[ext]
structure Finding where
  analyzer : String
  code : String
  severity : Severity
  cluster : String
  namespace_ : String
  resource : String
  summary : String
  evidence : Dict String Value

def Value.json : Value → Json Int
  | .str s => .str (text s)
  | .int n => .num n
  | .bool b => .bool b

def Finding.stable (f : Finding) : Json Int :=
  .obj [(text "analyzer",.str (text f.analyzer)),(text "code",.str (text f.code)),(text "cluster",.str (text f.cluster)),
    (text "namespace",.str (text f.namespace_)),(text "resource",.str (text f.resource)),
    (text "evidence",.obj (dictFields Value.json f.evidence))]

def Finding.stableBytes (f : Finding) : List UInt8 := asciiBytes (compactDumps intText f.stable)

-- json.dumps raises a ValueError on an int with too many digits.
def Finding.spelled (f : Finding) : Bool := f.evidence.rows.all fun
  | (_,.int n) => decide (n.natAbs < 10 ^ maxStrDigits)
  | _ => true

-- sha256 is the hex digest of the hash, which is outside the repository.
def Finding.fingerprint (sha256 : List UInt8 → String) (f : Finding) : String := sha256 f.stableBytes

structure HealthReport where
  cluster : String
  generatedAt : Instant
  findings : List Finding

structure Analyzer where
  name : String
  analyze : ClusterSnapshot → List Finding

def evidence (rows : List (String × Value)) : Dict String Value := Dict.ofRows rows

-- lower is str.lower.
def resourceOf (lower : String → String) (workload : Workload) : String := lower workload.kind ++ "/" ++ workload.name

def crashReasons : List String := ["CrashLoopBackOff","OOMKilled"]

def underReplicated (name : String) (lower : String → String) (cluster : String) (workload : Workload) : Option Finding :=
  if workload.readyReplicas < workload.desiredReplicas then
    some ⟨name,"UNDER_REPLICATED",.critical,cluster,workload.namespace_,resourceOf lower workload,
      "Workload has fewer ready replicas than desired",
      evidence [("desired",.int workload.desiredReplicas),("ready",.int workload.readyReplicas)]⟩
  else none

def unhealthyRestarts (name : String) (lower : String → String) (cluster : String) (workload : Workload) : Option Finding :=
  if 5 ≤ workload.restartCount ∨ workload.waitingReasons.any (crashReasons.contains ·) = true then
    some ⟨name,"UNHEALTHY_RESTARTS",.critical,cluster,workload.namespace_,resourceOf lower workload,
      "Workload is repeatedly restarting",
      evidence [("restart_count",.int workload.restartCount),
        ("reasons",.str (String.intercalate "," workload.waitingReasons))]⟩
  else none

def workloadHealthAnalyzer (lower : String → String) : Analyzer where
  name := "workload-health"
  analyze snapshot := snapshot.workloads.flatMap fun workload =>
    (underReplicated "workload-health" lower snapshot.cluster workload).toList ++
      (unhealthyRestarts "workload-health" lower snapshot.cluster workload).toList

def missingProbes (workload : Workload) : List String :=
  (if workload.hasReadinessProbe then [] else ["readiness"]) ++ if workload.hasLivenessProbe then [] else ["liveness"]

def missingHealthProbes (name : String) (lower : String → String) (cluster : String) (workload : Workload) : Option Finding :=
  if missingProbes workload ≠ [] then
    some ⟨name,"MISSING_HEALTH_PROBES",.warning,cluster,workload.namespace_,resourceOf lower workload,
      "Workload is missing health probes",evidence [("missing",.str (String.intercalate "," (missingProbes workload)))]⟩
  else none

-- image.rsplit("/", 1)[-1].
def afterSlash (image : String) : List Char := (image.toList.reverse.takeWhile fun c => decide (c ≠ '/')).reverse

def mutableTag (image : String) : Bool :=
  ":latest".toList.isSuffixOf image.toList || !(afterSlash image).contains ':'

def mutableImageTag (name : String) (lower : String → String) (cluster : String) (workload : Workload) : Option Finding :=
  if workload.images.any mutableTag = true then
    some ⟨name,"MUTABLE_IMAGE_TAG",.warning,cluster,workload.namespace_,resourceOf lower workload,
      "Workload uses an unpinned container image",evidence [("images",.str (String.intercalate "," workload.images))]⟩
  else none

def reliabilityAnalyzer (lower : String → String) : Analyzer where
  name := "reliability"
  analyze snapshot := snapshot.workloads.flatMap fun workload =>
    (missingHealthProbes "reliability" lower snapshot.cluster workload).toList ++
      (mutableImageTag "reliability" lower snapshot.cluster workload).toList

def hpaAtMax (name : String) (cluster : String) (hpa : Autoscaler) : Option Finding :=
  if 0 < hpa.maximumReplicas ∧ hpa.maximumReplicas ≤ hpa.currentReplicas then
    some ⟨name,"HPA_AT_MAX",.warning,cluster,hpa.namespace_,"hpa/" ++ hpa.name,
      "Autoscaler is at its configured maximum",
      evidence [("current",.int hpa.currentReplicas),("maximum",.int hpa.maximumReplicas),("target",.str hpa.target)]⟩
  else none

def scalingAnalyzer : Analyzer where
  name := "scaling"
  analyze snapshot := snapshot.autoscalers.filterMap (hpaAtMax "scaling" snapshot.cluster)

def specialists (lower : String → String) : List Analyzer :=
  [workloadHealthAnalyzer lower,reliabilityAnalyzer lower,scalingAnalyzer]

structure ParallelAnalyzer where
  analyzers : List Analyzer
  maxWorkers : Int

-- The constructor: no analyzers stand for the three specialists.
def ParallelAnalyzer.init (lower : String → String) (analyzers : List Analyzer) (maxWorkers : Int) : ParallelAnalyzer :=
  let chosen := if analyzers = [] then specialists lower else analyzers
  ⟨chosen,min maxWorkers chosen.length⟩

def ParallelAnalyzer.found (parallel : ParallelAnalyzer) (snapshot : ClusterSnapshot) : List Finding :=
  (parallel.analyzers.map fun analyzer => analyzer.analyze snapshot).flatten

def ParallelAnalyzer.analyze (sha256 : List UInt8 → String) (parallel : ParallelAnalyzer) (snapshot : ClusterSnapshot) :
    Except String HealthReport :=
  if parallel.maxWorkers ≤ 0 then .error "max_workers must be greater than 0"
  else if (parallel.found snapshot).all Finding.spelled = true then
    .ok ⟨snapshot.cluster,snapshot.collectedAt,sortBy (Finding.fingerprint sha256) (parallel.found snapshot)⟩
  else .error ("Exceeds the limit (4300 digits) for integer string conversion; " ++
    "use sys.set_int_max_str_digits() to increase the limit")

structure Rule where
  analyzer : String
  code : String
  severity : Severity
  summary : String
  keys : List String

def rules : List Rule :=
  [⟨"workload-health","UNDER_REPLICATED",.critical,"Workload has fewer ready replicas than desired",["desired","ready"]⟩,
   ⟨"workload-health","UNHEALTHY_RESTARTS",.critical,"Workload is repeatedly restarting",["restart_count","reasons"]⟩,
   ⟨"reliability","MISSING_HEALTH_PROBES",.warning,"Workload is missing health probes",["missing"]⟩,
   ⟨"reliability","MUTABLE_IMAGE_TAG",.warning,"Workload uses an unpinned container image",["images"]⟩,
   ⟨"scaling","HPA_AT_MAX",.warning,"Autoscaler is at its configured maximum",["current","maximum","target"]⟩]

structure Finding.Follows (f : Finding) (rule : Rule) : Prop where
  analyzer : f.analyzer = rule.analyzer
  code : f.code = rule.code
  severity : f.severity = rule.severity
  summary : f.summary = rule.summary
  keys : f.evidence.rows.map Prod.fst = rule.keys

def Finding.Ruled (f : Finding) : Prop := ∃ rule ∈ rules, f.Follows rule

theorem ruled_of_ite {condition : Prop} [Decidable condition] {f made : Finding} {rule : Rule}
    (built : (if condition then some made else none) = some f) (listed : rule ∈ rules) (follows : made.Follows rule) :
    f.Ruled := by
  split at built
  · cases Option.some.inj built
    exact ⟨rule,listed,follows⟩
  · cases built

theorem workloadHealth_ruled {f : Finding} (member : f ∈ (workloadHealthAnalyzer lower).analyze snapshot) : f.Ruled := by
  obtain ⟨workload,_,inside⟩ := List.mem_flatMap.mp member
  rcases List.mem_append.mp inside with under | restarts
  · exact ruled_of_ite (Option.mem_toList.mp under) (.head _) ⟨rfl,rfl,rfl,rfl,rfl⟩
  · exact ruled_of_ite (Option.mem_toList.mp restarts) (.tail _ (.head _)) ⟨rfl,rfl,rfl,rfl,rfl⟩

theorem reliability_ruled {f : Finding} (member : f ∈ (reliabilityAnalyzer lower).analyze snapshot) : f.Ruled := by
  obtain ⟨workload,_,inside⟩ := List.mem_flatMap.mp member
  rcases List.mem_append.mp inside with probes | images
  · exact ruled_of_ite (Option.mem_toList.mp probes) (.tail _ (.tail _ (.head _))) ⟨rfl,rfl,rfl,rfl,rfl⟩
  · exact ruled_of_ite (Option.mem_toList.mp images) (.tail _ (.tail _ (.tail _ (.head _)))) ⟨rfl,rfl,rfl,rfl,rfl⟩

theorem scaling_ruled {f : Finding} (member : f ∈ scalingAnalyzer.analyze snapshot) : f.Ruled := by
  obtain ⟨hpa,_,made⟩ := List.mem_filterMap.mp member
  exact ruled_of_ite made (.tail _ (.tail _ (.tail _ (.tail _ (.head _))))) ⟨rfl,rfl,rfl,rfl,rfl⟩

theorem specialist_ruled {f : Finding} {analyzer : Analyzer} (listed : analyzer ∈ specialists lower)
    (member : f ∈ analyzer.analyze snapshot) : f.Ruled := by
  simp only [specialists,List.mem_cons,List.not_mem_nil,or_false] at listed
  rcases listed with rfl | rfl | rfl
  · exact workloadHealth_ruled member
  · exact reliability_ruled member
  · exact scaling_ruled member

theorem value_injective : Function.Injective Value.json := by
  intro left right same
  cases left <;> cases right <;> simp_all [Value.json,text_injective.eq_iff]

theorem value_flat (value : Value) : sortKeys value.json = value.json := by
  cases value <;> rfl

theorem stable_whole (f : Finding) : WholeTexts f.stable := by
  have fields : WholeFields (dictFields Value.json f.evidence) := by
    refine wholeFields_iff.mpr fun entry member => ?_
    obtain ⟨row,_,rfl⟩ := List.mem_map.mp member
    obtain ⟨name,value⟩ := row
    cases value with
    | str s => exact ⟨text_whole name,text_whole s⟩
    | int n => exact ⟨text_whole name,trivial⟩
    | bool b => exact ⟨text_whole name,trivial⟩
  rw [Finding.stable]
  simp only [WholeTexts,WholeFields,text_whole,true_and,and_true]
  exact fields

theorem stable_sorted (f : Finding) : sortKeys f.stable =
    .obj [(text "analyzer",.str (text f.analyzer)),(text "cluster",.str (text f.cluster)),(text "code",.str (text f.code)),
      (text "evidence",sortKeys (.obj (dictFields Value.json f.evidence))),
      (text "namespace",.str (text f.namespace_)),(text "resource",.str (text f.resource))] := rfl

-- The code of a finding gives away its severity, its summary and the names of
-- its evidence, so that the fields under the hash determine the others.
theorem ruled_exact {f g : Finding} (ruled : f.Ruled) (also : g.Ruled) (same : f.stableBytes = g.stableBytes) : f = g := by
  have sorted := compactDumps_injective intText_numbering (stable_whole f) (stable_whole g) same
  rw [stable_sorted,stable_sorted] at sorted
  have fields := Json.obj.inj sorted
  simp only [List.cons.injEq,Prod.mk.injEq,true_and,and_true,Json.str.injEq,text_injective.eq_iff,
    dictFields_exact value_injective value_flat] at fields
  obtain ⟨analyzer,cluster,code,values,namespace_,resource⟩ := fields
  obtain ⟨rule,listed,follows⟩ := ruled
  obtain ⟨other,alsoListed,followsToo⟩ := also
  have unique : (rules.map Rule.code).Nodup := by decide
  have codes : rule.code = other.code := follows.code.symm.trans (code.trans followsToo.code)
  cases List.inj_on_of_nodup_map unique listed alsoListed codes
  have evidence := follows.keys.trans followsToo.keys.symm
  have severity := follows.severity.trans followsToo.severity.symm
  have summary := follows.summary.trans followsToo.summary.symm
  exact Finding.ext analyzer code severity cluster namespace_ resource summary (Dict.eq_of_gets evidence values)

structure Reordered (snapshot other : ClusterSnapshot) : Prop where
  cluster : snapshot.cluster = other.cluster
  collectedAt : snapshot.collectedAt = other.collectedAt
  workloads : snapshot.workloads.Perm other.workloads
  autoscalers : snapshot.autoscalers.Perm other.autoscalers

theorem specialist_perm {analyzer : Analyzer} (listed : analyzer ∈ specialists lower)
    (reordered : Reordered snapshot other) : (analyzer.analyze snapshot).Perm (analyzer.analyze other) := by
  simp only [specialists,List.mem_cons,List.not_mem_nil,or_false] at listed
  rcases listed with rfl | rfl | rfl
  · simp only [workloadHealthAnalyzer,reordered.cluster]
    exact reordered.workloads.flatMap_right _
  · simp only [reliabilityAnalyzer,reordered.cluster]
    exact reordered.workloads.flatMap_right _
  · simp only [scalingAnalyzer,reordered.cluster]
    exact reordered.autoscalers.filterMap _

theorem init_specialized {analyzers : List Analyzer} (specialized : analyzers ⊆ specialists lower) (maxWorkers : Int) :
    (ParallelAnalyzer.init lower analyzers maxWorkers).analyzers ⊆ specialists lower := by
  simp only [ParallelAnalyzer.init]
  split
  · exact List.Subset.refl _
  · exact specialized

theorem init_perm {analyzers others : List Analyzer} (moved : analyzers.Perm others) (lower : String → String)
    (maxWorkers : Int) : (ParallelAnalyzer.init lower analyzers maxWorkers).analyzers.Perm
        (ParallelAnalyzer.init lower others maxWorkers).analyzers ∧
      (ParallelAnalyzer.init lower analyzers maxWorkers).maxWorkers =
        (ParallelAnalyzer.init lower others maxWorkers).maxWorkers := by
  cases analyzers with
  | nil =>
    cases List.nil_perm.mp moved
    exact ⟨.refl _,rfl⟩
  | cons first rest =>
    have nonempty : others ≠ [] := by
      intro none
      rw [none] at moved
      exact absurd moved.length_eq (by simp)
    simp only [ParallelAnalyzer.init,if_neg nonempty,if_neg (List.cons_ne_nil first rest)]
    exact ⟨moved,by rw [moved.length_eq]⟩

theorem init_workers (lower : String → String) (analyzers : List Analyzer) (maxWorkers : Int) :
    0 < (ParallelAnalyzer.init lower analyzers maxWorkers).maxWorkers ↔ 0 < maxWorkers := by
  have some : 0 < (if analyzers = [] then specialists lower else analyzers).length := by
    split
    · exact Nat.zero_lt_succ 2
    · rename_i nonempty
      exact List.length_pos_iff.mpr nonempty
  simp only [ParallelAnalyzer.init]
  omega

theorem found_perm {parallel moved : ParallelAnalyzer} (specialized : parallel.analyzers ⊆ specialists lower)
    (analyzers : parallel.analyzers.Perm moved.analyzers) (reordered : Reordered snapshot other) :
    (parallel.found snapshot).Perm (moved.found other) := by
  unfold ParallelAnalyzer.found
  rw [← List.flatMap_def,← List.flatMap_def]
  have inside := List.Perm.flatMap_left parallel.analyzers fun analyzer listed =>
    specialist_perm (specialized listed) reordered
  exact inside.trans (analyzers.flatMap_right _)

theorem found_ruled {parallel : ParallelAnalyzer} (specialized : parallel.analyzers ⊆ specialists lower) {f : Finding}
    (member : f ∈ parallel.found snapshot) : f.Ruled := by
  unfold ParallelAnalyzer.found at member
  rw [← List.flatMap_def] at member
  obtain ⟨analyzer,listed,inside⟩ := List.mem_flatMap.mp member
  exact specialist_ruled (specialized listed) inside

def CollisionFree (sha256 : List UInt8 → String) (findings : List Finding) : Prop :=
  ∀ f ∈ findings, ∀ g ∈ findings, f.fingerprint sha256 = g.fingerprint sha256 → f.stableBytes = g.stableBytes

instance (sha256 : List UInt8 → String) (findings : List Finding) : Decidable (CollisionFree sha256 findings) :=
  inferInstanceAs (Decidable (∀ f ∈ findings, ∀ g ∈ findings, _ → _))

theorem analyze_perm {parallel moved : ParallelAnalyzer} (specialized : parallel.analyzers ⊆ specialists lower)
    (analyzers : parallel.analyzers.Perm moved.analyzers) (workers : parallel.maxWorkers = moved.maxWorkers)
    (reordered : Reordered snapshot other) (collisionFree : CollisionFree sha256 (parallel.found snapshot)) :
    parallel.analyze sha256 snapshot = moved.analyze sha256 other := by
  have together := found_perm specialized analyzers reordered
  have sorted : sortBy (Finding.fingerprint sha256) (parallel.found snapshot) =
      sortBy (Finding.fingerprint sha256) (moved.found other) := by
    apply sortBy_eq together
    intro f member g also same
    exact ruled_exact (found_ruled specialized member) (found_ruled specialized also) (collisionFree f member g also same)
  unfold ParallelAnalyzer.analyze
  rw [workers,together.all_eq,reordered.cluster,reordered.collectedAt,sorted]

structure Lists (sha256 : List UInt8 → String) (batches : List Finding) (report : HealthReport) : Prop where
  complete : report.findings.Perm batches
  sorted : report.findings.Pairwise fun f g => f.fingerprint sha256 ≤ g.fingerprint sha256

theorem analyze_lists {parallel : ParallelAnalyzer} (analyzed : parallel.analyze sha256 snapshot = .ok report) :
    Lists sha256 (parallel.found snapshot) report := by
  unfold ParallelAnalyzer.analyze at analyzed
  split at analyzed
  · cases analyzed
  · split at analyzed
    · cases Except.ok.inj analyzed
      exact ⟨sortBy_perm _ _,sortBy_pairwise _ _⟩
    · cases analyzed

theorem analyze_returns {parallel : ParallelAnalyzer} (workers : 0 < parallel.maxWorkers)
    (spelled : ∀ f ∈ parallel.found snapshot, f.spelled = true) (sha256 : List UInt8 → String) :
    ∃ report, parallel.analyze sha256 snapshot = .ok report := by
  unfold ParallelAnalyzer.analyze
  rw [if_neg (Int.not_le.mpr workers),if_pos (List.all_eq_true.mpr spelled)]
  exact ⟨_,rfl⟩

-- The order in which a cluster is listed and in which the specialists are given
-- does not show in the report.
theorem analysis_deterministic (sha256 : List UInt8 → String) (lower : String → String) (analyzers : List Analyzer)
    (maxWorkers : Int) (snapshot : ClusterSnapshot) (specialized : analyzers ⊆ specialists lower)
    (collisionFree : CollisionFree sha256 ((ParallelAnalyzer.init lower analyzers maxWorkers).found snapshot)) :
    (∀ others other, analyzers.Perm others → Reordered snapshot other →
      (ParallelAnalyzer.init lower analyzers maxWorkers).analyze sha256 snapshot =
        (ParallelAnalyzer.init lower others maxWorkers).analyze sha256 other) ∧
    (0 < maxWorkers → (∀ f ∈ (ParallelAnalyzer.init lower analyzers maxWorkers).found snapshot, f.spelled = true) →
      ∃ report, (ParallelAnalyzer.init lower analyzers maxWorkers).analyze sha256 snapshot = .ok report) ∧
    (∀ report, (ParallelAnalyzer.init lower analyzers maxWorkers).analyze sha256 snapshot = .ok report →
      Lists sha256 ((ParallelAnalyzer.init lower analyzers maxWorkers).found snapshot) report) ∧
    (∀ left ∈ specialists lower, ∀ right ∈ specialists lower, ∀ (other another : ClusterSnapshot),
      ∀ f ∈ left.analyze other, ∀ g ∈ right.analyze another, CollisionFree sha256 [f,g] →
        f.fingerprint sha256 = g.fingerprint sha256 → f = g) := by
  have all := init_specialized specialized maxWorkers
  refine ⟨?_,?_,?_,?_⟩
  · intro others other moved reordered
    obtain ⟨permuted,workers⟩ := init_perm moved lower maxWorkers
    exact analyze_perm all permuted workers reordered collisionFree
  · intro workers spelled
    exact analyze_returns ((init_workers lower analyzers maxWorkers).mpr workers) spelled sha256
  · exact fun report analyzed => analyze_lists analyzed
  · intro left listed right alsoListed other another f member g also apart same
    apply ruled_exact (specialist_ruled listed member) (specialist_ruled alsoListed also)
    exact apart f (by simp) g (by simp) same

def payments : Workload where
  kind := "Deployment"
  namespace_ := "shop"
  name := "payments"
  uid := "uid-1"
  resourceVersion := "7"
  desiredReplicas := 3
  readyReplicas := 1
  images := ["shop/payments:latest"]

def ledger : Workload :=
  {payments with name := "ledger", uid := "uid-2", readyReplicas := 3, images := ["shop/ledger:1.4"]}

def shop (workloads : List Workload) : ClusterSnapshot where
  cluster := "test"
  collectedAt := 0
  workloads := workloads
  autoscalers := [⟨"shop","payments","payments",10,10⟩]

def lowered (kind : String) : String := if kind = "Deployment" then "deployment" else kind

-- The SHA-256 of the three texts that are hashed, which differ in length.
def digests (bytes : List UInt8) : String :=
  match bytes.length with
  | 160 => "a87479b436cd789f97b1163d0f41a35455ece91c424e9527a011d03938f373ce"
  | 167 => "4e0833a33eb6a77f5f27fbfa995c1edac568d85d349b54de05d87b8bada0bcf9"
  | _ => "2c6edc197b8603e30a2a8675ba233b5a709a7a23c87d1e933375ccd13bcb9e9c"

theorem shop_reordered : ∃ report,
    (ParallelAnalyzer.init lowered (specialists lowered) 3).analyze digests (shop [payments,ledger]) = .ok report ∧
    (ParallelAnalyzer.init lowered (specialists lowered).reverse 3).analyze digests (shop [ledger,payments]) = .ok report ∧
    report.findings.map Finding.code = ["HPA_AT_MAX","MUTABLE_IMAGE_TAG","UNDER_REPLICATED"] := by
  have collisionFree : CollisionFree digests
      ((ParallelAnalyzer.init lowered (specialists lowered) 3).found (shop [payments,ledger])) := by decide +kernel
  have codes : ((ParallelAnalyzer.init lowered (specialists lowered) 3).analyze digests (shop [payments,ledger])).toOption.map
      (fun report => report.findings.map Finding.code) =
        some ["HPA_AT_MAX","MUTABLE_IMAGE_TAG","UNDER_REPLICATED"] := by decide +kernel
  obtain ⟨report,made,listed⟩ := Option.map_eq_some_iff.mp codes
  have analyzed := Raising.toOption_ok.mp made
  obtain ⟨same,_⟩ := analysis_deterministic digests lowered (specialists lowered) 3 (shop [payments,ledger])
    (List.Subset.refl _) collisionFree
  have reordered : Reordered (shop [payments,ledger]) (shop [ledger,payments]) :=
    ⟨rfl,rfl,.swap _ _ _,.refl _⟩
  refine ⟨report,analyzed,?_,listed⟩
  rw [← same (specialists lowered).reverse (shop [ledger,payments]) (List.reverse_perm _).symm reordered]
  exact analyzed

end OpenModelOps.SreAnalyzers
