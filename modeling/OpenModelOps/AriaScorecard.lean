import OpenModelOps.AriaIntelligence
import OpenModelOps.PythonChoice
import OpenModelOps.PythonFloat

namespace OpenModelOps.AriaScorecard
open JsonText PythonFloat PythonChoice AriaIntelligence

-- float(): an int can be too large, and a str need not spell a number.
structure Floats where
  ofInt : Int → Option PyFloat
  ofDecimal : ℚ → PyFloat
  ofText : Text → Option PyFloat

def Floats.float (floats : Floats) : Json Number → Option PyFloat
  | .num (.int n) => floats.ofInt n
  | .num (.real q) => some (floats.ofDecimal q)
  | .num .nan => some .nan
  | .num .infinity => some .infinity
  | .num .negInfinity => some .negInfinity
  | .bool value => some (.finite (if value then 1 else 0))
  | .str t => floats.ofText t
  | _ => none

-- json.loads of a stored payload; only a dict has a get.
def payloadOf (row : EvidenceRow) : Option (List (Text × Json Number)) :=
  match loadsText row.payload with
  | some (.obj fields) => some fields
  | _ => none

def spells (value : Option (Json Number)) (t : Text) : Bool :=
  match value with
  | some (.str u) => decide (u = t)
  | _ => false

def concerns (tenant workloadId : Text) (payload : List (Text × Json Number)) : Bool :=
  spells (field payload (text "tenant")) tenant && spells (field payload (text "workload_id")) workloadId

-- A list or a dict is neither a key nor a member of a set.
def hashable : Json Number → Bool
  | .arr _ => false
  | .obj _ => false
  | _ => true

def severityRank : List (Text × Nat) := [(text "low",1),(text "medium",2),(text "high",3),(text "critical",4)]

-- severity_rank.get(item.get("severity", "low"), 0).
def rankOf (item : List (Text × Json Number)) : Nat :=
  match (field item (text "severity")).getD (.str (text "low")) with
  | .str t => ((severityRank.find? fun entry => decide (entry.1 = t)).map Prod.snd).getD 0
  | _ => 0

-- item.get("severity") in {"critical", "high"}.
def severe (item : List (Text × Json Number)) : Bool :=
  equals (field item (text "severity")) "critical" || equals (field item (text "severity")) "high"

structure Scorecard where
  workloadId : Text
  signals : Nat
  criticalOrHigh : Nat
  highestSeverity : Json Number
  minimumConfidence : Option PyFloat
  releaseGateImpact : String
  automaticPromotion : Bool

def card (workloadId : Text) (matching : List (List (Text × Json Number))) (confidences : List PyFloat) : Scorecard :=
  let highest := maxBy rankOf matching
  { workloadId := workloadId
    signals := matching.length
    criticalOrHigh := matching.countP severe
    highestSeverity := (highest.bind fun item => field item (text "severity")).getD .null
    minimumConfidence := pick (fun item best => PyFloat.lt item best) confidences
    releaseGateImpact := if highest.any severe then "fail-candidate" else "none"
    automaticPromotion := false }

-- AriaIntelligenceStore.scorecard; none is an exception of its own or of the
-- readers of the payloads.
def scorecard (floats : Floats) (evidence : Evidence) (tenant workloadId : Text) : Option Scorecard :=
  (evidence.table.rows.mapM payloadOf).bind fun payloads =>
    let matching := payloads.filter (concerns tenant workloadId)
    if matching.any (fun item => (field item (text "severity")).any fun value => !hashable value) then none
    else
      let confidences := matching.mapM fun item => floats.float ((field item (text "confidence")).getD (.num (.int 0)))
      confidences.map (card workloadId matching)

end OpenModelOps.AriaScorecard
