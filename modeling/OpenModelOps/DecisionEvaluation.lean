import OpenModelOps.Binary64
import OpenModelOps.DecisionContracts
import OpenModelOps.OrderedDict
import OpenModelOps.RunHistory

namespace OpenModelOps.DecisionEvaluation
open Binary64 JsonText KeyedTable PythonFloat PythonNumber PythonText DecisionContracts RunHistory

-- time.monotonic().
abbrev Time := ℚ

structure CircuitBreaker where
  failureThreshold : Int := 3
  resetSeconds : PyFloat := .finite 30
  failures : Int := 0
  openedAt : Option Time := none

def CircuitBreaker.allow (runtime : Runtime) (breaker : CircuitBreaker) (now : Time) : Bool × CircuitBreaker :=
  match breaker.openedAt with
  | none => (true,breaker)
  | some opened =>
    if PyFloat.le breaker.resetSeconds (runtime.sub (.finite now) (.finite opened)) then
      (true,{breaker with failures := 0, openedAt := none})
    else (false,breaker)

def CircuitBreaker.success (breaker : CircuitBreaker) : CircuitBreaker :=
  {breaker with failures := 0, openedAt := none}

def CircuitBreaker.failure (breaker : CircuitBreaker) (now : Time) : CircuitBreaker :=
  let counted := {breaker with failures := breaker.failures + 1}
  if counted.failureThreshold ≤ counted.failures then {counted with openedAt := some now} else counted

structure Provider where
  providerId : String
  providerRevision : String

structure DecisionEngine where
  provider : Provider
  fallback : Provider
  policyVersion : String
  stateSchemaVersion : String
  cacheCapacity : Nat := 1000
  breaker : CircuitBreaker := {}
  cache : Dict Text DecisionOutput := Table.empty

-- One call of evaluate with what it meets: what each provider would do if it
-- were asked now, and the times at which allow and failure read the clock.
structure Call where
  traceId : String
  state : State
  question : QuestionDefinition
  primary : Except String DecisionOutput
  fallback : Except String DecisionOutput
  allowedAt : Time
  failedAt : Time
  decisionId : String
  timestamp : Instant

inductive Failure where
  -- state omitted required fields
  | omitted (missing : List Text)
  | invalid (message : String)
  | raised (error : String)

def validate (runtime : Runtime) (output : DecisionOutput) (question : QuestionDefinition) : Except String Unit :=
  let names := output.probabilities.rows.map Prod.fst
  let shares := Dict.values output.probabilities
  match question.decisionType with
  | .choice =>
    if output.value.among question.options = false then
      .error "choice provider returned an unknown option"
    else if names ≠ [] ∧ ¬ (names ⊆ question.options ∧ question.options ⊆ names) then
      .error "choice probabilities must cover every option exactly"
    else if shares.any fun share => PyFloat.lt share (.finite 0) || PyFloat.lt (.finite 1) share then
      .error "choice probabilities must be between zero and one"
    -- the double nearest to 0.001
    else if names ≠ [] ∧ PyFloat.lt (.finite (1152921504606847 / 1152921504606846976))
        (PyFloat.abs (runtime.sub (runtime.sum shares) (.finite 1))) = true then
      .error "choice probabilities must sum to one"
    else .ok ()
  | type =>
    match output.value with
    | .text _ => .error "score and probability decisions require numeric values"
    | .number x =>
      if type = .probability ∧ ¬ (PyFloat.le (.finite 0) x && PyFloat.le x (.finite 1)) = true then
        .error "probability decision must be between zero and one"
      else if type = .score ∧ ¬ (PyFloat.le question.minimumScore x && PyFloat.le x question.maximumScore) = true then
        .error "score decision is outside the registered range"
      else .ok ()

-- provider.decide followed by _validate.
def checked (runtime : Runtime) (answer : Except String DecisionOutput) (question : QuestionDefinition) :
    Except Failure DecisionOutput :=
  match answer with
  | .error error => .error (.raised error)
  | .ok output => match validate runtime output question with
    | .error message => .error (.invalid message)
    | .ok _ => .ok output

def missingState (call : Call) : List Text :=
  (((call.question.requiredState.map text).filter fun name =>
    !(call.state.fields.map Prod.fst).contains name).dedup).insertionSort fun a b => textLe a b = true

namespace DecisionEngine

def cacheKey (runtime : Runtime) (engine : DecisionEngine) (digest : String) (question : QuestionDefinition) : Text :=
  write runtime.number [0x2c] [0x3a] (strings [digest,question.digest runtime,engine.provider.providerRevision,
    engine.policyVersion,engine.stateSchemaVersion])

def keyOf (runtime : Runtime) (engine : DecisionEngine) (call : Call) : Text :=
  engine.cacheKey runtime (stateDigest runtime call.state) call.question

def cached (runtime : Runtime) (engine : DecisionEngine) (call : Call) : Option DecisionOutput :=
  if call.question.cacheable then Dict.get engine.cache (engine.keyOf runtime call) else none

def store (runtime : Runtime) (engine : DecisionEngine) (call : Call) (output : DecisionOutput) : DecisionEngine :=
  if call.question.cacheable then
    {engine with cache := Dict.evict engine.cacheCapacity (Dict.set engine.cache (engine.keyOf runtime call) output)}
  else engine

def disposition (output : DecisionOutput) (question : QuestionDefinition) (usedFallback : Bool) : Disposition :=
  if PyFloat.lt output.confidence question.confidenceThreshold then .humanReview
  else if usedFallback then .fallback else .accepted

def record (runtime : Runtime) (engine : DecisionEngine) (call : Call) (usedFallback : Bool) (output : DecisionOutput) :
    DecisionRecord :=
  let provider := if usedFallback then engine.fallback else engine.provider
  { decisionId := call.decisionId
    traceId := call.traceId
    provider := provider.providerId
    providerRevision := provider.providerRevision
    questionId := call.question.questionId
    questionVersion := call.question.version
    questionDigest := call.question.digest runtime
    policyVersion := engine.policyVersion
    stateSchemaVersion := engine.stateSchemaVersion
    stateDigest := stateDigest runtime call.state
    output := output
    disposition := disposition output call.question usedFallback
    timestamp := call.timestamp }

end DecisionEngine

inductive Moment where
  | reset (time : Time)
  | succeeded (time : Time)
  | failed (time : Time)
  deriving DecidableEq

structure Evaluation where
  outcome : Except Failure DecisionRecord
  engine : DecisionEngine
  moments : List Moment

def resets (breaker : CircuitBreaker) (now : Time) : List Moment :=
  match breaker.openedAt with
  | none => []
  | some _ => [.reset now]

def evaluate (runtime : Runtime) (engine : DecisionEngine) (call : Call) : Evaluation :=
  if missingState call ≠ [] then ⟨.error (.omitted (missingState call)),engine,[]⟩
  else match engine.cached runtime call with
    | some output =>
      ⟨.ok (engine.record runtime call false output),
        {engine with cache := Dict.moveToEnd engine.cache (engine.keyOf runtime call)},[]⟩
    | none =>
      let answeredByFallback := (checked runtime call.fallback call.question).map (engine.record runtime call true)
      match engine.breaker.allow runtime call.allowedAt with
      | (true,breaker) =>
        let cleared := resets engine.breaker call.allowedAt
        match checked runtime call.primary call.question with
        | .ok output =>
          ⟨.ok (engine.record runtime call false output),
            DecisionEngine.store runtime {engine with breaker := breaker.success} call output,
            cleared ++ [.succeeded call.allowedAt]⟩
        | .error _ =>
          ⟨answeredByFallback,{engine with breaker := breaker.failure call.failedAt},
            cleared ++ [.failed call.allowedAt]⟩
      | (false,breaker) => ⟨answeredByFallback,{engine with breaker := breaker},[]⟩

inductive Course (runtime : Runtime) (engine : DecisionEngine) (call : Call) : Evaluation → Prop where
  | omitted : missingState call ≠ [] → Course runtime engine call ⟨.error (.omitted (missingState call)),engine,[]⟩
  | hit {output : DecisionOutput} : missingState call = [] → engine.cached runtime call = some output →
      Course runtime engine call ⟨.ok (engine.record runtime call false output),
        {engine with cache := Dict.moveToEnd engine.cache (engine.keyOf runtime call)},[]⟩
  | answered {breaker : CircuitBreaker} {output : DecisionOutput} : missingState call = [] →
      engine.cached runtime call = none → engine.breaker.allow runtime call.allowedAt = (true,breaker) →
      checked runtime call.primary call.question = .ok output →
      Course runtime engine call ⟨.ok (engine.record runtime call false output),
        DecisionEngine.store runtime {engine with breaker := breaker.success} call output,
        resets engine.breaker call.allowedAt ++ [.succeeded call.allowedAt]⟩
  | failed {breaker : CircuitBreaker} {reason : Failure} : missingState call = [] →
      engine.cached runtime call = none → engine.breaker.allow runtime call.allowedAt = (true,breaker) →
      checked runtime call.primary call.question = .error reason →
      Course runtime engine call ⟨(checked runtime call.fallback call.question).map (engine.record runtime call true),
        {engine with breaker := breaker.failure call.failedAt},
        resets engine.breaker call.allowedAt ++ [.failed call.allowedAt]⟩
  | denied : missingState call = [] → engine.cached runtime call = none →
      engine.breaker.allow runtime call.allowedAt = (false,engine.breaker) →
      Course runtime engine call ⟨(checked runtime call.fallback call.question).map (engine.record runtime call true),
        engine,[]⟩

section Courses
variable {runtime : Runtime} {engine : DecisionEngine} {call : Call} {breaker : CircuitBreaker} {output : DecisionOutput}

theorem fallback_ok {record : DecisionRecord}
    (done : (checked runtime call.fallback call.question).map (engine.record runtime call true) = .ok record) :
    ∃ output, checked runtime call.fallback call.question = .ok output ∧ engine.record runtime call true output = record := by
  cases answer : checked runtime call.fallback call.question with
  | error reason => rw [answer] at done; cases done
  | ok output =>
    rw [answer] at done
    exact ⟨output,rfl,Except.ok.inj done⟩

theorem allow_cases (runtime : Runtime) (breaker : CircuitBreaker) (now : Time) :
    (breaker.openedAt = none ∧ breaker.allow runtime now = (true,breaker)) ∨
    (∃ opened, breaker.openedAt = some opened ∧
      PyFloat.le breaker.resetSeconds (runtime.sub (.finite now) (.finite opened)) = true ∧
      breaker.allow runtime now = (true,breaker.success)) ∨
    (∃ opened, breaker.openedAt = some opened ∧
      PyFloat.le breaker.resetSeconds (runtime.sub (.finite now) (.finite opened)) = false ∧
      breaker.allow runtime now = (false,breaker)) := by
  unfold CircuitBreaker.allow
  cases opening : breaker.openedAt with
  | none => exact .inl ⟨rfl,rfl⟩
  | some opened =>
    cases lasted : PyFloat.le breaker.resetSeconds (runtime.sub (.finite now) (.finite opened)) with
    | true => exact .inr (.inl ⟨opened,rfl,lasted,if_pos lasted⟩)
    | false => exact .inr (.inr ⟨opened,rfl,lasted,if_neg (ne_true_of_eq_false lasted)⟩)

theorem allow_denied (denied : engine.breaker.allow runtime now = (false,breaker)) : breaker = engine.breaker := by
  rcases allow_cases runtime engine.breaker now with ⟨_,allowed⟩ | ⟨_,_,_,allowed⟩ | ⟨_,_,_,allowed⟩
  · rw [allowed] at denied; cases denied
  · rw [allowed] at denied; cases denied
  · rw [allowed] at denied; cases denied; rfl

theorem evaluate_course (runtime : Runtime) (engine : DecisionEngine) (call : Call) :
    Course runtime engine call (evaluate runtime engine call) := by
  unfold evaluate
  split
  · rename_i missing
    exact .omitted missing
  · rename_i present
    have complete := not_not.mp present
    split
    · rename_i output found
      exact .hit complete found
    · rename_i missed
      split
      · rename_i breaker allowed
        split
        · rename_i output passed
          exact .answered complete missed allowed passed
        · rename_i reason refused
          exact .failed complete missed allowed refused
      · rename_i breaker denied
        cases allow_denied denied
        exact .denied complete missed denied

theorem checked_ok (passed : checked runtime answer question = .ok output) :
    answer = .ok output ∧ validate runtime output question = .ok () := by
  unfold checked at passed
  split at passed
  · cases passed
  · split at passed
    · cases passed
    · rename_i validated
      cases Except.ok.inj passed
      exact ⟨rfl,validated⟩

end Courses

def advance (runtime : Runtime) (engine : DecisionEngine) (call : Call) : Option DecisionEngine :=
  some (evaluate runtime engine call).engine

def routeQuestion : QuestionDefinition where
  questionId := "agent.route"
  version := "1.0.0"
  decisionType := .choice
  description := "Route the incident"
  owner := "sre"
  requiredState := ["signal"]
  options := ["kubernetes","human"]
  confidenceThreshold := .finite 1
  cacheable := true
  bounded := by decide +kernel
  configured := by decide +kernel

def routed (option : String) : DecisionOutput where
  value := .text option
  confidence := .finite 1
  probabilities := Table.empty
  rationale := ""
  bounded := by decide

def stateOf (fields : List (String × Json PyNumber)) (unique : (fields.map Prod.fst).Nodup)
    (whole : ∀ entry ∈ fields, WholeTexts entry.2) : State where
  fields := fields.map fun entry => (text entry.1,entry.2)
  unique := by
    have names : (fields.map fun entry => (text entry.1,entry.2)).map Prod.fst = (fields.map Prod.fst).map text := by
      rw [List.map_map,List.map_map]
      rfl
    rw [names]
    exact unique.map text_injective
  whole := wholeFields_iff.mpr (by
    intro entry member
    obtain ⟨given,listed,rfl⟩ := List.mem_map.mp member
    exact ⟨text_whole given.1,whole given listed⟩)

def crash : State := stateOf [("signal",.str (text "crash")),("restarts",.num (.int 3))] (by decide)
  (by simp [WholeTexts,text_whole])

-- The same dictionary, built in another order.
def crashAgain : State := stateOf [("restarts",.num (.int 3)),("signal",.str (text "crash"))] (by decide)
  (by simp [WholeTexts,text_whole])

def slow : State := stateOf [("signal",.str (text "slow"))] (by decide) (by simp [WholeTexts,text_whole])

def finitePart : PyFloat → ℚ
  | .finite value => value
  | _ => 0

-- The digests are those of SHA-256 on the canonical texts of the question and
-- of the two states.
def liveRuntime : Runtime where
  sha256 bytes :=
    if bytes = asciiBytes (text "\x7b\"restarts\":3,\"signal\":\"crash\"\x7d") then
      "c596879e5867bb9e9665a8ea8d869273265df0dc8bd46ee6418e01f70e67df1b"
    else if bytes = asciiBytes (text "\x7b\"signal\":\"slow\"\x7d") then
      "68c1baadd6db5874e9f9686f0ab44ae6e14545272a6dcbeea97f9d51cf61d7d5"
    else "66c4e2ec8983602da1a37f677bf2ccb9772f964007469f8af0a0ebbf89dba021"
  number := numberText
  sum shares := .finite (shares.map finitePart).sum
  sub x y := .finite (nearest (finitePart x - finitePart y))

def liveEngine : DecisionEngine where
  provider := ⟨"structured-primary","v1"⟩
  fallback := ⟨"rules","v1"⟩
  policyVersion := "policy-v1"
  stateSchemaVersion := "state-v1"
  cacheCapacity := 2
  breaker := {failureThreshold := 2}

def callAt (state : State) (primary : Except String DecisionOutput) (now : Time) : Call :=
  ⟨"trace",state,routeQuestion,primary,.ok (routed "human"),now,now + 1,"decision",0⟩

end OpenModelOps.DecisionEvaluation
