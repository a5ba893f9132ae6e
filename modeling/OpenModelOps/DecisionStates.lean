import OpenModelOps.DecisionCache
import OpenModelOps.PythonValue

namespace OpenModelOps.DecisionStates
open JsonText KeyedTable PythonFloat PythonNumber PythonText PythonValue RunHistory
open DecisionContracts (Runtime QuestionDefinition DecisionOutput DecisionRecord canonicalBytes digestOf)
open DecisionEvaluation (Time Failure DecisionEngine Evaluation checked checked_ok resets allow_denied)
open DecisionCache (Configured cacheKey_parts question_exact)
variable {ω : Type} {runtime : Runtime} {shown : ω → Option Str}

-- Any dict that is given as a state. ω is the type of the objects that JSON
-- does not have, shown is str() of them.
abbrev Mapping (ω : Type) := List (Key ω × Value ω)

def stateBytes (runtime : Runtime) (shown : ω → Option Str) (state : Mapping ω) : Option (List UInt8) :=
  (document runtime.number shown (.dict state)).map fun v => asciiBytes (write runtime.number [0x2c] [0x3a] v)

-- none is an exception of json.dumps or of str().
def stateDigest (runtime : Runtime) (shown : ω → Option Str) (state : Mapping ω) : Option String :=
  (stateBytes runtime shown state).map fun bytes => "sha256:" ++ runtime.sha256 bytes

structure StateCall (ω : Type) where
  traceId : String
  state : Mapping ω
  question : QuestionDefinition
  primary : Except String DecisionOutput
  fallback : Except String DecisionOutput
  allowedAt : Time
  failedAt : Time
  decisionId : String
  timestamp : Instant

def names (state : Mapping ω) (name : Text) : Bool :=
  state.any fun entry => entry.1.isStr && decide (entry.1.stripped = name)

def missingState (call : StateCall ω) : List Text :=
  (((call.question.requiredState.map text).filter fun name => !names call.state name).dedup).insertionSort
    fun a b => textLe a b = true

def cached (engine : DecisionEngine) (question : QuestionDefinition) (key : Text) : Option DecisionOutput :=
  if question.cacheable then Dict.get engine.cache key else none

def store (engine : DecisionEngine) (question : QuestionDefinition) (key : Text) (output : DecisionOutput) :
    DecisionEngine :=
  if question.cacheable then
    {engine with cache := Dict.evict engine.cacheCapacity (Dict.set engine.cache key output)}
  else engine

def record (runtime : Runtime) (engine : DecisionEngine) (call : StateCall ω) (digest : String) (usedFallback : Bool)
    (output : DecisionOutput) : DecisionRecord :=
  let provider := if usedFallback then engine.fallback else engine.provider
  { decisionId := call.decisionId
    traceId := call.traceId
    provider := provider.providerId
    providerRevision := provider.providerRevision
    questionId := call.question.questionId
    questionVersion := call.question.version
    questionDigest := call.question.digest runtime
    policyVersion := engine.policyVersion
    stateSchemaVersion := engine.stateSchemaVersion
    stateDigest := digest
    output := output
    disposition := DecisionEngine.disposition output call.question usedFallback
    timestamp := call.timestamp }

def answer (runtime : Runtime) (engine : DecisionEngine) (call : StateCall ω) (digest : String) : Evaluation :=
  let key := engine.cacheKey runtime digest call.question
  match cached engine call.question key with
  | some output =>
    ⟨.ok (record runtime engine call digest false output),{engine with cache := Dict.moveToEnd engine.cache key},[]⟩
  | none =>
    let answeredByFallback := (checked runtime call.fallback call.question).map (record runtime engine call digest true)
    match engine.breaker.allow runtime call.allowedAt with
    | (true,breaker) =>
      let cleared := resets engine.breaker call.allowedAt
      match checked runtime call.primary call.question with
      | .ok output =>
        ⟨.ok (record runtime engine call digest false output),
          store {engine with breaker := breaker.success} call.question key output,
          cleared ++ [.succeeded call.allowedAt]⟩
      | .error _ =>
        ⟨answeredByFallback,{engine with breaker := breaker.failure call.failedAt},cleared ++ [.failed call.allowedAt]⟩
    | (false,breaker) => ⟨answeredByFallback,{engine with breaker := breaker},[]⟩

def evaluate (runtime : Runtime) (shown : ω → Option Str) (engine : DecisionEngine) (call : StateCall ω) : Evaluation :=
  if missingState call ≠ [] then ⟨.error (.omitted (missingState call)),engine,[]⟩
  else match stateDigest runtime shown call.state with
    | none => ⟨.error (.raised "the state has no JSON document"),engine,[]⟩
    | some digest => answer runtime engine call digest

def advance (runtime : Runtime) (shown : ω → Option Str) (engine : DecisionEngine) (call : StateCall ω) :
    Option DecisionEngine :=
  some (evaluate runtime shown engine call).engine

theorem stateDigest_parts (made : stateDigest runtime shown state = some digest) :
    ∃ v, document runtime.number shown (.dict state) = some v ∧
      stateBytes runtime shown state = some (asciiBytes (write runtime.number [0x2c] [0x3a] v)) ∧
      digest = "sha256:" ++ runtime.sha256 (asciiBytes (write runtime.number [0x2c] [0x3a] v)) := by
  obtain ⟨bytes,encoded,rfl⟩ := Option.map_eq_some_iff.mp made
  have given := encoded
  obtain ⟨v,document,rfl⟩ := Option.map_eq_some_iff.mp encoded
  exact ⟨v,document,given,rfl⟩

-- The texts that are hashed do not share a digest.
def CollisionFree (runtime : Runtime) (hashed : List (List UInt8)) : Prop :=
  ∀ left ∈ hashed, ∀ right ∈ hashed, runtime.sha256 left = runtime.sha256 right → left = right

def canonicalState (runtime : Runtime) (shown : ω → Option Str) (state : Mapping ω) : Option (Json PyNumber) :=
  canonical runtime.number shown (.dict state)

def hashedStates (runtime : Runtime) (shown : ω → Option Str) (states : List (Mapping ω)) : List (List UInt8) :=
  states.filterMap (stateBytes runtime shown)

theorem digest_exact (numbering : Numbering runtime.number) {state other : Mapping ω} {digest another : String}
    (collisionFree : CollisionFree runtime (hashedStates runtime shown [state,other]))
    (made : stateDigest runtime shown state = some digest) (also : stateDigest runtime shown other = some another) :
    digest = another ↔ canonicalState runtime shown state = canonicalState runtime shown other := by
  obtain ⟨v,document,bytes,rfl⟩ := stateDigest_parts made
  obtain ⟨w,documentToo,bytesToo,rfl⟩ := stateDigest_parts also
  have texts := dumps_exact numbering document documentToo
  have ascii : ∀ v : Json PyNumber, ∀ c ∈ write runtime.number [0x2c] [0x3a] v, c < 0x80 := write_ascii numbering
  rw [canonicalState,canonicalState,← texts]
  constructor
  · intro same
    have hashes : runtime.sha256 (asciiBytes (write runtime.number [0x2c] [0x3a] v)) =
        runtime.sha256 (asciiBytes (write runtime.number [0x2c] [0x3a] w)) := by
      apply String.toList_injective
      have lists := congrArg String.toList same
      simp only [String.toList_append] at lists
      exact List.append_cancel_left lists
    have listed : ∀ {s : Mapping ω} {b : List UInt8}, s ∈ [state,other] → stateBytes runtime shown s = some b →
        b ∈ hashedStates runtime shown [state,other] := fun member given => List.mem_filterMap.mpr ⟨_,member,given⟩
    have equal := collisionFree _ (listed (by simp) bytes) _ (listed (by simp) bytesToo) hashes
    exact asciiBytes_injective (ascii v) (ascii w) equal
  · exact fun same => by rw [same]

def ofState (state : DecisionContracts.State) : Mapping ω := ofFields state.fields state.whole

theorem document_ofState {state : DecisionContracts.State} (spelled : EachNumber Spelled state.json) :
    document runtime.number shown (.dict (ofState state : Mapping ω)) = some (sortKeys state.json) :=
  document_ofJson state.json state.whole spelled

theorem stateDigest_ofState {state : DecisionContracts.State} (spelled : EachNumber Spelled state.json) :
    stateDigest runtime shown (ofState state : Mapping ω) = some (DecisionContracts.stateDigest runtime state) := by
  rw [stateDigest,stateBytes,document_ofState spelled]
  rfl

def ofCall (call : DecisionEvaluation.Call) : StateCall ω where
  traceId := call.traceId
  state := ofState call.state
  question := call.question
  primary := call.primary
  fallback := call.fallback
  allowedAt := call.allowedAt
  failedAt := call.failedAt
  decisionId := call.decisionId
  timestamp := call.timestamp

theorem names_ofFields (fields : List (Text × Json PyNumber)) (whole : WholeFields fields) (name : Text) :
    names (ofFields fields whole : Mapping ω) name = (fields.map Prod.fst).contains name := by
  match fields with
  | [] => rfl
  | (key,value) :: rest =>
    have later := @names_ofFields rest whole.2.2 name
    unfold names at later ⊢
    rw [ofFields,List.any_cons,later,List.map_cons,List.contains_cons]
    simp [Key.isStr,Key.stripped,beq_eq_decide,eq_comm]

theorem evaluate_ofCall (engine : DecisionEngine) {call : DecisionEvaluation.Call}
    (spelled : EachNumber Spelled call.state.json) :
    evaluate runtime shown engine (ofCall call : StateCall ω) = DecisionEvaluation.evaluate runtime engine call := by
  have missing : missingState (ofCall call : StateCall ω) = DecisionEvaluation.missingState call := by
    simp only [missingState,DecisionEvaluation.missingState,ofCall,ofState,names_ofFields]
  have digest := @stateDigest_ofState ω runtime shown call.state spelled
  unfold evaluate DecisionEvaluation.evaluate
  rw [missing]
  simp only [ofCall,digest]
  rfl

section Runs
variable {start engine : DecisionEngine} {call : StateCall ω} {earlier : List (StateCall ω)}

structure Entered (runtime : Runtime) (shown : ω → Option Str) (engine : DecisionEngine) (call : StateCall ω)
    (row : Text × DecisionOutput) : Prop where
  key : ∃ digest, stateDigest runtime shown call.state = some digest ∧
    row.1 = engine.cacheKey runtime digest call.question
  returned : call.primary = .ok row.2

theorem store_entered (digest : stateDigest runtime shown call.state = some d) {before : DecisionEngine}
    (passed : checked runtime call.primary call.question = .ok output) {row : Text × DecisionOutput}
    (member : row ∈ (store before call.question (engine.cacheKey runtime d call.question) output).cache.rows)
    (cache : before.cache = engine.cache) :
    row ∈ engine.cache.rows ∨ Entered runtime shown engine call row := by
  unfold store at member
  split at member
  · rw [cache] at member
    rcases Dict.set_mem (Dict.evict_mem member) with rfl | old
    · exact .inr ⟨⟨d,digest,rfl⟩,(checked_ok passed).1⟩
    · exact .inl old
  · rw [cache] at member
    exact .inl member

theorem evaluate_entered {row : Text × DecisionOutput}
    (member : row ∈ (evaluate runtime shown engine call).engine.cache.rows) :
    row ∈ engine.cache.rows ∨ Entered runtime shown engine call row := by
  unfold evaluate at member
  split at member
  · exact .inl member
  split at member
  · exact .inl member
  rename_i digest made
  unfold answer at member
  dsimp only at member
  split at member
  · exact .inl (Dict.moveToEnd_mem.mp member)
  split at member
  · split at member
    · rename_i output passed
      exact store_entered made passed member rfl
    · exact .inl member
  · exact .inl member

theorem store_configured (question : QuestionDefinition) (key : Text) (output : DecisionOutput)
    (configured : Configured start engine) : Configured start (store engine question key output) := by
  obtain ⟨provider,fallback,policy,schema,capacity⟩ := configured
  unfold store
  split
  · exact ⟨provider,fallback,policy,schema,capacity⟩
  · exact ⟨provider,fallback,policy,schema,capacity⟩

theorem evaluate_configured (configured : Configured start engine) (call : StateCall ω) :
    Configured start (evaluate runtime shown engine call).engine := by
  have kept := configured
  obtain ⟨provider,fallback,policy,schema,capacity⟩ := configured
  unfold evaluate
  split
  · exact kept
  split
  · exact kept
  unfold answer
  dsimp only
  split
  · exact ⟨provider,fallback,policy,schema,capacity⟩
  split
  · split
    · apply store_configured
      exact ⟨provider,fallback,policy,schema,capacity⟩
    · exact ⟨provider,fallback,policy,schema,capacity⟩
  · exact ⟨provider,fallback,policy,schema,capacity⟩

structure Sound (runtime : Runtime) (shown : ω → Option Str) (start : DecisionEngine) (calls : List (StateCall ω))
    (engine : DecisionEngine) : Prop where
  configured : Configured start engine
  entered : ∀ row ∈ engine.cache.rows, ∃ asked ∈ calls, Entered runtime shown start asked row

theorem step_sound (sound : Sound runtime shown start earlier engine) (call : StateCall ω) :
    Sound runtime shown start (earlier ++ [call]) (evaluate runtime shown engine call).engine := by
  refine ⟨evaluate_configured sound.configured call,?_⟩
  intro row member
  rcases evaluate_entered member with old | entered
  · obtain ⟨asked,listed,found⟩ := sound.entered row old
    exact ⟨asked,List.mem_append_left _ listed,found⟩
  · obtain ⟨digest,made,key⟩ := entered.key
    rw [sound.configured.cacheKey] at key
    exact ⟨call,by simp,⟨digest,made,key⟩,entered.returned⟩

theorem run_sound (fresh : start.cache = Table.empty) (path : Runs (advance runtime shown) start earlier engine) :
    Sound runtime shown start earlier engine := by
  have empty : start.cache.rows = [] := by rw [fresh]; rfl
  refine path.recorded (fun _ sound taken => ?_) ⟨⟨rfl,rfl,rfl,rfl,rfl⟩,by simp [empty]⟩
  cases Option.some.inj taken
  exact step_sound sound _

def hit (runtime : Runtime) (shown : ω → Option Str) (engine : DecisionEngine) (call : StateCall ω) :
    Option DecisionOutput :=
  (stateDigest runtime shown call.state).bind fun digest =>
    cached engine call.question (engine.cacheKey runtime digest call.question)

def hashed (runtime : Runtime) (shown : ω → Option Str) (calls : List (StateCall ω)) : List (List UInt8) :=
  hashedStates runtime shown (calls.map StateCall.state) ++
    calls.map fun call => canonicalBytes runtime call.question.modelDump

theorem CollisionFree.mono {some all : List (List UInt8)} (collisionFree : CollisionFree runtime all)
    (within : some ⊆ all) : CollisionFree runtime some :=
  fun left member right also same => collisionFree left (within member) right (within also) same

theorem evaluate_hit (complete : missingState call = []) (found : hit runtime shown engine call = some output) :
    ∃ digest, stateDigest runtime shown call.state = some digest ∧
      (evaluate runtime shown engine call).outcome = .ok (record runtime engine call digest false output) := by
  obtain ⟨digest,made,looked⟩ := Option.bind_eq_some_iff.mp found
  refine ⟨digest,made,?_⟩
  simp [evaluate,complete,made,answer,looked]

end Runs

def strOf (s : String) : Str := ⟨text s,text_coded s⟩

def listed : Mapping Empty := [(.str (strOf "signal"),.list [.str (strOf "crash")])]

def numbered : Mapping Empty := [(.int 1,.str (strOf "a"))]

def asking (state : Mapping Empty) (now : Time) : StateCall Empty :=
  ⟨"trace",state,DecisionEvaluation.routeQuestion,.ok (DecisionEvaluation.routed "kubernetes"),
    .ok (DecisionEvaluation.routed "human"),now,now + 1,"decision",0⟩

instance decideCollisionFree (runtime : Runtime) (hashed : List (List UInt8)) : Decidable (CollisionFree runtime hashed) :=
  inferInstanceAs (Decidable (∀ left ∈ hashed, ∀ right ∈ hashed, _))

end OpenModelOps.DecisionStates
