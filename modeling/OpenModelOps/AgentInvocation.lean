import OpenModelOps.AgentPolicy
import OpenModelOps.JsonBytes
import OpenModelOps.RunHistory

namespace OpenModelOps.AgentInvocation
open AgentPolicy RunHistory
open JsonText (encode)

structure ModelEndpoint where
  name : String
  revision : String
  baseUrl : String
  protocol : String := "openai-compatible"
  timeoutSeconds : Int := 60
  named : name ≠ "" ∧ revision ≠ ""
  http : "http://".toList <+: baseUrl.toList ∨ "https://".toList <+: baseUrl.toList
  timed : 1 ≤ timeoutSeconds ∧ timeoutSeconds ≤ 600

structure AgentRelease where
  name : String
  revision : String
  prompt : String
  model : ModelEndpoint
  isProtected : Bool := true

-- latency is the exact difference of two readings of time.monotonic().
structure Trace where
  traceId : String
  agent : String
  revision : String
  modelRevision : String
  status : String
  latencyMs : ℚ
  promptDigest : String
  inputDigest : String
  reasons : List String := []
  deriving DecidableEq

-- What the runtime takes from outside: the hex digest of SHA-256 and the word
-- characters of \b.
structure Settings where
  sha256 : List UInt8 → String
  isWord : Char → Bool

-- guardrail and telemetry tell whether there is one.
structure AgentRuntime where
  guardrail : Bool
  telemetry : Bool := false
  traces : List Trace := []

inductive Raised where
  | guardrailUnavailable (message : String)
  | model (error : String)
  deriving DecidableEq

-- A call of invoke with what it meets: the new id, the clock, and the model
-- client, which returns any text or raises.
structure Call where
  release : AgentRelease
  userInput : String
  traceId : String
  generate : ModelEndpoint → String → String → Except String String
  started : ℚ
  finished : ℚ

structure Generation where
  endpoint : ModelEndpoint
  systemPrompt : String
  userInput : String

structure Response where
  traceId : String
  status : String
  response : String
  deriving DecidableEq

-- What the body of the try statement leaves.
structure Attempt where
  outcome : Except Raised Response
  status : String
  reasons : List String
  generations : List Generation

structure Invocation where
  outcome : Except Raised Response
  runtime : AgentRuntime
  generations : List Generation
  operations : List (List (String × String))

variable {settings : Settings} {runtime : AgentRuntime} {call : Call}

def digest (settings : Settings) (text : String) : String := "sha256:" ++ settings.sha256 (encode text)

def check (settings : Settings) (runtime : AgentRuntime) (release : AgentRelease) (text : String) :
    Except Raised GuardrailResult :=
  if runtime.guardrail = false then
    if release.isProtected then
      .error (.guardrailUnavailable "protected agent requires an available guardrail")
    else .ok ⟨true,text,[]⟩
  else .ok (LocalGuardrail.check settings.isWord text)

def attempt (settings : Settings) (runtime : AgentRuntime) (call : Call) : Attempt :=
  match check settings runtime call.release call.userInput with
  | .error raised => ⟨.error raised,"error",[],[]⟩
  | .ok inbound =>
    if inbound.allowed = false then
      ⟨.ok ⟨call.traceId,"blocked_input",inbound.safeText⟩,"blocked_input",inbound.reasons,[]⟩
    else
      let generations := [⟨call.release.model,call.release.prompt,inbound.safeText⟩]
      match call.generate call.release.model call.release.prompt inbound.safeText with
      | .error error => ⟨.error (.model error),"error",[],generations⟩
      | .ok response => match check settings runtime call.release response with
        | .error raised => ⟨.error raised,"error",[],generations⟩
        | .ok outbound =>
          if outbound.allowed = false then
            ⟨.ok ⟨call.traceId,"blocked_output",outbound.safeText⟩,"blocked_output",outbound.reasons,generations⟩
          else ⟨.ok ⟨call.traceId,"success",outbound.safeText⟩,"success",[],generations⟩

-- The trace of the finally block.
def traceOf (settings : Settings) (call : Call) (attempt : Attempt) : Trace where
  traceId := call.traceId
  agent := call.release.name
  revision := call.release.revision
  modelRevision := call.release.model.revision
  status := attempt.status
  latencyMs := (call.finished - call.started) * 1000
  promptDigest := digest settings call.release.prompt
  inputDigest := digest settings call.userInput
  reasons := attempt.reasons

def operation (settings : Settings) (call : Call) : List (String × String) :=
  [("agent.name",call.release.name),("agent.revision",call.release.revision),("model.name",call.release.model.name),
   ("model.revision",call.release.model.revision),("input.digest",digest settings call.userInput)]

def invoke (settings : Settings) (runtime : AgentRuntime) (call : Call) : Invocation :=
  let attempt := attempt settings runtime call
  { outcome := attempt.outcome
    runtime := {runtime with traces := runtime.traces ++ [traceOf settings call attempt]}
    generations := attempt.generations
    operations := if runtime.telemetry then [operation settings call] else [] }

def advance (settings : Settings) (runtime : AgentRuntime) (call : Call) : Option AgentRuntime :=
  some (invoke settings runtime call).runtime

def Passes (settings : Settings) (runtime : AgentRuntime) (release : AgentRelease) (text : String) : Prop :=
  ∃ verdict, check settings runtime release text = .ok verdict ∧ verdict.allowed = true ∧ verdict.safeText = text

def refusal : Raised := .guardrailUnavailable "protected agent requires an available guardrail"

inductive Course (settings : Settings) (runtime : AgentRuntime) (call : Call) : Attempt → Prop where
  | unguarded : runtime.guardrail = false → call.release.isProtected = true →
      Course settings runtime call ⟨.error refusal,"error",[],[]⟩
  | blockedInput {text : String} {reasons : List String} : runtime.guardrail = true →
      Passes settings runtime call.release text →
      Course settings runtime call ⟨.ok ⟨call.traceId,"blocked_input",text⟩,"blocked_input",reasons,[]⟩
  | failed {error : String} : Passes settings runtime call.release call.userInput →
      Course settings runtime call
        ⟨.error (.model error),"error",[],[⟨call.release.model,call.release.prompt,call.userInput⟩]⟩
  | answered {response status : String} {reasons : List String} :
      Passes settings runtime call.release call.userInput → Passes settings runtime call.release response →
      Course settings runtime call ⟨.ok ⟨call.traceId,status,response⟩,status,reasons,
        [⟨call.release.model,call.release.prompt,call.userInput⟩]⟩

theorem check_ok (checked : check settings runtime release text = .ok verdict) :
    runtime.guardrail = false ∧ release.isProtected = false ∧ verdict = ⟨true,text,[]⟩ ∨
      runtime.guardrail = true ∧ verdict = LocalGuardrail.check settings.isWord text := by
  unfold check at checked
  split at checked
  · rename_i absent
    split at checked
    · cases checked
    · rename_i unprotected
      exact .inl ⟨absent,by simpa using unprotected,(Except.ok.inj checked).symm⟩
  · rename_i present
    exact .inr ⟨by simpa using present,(Except.ok.inj checked).symm⟩

theorem check_error (refused : check settings runtime release text = .error raised) :
    runtime.guardrail = false ∧ release.isProtected = true ∧ raised = refusal := by
  unfold check at refused
  split at refused
  · rename_i absent
    split at refused
    · rename_i guarded
      exact ⟨absent,guarded,(Except.error.inj refused).symm⟩
    · cases refused
  · cases refused

theorem check_unguarded (absent : runtime.guardrail = false) (guarded : release.isProtected = true) (text : String) :
    check settings runtime release text = .error refusal := by
  simp [check,absent,guarded,refusal]

theorem verdict_passes (checked : check settings runtime release text = .ok verdict) :
    Passes settings runtime release verdict.safeText := by
  obtain ⟨absent,unprotected,same⟩ | ⟨present,same⟩ := check_ok checked
  · subst same
    exact ⟨_,by simp [check,absent,unprotected],rfl,rfl⟩
  · subst same
    have allowed := safeText_allowed settings.isWord text
    refine ⟨_,by simp only [check,present,Bool.true_eq_false,if_false],allowed,?_⟩
    rw [check_safeText,if_pos allowed]

theorem allowed_passes (checked : check settings runtime release text = .ok verdict)
    (allowed : ¬verdict.allowed = false) : verdict.safeText = text ∧ Passes settings runtime release text := by
  have same : verdict.safeText = text := by
    obtain ⟨_,_,same⟩ | ⟨_,same⟩ := check_ok checked
    · subst same
      rfl
    · subst same
      rw [check_safeText,if_pos (by simpa using allowed)]
  have passed := verdict_passes checked
  rw [same] at passed
  exact ⟨same,passed⟩

theorem attempt_course (settings : Settings) (runtime : AgentRuntime) (call : Call) :
    Course settings runtime call (attempt settings runtime call) := by
  unfold attempt
  cases inputChecked : check settings runtime call.release call.userInput with
  | error raised =>
    obtain ⟨absent,guarded,same⟩ := check_error inputChecked
    subst same
    exact .unguarded absent guarded
  | ok inbound =>
    dsimp only
    split
    · rename_i blocked
      obtain ⟨_,_,same⟩ | ⟨present,_⟩ := check_ok inputChecked
      · rw [same] at blocked
        cases blocked
      · exact .blockedInput present (verdict_passes inputChecked)
    · rename_i allowed
      obtain ⟨same,passed⟩ := allowed_passes inputChecked allowed
      rw [same]
      cases call.generate call.release.model call.release.prompt call.userInput with
      | error error => exact .failed passed
      | ok response =>
        dsimp only
        cases outputChecked : check settings runtime call.release response with
        | error raised =>
          -- The second check cannot refuse where the first did not.
          obtain ⟨absent,guarded,_⟩ := check_error outputChecked
          rw [check_unguarded absent guarded] at inputChecked
          cases inputChecked
        | ok outbound =>
          have released := verdict_passes outputChecked
          dsimp only
          split
          · exact .answered passed released
          · exact .answered passed released

-- A trace tells which call it is of and how that call ended.
structure Records (settings : Settings) (call : Call) (outcome : Except Raised Response) (trace : Trace) : Prop where
  identity : trace.traceId = call.traceId
  promptDigest : trace.promptDigest = digest settings call.release.prompt
  inputDigest : trace.inputDigest = digest settings call.userInput
  returned : ∀ response, outcome = .ok response → trace.traceId = response.traceId ∧ trace.status = response.status
  failed : ∀ error, outcome = .error error → trace.status = "error"

structure Guarded (settings : Settings) (runtime : AgentRuntime) (call : Call) (result : Invocation) : Prop where
  once : result.generations.length ≤ 1
  sent : ∀ generation ∈ result.generations, generation = ⟨call.release.model,call.release.prompt,call.userInput⟩ ∧
    Passes settings runtime call.release generation.userInput
  answered : ∀ response, result.outcome = .ok response → Passes settings runtime call.release response.response
  closed : runtime.guardrail = false → call.release.isProtected = true →
    result.generations = [] ∧ result.outcome = .error refusal
  traced : ∃ trace, result.runtime = {runtime with traces := runtime.traces ++ [trace]} ∧
    Records settings call result.outcome trace

theorem trace_records {attempt : Attempt} (course : Course settings runtime call attempt) :
    Records settings call attempt.outcome (traceOf settings call attempt) := by
  refine ⟨rfl,rfl,rfl,?_,?_⟩
  · intro response returned
    cases course with
    | unguarded => cases returned
    | failed => cases returned
    | blockedInput =>
      cases returned
      exact ⟨rfl,rfl⟩
    | answered =>
      cases returned
      exact ⟨rfl,rfl⟩
  · intro error raised
    cases course with
    | unguarded => rfl
    | failed => rfl
    | blockedInput => cases raised
    | answered => cases raised

theorem Passes.open (passed : Passes settings runtime release text) (absent : runtime.guardrail = false) :
    release.isProtected = false := by
  obtain ⟨verdict,checked,_⟩ := passed
  obtain ⟨_,unprotected,_⟩ | ⟨present,_⟩ := check_ok checked
  · exact unprotected
  · rw [absent] at present
    cases present

theorem invoke_guarded (settings : Settings) (runtime : AgentRuntime) (call : Call) :
    Guarded settings runtime call (invoke settings runtime call) := by
  have course := attempt_course settings runtime call
  have recorded := trace_records course
  unfold invoke
  generalize attempt settings runtime call = tried at course recorded
  refine ⟨?_,?_,?_,?_,_,rfl,recorded⟩
  · cases course <;> simp
  · intro generation member
    cases course with
    | unguarded => cases member
    | blockedInput => cases member
    | failed passed =>
      cases List.mem_singleton.mp member
      exact ⟨rfl,passed⟩
    | answered passed =>
      cases List.mem_singleton.mp member
      exact ⟨rfl,passed⟩
  · intro response returned
    cases course with
    | unguarded => cases returned
    | failed => cases returned
    | blockedInput _ passed =>
      cases returned
      exact passed
    | answered _ released =>
      cases returned
      exact released
  · intro absent guarded
    cases course with
    | unguarded => exact ⟨rfl,rfl⟩
    | blockedInput present => simp [absent] at present
    | failed passed => simp [passed.open absent] at guarded
    | answered passed => simp [passed.open absent] at guarded

example : let endpoint : ModelEndpoint :=
      ⟨"echo","2","http://models","openai-compatible",60,by decide,by decide +kernel,by decide⟩
    let call : String → Call := fun text =>
      ⟨⟨"support","1","be brief",endpoint,true⟩,text,"t",fun endpoint _ text => .ok (endpoint.name ++ ": " ++ text),0,1⟩
    let settings : Settings := ⟨fun _ => "",ascii⟩
    (invoke settings ⟨true,false,[]⟩ (call "password=super-secret")).outcome =
        .ok ⟨"t","blocked_input",LocalGuardrail.blockedText⟩ ∧
      (invoke settings ⟨true,false,[]⟩ (call "hello")).outcome = .ok ⟨"t","success","echo: hello"⟩ ∧
      (invoke settings ⟨false,false,[]⟩ (call "hello")).outcome = .error refusal := by decide +kernel

theorem attempt_frame (traces : List Trace) :
    attempt settings {runtime with traces := traces} call = attempt settings runtime call := rfl

theorem run_traces (settings : Settings) (runtime : AgentRuntime) (calls : List Call) :
    consume (advance settings) runtime calls = some {runtime with
      traces := runtime.traces ++ calls.map fun call => traceOf settings call (attempt settings runtime call)} := by
  induction calls generalizing runtime with
  | nil => simp [consume]
  | cons call calls ih =>
    simp only [consume,advance,Option.bind_some,ih]
    simp [invoke,attempt_frame]

theorem invocations_guarded (settings : Settings) (runtime : AgentRuntime) :
    (∀ call, Guarded settings runtime call (invoke settings runtime call)) ∧
      ∀ calls, ∃ traces, consume (advance settings) runtime calls =
          some {runtime with traces := runtime.traces ++ traces} ∧
        List.Forall₂ (fun call trace => Records settings call (invoke settings runtime call).outcome trace) calls traces := by
  refine ⟨invoke_guarded settings runtime,?_⟩
  intro calls
  refine ⟨_,run_traces settings runtime calls,?_⟩
  apply List.forall₂_map_right_iff.mpr
  apply List.forall₂_same.mpr
  intro call member
  exact trace_records (attempt_course settings runtime call)

end OpenModelOps.AgentInvocation
