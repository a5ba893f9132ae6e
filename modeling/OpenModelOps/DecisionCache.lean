import OpenModelOps.DecisionEvaluation

namespace OpenModelOps.DecisionCache
open JsonText KeyedTable PythonFloat PythonNumber DecisionContracts DecisionEvaluation RunHistory
variable {runtime : Runtime} {start engine : DecisionEngine} {call asked : Call} {calls earlier later : List Call}
  {evaluation : Evaluation} {output : DecisionOutput} {record : DecisionRecord}

def Produced (runtime : Runtime) (start : DecisionEngine) (calls : List Call) (asked : Call) (output : DecisionOutput) :
    Prop :=
  ∃ earlier later middle, calls = earlier ++ asked :: later ∧ Runs (advance runtime) start earlier middle ∧
    .succeeded asked.allowedAt ∈ (evaluate runtime middle asked).moments ∧ asked.primary = .ok output ∧
    validate runtime output asked.question = .ok ()

theorem Produced.extend (produced : Produced runtime start calls asked output) (more : List Call) :
    Produced runtime start (calls ++ more) asked output := by
  obtain ⟨earlier,later,middle,rfl,path,moment,returned,validated⟩ := produced
  refine ⟨earlier,later ++ more,middle,?_,path,moment,returned,validated⟩
  rw [List.append_assoc,List.cons_append]

theorem Produced.asked_mem (produced : Produced runtime start calls asked output) : asked ∈ calls := by
  obtain ⟨earlier,later,_,rfl,_⟩ := produced
  exact List.mem_append_right _ List.mem_cons_self

structure Configured (start engine : DecisionEngine) : Prop where
  provider : engine.provider = start.provider
  fallback : engine.fallback = start.fallback
  policyVersion : engine.policyVersion = start.policyVersion
  stateSchemaVersion : engine.stateSchemaVersion = start.stateSchemaVersion
  cacheCapacity : engine.cacheCapacity = start.cacheCapacity

theorem Configured.cacheKey (configured : Configured start engine) (digest : String) (question : QuestionDefinition) :
    engine.cacheKey runtime digest question = start.cacheKey runtime digest question := by
  simp only [DecisionEngine.cacheKey,configured.provider,configured.policyVersion,configured.stateSchemaVersion]

theorem Configured.keyOf (configured : Configured start engine) (call : Call) :
    engine.keyOf runtime call = start.keyOf runtime call :=
  configured.cacheKey _ _

theorem Course.configured (course : Course runtime engine call evaluation) (configured : Configured start engine) :
    Configured start evaluation.engine := by
  obtain ⟨provider,fallback,policy,schema,capacity⟩ := configured
  cases course with
  | omitted _ => exact ⟨provider,fallback,policy,schema,capacity⟩
  | hit _ _ => exact ⟨provider,fallback,policy,schema,capacity⟩
  | answered _ _ _ _ =>
    unfold DecisionEngine.store
    split <;> exact ⟨provider,fallback,policy,schema,capacity⟩
  | failed _ _ _ _ => exact ⟨provider,fallback,policy,schema,capacity⟩
  | denied _ _ _ => exact ⟨provider,fallback,policy,schema,capacity⟩

structure Entered (runtime : Runtime) (engine : DecisionEngine) (call : Call) (evaluation : Evaluation)
    (row : Text × DecisionOutput) : Prop where
  key : row.1 = engine.keyOf runtime call
  moment : .succeeded call.allowedAt ∈ evaluation.moments
  returned : call.primary = .ok row.2
  validated : validate runtime row.2 call.question = .ok ()
  cacheable : call.question.cacheable = true

theorem Course.entered (course : Course runtime engine call evaluation) {row : Text × DecisionOutput}
    (member : row ∈ evaluation.engine.cache.rows) :
    row ∈ engine.cache.rows ∨ Entered runtime engine call evaluation row := by
  cases course with
  | omitted _ => exact .inl member
  | hit _ _ => exact .inl (Dict.moveToEnd_mem.mp member)
  | @answered breaker output _ _ _ passed =>
    unfold DecisionEngine.store at member
    split at member
    · rename_i cacheable
      rcases Dict.set_mem (Dict.evict_mem member) with rfl | old
      · obtain ⟨returned,validated⟩ := checked_ok passed
        exact .inr ⟨rfl,by simp,returned,validated,cacheable⟩
      · exact .inl old
    · exact .inl member
  | failed _ _ _ _ => exact .inl member
  | denied _ _ _ => exact .inl member

theorem Course.bounded (course : Course runtime engine call evaluation)
    (bounded : engine.cache.rows.length ≤ engine.cacheCapacity) :
    evaluation.engine.cache.rows.length ≤ engine.cacheCapacity := by
  cases course with
  | omitted _ => exact bounded
  | hit _ _ => rwa [(Dict.moveToEnd_perm engine.cache _).length_eq]
  | answered _ _ _ _ =>
    unfold DecisionEngine.store
    split
    · exact Dict.popWhile_length _ _
    · exact bounded
  | failed _ _ _ _ => exact bounded
  | denied _ _ _ => exact bounded

structure Sound (runtime : Runtime) (start : DecisionEngine) (calls : List Call) (engine : DecisionEngine) : Prop where
  configured : Configured start engine
  bounded : engine.cache.rows.length ≤ start.cacheCapacity
  produced : ∀ row ∈ engine.cache.rows, ∃ asked, Produced runtime start calls asked row.2 ∧
    asked.question.cacheable = true ∧ row.1 = start.keyOf runtime asked

theorem step_sound (path : Runs (advance runtime) start earlier engine) (sound : Sound runtime start earlier engine)
    (call : Call) : Sound runtime start (earlier ++ [call]) (evaluate runtime engine call).engine := by
  have course := evaluate_course runtime engine call
  refine ⟨Course.configured course sound.configured,?_,fun row member => ?_⟩
  · have within := sound.bounded
    rw [← sound.configured.cacheCapacity] at within ⊢
    exact Course.bounded course within
  · rcases Course.entered course member with old | entered
    · obtain ⟨asked,produced,cacheable,key⟩ := sound.produced row old
      exact ⟨asked,produced.extend [call],cacheable,key⟩
    · exact ⟨call,⟨earlier,[],engine,rfl,path,entered.moment,entered.returned,entered.validated⟩,entered.cacheable,
        entered.key.trans (sound.configured.keyOf call)⟩

theorem run_sound (fresh : start.cache = Table.empty) (path : Runs (advance runtime) start calls engine) :
    Sound runtime start calls engine := by
  have empty : start.cache.rows = [] := by rw [fresh]; rfl
  refine path.recorded (fun reached sound taken => ?_) ⟨⟨rfl,rfl,rfl,rfl,rfl⟩,by simp [empty],by simp [empty]⟩
  cases Option.some.inj taken
  exact step_sound reached sound _

-- No two of the texts that the calls hash share a digest.
def hashed (runtime : Runtime) (calls : List Call) : List (List UInt8) :=
  calls.flatMap fun call => [canonicalBytes runtime call.state.json,canonicalBytes runtime call.question.modelDump]

def CollisionFree (runtime : Runtime) (calls : List Call) : Prop :=
  ∀ left ∈ hashed runtime calls, ∀ right ∈ hashed runtime calls,
    runtime.sha256 left = runtime.sha256 right → left = right

theorem state_hashed (member : call ∈ calls) : canonicalBytes runtime call.state.json ∈ hashed runtime calls :=
  List.mem_flatMap.mpr ⟨call,member,List.mem_cons_self⟩

theorem question_hashed (member : call ∈ calls) :
    canonicalBytes runtime call.question.modelDump ∈ hashed runtime calls :=
  List.mem_flatMap.mpr ⟨call,member,List.mem_cons_of_mem _ List.mem_cons_self⟩

theorem cacheKey_parts (numbering : Numbering runtime.number) {digest another : String} {q u : QuestionDefinition}
    (same : start.cacheKey runtime digest q = start.cacheKey runtime another u) :
    digest = another ∧ q.digest runtime = u.digest runtime := by
  have parts := strings_injective (write_injective numbering ⟨[],rfl⟩ (strings_whole _) (strings_whole _) same)
  obtain ⟨states,rest⟩ := List.cons.inj parts
  exact ⟨states,(List.cons.inj rest).1⟩

theorem question_exact (numbering : Numbering runtime.number) {q u : QuestionDefinition}
    (collisionFree : runtime.sha256 (canonicalBytes runtime q.modelDump) =
      runtime.sha256 (canonicalBytes runtime u.modelDump) →
        canonicalBytes runtime q.modelDump = canonicalBytes runtime u.modelDump)
    (same : q.digest runtime = u.digest runtime) : q = u :=
  question_ext (modelDump_injective (digestOf_injective numbering (modelDump_whole _) (modelDump_whole _)
    collisionFree same))

theorem keyOf_injective (numbering : Numbering runtime.number) (collisionFree : CollisionFree runtime calls)
    (left : asked ∈ calls) (right : call ∈ calls) (same : start.keyOf runtime asked = start.keyOf runtime call) :
    asked.state.Equal call.state ∧ asked.question = call.question := by
  obtain ⟨states,questions⟩ := cacheKey_parts numbering same
  constructor
  · exact digestOf_injective numbering asked.state.whole call.state.whole
      (collisionFree _ (state_hashed left) _ (state_hashed right)) states
  · exact question_exact numbering (collisionFree _ (question_hashed left) _ (question_hashed right)) questions

theorem cached_row (found : engine.cached runtime call = some output) :
    call.question.cacheable = true ∧ (engine.keyOf runtime call,output) ∈ engine.cache.rows := by
  unfold DecisionEngine.cached at found
  split at found
  · rename_i cacheable
    exact ⟨cacheable,Dict.get_row.mp found⟩
  · cases found

theorem Sound.hit (numbering : Numbering runtime.number) (collisionFree : CollisionFree runtime calls)
    (sound : Sound runtime start earlier engine) (listed : ∀ asked ∈ earlier, asked ∈ calls) (present : call ∈ calls)
    (found : engine.cached runtime call = some output) :
    ∃ asked, Produced runtime start earlier asked output ∧ asked.state.Equal call.state ∧
      asked.question = call.question := by
  obtain ⟨asked,produced,_,key⟩ := sound.produced _ (cached_row found).2
  rw [sound.configured.keyOf] at key
  exact ⟨asked,produced,keyOf_injective numbering collisionFree (listed asked produced.asked_mem) present key.symm⟩

def ProducedFor (runtime : Runtime) (start : DecisionEngine) (calls : List Call) (call : Call) (output : DecisionOutput) :
    Prop :=
  ∃ asked, Produced runtime start calls asked output ∧ asked.state.Equal call.state ∧ asked.question = call.question

theorem ProducedFor.extend (produced : ProducedFor runtime start calls call output) (more : List Call) :
    ProducedFor runtime start (calls ++ more) call output := by
  obtain ⟨asked,produced,state,question⟩ := produced
  exact ⟨asked,produced.extend more,state,question⟩

def Named (record : DecisionRecord) (provider : Provider) : Prop :=
  record.provider = provider.providerId ∧ record.providerRevision = provider.providerRevision

structure Answers (runtime : Runtime) (start engine : DecisionEngine) (earlier : List Call) (call : Call)
    (evaluation : Evaluation) : Prop where
  validated : ∀ record, evaluation.outcome = .ok record → validate runtime record.output call.question = .ok ()
  hits : ∀ output, missingState call = [] → engine.cached runtime call = some output →
    ProducedFor runtime start earlier call output ∧
      ∃ record, evaluation.outcome = .ok record ∧ record.output = output
  bounded : evaluation.engine.cache.rows.length ≤ start.cacheCapacity
  entered : ∀ row ∈ evaluation.engine.cache.rows, row ∈ engine.cache.rows ∨ Entered runtime engine call evaluation row
  sources : ∀ row ∈ evaluation.engine.cache.rows, ∃ asked, Produced runtime start (earlier ++ [call]) asked row.2 ∧
    asked.question.cacheable = true ∧ asked.question.riskTier ≠ .critical
  named : ∀ record, evaluation.outcome = .ok record →
    (Named record start.provider ∧ ProducedFor runtime start (earlier ++ [call]) call record.output) ∨
    (Named record start.fallback ∧ call.fallback = .ok record.output ∧ engine.cached runtime call = none ∧
      ∀ time, .succeeded time ∉ evaluation.moments)
  reviewed : ∀ record, evaluation.outcome = .ok record → (record.disposition = .humanReview ↔
    PyFloat.lt record.output.confidence call.question.confidenceThreshold = true)

theorem disposition_review (output : DecisionOutput) (question : QuestionDefinition) (usedFallback : Bool) :
    DecisionEngine.disposition output question usedFallback = .humanReview ↔
      PyFloat.lt output.confidence question.confidenceThreshold = true := by
  unfold DecisionEngine.disposition
  cases PyFloat.lt output.confidence question.confidenceThreshold with
  | true => simp
  | false => cases usedFallback <;> simp

theorem Course.outcome (course : Course runtime engine call evaluation) (done : evaluation.outcome = .ok record) :
    ∃ usedFallback output, record = engine.record runtime call usedFallback output ∧
      ((usedFallback = false ∧ engine.cached runtime call = some output) ∨
       (usedFallback = false ∧ checked runtime call.primary call.question = .ok output ∧
          .succeeded call.allowedAt ∈ evaluation.moments) ∨
       (usedFallback = true ∧ checked runtime call.fallback call.question = .ok output ∧
          engine.cached runtime call = none ∧ ∀ time, .succeeded time ∉ evaluation.moments)) := by
  have unsucceeded : ∀ time, .succeeded time ∉ resets engine.breaker call.allowedAt ++ [.failed call.allowedAt] := by
    intro time member
    unfold resets at member
    split at member <;> simp at member
  cases course with
  | omitted _ => cases done
  | @hit output _ found => exact ⟨false,output,(Except.ok.inj done).symm,.inl ⟨rfl,found⟩⟩
  | @answered breaker output _ _ _ passed =>
    exact ⟨false,output,(Except.ok.inj done).symm,.inr (.inl ⟨rfl,passed,by simp⟩)⟩
  | @failed breaker reason _ missed _ _ =>
    obtain ⟨output,answer,rfl⟩ := fallback_ok done
    exact ⟨true,output,rfl,.inr (.inr ⟨rfl,answer,missed,unsucceeded⟩)⟩
  | denied _ missed _ =>
    obtain ⟨output,answer,rfl⟩ := fallback_ok done
    exact ⟨true,output,rfl,.inr (.inr ⟨rfl,answer,missed,by simp⟩)⟩

theorem evaluate_hit (complete : missingState call = []) (found : engine.cached runtime call = some output) :
    (evaluate runtime engine call).outcome = .ok (engine.record runtime call false output) := by
  simp [evaluate,complete,found]

theorem decisions_come_from_the_named_provider (runtime : Runtime) (numbering : Numbering runtime.number)
    (start : DecisionEngine) (fresh : start.cache = Table.empty) (calls : List Call)
    (collisionFree : CollisionFree runtime calls) (earlier : List Call) (call : Call) (later : List Call)
    (split : calls = earlier ++ call :: later) (engine : DecisionEngine)
    (path : Runs (advance runtime) start earlier engine) :
    Answers runtime start engine earlier call (evaluate runtime engine call) := by
  have sound := run_sound fresh path
  have next := step_sound path sound call
  have course := evaluate_course runtime engine call
  have present : call ∈ calls := split ▸ List.mem_append_right _ List.mem_cons_self
  have listed : ∀ asked ∈ earlier, asked ∈ calls := fun asked member => split ▸ List.mem_append_left _ member
  have found : ∀ output, engine.cached runtime call = some output → ProducedFor runtime start earlier call output :=
    fun output hit => sound.hit numbering collisionFree listed present hit
  refine ⟨fun record done => ?_,fun output complete hit => ?_,next.bounded,fun row member => Course.entered course member,
    fun row member => ?_,fun record done => ?_,fun record done => ?_⟩
  · obtain ⟨usedFallback,output,rfl,⟨_,hit⟩ | ⟨_,passed,_⟩ | ⟨_,passed,_⟩⟩ := Course.outcome course done
    · obtain ⟨asked,⟨_,_,_,_,_,_,_,validated⟩,_,question⟩ := found output hit
      rwa [question] at validated
    · exact (checked_ok passed).2
    · exact (checked_ok passed).2
  · exact ⟨found output hit,_,evaluate_hit complete hit,rfl⟩
  · obtain ⟨asked,produced,cacheable,_⟩ := next.produced row member
    exact ⟨asked,produced,cacheable,critical_uncacheable asked.question cacheable⟩
  · obtain ⟨usedFallback,output,rfl,⟨rfl,hit⟩ | ⟨rfl,passed,moment⟩ | ⟨rfl,passed,missed,unsucceeded⟩⟩ :=
      Course.outcome course done
    · exact .inl ⟨⟨congrArg Provider.providerId sound.configured.provider,
        congrArg Provider.providerRevision sound.configured.provider⟩,(found output hit).extend [call]⟩
    · obtain ⟨returned,validated⟩ := checked_ok passed
      exact .inl ⟨⟨congrArg Provider.providerId sound.configured.provider,
        congrArg Provider.providerRevision sound.configured.provider⟩,
        call,⟨earlier,[],engine,rfl,path,moment,returned,validated⟩,rfl,rfl⟩
    · exact .inr ⟨⟨congrArg Provider.providerId sound.configured.fallback,
        congrArg Provider.providerRevision sound.configured.fallback⟩,(checked_ok passed).1,missed,unsucceeded⟩
  · obtain ⟨usedFallback,output,rfl,_⟩ := Course.outcome course done
    exact disposition_review output call.question usedFallback

def crashed : Call := callAt crash (.ok (routed "kubernetes")) 0

-- The same state again, while the primary is unavailable.
def crashedAgain : Call := callAt crashAgain (.error "provider unavailable") 5

instance decideCollisionFree (runtime : Runtime) (calls : List Call) : Decidable (CollisionFree runtime calls) :=
  inferInstanceAs (Decidable (∀ left ∈ hashed runtime calls, ∀ right ∈ hashed runtime calls, _))

theorem crashedAgain_hits : ∃ engine, Runs (advance liveRuntime) liveEngine [crashed] engine ∧
    (engine.cached liveRuntime crashedAgain).isSome = true ∧
    Answers liveRuntime liveEngine engine [crashed] crashedAgain (evaluate liveRuntime engine crashedAgain) := by
  have collisionFree : CollisionFree liveRuntime [crashed,crashedAgain] := by decide +kernel
  have path : Runs (advance liveRuntime) liveEngine [crashed] (evaluate liveRuntime liveEngine crashed).engine :=
    .single rfl
  refine ⟨_,path,by decide +kernel,?_⟩
  exact decisions_come_from_the_named_provider liveRuntime numberText_numbering liveEngine rfl [crashed,crashedAgain]
    collisionFree [crashed] crashedAgain [] rfl _ path

end OpenModelOps.DecisionCache
