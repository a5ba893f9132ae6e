import OpenModelOps.MetalConversation
import OpenModelOps.MetalScheduler
import OpenModelOps.MetalWorkers

namespace OpenModelOps.MetalChat
open RecentUse RunHistory
open MetalPlanner (AdmissionDecision Reason)
open MetalPromptCache (Call CollisionFree PromptCacheIndex Unterminated create history nul replay)
open MetalScheduler (ChatCompletionRequest HTTPException Runtime estimateTokens prompt)
open MetalWorkers (Sound WorkItem)

structure GenerationResult where
  text : String
  promptTokens : Nat
  completionTokens : Nat

-- The exceptions of backend.generate, as far as chat tells them apart.
inductive BackendError where
  | overflowError (message : String)
  | timeoutError
  | other (message : String)

-- The answer without its id and its time, which say nothing about the request.
structure ChatResponse where
  content : String
  promptTokens : Nat
  completionTokens : Nat
  totalTokens : Nat
  cacheHit : Bool
  admission : Reason
  grantedContext : Int

-- A call of chat at its wait for the result. The last two fields are not in the
-- code: the calls that the cache had seen when the request arrived, and how many
-- requests had been answered by then.
structure Waiting where
  request : ChatCompletionRequest
  ticket : Nat
  decision : AdmissionDecision
  cached : Bool
  before : List Call
  earlier : Nat

structure Answered where
  asked : Waiting
  response : Except HTTPException ChatResponse

-- The calls of the cache and the answers are kept for the record.
structure State (slots : Nat) where
  cache : PromptCacheIndex
  scheduler : MetalWorkers.State GenerationResult BackendError slots
  waiting : List Waiting
  calls : List Call
  answered : List Answered

def initial (slots : Nat) (cache : PromptCacheIndex) : State slots :=
  ⟨cache,MetalWorkers.initial GenerationResult BackendError slots,[],[],[]⟩

def maximumTokens (request : ChatCompletionRequest) (decision : AdmissionDecision) : Int :=
  min (request.maxTokens : Int) (max 1 (decision.grantedContext - estimateTokens (prompt request.messages)))

def decide (runtime : Runtime) (s : State runtime.slots) (request : ChatCompletionRequest) : AdmissionDecision :=
  runtime.planner.decide ⟨estimateTokens (prompt request.messages),request.maxTokens,s.scheduler.active.toNat,
    request.multimodal⟩

-- chat up to its wait for the result, during which nothing else runs. A queue
-- that is full is noticed after the cache was looked up.
def arrive (sha256 : List UInt8 → String) (runtime : Runtime) (s : State runtime.slots)
    (request : ChatCompletionRequest) : State runtime.slots × Option HTTPException :=
  if request.stream then (s,some ⟨501,.message "streaming is planned for the native batch milestone"⟩)
  else if request.model ≠ runtime.planner.model.modelId then (s,some ⟨404,.message "model not loaded"⟩)
  else
    let text := prompt request.messages
    let decision := decide runtime s request
    if decision.admitted = false then (s,some ⟨429,.rejected decision.reason decision⟩)
    else
      let (entry,cache) := MetalPromptCache.lookup sha256 s.cache runtime.planner.model.modelId text
      let looked := {s with cache := cache, calls := s.calls ++ [.lookup runtime.planner.model.modelId text]}
      match MetalWorkers.submit runtime.queueLimit s.scheduler text (maximumTokens request decision) with
      | .error message => (looked,some ⟨429,.message message⟩)
      | .ok scheduler => ({looked with
          scheduler := scheduler
          waiting := s.waiting ++ [⟨request,s.scheduler.accepted.length,decision,entry.isSome,s.calls,s.answered.length⟩]},none)

def respond (asked : Waiting) (result : GenerationResult) : ChatResponse :=
  ⟨result.text,result.promptTokens,result.completionTokens,result.promptTokens + result.completionTokens,asked.cached,
    asked.decision.reason,asked.decision.grantedContext⟩

def refusal : BackendError → HTTPException
  | .overflowError message => ⟨429,.message message⟩
  | .timeoutError => ⟨504,.message "inference deadline exceeded"⟩
  | .other _ => ⟨500,.message "Internal Server Error"⟩

def settled (s : State slots) (asked : Waiting) (response : Except HTTPException ChatResponse) : State slots :=
  {s with
    waiting := s.waiting.filter fun other => Decidable.decide (other.ticket ≠ asked.ticket)
    answered := s.answered ++ [⟨asked,response⟩]}

-- chat from its wait on. The deadline may pass when the future is settled and
-- chat has not run since.
def resume (sha256 : List UInt8 → String) (runtime : Runtime) (s : State runtime.slots) (asked : Waiting)
    (late : Bool) : Option (State runtime.slots) :=
  match s.scheduler.futures asked.ticket,late with
  | .pending,_ => none
  | .cancelled,_ => some (settled s asked (.error (refusal .timeoutError)))
  | .resolved _,true => some (settled s asked (.error (refusal .timeoutError)))
  | .failed _,true => some (settled s asked (.error (refusal .timeoutError)))
  | .failed exception,false => some (settled s asked (.error (refusal exception)))
  | .resolved result,false =>
    let text := prompt asked.request.messages
    let recorded := {s with
      cache := (MetalPromptCache.record sha256 s.cache runtime.planner.model.modelId text result.promptTokens).2
      calls := s.calls ++ [.record runtime.planner.model.modelId text result.promptTokens]}
    some (settled recorded asked (.ok (respond asked result)))

inductive Event (slots : Nat) where
  | arrive (request : ChatCompletionRequest)
  | work (event : MetalWorkers.Event GenerationResult BackendError slots)
  | resume (ticket : Nat) (late : Bool)

-- Only chat submits.
def step (sha256 : List UInt8 → String) (runtime : Runtime) (s : State runtime.slots) :
    Event runtime.slots → Option (State runtime.slots)
  | .arrive request => some (arrive sha256 runtime s request).1
  | .work (.submit _ _) => none
  | .work event => (MetalWorkers.step runtime.queueLimit s.scheduler event).map fun scheduler =>
      {s with scheduler := scheduler}
  | .resume ticket late =>
    match s.waiting.find? fun asked => Decidable.decide (asked.ticket = ticket) with
    | none => none
    | some asked => resume sha256 runtime s asked late

variable {sha256 : List UInt8 → String} {runtime : Runtime} {s next : State runtime.slots}
  {event : Event runtime.slots}

def itemOf (asked : Waiting) : WorkItem :=
  ⟨prompt asked.request.messages,maximumTokens asked.request asked.decision,asked.ticket⟩

def waits (runtime : Runtime) (s : State runtime.slots) (request : ChatCompletionRequest) (cached : Bool) : Waiting :=
  ⟨request,s.scheduler.accepted.length,decide runtime s request,cached,s.calls,s.answered.length⟩

def looked (sha256 : List UInt8 → String) (runtime : Runtime) (s : State runtime.slots)
    (request : ChatCompletionRequest) : State runtime.slots :=
  {s with
    cache := (MetalPromptCache.lookup sha256 s.cache runtime.planner.model.modelId (prompt request.messages)).2
    calls := s.calls ++ [.lookup runtime.planner.model.modelId (prompt request.messages)]}

def hit (sha256 : List UInt8 → String) (runtime : Runtime) (s : State runtime.slots) (request : ChatCompletionRequest) :
    Bool :=
  (MetalPromptCache.lookup sha256 s.cache runtime.planner.model.modelId (prompt request.messages)).1.isSome

def recorded (sha256 : List UInt8 → String) (runtime : Runtime) (s : State runtime.slots) (asked : Waiting)
    (result : GenerationResult) : State runtime.slots :=
  {s with
    cache := (MetalPromptCache.record sha256 s.cache runtime.planner.model.modelId (prompt asked.request.messages)
      result.promptTokens).2
    calls := s.calls ++ [.record runtime.planner.model.modelId (prompt asked.request.messages) result.promptTokens]}

inductive Moves (sha256 : List UInt8 → String) (runtime : Runtime) (s : State runtime.slots) :
    State runtime.slots → Prop where
  | refused : Moves sha256 runtime s s
  | crowded (request : ChatCompletionRequest) : Moves sha256 runtime s (looked sha256 runtime s request)
  | submitted (request : ChatCompletionRequest) (event : MetalWorkers.Event GenerationResult BackendError runtime.slots)
      {scheduler : MetalWorkers.State GenerationResult BackendError runtime.slots} :
      MetalWorkers.step runtime.queueLimit s.scheduler event = some scheduler →
      scheduler.accepted = s.scheduler.accepted ++ [itemOf (waits runtime s request (hit sha256 runtime s request))] →
      Moves sha256 runtime s {looked sha256 runtime s request with
        scheduler := scheduler
        waiting := s.waiting ++ [waits runtime s request (hit sha256 runtime s request)]}
  | worked (event : MetalWorkers.Event GenerationResult BackendError runtime.slots)
      {scheduler : MetalWorkers.State GenerationResult BackendError runtime.slots} :
      MetalWorkers.step runtime.queueLimit s.scheduler event = some scheduler →
      Moves sha256 runtime s {s with scheduler := scheduler}
  | failed (asked : Waiting) (exception : HTTPException) : asked ∈ s.waiting →
      Moves sha256 runtime s (settled s asked (.error exception))
  | served (asked : Waiting) (result : GenerationResult) : asked ∈ s.waiting →
      s.scheduler.futures asked.ticket = .resolved result →
      Moves sha256 runtime s (settled (recorded sha256 runtime s asked result) asked (.ok (respond asked result)))

theorem arrive_moves (request : ChatCompletionRequest) : Moves sha256 runtime s (arrive sha256 runtime s request).1 := by
  unfold arrive
  split
  · exact .refused
  split
  · exact .refused
  dsimp only
  split
  · exact .refused
  by_cases full : runtime.queueLimit ≤ s.scheduler.queue.length
  · simp only [MetalWorkers.submit,if_pos full]
    exact .crowded request
  · simp only [MetalWorkers.submit,if_neg full]
    refine .submitted request (.submit (prompt request.messages) (maximumTokens request (decide runtime s request))) ?_ ?_
    · simp only [MetalWorkers.step,MetalWorkers.submit,if_neg full]
    · rfl

theorem resume_moves {asked : Waiting} {late : Bool} (waiting : asked ∈ s.waiting)
    (resumed : resume sha256 runtime s asked late = some next) : Moves sha256 runtime s next := by
  unfold resume at resumed
  split at resumed
  · cases resumed
  · cases Option.some.inj resumed
    exact .failed asked _ waiting
  · cases Option.some.inj resumed
    exact .failed asked _ waiting
  · cases Option.some.inj resumed
    exact .failed asked _ waiting
  · cases Option.some.inj resumed
    exact .failed asked _ waiting
  · rename_i result found
    cases Option.some.inj resumed
    exact .served asked result waiting found

theorem step_moves (taken : step sha256 runtime s event = some next) : Moves sha256 runtime s next := by
  cases event with
  | arrive request =>
    cases Option.some.inj taken
    exact arrive_moves request
  | work event =>
    have mapped : (MetalWorkers.step runtime.queueLimit s.scheduler event).map
        (fun scheduler => {s with scheduler := scheduler}) = some next := by
      cases event with
      | submit => cases taken
      | expire | take | finish | absorb | interrupt | start | stop | gathered => exact taken
    obtain ⟨scheduler,moved,rfl⟩ := Option.map_eq_some_iff.mp mapped
    exact .worked event moved
  | resume ticket late =>
    simp only [step] at taken
    split at taken
    · cases taken
    · rename_i asked found
      exact resume_moves (List.mem_of_find?_eq_some found) taken

structure Grows (earlier later : MetalWorkers.State GenerationResult BackendError slots) : Prop where
  accepted : earlier.accepted <+: later.accepted
  started : ∀ item ∈ earlier.started, item ∈ later.started
  outcomes : ∀ outcome ∈ earlier.outcomes, outcome ∈ later.outcomes

theorem scheduler_grows {limit : Nat} {before after : MetalWorkers.State GenerationResult BackendError slots}
    {event : MetalWorkers.Event GenerationResult BackendError slots} (sound : Sound limit before)
    (taken : MetalWorkers.step limit before event = some after) : Grows before after := by
  have still : Grows before before := ⟨List.prefix_rfl,fun _ inside => inside,fun _ inside => inside⟩
  cases MetalWorkers.step_moves sound taken with
  | submitted => exact {still with accepted := List.prefix_append _ _}
  | began => exact {still with started := fun _ inside => List.mem_append_left _ inside}
  | finished => exact {still with outcomes := fun _ inside => List.mem_append_left _ inside}
  | refused | late | expired | dropped | absorbed | vacated | interrupted | started | present | absent | stopping
  | gathered => exact ⟨still.accepted,still.started,still.outcomes⟩

structure Served (s : State slots) (asked : Waiting) (response : ChatResponse) (result : GenerationResult) : Prop where
  started : itemOf asked ∈ s.scheduler.started
  returned : (itemOf asked,.returned result) ∈ s.scheduler.outcomes
  responds : response = respond asked result

structure Looked (sha256 : List UInt8 → String) (runtime : Runtime) (cache : PromptCacheIndex) (s : State slots)
    (asked : Waiting) : Prop where
  accepted : itemOf asked ∈ s.scheduler.accepted
  calls : asked.before ++ [.lookup runtime.planner.model.modelId (prompt asked.request.messages)] <+: s.calls
  earlier : asked.earlier ≤ s.answered.length
  cached : asked.cached = (MetalPromptCache.lookup sha256 (replay sha256 cache asked.before)
    runtime.planner.model.modelId (prompt asked.request.messages)).1.isSome

def asks (s : State slots) : List Waiting := s.answered.map Answered.asked ++ s.waiting

def Recorded (runtime : Runtime) (calls : List Call) (answered : List Answered) : Prop :=
  ∀ modelId text tokens, Call.record modelId text tokens ∈ calls → modelId = runtime.planner.model.modelId ∧
    ∃ answer ∈ answered, ∃ response, answer.response = .ok response ∧ prompt answer.asked.request.messages = text ∧
      response.promptTokens = tokens

structure Kept (sha256 : List UInt8 → String) (runtime : Runtime) (cache : PromptCacheIndex)
    (s : State runtime.slots) : Prop where
  sound : Sound runtime.queueLimit s.scheduler
  replayed : s.cache = replay sha256 cache s.calls
  named : ∀ call ∈ s.calls, call.pair.1 = runtime.planner.model.modelId
  once : ((asks s).map Waiting.ticket).Nodup
  lookups : ∀ asked ∈ asks s, Looked sha256 runtime cache s asked
  records : Recorded runtime s.calls s.answered
  before : ∀ asked ∈ asks s, Recorded runtime asked.before (s.answered.take asked.earlier)
  served : ∀ answer ∈ s.answered, ∀ response, answer.response = .ok response →
    ∃ result, Served s answer.asked response result

structure Extends (earlier later : State slots) : Prop where
  scheduler : Grows earlier.scheduler later.scheduler
  calls : earlier.calls <+: later.calls
  answered : earlier.answered <+: later.answered

theorem Looked.extends {cache : PromptCacheIndex} {asked : Waiting} (looked : Looked sha256 runtime cache s asked)
    (longer : Extends s next) : Looked sha256 runtime cache next asked :=
  ⟨longer.scheduler.accepted.subset looked.accepted,looked.calls.trans longer.calls,
    looked.earlier.trans longer.answered.length_le,looked.cached⟩

theorem Served.extends {asked : Waiting} {response : ChatResponse} {result : GenerationResult}
    (served : Served s asked response result) (longer : Extends s next) : Served next asked response result :=
  ⟨longer.scheduler.started _ served.started,longer.scheduler.outcomes _ served.returned,served.responds⟩

theorem Recorded.extends {calls : List Call} {answered more : List Answered} (recorded : Recorded runtime calls answered)
    (longer : answered <+: more) : Recorded runtime calls more := by
  intro modelId text tokens member
  obtain ⟨same,answer,inside,rest⟩ := recorded modelId text tokens member
  exact ⟨same,answer,longer.subset inside,rest⟩

theorem Recorded.looked {calls : List Call} {answered : List Answered} (recorded : Recorded runtime calls answered)
    (modelId text : String) : Recorded runtime (calls ++ [.lookup modelId text]) answered := by
  intro otherId other tokens member
  rcases List.mem_append.mp member with old | new
  · exact recorded otherId other tokens old
  · cases List.mem_singleton.mp new

theorem take_same {answered more : List Answered} {n : Nat} (longer : answered <+: more) (within : n ≤ answered.length) :
    more.take n = answered.take n := by
  obtain ⟨rest,rfl⟩ := longer
  exact List.take_append_of_le_length within

theorem replay_snoc (cache : PromptCacheIndex) (calls : List Call) (call : Call) :
    replay sha256 cache (calls ++ [call]) = MetalPromptCache.after sha256 (replay sha256 cache calls) call := by
  rw [replay,replay,List.foldl_append]
  rfl

theorem Kept.moved {cache : PromptCacheIndex} (kept : Kept sha256 runtime cache s)
    (sound : Sound runtime.queueLimit next.scheduler) (longer : Extends s next)
    (replayed : next.cache = replay sha256 cache next.calls)
    (named : ∀ call ∈ next.calls, call.pair.1 = runtime.planner.model.modelId)
    (recorded : Recorded runtime next.calls next.answered) (waiting : next.waiting = s.waiting)
    (answered : next.answered = s.answered) : Kept sha256 runtime cache next := by
  have same : asks next = asks s := by rw [asks,asks,waiting,answered]
  refine ⟨sound,replayed,named,?_,?_,recorded,?_,?_⟩
  · rw [same]
    exact kept.once
  · rw [same]
    exact fun asked member => (kept.lookups asked member).extends longer
  · rw [same,answered]
    exact kept.before
  · rw [answered]
    intro answer member response given
    obtain ⟨result,served⟩ := kept.served answer member response given
    exact ⟨result,served.extends longer⟩

theorem looked_extends (request : ChatCompletionRequest) : Extends s (looked sha256 runtime s request) :=
  ⟨⟨List.prefix_rfl,fun _ inside => inside,fun _ inside => inside⟩,List.prefix_append _ _,List.prefix_rfl⟩

theorem Kept.crowded {cache : PromptCacheIndex} (kept : Kept sha256 runtime cache s) (request : ChatCompletionRequest) :
    Kept sha256 runtime cache (looked sha256 runtime s request) := by
  refine kept.moved kept.sound (looked_extends request) ?_ ?_ ?_ rfl rfl
  · show _ = replay sha256 cache (s.calls ++ [_])
    rw [replay_snoc,← kept.replayed]
    rfl
  · intro call member
    rcases List.mem_append.mp member with old | new
    · exact kept.named call old
    · cases List.mem_singleton.mp new
      rfl
  · exact kept.records.looked _ _

theorem accepted_ticket (sound : Sound runtime.queueLimit s.scheduler) {item : WorkItem}
    (member : item ∈ s.scheduler.accepted) : item.ticket ≠ s.scheduler.accepted.length :=
  Nat.ne_of_lt (sound.ticket_lt member)

theorem Kept.submitted {cache : PromptCacheIndex} (kept : Kept sha256 runtime cache s) (request : ChatCompletionRequest)
    {event : MetalWorkers.Event GenerationResult BackendError runtime.slots}
    {scheduler : MetalWorkers.State GenerationResult BackendError runtime.slots}
    (taken : MetalWorkers.step runtime.queueLimit s.scheduler event = some scheduler)
    (accepted : scheduler.accepted = s.scheduler.accepted ++ [itemOf (waits runtime s request (hit sha256 runtime s request))]) :
    Kept sha256 runtime cache {looked sha256 runtime s request with
      scheduler := scheduler
      waiting := s.waiting ++ [waits runtime s request (hit sha256 runtime s request)]} := by
  have crowded := kept.crowded request
  generalize next_is : ({looked sha256 runtime s request with
    scheduler := scheduler
    waiting := s.waiting ++ [waits runtime s request (hit sha256 runtime s request)]} : State runtime.slots) = next
  have longer : Extends (looked sha256 runtime s request) next := by
    subst next_is
    exact ⟨scheduler_grows kept.sound taken,List.prefix_rfl,List.prefix_rfl⟩
  have more : asks next = asks s ++ [waits runtime s request (hit sha256 runtime s request)] := by
    subst next_is
    exact (List.append_assoc _ _ _).symm
  have answered : next.answered = s.answered := by subst next_is; rfl
  have calls : next.calls = s.calls ++ [.lookup runtime.planner.model.modelId (prompt request.messages)] := by
    subst next_is; rfl
  have placed : itemOf (waits runtime s request (hit sha256 runtime s request)) ∈ next.scheduler.accepted := by
    subst next_is
    show _ ∈ scheduler.accepted
    rw [accepted]
    exact List.mem_append_right _ List.mem_cons_self
  refine ⟨?_,?_,?_,?_,?_,?_,?_,?_⟩
  · subst next_is
    exact MetalWorkers.step_sound kept.sound taken
  · subst next_is
    exact crowded.replayed
  · subst next_is
    exact crowded.named
  · rw [more,List.map_append]
    refine List.nodup_append.mpr ⟨kept.once,List.nodup_singleton _,?_⟩
    intro ticket old other new same
    obtain ⟨asked,member,rfl⟩ := List.mem_map.mp old
    rw [List.map_singleton,List.mem_singleton] at new
    exact accepted_ticket kept.sound (kept.lookups asked member).accepted (same.trans new)
  · intro asked member
    rw [more] at member
    rcases List.mem_append.mp member with old | new
    · exact ((kept.lookups asked old).extends (looked_extends request)).extends longer
    · cases List.mem_singleton.mp new
      refine ⟨placed,?_,?_,?_⟩
      · rw [calls]
        exact List.prefix_rfl
      · rw [answered]
        exact Nat.le_refl _
      · show hit sha256 runtime s request = _
        rw [hit,kept.replayed]
        rfl
  · subst next_is
    exact crowded.records
  · intro asked member
    rw [more] at member
    rw [answered]
    rcases List.mem_append.mp member with old | new
    · exact kept.before asked old
    · cases List.mem_singleton.mp new
      show Recorded runtime s.calls (s.answered.take s.answered.length)
      rw [List.take_length]
      exact kept.records
  · rw [answered]
    intro answer member response given
    obtain ⟨result,served⟩ := crowded.served answer member response given
    exact ⟨result,served.extends longer⟩

theorem Kept.worked {cache : PromptCacheIndex} (kept : Kept sha256 runtime cache s)
    {event : MetalWorkers.Event GenerationResult BackendError runtime.slots}
    {scheduler : MetalWorkers.State GenerationResult BackendError runtime.slots}
    (taken : MetalWorkers.step runtime.queueLimit s.scheduler event = some scheduler) :
    Kept sha256 runtime cache {s with scheduler := scheduler} :=
  kept.moved (MetalWorkers.step_sound kept.sound taken)
    ⟨scheduler_grows kept.sound taken,List.prefix_rfl,List.prefix_rfl⟩ kept.replayed kept.named kept.records rfl rfl

theorem moved_nodup {before behind : List Nat} {ticket : Nat} (once : (before ++ behind).Nodup) (member : ticket ∈ behind) :
    (before ++ [ticket] ++ behind.filter fun other => Decidable.decide (other ≠ ticket)).Nodup := by
  obtain ⟨left,right,apart⟩ := List.nodup_append.mp once
  refine List.nodup_append.mpr ⟨List.nodup_append.mpr ⟨left,List.nodup_singleton _,?_⟩,right.filter _,?_⟩
  · intro one old other new
    cases List.mem_singleton.mp new
    exact apart one old ticket member
  · intro one old other new same
    obtain ⟨inside,different⟩ := List.mem_filter.mp new
    rcases List.mem_append.mp old with older | here
    · exact apart one older other inside same
    · cases List.mem_singleton.mp here
      exact of_decide_eq_true different same.symm

theorem settled_asks {asked : Waiting} (waiting : asked ∈ s.waiting) (response : Except HTTPException ChatResponse) :
    ∀ other ∈ asks (settled s asked response), other ∈ asks s := by
  intro other member
  rcases List.mem_append.mp member with done | still
  · obtain ⟨answer,inside,rfl⟩ := List.mem_map.mp done
    rcases List.mem_append.mp inside with old | new
    · exact List.mem_append_left _ (List.mem_map_of_mem old)
    · cases List.mem_singleton.mp new
      exact List.mem_append_right _ waiting
  · exact List.mem_append_right _ (List.mem_filter.mp still).1

theorem settled_once {asked : Waiting} (once : ((asks s).map Waiting.ticket).Nodup) (waiting : asked ∈ s.waiting)
    (response : Except HTTPException ChatResponse) : ((asks (settled s asked response)).map Waiting.ticket).Nodup := by
  rw [asks,List.map_append] at once
  have moved := moved_nodup once (List.mem_map_of_mem waiting)
  rw [List.filter_map] at moved
  rw [asks,List.map_append]
  show (((s.answered ++ [⟨asked,response⟩] : List Answered).map Answered.asked).map Waiting.ticket ++
    List.map Waiting.ticket (s.waiting.filter _)).Nodup
  rw [List.map_append,List.map_append]
  exact moved

theorem settled_extends (asked : Waiting) (response : Except HTTPException ChatResponse) :
    Extends s (settled s asked response) :=
  ⟨⟨List.prefix_rfl,fun _ inside => inside,fun _ inside => inside⟩,List.prefix_rfl,List.prefix_append _ _⟩

theorem Kept.closed {cache : PromptCacheIndex} (kept : Kept sha256 runtime cache s) {asked : Waiting}
    (waiting : asked ∈ s.waiting) {response : Except HTTPException ChatResponse}
    (served : ∀ given, response = .ok given → ∃ result, Served s asked given result) :
    Kept sha256 runtime cache (settled s asked response) := by
  have longer := @settled_extends runtime s asked response
  have older := @settled_asks runtime s asked waiting response
  refine ⟨kept.sound,kept.replayed,kept.named,settled_once kept.once waiting response,?_,
    kept.records.extends longer.answered,?_,?_⟩
  · exact fun other member => (kept.lookups other (older other member)).extends longer
  · intro other member
    have before := older other member
    rw [take_same longer.answered (kept.lookups other before).earlier]
    exact kept.before other before
  · intro answer member given same
    rcases List.mem_append.mp member with old | new
    · obtain ⟨result,earlier⟩ := kept.served answer old given same
      exact ⟨result,earlier.extends longer⟩
    · cases List.mem_singleton.mp new
      obtain ⟨result,now⟩ := served given same
      exact ⟨result,now.extends longer⟩

theorem Kept.resolved {cache : PromptCacheIndex} (kept : Kept sha256 runtime cache s) {asked : Waiting}
    {result : GenerationResult} (member : asked ∈ asks s) (found : s.scheduler.futures asked.ticket = .resolved result) :
    Served s asked (respond asked result) result := by
  obtain ⟨item,started,same,returned⟩ := kept.sound.resolved asked.ticket result found
  have own : item = itemOf asked :=
    kept.sound.ticket_injective (kept.sound.known item (.inr started)) (kept.lookups asked member).accepted same
  subst own
  exact ⟨started,returned,rfl⟩

theorem Kept.answered {cache : PromptCacheIndex} (kept : Kept sha256 runtime cache s) {asked : Waiting}
    {result : GenerationResult} (waiting : asked ∈ s.waiting)
    (found : s.scheduler.futures asked.ticket = .resolved result) :
    Kept sha256 runtime cache (settled (recorded sha256 runtime s asked result) asked (.ok (respond asked result))) := by
  have served := kept.resolved (List.mem_append_right _ waiting) found
  have plain := @Kept.closed sha256 runtime s cache kept asked waiting (.ok (respond asked result)) fun given same => by
    cases Except.ok.inj same
    exact ⟨result,served⟩
  have longer : Extends (settled s asked (.ok (respond asked result)))
      (settled (recorded sha256 runtime s asked result) asked (.ok (respond asked result))) :=
    ⟨⟨List.prefix_rfl,fun _ inside => inside,fun _ inside => inside⟩,List.prefix_append _ _,List.prefix_rfl⟩
  refine plain.moved kept.sound longer ?_ ?_ ?_ rfl rfl
  · show _ = replay sha256 cache (s.calls ++ [_])
    rw [replay_snoc,← kept.replayed]
    rfl
  · intro call member
    rcases List.mem_append.mp member with old | new
    · exact kept.named call old
    · cases List.mem_singleton.mp new
      rfl
  · intro modelId text tokens member
    rcases List.mem_append.mp member with old | new
    · exact plain.records modelId text tokens old
    · cases List.mem_singleton.mp new
      exact ⟨rfl,⟨asked,.ok (respond asked result)⟩,List.mem_append_right _ List.mem_cons_self,
        respond asked result,rfl,rfl,rfl⟩

theorem Moves.kept {cache : PromptCacheIndex} (moves : Moves sha256 runtime s next)
    (kept : Kept sha256 runtime cache s) : Kept sha256 runtime cache next := by
  cases moves with
  | refused => exact kept
  | crowded request => exact kept.crowded request
  | submitted request event taken accepted => exact kept.submitted request taken accepted
  | worked event taken => exact kept.worked taken
  | failed asked exception waiting => exact kept.closed waiting nofun
  | served asked result waiting found => exact kept.answered waiting found

theorem initial_kept (sha256 : List UInt8 → String) (runtime : Runtime) (cache : PromptCacheIndex) :
    Kept sha256 runtime cache (initial runtime.slots cache) where
  sound := MetalWorkers.initial_sound GenerationResult BackendError runtime.slots runtime.queueLimit
  replayed := rfl
  named := fun _ member => absurd member List.not_mem_nil
  once := List.nodup_nil
  lookups := fun _ member => absurd member List.not_mem_nil
  records := fun _ _ _ member => absurd member List.not_mem_nil
  before := fun _ member => absurd member List.not_mem_nil
  served := fun _ member => absurd member List.not_mem_nil

theorem run_kept {cache : PromptCacheIndex} {events : List (Event runtime.slots)}
    (path : Runs (step sha256 runtime) (initial runtime.slots cache) events s) : Kept sha256 runtime cache s :=
  path.invariant (fun kept taken => (step_moves taken).kept kept) (initial_kept sha256 runtime cache)

theorem recorded_call {modelId text : String} {calls : List Call} {entry : MetalPromptCache.PromptCacheEntry}
    (member : Op.record (modelId,text) entry ∈ history sha256 calls) :
    ∃ tokens, Call.record modelId text tokens ∈ calls := by
  obtain ⟨call,inside,same⟩ := List.mem_map.mp member
  cases call with
  | record otherId other tokens =>
    cases same
    exact ⟨tokens,inside⟩
  | lookup otherId other => cases same

theorem chat_answers {capacity : Int} {cache : PromptCacheIndex} {events : List (Event runtime.slots)}
    (created : create capacity = .ok cache) (unterminated : nul ∉ runtime.planner.model.modelId.toList)
    (path : Runs (step sha256 runtime) (initial runtime.slots cache) events s)
    (collisionFree : CollisionFree sha256 s.calls) :
    (s.answered.map fun answer => answer.asked.ticket).Nodup ∧
      ∀ answer ∈ s.answered, ∀ response, answer.response = .ok response →
        (∃ result, Served s answer.asked response result) ∧
        answer.asked.before ++ [.lookup runtime.planner.model.modelId (prompt answer.asked.request.messages)] <+: s.calls ∧
        (response.cacheHit = true ↔ (runtime.planner.model.modelId,prompt answer.asked.request.messages) ∈
          held cache.capacity (usesOf cache.capacity (history sha256 answer.asked.before))) ∧
        (response.cacheHit = true → ∃ earlier ∈ s.answered.take answer.asked.earlier,
          prompt earlier.asked.request.messages = prompt answer.asked.request.messages ∧
          ∃ given, earlier.response = .ok given) := by
  have kept := run_kept path
  constructor
  · have once := kept.once
    rw [asks,List.map_append,List.map_map] at once
    exact (List.nodup_append.mp once).1
  intro answer member response given
  have asked : answer.asked ∈ asks s := List.mem_append_left _ (List.mem_map_of_mem member)
  obtain ⟨result,served⟩ := kept.served answer member response given
  have lookup := kept.lookups answer.asked asked
  have hits : response.cacheHit = answer.asked.cached := by rw [served.responds]; rfl
  have answers := @MetalPromptCache.lookup_answer sha256 cache capacity answer.asked.before
    runtime.planner.model.modelId (prompt answer.asked.request.messages) created
    (fun call inside => by rw [kept.named call (lookup.calls.subset inside)]; exact unterminated)
    (fun left first right second => collisionFree left (lookup.calls.subset first) right (lookup.calls.subset second))
  have exact_ : response.cacheHit = true ↔ (runtime.planner.model.modelId,prompt answer.asked.request.messages) ∈
      held cache.capacity (usesOf cache.capacity (history sha256 answer.asked.before)) := by
    rw [hits,lookup.cached,answers]
    exact answer_isSome
  refine ⟨⟨result,served⟩,lookup.calls,exact_,fun hit => ?_⟩
  obtain ⟨entry,inside⟩ := usesOf_recorded (mem_held (exact_.mp hit))
  obtain ⟨tokens,recorded⟩ := recorded_call inside
  obtain ⟨_,earlier,before,first,answered,same,_⟩ := kept.before answer.asked asked _ _ _ recorded
  exact ⟨earlier,before,same,first,answered⟩

theorem roomy_positive : 1 ≤ 2 ∧ 1 ≤ 20 := by decide

def roomy : Runtime where
  planner := {totalMemoryGb := 64, model := {modelId := "qwen", parameterBillions := 8}}
  slots := 2
  queueLimit := 20
  positive := roomy_positive
  planned := rfl

theorem hello_counted : 1 ≤ [MetalConversation.greeting].length ∧ [MetalConversation.greeting].length ≤ 200 := by decide

theorem hello_bounded : 1 ≤ 1024 ∧ 1024 ≤ 16384 := by decide

def hello : ChatCompletionRequest where
  model := "qwen"
  messages := [MetalConversation.greeting]
  counted := hello_counted
  bounded := hello_bounded

theorem slot_zero : 0 < 2 := Nat.two_pos

theorem slot_one : 1 < 2 := Nat.one_lt_two

-- Two requests meet an empty cache, the second is generated first, and a third
-- one comes when both are answered.
def threeHellos : List (Event 2) :=
  [.work .start,.arrive hello,.arrive hello,.work (.take ⟨0,slot_zero⟩),.work (.take ⟨1,slot_one⟩),
    .work (.finish ⟨1,slot_one⟩ (.returned ⟨"good morning",3,2⟩)),.resume 1 false,
    .work (.finish ⟨0,slot_zero⟩ (.returned ⟨"good evening",3,2⟩)),.resume 0 false,
    .arrive hello,.work (.take ⟨0,slot_zero⟩),.work (.finish ⟨0,slot_zero⟩ (.returned ⟨"hello again",3,2⟩)),.resume 2 false]

theorem four_positive : 1 ≤ 4 := by decide

def fourEntries : PromptCacheIndex := ⟨4,KeyedTable.Table.empty,four_positive⟩

theorem three_hellos_answered : ∃ s, Runs (step MetalConversation.hashing roomy) (initial 2 fourEntries) threeHellos s ∧
    (s.answered.map fun answer => answer.response.toOption.map ChatResponse.cacheHit) =
      [some false,some false,some true] ∧ (s.answered.map fun answer => answer.asked.ticket).Nodup := by
  have ran : ((consume (step MetalConversation.hashing roomy) (initial 2 fourEntries) threeHellos).map fun s =>
      (Decidable.decide (CollisionFree MetalConversation.hashing s.calls),
        s.answered.map fun answer => answer.response.toOption.map ChatResponse.cacheHit)) =
      some (true,[some false,some false,some true]) := by decide +kernel
  obtain ⟨s,consumed,shown⟩ := Option.map_eq_some_iff.mp ran
  obtain ⟨collisionFree,hits⟩ := Prod.mk.inj shown
  have path := consume_exact.mp consumed
  have created : create 4 = .ok fourEntries := rfl
  exact ⟨s,path,hits,(chat_answers created (by decide) path (of_decide_eq_true collisionFree)).1⟩

end OpenModelOps.MetalChat
