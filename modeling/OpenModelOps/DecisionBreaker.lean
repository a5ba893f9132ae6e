import OpenModelOps.DecisionEvaluation

namespace OpenModelOps.DecisionBreaker
open Binary64 JsonText KeyedTable PythonFloat PythonNumber DecisionContracts DecisionEvaluation RunHistory
variable {runtime : Runtime} {start engine : DecisionEngine} {call : Call} {calls : List Call}
  {evaluation : Evaluation} {output : DecisionOutput} {breaker : CircuitBreaker} {opened : Time}

-- What the engine keeps true of its breaker: it is open exactly when the
-- failures it counts have reached the threshold.
structure Consistent (breaker : CircuitBreaker) : Prop where
  positive : 1 ≤ breaker.failureThreshold
  counted : 0 ≤ breaker.failures
  within : breaker.failures ≤ breaker.failureThreshold
  closed : breaker.openedAt = none ↔ breaker.failures < breaker.failureThreshold

theorem success_consistent (consistent : Consistent breaker) : Consistent breaker.success := by
  have positive := consistent.positive
  refine ⟨positive,by simp [CircuitBreaker.success],?_,?_⟩
  · simp only [CircuitBreaker.success]; omega
  · simp only [CircuitBreaker.success,true_iff]; omega

theorem failure_consistent (consistent : Consistent breaker) (closed : breaker.openedAt = none) (now : Time) :
    Consistent (breaker.failure now) := by
  have below := consistent.closed.mp closed
  have counted := consistent.counted
  unfold CircuitBreaker.failure
  simp only
  split
  · exact ⟨consistent.positive,by simp only; omega,by simp only; omega,by simp only [reduceCtorEq,false_iff]; omega⟩
  · exact ⟨consistent.positive,by simp only; omega,by simp only; omega,by simp only [closed,true_iff]; omega⟩

theorem allow_through (allowed : breaker.allow runtime now = (true,after)) :
    (breaker.openedAt = none ∧ after = breaker) ∨
    (∃ opened, breaker.openedAt = some opened ∧
      PyFloat.le breaker.resetSeconds (runtime.sub (.finite now) (.finite opened)) = true ∧
      after = breaker.success) := by
  rcases allow_cases runtime breaker now with ⟨closed,answer⟩ | ⟨opened,opening,lasted,answer⟩ | ⟨_,_,_,answer⟩
  · rw [answer] at allowed
    exact .inl ⟨closed,(Prod.mk.inj allowed).2.symm⟩
  · rw [answer] at allowed
    exact .inr ⟨opened,opening,lasted,(Prod.mk.inj allowed).2.symm⟩
  · rw [answer] at allowed
    cases (Prod.mk.inj allowed).1

theorem through_closed (allowed : breaker.allow runtime now = (true,after)) : after.openedAt = none := by
  rcases allow_through allowed with ⟨closed,rfl⟩ | ⟨_,_,_,rfl⟩
  · exact closed
  · rfl

theorem through_consistent (consistent : Consistent breaker) (allowed : breaker.allow runtime now = (true,after)) :
    Consistent after := by
  rcases allow_through allowed with ⟨_,rfl⟩ | ⟨_,_,_,rfl⟩
  · exact consistent
  · exact success_consistent consistent

theorem store_breaker (runtime : Runtime) (engine : DecisionEngine) (call : Call) (output : DecisionOutput) :
    (DecisionEngine.store runtime engine call output).breaker = engine.breaker := by
  unfold DecisionEngine.store
  split <;> rfl

theorem Course.consistent (course : Course runtime engine call evaluation) (consistent : Consistent engine.breaker) :
    Consistent evaluation.engine.breaker := by
  cases course with
  | omitted _ => exact consistent
  | hit _ _ => exact consistent
  | answered _ _ allowed _ =>
    rw [store_breaker]
    exact success_consistent (through_consistent consistent allowed)
  | failed _ _ allowed _ =>
    exact failure_consistent (through_consistent consistent allowed) (through_closed allowed) call.failedAt
  | denied _ _ _ => exact consistent

theorem Course.settings (course : Course runtime engine call evaluation) :
    evaluation.engine.breaker.failureThreshold = engine.breaker.failureThreshold ∧
      evaluation.engine.breaker.resetSeconds = engine.breaker.resetSeconds := by
  have kept : ∀ {after : CircuitBreaker}, engine.breaker.allow runtime call.allowedAt = (true,after) →
      after.failureThreshold = engine.breaker.failureThreshold ∧ after.resetSeconds = engine.breaker.resetSeconds := by
    intro after allowed
    rcases allow_through allowed with ⟨_,rfl⟩ | ⟨_,_,_,rfl⟩ <;> exact ⟨rfl,rfl⟩
  cases course with
  | omitted _ => exact ⟨rfl,rfl⟩
  | hit _ _ => exact ⟨rfl,rfl⟩
  | answered _ _ allowed _ =>
    obtain ⟨threshold,span⟩ := kept allowed
    rw [store_breaker]
    exact ⟨threshold,span⟩
  | failed _ _ allowed _ =>
    obtain ⟨threshold,span⟩ := kept allowed
    simp only [CircuitBreaker.failure]
    split <;> exact ⟨threshold,span⟩
  | denied _ _ _ => exact ⟨rfl,rfl⟩

theorem run_consistent (consistent : Consistent start.breaker) (path : Runs (advance runtime) start calls engine) :
    Consistent engine.breaker := by
  induction path with
  | stop => exact consistent
  | take taken _ ih =>
    cases Option.some.inj taken
    exact ih (Course.consistent (evaluate_course runtime _ _) consistent)

def clock (calls : List Call) : List Time := calls.flatMap fun call => [call.allowedAt,call.failedAt]

theorem clock_ordered {earlier later : List Call} {asked : Call}
    (ordered : (clock (earlier ++ call :: later)).Pairwise (· ≤ ·))
    (member : asked ∈ earlier) : asked.allowedAt ≤ call.allowedAt := by
  unfold clock at ordered
  rw [List.flatMap_append] at ordered
  refine (List.pairwise_append.mp ordered).2.2 asked.allowedAt ?_ call.allowedAt ?_
  · exact List.mem_flatMap.mpr ⟨asked,member,List.mem_cons_self⟩
  · exact List.mem_flatMap.mpr ⟨call,List.mem_cons_self,List.mem_cons_self⟩

def Asked (evaluation : Evaluation) (time : Time) : Prop :=
  .succeeded time ∈ evaluation.moments ∨ .failed time ∈ evaluation.moments

theorem unasked_resets (breaker : CircuitBreaker) (now time : Time) :
    .succeeded time ∉ resets breaker now ∧ .failed time ∉ resets breaker now := by
  unfold resets
  split <;> simp

theorem Course.asked (course : Course runtime engine call evaluation) (asked : Asked evaluation time) :
    time = call.allowedAt ∧ missingState call = [] ∧ engine.cached runtime call = none ∧
      ∃ after, engine.breaker.allow runtime call.allowedAt = (true,after) := by
  have quiet := unasked_resets engine.breaker call.allowedAt time
  cases course with
  | omitted _ => rcases asked with member | member <;> cases member
  | hit _ _ => rcases asked with member | member <;> cases member
  | answered complete missed allowed _ =>
    refine ⟨?_,complete,missed,_,allowed⟩
    rcases asked with member | member
    · simpa [quiet] using member
    · simp [quiet] at member
  | failed complete missed allowed _ =>
    refine ⟨?_,complete,missed,_,allowed⟩
    rcases asked with member | member
    · simp [quiet] at member
    · simpa [quiet] using member
  | denied _ _ _ => rcases asked with member | member <;> cases member

-- A rounded difference does not shrink while the clock goes on.
structure Steady (runtime : Runtime) : Prop where
  grows : ∀ start now later : Time, now ≤ later →
    PyFloat.le (runtime.sub (.finite now) (.finite start)) (runtime.sub (.finite later) (.finite start)) = true

-- Since it opened at this time the breaker has either stayed open or let a
-- call through after its reset time.
structure Since (runtime : Runtime) (opened : Time) (span : PyFloat) (calls : List Call) (engine : DecisionEngine) : Prop where
  span_eq : engine.breaker.resetSeconds = span
  waited : engine.breaker.openedAt = some opened ∨
    ∃ asked ∈ calls, PyFloat.le span (runtime.sub (.finite asked.allowedAt) (.finite opened)) = true

theorem Course.since {span : PyFloat} {earlier : List Call} (course : Course runtime engine call evaluation)
    (since : Since runtime opened span earlier engine) :
    Since runtime opened span (earlier ++ [call]) evaluation.engine := by
  obtain ⟨span_eq,waited⟩ := since
  refine ⟨(Course.settings course).2.trans span_eq,?_⟩
  rcases waited with opening | ⟨asked,member,lasted⟩
  · have through : ∀ {after : CircuitBreaker}, engine.breaker.allow runtime call.allowedAt = (true,after) →
        ∃ asked ∈ earlier ++ [call],
          PyFloat.le span (runtime.sub (.finite asked.allowedAt) (.finite opened)) = true := by
      intro after allowed
      rcases allow_through allowed with ⟨closed,_⟩ | ⟨other,also,lasted,_⟩
      · rw [opening] at closed; cases closed
      · rw [opening] at also
        cases Option.some.inj also
        exact ⟨call,List.mem_append_right _ List.mem_cons_self,span_eq ▸ lasted⟩
    cases course with
    | omitted _ => exact .inl opening
    | hit _ _ => exact .inl opening
    | answered _ _ allowed _ => exact .inr (through allowed)
    | failed _ _ allowed _ => exact .inr (through allowed)
    | denied _ _ _ => exact .inl opening
  · exact .inr ⟨asked,List.mem_append_left _ member,lasted⟩

theorem run_since {before : DecisionEngine} (opening : before.breaker.openedAt = some opened)
    (path : Runs (advance runtime) before calls engine) :
    Since runtime opened before.breaker.resetSeconds calls engine := by
  refine path.recorded (fun _ since taken => ?_) ⟨rfl,.inl opening⟩
  cases Option.some.inj taken
  exact Course.since (evaluate_course runtime _ _) since

theorem run_waits (steady : Steady runtime) {before : DecisionEngine} {first middle last : List Call}
    (ordered : (clock (first ++ middle ++ call :: last)).Pairwise (· ≤ ·))
    (opening : before.breaker.openedAt = some opened) (path : Runs (advance runtime) before middle engine)
    (asked : Asked (evaluate runtime engine call) time) :
    PyFloat.lt (runtime.sub (.finite time) (.finite opened)) before.breaker.resetSeconds = false := by
  obtain ⟨rfl,_,_,after,allowed⟩ := Course.asked (evaluate_course runtime engine call) asked
  have waited : PyFloat.le before.breaker.resetSeconds
      (runtime.sub (.finite call.allowedAt) (.finite opened)) = true := by
    obtain ⟨span_eq,still | ⟨other,member,lasted⟩⟩ := run_since opening path
    · rcases allow_through allowed with ⟨closed,_⟩ | ⟨other,also,lasted,_⟩
      · rw [still] at closed; cases closed
      · rw [still] at also
        cases Option.some.inj also
        rwa [span_eq] at lasted
    · have later := clock_ordered ordered (List.mem_append_right _ member)
      exact PyFloat.le_trans lasted (steady.grows opened _ _ later)
  exact (le_iff_not_lt.mp waited).1

def moments (runtime : Runtime) (engine : DecisionEngine) : List Call → List Moment
  | [] => []
  | call :: rest => (evaluate runtime engine call).moments ++ moments runtime (evaluate runtime engine call).engine rest

def streak (failures : Int) : Moment → Int
  | .failed _ => failures + 1
  | _ => 0

theorem resets_streak (breaker : CircuitBreaker) (allowed : breaker.allow runtime now = (true,after)) :
    (resets breaker now).foldl streak breaker.failures = after.failures := by
  unfold resets
  rcases allow_through allowed with ⟨closed,rfl⟩ | ⟨_,opening,_,rfl⟩
  · rw [closed]; rfl
  · rw [opening]; rfl

theorem failure_counts (breaker : CircuitBreaker) (now : Time) : (breaker.failure now).failures = breaker.failures + 1 := by
  unfold CircuitBreaker.failure
  simp only
  split <;> rfl

theorem Course.counts (course : Course runtime engine call evaluation) :
    evaluation.moments.foldl streak engine.breaker.failures = evaluation.engine.breaker.failures := by
  cases course with
  | omitted _ => rfl
  | hit _ _ => rfl
  | answered _ _ allowed _ =>
    rw [List.foldl_append,resets_streak _ allowed,store_breaker]
    rfl
  | failed _ _ allowed _ =>
    rw [List.foldl_append,resets_streak _ allowed,failure_counts]
    rfl
  | denied _ _ _ => rfl

theorem Course.lead (course : Course runtime engine call evaluation) {lead : List Moment}
    (initial : lead <+: evaluation.moments) :
    lead = [] ∨ lead = [.reset call.allowedAt] ∨ lead = evaluation.moments := by
  have short : ∀ last : Moment, lead <+: resets engine.breaker call.allowedAt ++ [last] →
      lead = [] ∨ lead = [.reset call.allowedAt] ∨ lead = resets engine.breaker call.allowedAt ++ [last] := by
    intro last initial
    rcases List.prefix_concat_iff.mp initial with whole | inside
    · exact .inr (.inr whole)
    · unfold resets at inside
      split at inside
      · exact .inl (List.prefix_nil.mp inside)
      · rcases List.prefix_concat_iff.mp (show lead <+: [] ++ [_] from inside) with whole | none
        · exact .inr (.inl whole)
        · exact .inl (List.prefix_nil.mp none)
  cases course with
  | omitted _ => exact .inl (List.prefix_nil.mp initial)
  | hit _ _ => exact .inl (List.prefix_nil.mp initial)
  | answered _ _ _ _ => exact short _ initial
  | failed _ _ _ _ => exact short _ initial
  | denied _ _ _ => exact .inl (List.prefix_nil.mp initial)

theorem Course.lead_within (course : Course runtime engine call evaluation) (consistent : Consistent engine.breaker)
    {lead : List Moment} (initial : lead <+: evaluation.moments) :
    0 ≤ lead.foldl streak engine.breaker.failures ∧
      lead.foldl streak engine.breaker.failures ≤ engine.breaker.failureThreshold := by
  rcases Course.lead course initial with rfl | rfl | rfl
  · exact ⟨consistent.counted,consistent.within⟩
  · have positive := consistent.positive
    simp only [List.foldl_cons,List.foldl_nil,streak]
    omega
  · have next := Course.consistent course consistent
    rw [Course.counts course,← (Course.settings course).1]
    exact ⟨next.counted,next.within⟩

-- At no moment of a run have more failures than the threshold followed the
-- last success or reset.
theorem moments_within (consistent : Consistent engine.breaker) {lead : List Moment}
    (initial : lead <+: moments runtime engine calls) :
    0 ≤ lead.foldl streak engine.breaker.failures ∧
      lead.foldl streak engine.breaker.failures ≤ engine.breaker.failureThreshold := by
  induction calls generalizing engine lead with
  | nil =>
    cases List.prefix_nil.mp initial
    exact ⟨consistent.counted,consistent.within⟩
  | cons call rest ih =>
    have course := evaluate_course runtime engine call
    rcases List.prefix_or_prefix_of_prefix initial (List.prefix_append _ _) with inside | ⟨more,rfl⟩
    · exact Course.lead_within course consistent inside
    · have further := (List.prefix_append_right_inj _).mp initial
      have later := ih (Course.consistent course consistent) further
      rwa [List.foldl_append,Course.counts course,← (Course.settings course).1]

theorem failed_streak {segment : List Moment} (failing : ∀ moment ∈ segment, ∃ time, moment = .failed time)
    (failures : Int) : segment.foldl streak failures = failures + segment.length := by
  induction segment generalizing failures with
  | nil => simp
  | cons moment rest ih =>
    obtain ⟨time,rfl⟩ := failing moment List.mem_cons_self
    rw [List.foldl_cons,ih fun later member => failing later (List.mem_cons_of_mem _ member)]
    simp only [streak,List.length_cons]
    omega

theorem failures_bounded (consistent : Consistent engine.breaker) {before segment after : List Moment}
    (split : moments runtime engine calls = before ++ segment ++ after)
    (failing : ∀ moment ∈ segment, ∃ time, moment = .failed time) :
    (segment.length : Int) ≤ engine.breaker.failureThreshold := by
  have whole := (moments_within consistent (show before ++ segment <+: moments runtime engine calls from
    ⟨after,split.symm⟩)).2
  have part := (moments_within consistent (show before <+: moments runtime engine calls from
    ⟨segment ++ after,by rw [split,List.append_assoc]⟩)).1
  rw [List.foldl_append,failed_streak failing] at whole
  omega

def Refused (runtime : Runtime) (call : Call) : Prop :=
  (∃ error, call.primary = .error error) ∨
    ∃ output message, call.primary = .ok output ∧ validate runtime output call.question = .error message

theorem refused_unchecked (refused : Refused runtime call) : checked runtime call.primary call.question ≠ .ok output := by
  intro passed
  obtain ⟨returned,validated⟩ := checked_ok passed
  rcases refused with ⟨error,raised⟩ | ⟨other,message,given,invalid⟩
  · rw [raised] at returned; cases returned
  · rw [given] at returned
    cases Except.ok.inj returned
    rw [invalid] at validated
    cases validated

theorem Course.replaced (course : Course runtime engine call evaluation) (asked : Asked evaluation time)
    (refused : Refused runtime call) {record : DecisionRecord} (done : evaluation.outcome = .ok record) :
    call.fallback = .ok record.output ∧ validate runtime record.output call.question = .ok () := by
  obtain ⟨_,_,missed,_,allowed⟩ := Course.asked course asked
  have replaced : (checked runtime call.fallback call.question).map (engine.record runtime call true) = .ok record →
      call.fallback = .ok record.output ∧ validate runtime record.output call.question = .ok () := by
    intro made
    obtain ⟨output,answer,rfl⟩ := fallback_ok made
    exact checked_ok answer
  cases course with
  | omitted _ => cases done
  | hit _ found => rw [found] at missed; cases missed
  | answered _ _ _ passed => exact absurd passed (refused_unchecked refused)
  | failed _ _ _ _ => exact replaced done
  | denied _ _ denied => rw [denied] at allowed; cases allowed

structure Guards (runtime : Runtime) (start : DecisionEngine) (calls : List Call) : Prop where
  open_exactly : ∀ earlier later engine, calls = earlier ++ later → Runs (advance runtime) start earlier engine →
    (engine.breaker.openedAt = none ↔ engine.breaker.failures < start.breaker.failureThreshold)
  waits : ∀ first middle call last before engine opened time, calls = first ++ middle ++ call :: last →
    Runs (advance runtime) start first before → before.breaker.openedAt = some opened →
    Runs (advance runtime) before middle engine → Asked (evaluate runtime engine call) time →
    ¬ (opened ≤ time ∧ PyFloat.lt (runtime.sub (.finite time) (.finite opened)) start.breaker.resetSeconds = true)
  bounded : ∀ before segment after, moments runtime start calls = before ++ segment ++ after →
    (∀ moment ∈ segment, ∃ time, moment = .failed time) → (segment.length : Int) ≤ start.breaker.failureThreshold
  replaced : ∀ earlier call later engine time, calls = earlier ++ call :: later →
    Runs (advance runtime) start earlier engine → Asked (evaluate runtime engine call) time → Refused runtime call →
    ∀ record, (evaluate runtime engine call).outcome = .ok record →
      call.fallback = .ok record.output ∧ validate runtime record.output call.question = .ok ()
  hits_quiet : ∀ earlier call later engine output, calls = earlier ++ call :: later →
    Runs (advance runtime) start earlier engine → missingState call = [] → engine.cached runtime call = some output →
    (evaluate runtime engine call).engine.breaker = engine.breaker ∧ (evaluate runtime engine call).moments = []

theorem run_settings (path : Runs (advance runtime) start calls engine) :
    engine.breaker.failureThreshold = start.breaker.failureThreshold ∧
      engine.breaker.resetSeconds = start.breaker.resetSeconds := by
  induction path with
  | stop => exact ⟨rfl,rfl⟩
  | @take before next after call rest taken _ ih =>
    cases Option.some.inj taken
    have settings := Course.settings (evaluate_course runtime before call)
    exact ⟨ih.1.trans settings.1,ih.2.trans settings.2⟩

theorem breaker_guards_primary (runtime : Runtime) (steady : Steady runtime) (start : DecisionEngine)
    (threshold : 1 ≤ start.breaker.failureThreshold) (uncounted : start.breaker.failures = 0)
    (closed : start.breaker.openedAt = none) (calls : List Call) (ordered : (clock calls).Pairwise (· ≤ ·)) :
    Guards runtime start calls := by
  have consistent : Consistent start.breaker := by
    refine ⟨threshold,by omega,by omega,?_⟩
    rw [uncounted]
    exact ⟨fun _ => by omega,fun _ => closed⟩
  refine ⟨?_,?_,?_,?_,?_⟩
  · intro earlier later engine split path
    rw [← (run_settings path).1]
    exact (run_consistent consistent path).closed
  · intro first middle call last before engine opened time split lead opening path asked waiting
    subst split
    have waited := run_waits steady ordered opening path asked
    rw [(run_settings lead).2,waiting.2] at waited
    cases waited
  · intro before segment after split failing
    exact failures_bounded consistent split failing
  · intro earlier call later engine time split path asked refused record done
    exact Course.replaced (evaluate_course runtime engine call) asked refused done
  · intro earlier call later engine output split path complete found
    simp [evaluate,complete,found]

-- Two failures open the breaker; a third call is answered without the primary,
-- and after the reset time the primary is asked again.
def outage : List Call :=
  [callAt slow (.error "provider unavailable") 0,callAt slow (.error "provider unavailable") 5,
    callAt slow (.error "provider unavailable") 20,callAt slow (.ok (routed "kubernetes")) 40]

theorem live_steady : Steady liveRuntime where
  grows start now later ordered := by
    have less : nearest (now - start) ≤ nearest (later - start) := nearest_mono (sub_le_sub_right ordered start)
    simpa [liveRuntime,finitePart,PyFloat.le,PyFloat.rank] using less

theorem outage_guarded : Guards liveRuntime liveEngine outage ∧
    moments liveRuntime liveEngine outage = [.failed 0,.failed 5,.reset 40,.succeeded 40] :=
  ⟨breaker_guards_primary liveRuntime live_steady liveEngine (by decide) rfl rfl outage (by decide +kernel),
    by decide +kernel⟩

-- The clock counts nanoseconds and gives the nearest double.
def monotonic (nanoseconds : Nat) : Time := nearest (nanoseconds / 1000000000)

-- The breaker opens at 4.280387012; at 34.280387012 the rounded difference is
-- 30 seconds, the exact one a little less.
def brief : List Call :=
  [callAt slow (.error "provider unavailable") 0,
    {callAt slow (.error "provider unavailable") 2 with failedAt := monotonic 4280387012}]

def retried : Call := callAt slow (.ok (routed "kubernetes")) (monotonic 34280387012)

theorem primary_called_early : (clock (brief ++ [retried])).Pairwise (· ≤ ·) ∧
    ∃ engine, Runs (advance liveRuntime) liveEngine brief engine ∧
      engine.breaker.openedAt = some (monotonic 4280387012) ∧
      Asked (evaluate liveRuntime engine retried) (monotonic 34280387012) ∧
      monotonic 4280387012 ≤ monotonic 34280387012 ∧
      PyFloat.lt (.finite (monotonic 34280387012))
        (liveEngine.breaker.resetSeconds.later (monotonic 4280387012)) = true := by
  refine ⟨by decide +kernel,_,.take rfl (.take rfl .stop),?_,?_,?_,?_⟩
  · decide +kernel
  · exact .inl (by decide +kernel)
  · decide +kernel
  · decide +kernel

end OpenModelOps.DecisionBreaker
