import Mathlib.Data.List.Basic
import Mathlib.Logic.Function.Basic

namespace RunHistory
variable {σ ε : Type*} {advance : σ → ε → Option σ} {s t u : σ} {event : ε} {events first last : List ε}

-- A run of a partial step function. Every listed event was accepted; an event
-- that the function refuses is not part of any run.
inductive Runs (advance : σ → ε → Option σ) : σ → List ε → σ → Prop where
  | stop {s : σ} : Runs advance s [] s
  | take {s t u : σ} {event : ε} {rest : List ε} :
      advance s event = some t → Runs advance t rest u → Runs advance s (event :: rest) u

def consume (advance : σ → ε → Option σ) (s : σ) : List ε → Option σ
  | [] => some s
  | event :: rest => (advance s event).bind (consume advance · rest)

theorem consume_exact : consume advance s events = some t ↔ Runs advance s events t := by
  constructor
  · intro consumed
    induction events generalizing s with
    | nil => cases consumed; exact .stop
    | cons event rest ih =>
      obtain ⟨next,taken,remaining⟩ := Option.bind_eq_some_iff.mp consumed
      exact .take taken (ih remaining)
  · intro path
    induction path with
    | stop => rfl
    | take taken _ ih => simp [consume,taken,ih]

theorem Runs.unique (left : Runs advance s events t) (right : Runs advance s events u) : t = u :=
  Option.some.inj ((consume_exact.mpr left).symm.trans (consume_exact.mpr right))

theorem Runs.trans (left : Runs advance s first t) (right : Runs advance t last u) :
    Runs advance s (first ++ last) u := by
  induction left with
  | stop => exact right
  | take taken _ ih => exact .take taken (ih right)

theorem Runs.single (taken : advance s event = some t) : Runs advance s [event] t :=
  .take taken .stop

theorem Runs.parts (path : Runs advance s (first ++ last) u) :
    ∃ t, Runs advance s first t ∧ Runs advance t last u := by
  induction first generalizing s with
  | nil => exact ⟨s,.stop,path⟩
  | cons event rest ih =>
    cases path with
    | take taken remaining =>
      obtain ⟨t,left,right⟩ := ih remaining
      exact ⟨t,.take taken left,right⟩

-- Whenever the run is about to take a step, that step meets the condition in
-- the state before it.
def Throughout (advance : σ → ε → Option σ) (meets : σ → ε → Prop) (s : σ) (events : List ε) : Prop :=
  ∀ earlier event later middle, events = earlier ++ event :: later →
    Runs advance s earlier middle → meets middle event

theorem Throughout.head {meets : σ → ε → Prop} (all : Throughout advance meets s (event :: events)) :
    meets s event :=
  all [] event events s rfl .stop

theorem Throughout.tail {meets : σ → ε → Prop} (all : Throughout advance meets s (event :: events))
    (taken : advance s event = some t) : Throughout advance meets t events := by
  intro earlier next later middle split path
  exact all (event :: earlier) next later middle (by simp [split]) (.take taken path)

theorem Throughout.before {meets : σ → ε → Prop} (all : Throughout advance meets s (first ++ last)) :
    Throughout advance meets s first := by
  intro earlier event later middle split path
  exact all earlier event (later ++ last) middle (by simp [split]) path

theorem Throughout.after {meets : σ → ε → Prop} (all : Throughout advance meets s (first ++ last))
    (path : Runs advance s first t) : Throughout advance meets t last := by
  induction path with
  | stop => exact all
  | take taken _ ih => exact ih (all.tail taken)

theorem throughout_cons {meets : σ → ε → Prop} : Throughout advance meets s (event :: events) ↔
    meets s event ∧ ∀ t, advance s event = some t → Throughout advance meets t events := by
  constructor
  · exact fun all => ⟨all.head,fun _ => all.tail⟩
  · rintro ⟨here,later⟩ earlier next rest middle split path
    cases earlier with
    | nil => cases split; cases path; exact here
    | cons first earlier =>
      cases split
      cases path with
      | take taken remaining => exact later _ taken earlier next rest middle rfl remaining

instance decideThroughout (advance : σ → ε → Option σ) (meets : σ → ε → Prop) [∀ s event, Decidable (meets s event)] :
    (s : σ) → (events : List ε) → Decidable (Throughout advance meets s events)
  | _,[] => .isTrue fun _ _ _ _ split _ => by simp at split
  | s,event :: rest => match taken : advance s event with
    | none => decidable_of_iff (meets s event) ⟨fun here => throughout_cons.mpr ⟨here,by simp [taken]⟩,(·.head)⟩
    | some t => have := decideThroughout advance meets t rest
      decidable_of_iff (meets s event ∧ Throughout advance meets t rest)
        ⟨fun both => throughout_cons.mpr ⟨both.1,by simp [taken,both.2]⟩,fun all => ⟨all.head,all.tail taken⟩⟩

theorem Runs.invariant_under {meets : σ → ε → Prop} {valid : σ → Prop}
    (preserved : ∀ {before event next}, valid before → meets before event →
      advance before event = some next → valid next)
    (path : Runs advance s events t) (all : Throughout advance meets s events) (start : valid s) :
    valid t := by
  induction path with
  | stop => exact start
  | take taken _ ih => exact ih (all.tail taken) (preserved start all.head taken)

theorem Runs.invariant {valid : σ → Prop}
    (preserved : ∀ {before event next}, valid before → advance before event = some next → valid next)
    (path : Runs advance s events t) (start : valid s) : valid t :=
  @Runs.invariant_under _ _ _ _ _ _ (fun _ _ => True) valid (fun held _ taken => preserved held taken)
    path (fun _ _ _ _ _ _ => trivial) start

theorem Runs.recorded {valid : List ε → σ → Prop}
    (preserved : ∀ {earlier before event next}, Runs advance s earlier before → valid earlier before →
      advance before event = some next → valid (earlier ++ [event]) next)
    (path : Runs advance s events t) (start : valid [] s) : valid events t := by
  have extended : ∀ earlier before, Runs advance s earlier before → valid earlier before →
      ∀ {later after}, Runs advance before later after → valid (earlier ++ later) after := by
    intro earlier before reached held later after rest
    induction rest generalizing earlier with
    | stop => rwa [List.append_nil]
    | @take before next after event later taken _ ih =>
      have further := ih (earlier ++ [event]) (reached.trans (.single taken)) (preserved reached held taken)
      rwa [List.append_assoc] at further
  exact extended [] s .stop start path

-- Every state that a run enters, its first and its last included.
def Always (advance : σ → ε → Option σ) (valid : σ → Prop) (s : σ) (events : List ε) : Prop :=
  ∀ earlier later middle, events = earlier ++ later → Runs advance s earlier middle → valid middle

theorem always_cons {valid : σ → Prop} (taken : advance s event = some t) :
    Always advance valid s (event :: events) ↔ valid s ∧ Always advance valid t events := by
  constructor
  · intro all
    refine ⟨all [] _ s rfl .stop,fun earlier later middle split path => ?_⟩
    exact all (event :: earlier) later middle (by rw [split,List.cons_append]) (.take taken path)
  · rintro ⟨here,rest⟩ earlier later middle split path
    cases earlier with
    | nil => cases path; exact here
    | cons first earlier =>
      cases split
      cases path with
      | take again remaining =>
        cases Option.some.inj (taken.symm.trans again)
        exact rest earlier later middle rfl remaining

-- Where the condition is exactly what one step needs to keep a property, it is
-- exactly what a whole run needs to keep it.
theorem Runs.always_exact {sound valid : σ → Prop} {meets : σ → ε → Prop}
    (preserved : ∀ {before event next}, sound before → advance before event = some next → sound next)
    (exactly : ∀ {before event next}, sound before → valid before → advance before event = some next →
      (valid next ↔ meets before event))
    (path : Runs advance s events t) (base : sound s) (start : valid s) :
    Always advance valid s events ↔ Throughout advance meets s events := by
  induction path with
  | @stop s =>
    constructor
    · intro _ earlier event later middle split
      simp at split
    · intro _ earlier later middle split path
      obtain ⟨rfl,_⟩ := List.append_eq_nil_iff.mp split.symm
      cases path
      exact start
  | @take s t u event rest taken remaining ih =>
    rw [always_cons taken,throughout_cons]
    constructor
    · rintro ⟨_,all⟩
      have next : valid t := all [] rest t rfl .stop
      refine ⟨(exactly base start taken).mp next,fun other again => ?_⟩
      cases Option.some.inj (taken.symm.trans again)
      exact (ih (preserved base taken) next).mp all
    · rintro ⟨here,later⟩
      have next : valid t := (exactly base start taken).mpr here
      exact ⟨start,(ih (preserved base taken) next).mpr (later t taken)⟩

theorem Runs.entered {holds : σ → Prop} (path : Runs advance s events u)
    (absent : ¬ holds s) (present : holds u) :
    ∃ earlier event later before next, events = earlier ++ event :: later ∧
      Runs advance s earlier before ∧ advance before event = some next ∧
      Runs advance next later u ∧ ¬ holds before ∧ holds next := by
  induction path with
  | stop => exact absurd present absent
  | @take s t u event rest taken remaining ih =>
    by_cases held : holds t
    · exact ⟨[],event,rest,s,t,rfl,.stop,taken,remaining,absent,held⟩
    · obtain ⟨earlier,entry,later,before,next,split,left,entering,right,out,into⟩ := ih held present
      exact ⟨event :: earlier,entry,later,before,next,by simp [split],.take taken left,entering,
        right,out,into⟩

theorem updated_all {κ π : Type*} [DecidableEq κ] {parties : κ → π} {party : κ} {after : π} {holds : π → Prop}
    (held : ∀ other, holds (parties other)) (entered : holds after) :
    ∀ other, holds (Function.update parties party after other) :=
  (Function.forall_update_iff parties fun _ => holds).mpr ⟨entered,fun other _ => held other⟩

theorem updated_read {κ π α : Type*} [DecidableEq κ] {parties : κ → π} {party other : κ} {after : π} {look : π → α}
    {value : α} (seen : look (Function.update parties party after other) = value) :
    (other = party ∧ look after = value) ∨ (other ≠ party ∧ look (parties other) = value) := by
  by_cases here : other = party
  · subst other
    rw [Function.update_self] at seen
    exact .inl ⟨rfl,seen⟩
  · rw [Function.update_of_ne here] at seen
    exact .inr ⟨here,seen⟩

def EachAfter (meets : List ε → ε → Prop) (log : List ε) : Prop :=
  ∀ earlier entry later, log = earlier ++ entry :: later → meets earlier entry

theorem eachAfter_nil {meets : List ε → ε → Prop} : EachAfter meets [] := by
  intro earlier entry later split
  simp at split

theorem eachAfter_snoc {meets : List ε → ε → Prop} {log : List ε} :
    EachAfter meets (log ++ [event]) ↔ EachAfter meets log ∧ meets log event := by
  constructor
  · intro each
    refine ⟨?_,each log event [] rfl⟩
    intro earlier entry later split
    exact each earlier entry (later ++ [event]) (by simp [split])
  · intro both earlier entry later split
    obtain ⟨each,last⟩ := both
    rcases List.eq_nil_or_concat later with rfl | ⟨front,final,rfl⟩
    · obtain ⟨rfl,rfl⟩ := List.append_singleton_inj.mp split
      exact last
    · rw [List.concat_eq_append,← List.cons_append,← List.append_assoc] at split
      exact each earlier entry front (List.append_singleton_inj.mp split).1

theorem EachAfter.imp {meets other : List ε → ε → Prop} {log : List ε}
    (weaker : ∀ {earlier entry}, meets earlier entry → other earlier entry) (each : EachAfter meets log) :
    EachAfter other log :=
  fun earlier entry later split => weaker (each earlier entry later split)

end RunHistory
