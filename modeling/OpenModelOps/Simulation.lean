import OpenModelOps.RunHistory

namespace Simulation
open RunHistory

variable {σ τ ε ο π : Type*}

-- A system that answers each event it accepts.
def advance (respond : σ → ε → Option (σ × ο)) (s : σ) (event : ε) : Option σ := (respond s event).map Prod.fst

-- What was asked along a run, with the answers.
def transcript (respond : σ → ε → Option (σ × ο)) (s : σ) : List ε → List (ε × ο)
  | [] => []
  | event :: rest => match respond s event with
    | none => []
    | some (next,outcome) => (event,outcome) :: transcript respond next rest

def observed (respond : σ → ε → Option (σ × ο)) (mine : σ → ε → Prop) [∀ s event, Decidable (mine s event)] (s : σ) :
    List ε → List (ε × ο)
  | [] => []
  | event :: rest => match respond s event with
    | none => []
    | some (next,outcome) =>
      if mine s event then (event,outcome) :: observed respond mine next rest else observed respond mine next rest

def own (respond : σ → ε → Option (σ × ο)) (mine : σ → ε → Prop) [∀ s event, Decidable (mine s event)] (s : σ)
    (events : List ε) : List ε :=
  (observed respond mine s events).map Prod.fst

-- A system that is known by what shows of its states.
def watched (step : σ → ε → Option σ) (look : σ → ο) (s : σ) (event : ε) : Option (σ × ο) :=
  (step s event).map fun t => (t,look t)

def through (look : ο → π) (respond : σ → ε → Option (σ × ο)) (s : σ) (event : ε) : Option (σ × π) :=
  (respond s event).map (Prod.map id look)

-- Two conditions on single steps. The second system takes no part in the events
-- of others, and answers those of the observer as the first one does.
structure Simulates (respond : σ → ε → Option (σ × ο)) (alone : τ → ε → Option (τ × ο)) (mine meets : σ → ε → Prop)
    (related : σ → τ → Prop) : Prop where
  answered : ∀ {s t u event outcome}, related s u → mine s event → meets s event →
    respond s event = some (t,outcome) → ∃ v, alone u event = some (v,outcome) ∧ related t v
  unseen : ∀ {s t u event outcome}, related s u → ¬ mine s event → respond s event = some (t,outcome) → related t u

variable {respond : σ → ε → Option (σ × ο)} {alone : τ → ε → Option (τ × ο)} {mine meets : σ → ε → Prop}
  {related : σ → τ → Prop} {s t other final : σ} {u : τ} {event : ε} {events others : List ε}

theorem advance_parts (taken : advance respond s event = some t) : ∃ outcome, respond s event = some (t,outcome) := by
  obtain ⟨pair,answered,first⟩ := Option.map_eq_some_iff.mp taken
  obtain ⟨next,outcome⟩ := pair
  cases first
  exact ⟨outcome,answered⟩

theorem throughout_each {step : σ → ε → Option σ} {each : ε → Prop} (all : ∀ event ∈ events, each event) :
    Throughout step (fun _ => each) s events := by
  intro earlier event later middle split _
  apply all
  rw [split]
  exact List.mem_append_right _ List.mem_cons_self

theorem related_update {κ α β : Type*} [DecidableEq κ] {paired : α → β → Prop} {left : κ → α} {right : κ → β}
    (all : ∀ party, paired (left party) (right party)) (party : κ) {after : α} {other : β} (placed : paired after other)
    (slot : κ) : paired (Function.update left party after slot) (Function.update right party other slot) := by
  by_cases here : slot = party
  · subst here
    rw [Function.update_self,Function.update_self]
    exact placed
  · rw [Function.update_of_ne here,Function.update_of_ne here]
    exact all slot

theorem advance_watched (step : σ → ε → Option σ) (look : σ → ο) : advance (watched step look) = step := by
  funext s event
  unfold advance watched
  cases step s event <;> rfl

theorem advance_through (look : ο → π) (respond : σ → ε → Option (σ × ο)) :
    advance (through look respond) = advance respond := by
  funext s event
  unfold advance through
  cases respond s event <;> rfl

theorem observed_all (respond : σ → ε → Option (σ × ο)) (s : σ) (events : List ε) :
    observed respond (fun _ _ => True) s events = transcript respond s events := by
  induction events generalizing s with
  | nil => rfl
  | cons event rest ih =>
    simp only [observed,transcript,if_true]
    cases respond s event with
    | none => rfl
    | some pair => exact congrArg (_ :: ·) (ih pair.1)

variable [∀ s event, Decidable (mine s event)]

theorem observed_own (answered : respond s event = some (t,outcome)) (asked : mine s event) :
    observed respond mine s (event :: events) = (event,outcome) :: observed respond mine t events := by
  simp [observed,answered,asked]

theorem observed_foreign (answered : respond s event = some (t,outcome)) (foreign : ¬ mine s event) :
    observed respond mine s (event :: events) = observed respond mine t events := by
  simp [observed,answered,foreign]

theorem own_filter {asks : ε → Prop} [DecidablePred asks] (path : Runs (advance respond) s events t) :
    own respond (fun _ => asks) s events = events.filter fun event => decide (asks event) := by
  unfold own
  induction path with
  | stop => rfl
  | @take s t u event rest taken _ ih =>
    obtain ⟨outcome,answered⟩ := advance_parts taken
    by_cases asked : asks event
    · rw [observed_own answered asked,List.map_cons,ih]
      simp [asked]
    · rw [observed_foreign answered asked,ih]
      simp [asked]

theorem own_all (path : Runs (advance respond) s events t) : own respond (fun _ _ => True) s events = events := by
  have kept : own respond (fun _ _ => True) s events = events.filter fun _ => decide True := own_filter path
  rwa [decide_true,List.filter_true] at kept

theorem Simulates.run (simulates : Simulates respond alone mine meets related) (path : Runs (advance respond) s events t)
    (all : Throughout (advance respond) meets s events) (start : related s u) :
    ∃ v, Runs (advance alone) u (own respond mine s events) v ∧
      transcript alone u (own respond mine s events) = observed respond mine s events ∧ related t v := by
  unfold own
  induction path generalizing u with
  | stop => exact ⟨u,.stop,rfl,start⟩
  | @take s next t event rest taken _ ih =>
    obtain ⟨outcome,answered⟩ := advance_parts taken
    have later := all.tail taken
    by_cases asked : mine s event
    · obtain ⟨after,also,together⟩ := simulates.answered start asked all.head answered
      obtain ⟨v,purged,same,last⟩ := ih later together
      have onward : advance alone u event = some after := by simp [advance,also]
      rw [observed_own answered asked,List.map_cons]
      refine ⟨v,.take onward purged,?_,last⟩
      simp only [transcript,also,same]
    · rw [observed_foreign answered asked]
      exact ih later (simulates.unseen start asked answered)

theorem Simulates.alike (simulates : Simulates respond alone mine meets related) (path : Runs (advance respond) s events t)
    (all : Throughout (advance respond) meets s events) (start : related s u)
    (elsewhere : Runs (advance respond) other others final) (also : Throughout (advance respond) meets other others)
    (begun : related other u) (same : own respond mine s events = own respond mine other others) :
    observed respond mine s events = observed respond mine other others ∧ ∃ v, related t v ∧ related final v := by
  obtain ⟨v,left,seen,together⟩ := simulates.run path all start
  obtain ⟨w,right,viewed,last⟩ := simulates.run elsewhere also begun
  rw [← same] at right viewed
  obtain rfl := left.unique right
  exact ⟨seen.symm.trans viewed,v,together,last⟩

end Simulation
