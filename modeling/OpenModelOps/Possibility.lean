import OpenModelOps.RunHistory

namespace Possibility
open RunHistory

variable {σ ε α : Type*} {advance : σ → ε → Option σ} {s t : σ} {events : List ε} {goal middle ready trapped : σ → Prop}

-- Some way of going on leads to the goal. That is one schedule, not what
-- happens in every run.
def Possible (advance : σ → ε → Option σ) (goal : σ → Prop) (s : σ) : Prop := ∃ events t, Runs advance s events t ∧ goal t

theorem Possible.here (held : goal s) : Possible advance goal s := ⟨[],s,.stop,held⟩

theorem Possible.after (path : Runs advance s events t) (possible : Possible advance goal t) : Possible advance goal s := by
  obtain ⟨later,u,rest,reached⟩ := possible
  exact ⟨events ++ later,u,path.trans rest,reached⟩

theorem Possible.through (possible : Possible advance middle s) (onward : ∀ t, middle t → Possible advance goal t) :
    Possible advance goal s := by
  obtain ⟨events,t,path,reached⟩ := possible
  exact .after path (onward t reached)

theorem Possible.imp (possible : Possible advance middle s) (weaker : ∀ t, middle t → goal t) : Possible advance goal s :=
  possible.through fun t reached => .here (weaker t reached)

theorem Possible.each {settled : α → σ → Prop}
    (one : ∀ item s, ready s →
      Possible advance (fun t => ready t ∧ settled item t ∧ ∀ other, settled other s → settled other t) s)
    (items : List α) (start : ready s) : Possible advance (fun t => ready t ∧ ∀ item ∈ items, settled item t) s := by
  have kept : Possible advance (fun t => ready t ∧ (∀ item ∈ items, settled item t) ∧
      ∀ other, settled other s → settled other t) s := by
    induction items generalizing s with
    | nil => exact .here ⟨start,fun _ listed => absurd listed List.not_mem_nil,fun _ held => held⟩
    | cons item items ih =>
      refine (one item s start).through fun t reached => ?_
      obtain ⟨still,done,keeps⟩ := reached
      refine (ih still).imp fun u last => ?_
      obtain ⟨final,all,keeping⟩ := last
      refine ⟨final,?_,fun other held => keeping other (keeps other held)⟩
      intro other listed
      rcases List.mem_cons.mp listed with rfl | later
      · exact keeping _ done
      · exact all other later
  exact kept.imp fun t reached => ⟨reached.1,reached.2.1⟩

theorem impossible (closed : ∀ {before event next}, trapped before → advance before event = some next → trapped next)
    (start : trapped s) (clear : ∀ t, trapped t → ¬ goal t) : ¬ Possible advance goal s := by
  intro possible
  obtain ⟨events,t,path,reached⟩ := possible
  exact clear t (path.invariant closed start) reached

end Possibility
