import OpenModelOps.MlopsDomain

namespace OpenModelOps.MlopsHistory
open PythonFloat PythonText MlopsDomain RunHistory
variable {repr : PyFloat → String}

def promotedStates : List RunState := [.candidate,.approved,.deploying,.canary,.production]

def Promoted (state : RunState) : Prop := state ∈ promotedStates

instance (state : RunState) : Decidable (Promoted state) := inferInstanceAs (Decidable (_ ∈ _))

def Undecided (state : RunState) : Prop := state = .created ∨ state = .training ∨ state = .evaluating

instance (state : RunState) : Decidable (Undecided state) := inferInstanceAs (Decidable (_ ∨ _))

def Passes (repr : PyFloat → String) (before : ModelRun) (call : Call) (run : ModelRun) : Prop :=
  ∃ metrics artifactDigest policy actor now, call = .recordEvaluation metrics artifactDigest policy actor now ∧
    (before.recordEvaluation repr metrics artifactDigest policy actor now).2 = .ok true ∧
    run.artifactDigest = some artifactDigest ∧ startsWith artifactDigest "sha256:" = true ∧
    run.metrics = metrics ∧ (policy.evaluate repr metrics).1 = true

def Evaluated (repr : PyFloat → String) (start : ModelRun) (calls : List Call) (run : ModelRun) : Prop :=
  ∃ earlier call later before, calls = earlier ++ call :: later ∧ Runs (step repr) start earlier before ∧
    Passes repr before call run

def Bypasses (run : ModelRun) (call : Call) : Prop :=
  run.state = .evaluating ∧ ∃ actor reason now, call = .transition .candidate actor reason now

def Carries (before after : ModelRun) : Prop :=
  after.artifactDigest = before.artifactDigest ∧ after.metrics = before.metrics

theorem Passes.carried (passes : Passes repr before call run) (carries : Carries run next) :
    Passes repr before call next := by
  obtain ⟨metrics,digest,policy,actor,now,rfl,returned,digested,sha,measured,satisfied⟩ := passes
  exact ⟨metrics,digest,policy,actor,now,rfl,returned,carries.1.trans digested,sha,
    carries.2.trans measured,satisfied⟩

theorem transitions_promoted {source : RunState} (listed : target ∈ transitions source) (promoted : Promoted target) :
    Promoted source ∨ source = .evaluating ∧ target = .candidate := by
  revert listed promoted
  cases source <;> cases target <;> decide

theorem transitions_decided {source : RunState} (listed : target ∈ transitions source) (decided : ¬ Undecided source) :
    ¬ Undecided target := by
  revert listed decided
  cases source <;> cases target <;> decide

theorem perform_cases (repr : PyFloat → String) (run : ModelRun) (call : Call) :
    perform repr run call = run ∨
    (∃ target actor reason now, call = .transition target actor reason now ∧ target ∈ transitions run.state ∧
      (perform repr run call).state = target ∧ Carries run (perform repr run call)) ∨
    (run.state = .evaluating ∧ (perform repr run call).state = .rejected) ∨
    ((perform repr run call).state = .candidate ∧ Passes repr run call (perform repr run call)) := by
  cases call with
  | transition target actor reason now =>
    simp only [perform]
    split
    · exact .inl rfl
    · rename_i next done
      obtain ⟨listed,state,digest,metrics,_⟩ := transition_parts done
      exact .inr (.inl ⟨target,actor,reason,now,rfl,listed,state,digest,metrics⟩)
  | recordEvaluation metrics artifactDigest policy actor now =>
    have recorded := recordEvaluation_recorded repr run metrics artifactDigest policy actor now
    simp only [perform,Passes]
    generalize result : run.recordEvaluation repr metrics artifactDigest policy actor now = pair at recorded
    cases recorded with
    | refused message => exact .inl rfl
    | decided passed next evaluating sha satisfied state measured digest _ =>
      cases passed with
      | false => exact .inr (.inr (.inl ⟨evaluating,state⟩))
      | true =>
        exact .inr (.inr (.inr ⟨state,metrics,artifactDigest,policy,actor,now,rfl,by rw [result],digest,sha,measured,
          satisfied⟩))

theorem step_promoted (taken : step repr run call = some next) (promoted : Promoted next.state) :
    (Promoted run.state ∧ Carries run next) ∨ Bypasses run call ∨ Passes repr run call next := by
  cases Option.some.inj taken
  rcases perform_cases repr run call with same | ⟨target,actor,reason,now,made,listed,state,carries⟩ |
    ⟨_,rejected⟩ | ⟨_,passes⟩
  · rw [same] at promoted ⊢
    exact .inl ⟨promoted,rfl,rfl⟩
  · rw [state] at promoted
    rcases transitions_promoted listed promoted with earlier | ⟨evaluating,candidate⟩
    · exact .inl ⟨earlier,carries⟩
    · exact .inr (.inl ⟨evaluating,actor,reason,now,by rw [made,candidate]⟩)
  · rw [rejected] at promoted
    exact absurd promoted (by decide)
  · exact .inr (.inr passes)

theorem step_decided (taken : step repr run call = some next) (decided : ¬ Undecided run.state) :
    ¬ Undecided next.state := by
  cases Option.some.inj taken
  rcases perform_cases repr run call with same | ⟨target,_,_,_,_,listed,state,_⟩ | ⟨_,rejected⟩ | ⟨candidate,_⟩
  · rw [same]; exact decided
  · rw [state]; exact transitions_decided listed decided
  · rw [rejected]; decide
  · rw [candidate]; decide

theorem Evaluated.later (evaluated : Evaluated repr next calls run) (taken : step repr start call = some next) :
    Evaluated repr start (call :: calls) run := by
  obtain ⟨earlier,entry,later,before,split,path,passes⟩ := evaluated
  exact ⟨call :: earlier,entry,later,before,by rw [split]; rfl,.take taken path,passes⟩

theorem run_promoted (path : Runs (step repr) start calls run)
    (gated : Throughout (step repr) (fun run call => ¬ Bypasses run call) start calls) (promoted : Promoted run.state) :
    (Promoted start.state ∧ Carries start run) ∨ Evaluated repr start calls run := by
  induction path with
  | stop => exact .inl ⟨promoted,rfl,rfl⟩
  | @take s t u call rest taken remaining ih =>
    rcases ih (gated.tail taken) promoted with ⟨here,carries⟩ | evaluated
    · rcases step_promoted taken here with ⟨before,carried⟩ | bypasses | passes
      · exact .inl ⟨before,carries.1.trans carried.1,carries.2.trans carried.2⟩
      · exact absurd bypasses gated.head
      · exact .inr ⟨[],call,rest,s,rfl,.stop,passes.carried carries⟩
    · exact .inr (evaluated.later taken)

theorem passes_decided (passes : Passes repr run call final) : ¬ Undecided (perform repr run call).state := by
  obtain ⟨metrics,digest,policy,actor,now,rfl,returned,_⟩ := passes
  have recorded := recordEvaluation_recorded repr run metrics digest policy actor now
  simp only [perform]
  generalize run.recordEvaluation repr metrics digest policy actor now = pair at recorded returned
  cases recorded with
  | refused message => cases returned
  | decided passed next _ _ _ state _ _ _ => rw [state]; split <;> decide

-- After a passed evaluation the run never evaluates again, so a candidate made
-- by hand has none behind it.
theorem bypass_unevaluated (path : Runs (step repr) start earlier run) (bypasses : Bypasses run call) :
    ¬ Evaluated repr start (earlier ++ [call]) final := by
  rintro ⟨first,entry,later,before,split,left,passes⟩
  have decided := passes_decided passes
  rcases List.eq_nil_or_concat later with rfl | ⟨middle,last,rfl⟩
  · obtain ⟨_,actor,reason,now,rfl⟩ := bypasses
    obtain ⟨_,same⟩ := List.append_inj' split rfl
    obtain ⟨_,_,_,_,_,made,_⟩ := passes
    rw [made] at same
    cases List.cons.inj same |>.1
  · rw [List.concat_eq_append,← List.cons_append,← List.append_assoc] at split
    obtain ⟨rfl,_⟩ := List.append_inj' split rfl
    obtain ⟨between,toBetween,right⟩ := path.parts
    cases toBetween.unique left
    cases right with
    | take taken remaining =>
      cases Option.some.inj taken
      have stillDecided := remaining.invariant (fun held taken => step_decided taken held) decided
      exact stillDecided (.inr (.inr bypasses.1))

-- In a history of calls on a fresh run, every promoted state that is reached
-- has a passed evaluation behind it exactly when no candidate is made by hand.
theorem promotion_gated_iff (repr : PyFloat → String) (runId modelName datasetDigest codeRevision owner : String)
    (calls : List Call) :
    (∀ earlier later run, calls = earlier ++ later →
      Runs (step repr) (.fresh runId modelName datasetDigest codeRevision owner) earlier run → Promoted run.state →
      Evaluated repr (.fresh runId modelName datasetDigest codeRevision owner) earlier run) ↔
    Throughout (step repr) (fun run call => ¬ Bypasses run call)
      (.fresh runId modelName datasetDigest codeRevision owner) calls := by
  constructor
  · intro holds earlier call later run split path bypasses
    have taken : step repr run call = some (perform repr run call) := rfl
    have candidate : Promoted (perform repr run call).state := by
      obtain ⟨evaluating,actor,reason,now,rfl⟩ := bypasses
      obtain ⟨next,done⟩ := evaluating_transition evaluating true actor reason now
      obtain ⟨_,state,_⟩ := transition_parts done
      simp only [perform,if_true] at done ⊢
      rw [done]
      change Promoted next.state
      rw [state]
      decide
    exact bypass_unevaluated path bypasses
      (holds (earlier ++ [call]) later _ (by rw [split]; simp) (path.trans (.single taken)) candidate)
  · intro gated earlier later run split path promoted
    subst calls
    rcases run_promoted path gated.before promoted with ⟨here,_⟩ | evaluated
    · exact absurd here (by change ¬ Promoted .created; decide)
    · exact evaluated

def ungated : List Call :=
  [.transition .training "trainer" "start" 0,.transition .evaluating "trainer" "training complete" 0,
    .transition .candidate "trainer" "" 0,.transition .approved "reviewer" "looks good" 0,
    .transition .deploying "trainer" "" 0,.transition .canary "trainer" "" 0,.transition .production "trainer" "" 0]

theorem promotion_ungated : ¬ ∀ (repr : PyFloat → String) (runId modelName datasetDigest codeRevision owner : String)
    (calls : List Call) (run : ModelRun),
    Runs (step repr) (.fresh runId modelName datasetDigest codeRevision owner) calls run → Promoted run.state →
    Evaluated repr (.fresh runId modelName datasetDigest codeRevision owner) calls run := by
  intro holds
  have reached : (consume (step fun _ => "0.9") (.fresh "run-1" "fraud-risk" "sha256:aa" "abc1234" "trainer")
      ungated).map (fun run => (run.state,run.artifactDigest)) = some (.production,none) := by decide +kernel
  obtain ⟨run,consumed,fields⟩ := Option.map_eq_some_iff.mp reached
  obtain ⟨state,digest⟩ := Prod.mk.inj fields
  obtain ⟨_,_,_,_,_,_,passes⟩ := holds _ _ _ _ _ _ _ _ (consume_exact.mp consumed) (by rw [state]; decide)
  obtain ⟨_,_,_,_,_,_,_,digested,_⟩ := passes
  rw [digest] at digested
  cases digested

end OpenModelOps.MlopsHistory
