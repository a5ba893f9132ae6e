import OpenModelOps.SreActions
import OpenModelOps.RunHistory

namespace OpenModelOps.SreCluster
open PythonText RunHistory
open SreActions (WriterCall)

-- What writers can change in a deployment; the rest of the object is one field.
structure Content where
  replicas : Int
  restartedAt : Option String
  other : String
  deriving DecidableEq

structure Deployment where
  uid : String
  resourceVersion : String
  content : Content
  deriving DecidableEq

structure Target where
  namespace_ : String
  name : String
  deriving DecidableEq

def target : WriterCall → Target
  | .scaleDeployment namespace_ name _ _ _ => ⟨namespace_,name⟩
  | .restartDeployment namespace_ name _ _ => ⟨namespace_,name⟩

def expectedUid : WriterCall → String
  | .scaleDeployment _ _ _ uid _ => uid
  | .restartDeployment _ _ uid _ => uid

def expectedResourceVersion : WriterCall → String
  | .scaleDeployment _ _ _ _ resourceVersion => resourceVersion
  | .restartDeployment _ _ _ resourceVersion => resourceVersion

-- The bodies of the two patches. Neither carries a resourceVersion.
def patched (call : WriterCall) (now : Instant) (content : Content) : Content :=
  match call with
  | .scaleDeployment _ _ replicas _ _ => { content with replicas := replicas }
  | .restartDeployment _ _ _ _ => { content with restartedAt := some (isoformat now) }

-- The comparison of _deployment; none is its RuntimeError or a 404.
def checked (found : Option Deployment) (call : WriterCall) : Option Deployment :=
  found.filter fun deployment => decide (deployment.uid = expectedUid call) &&
    decide (deployment.resourceVersion = expectedResourceVersion call)

-- The flag is not part of the program: it tells whether the deployment was
-- written since the check of the call.
inductive Client where
  | idle
  | checked (call : WriterCall) (written : Bool)

structure Effect where
  call : WriterCall
  before : Deployment

structure State where
  cluster : Target → Option Deployment
  used : List String
  clients : Nat → Client
  log : List Effect

def initial : State := ⟨fun _ => none,[],fun _ => .idle,[]⟩

-- The client's two requests, and the writes of everybody else. The API server
-- stamps a write with a version that it has not used before.
inductive Event where
  | check (client : Nat) (call : WriterCall)
  | patch (client : Nat) (now : Instant) (resourceVersion : String)
  | create (at_ : Target) (uid resourceVersion : String) (content : Content)
  | update (at_ : Target) (resourceVersion : String) (content : Content)
  | delete (at_ : Target)

def mark (at_ : Target) : Client → Client
  | .idle => .idle
  | .checked call written => .checked call (written || decide (target call = at_))

def put (s : State) (at_ : Target) (after : Option Deployment) : State :=
  { s with
    cluster := Function.update s.cluster at_ after
    used := (after.map (·.resourceVersion)).toList ++ s.used
    clients := fun client => mark at_ (s.clients client) }

-- A write that changes nothing is not stored.
def write (s : State) (at_ : Target) (deployment : Deployment) (resourceVersion : String) (content : Content) : State :=
  if content = deployment.content then s
  else put s at_ (some ⟨deployment.uid,resourceVersion,content⟩)

def stepCheck (s : State) (client : Nat) (call : WriterCall) : Option State :=
  match s.clients client with
  | .idle => match checked (s.cluster (target call)) call with
    | none => some s
    | some _ => some { s with clients := Function.update s.clients client (.checked call false) }
  | .checked .. => none

def stepPatch (s : State) (client : Nat) (now : Instant) (resourceVersion : String) : Option State :=
  match s.clients client with
  | .idle => none
  | .checked call _ =>
    let finished := { s with clients := Function.update s.clients client .idle }
    match s.cluster (target call) with
    | none => some finished
    | some deployment => some { write finished (target call) deployment resourceVersion
        (patched call now deployment.content) with log := s.log ++ [⟨call,deployment⟩] }

def step (s : State) : Event → Option State
  | .check client call => stepCheck s client call
  | .patch client now resourceVersion =>
    if resourceVersion ∈ s.used then none else stepPatch s client now resourceVersion
  | .create at_ uid resourceVersion content =>
    if resourceVersion ∈ s.used then none else match s.cluster at_ with
      | none => some (put s at_ (some ⟨uid,resourceVersion,content⟩))
      | some _ => none
  | .update at_ resourceVersion content =>
    if resourceVersion ∈ s.used then none else match s.cluster at_ with
      | none => none
      | some deployment => some (write s at_ deployment resourceVersion content)
  | .delete at_ => match s.cluster at_ with
    | none => none
    | some _ => some (put s at_ none)

def AppliedAsApproved (s : State) : Prop :=
  ∀ effect ∈ s.log, effect.before.uid = expectedUid effect.call ∧
    effect.before.resourceVersion = expectedResourceVersion effect.call

def Undisturbed (s : State) : Event → Prop
  | .patch client _ _ => match s.clients client with
    | .idle => True
    | .checked call written => written = false ∨ s.cluster (target call) = none
  | _ => True

instance decideUndisturbed (s : State) : (event : Event) → Decidable (Undisturbed s event)
  | .patch client now resourceVersion => match busy : s.clients client with
    | .idle => .isTrue (by simp [Undisturbed,busy])
    | .checked call written =>
      decidable_of_iff (written = false ∨ s.cluster (target call) = none) (by simp [Undisturbed,busy])
  | .check .. => .isTrue trivial
  | .create .. => .isTrue trivial
  | .update .. => .isTrue trivial
  | .delete .. => .isTrue trivial

def Ready (s : State) : Client → Prop
  | .idle => True
  | .checked call written => expectedResourceVersion call ∈ s.used ∧
      (written = false → ∃ deployment, checked (s.cluster (target call)) call = some deployment) ∧
      (written = true → ∀ deployment, s.cluster (target call) = some deployment →
        deployment.resourceVersion ≠ expectedResourceVersion call)

structure Sound (s : State) : Prop where
  stamped : ∀ at_ deployment, s.cluster at_ = some deployment → deployment.resourceVersion ∈ s.used
  clients : ∀ client, Ready s (s.clients client)

theorem initial_sound : Sound initial := ⟨fun _ _ found => (nomatch found),fun _ => trivial⟩

theorem checked_parts {found : Option Deployment} (passed : checked found call = some deployment) :
    found = some deployment ∧ deployment.uid = expectedUid call ∧
      deployment.resourceVersion = expectedResourceVersion call := by
  obtain ⟨there,same⟩ := Option.filter_eq_some_iff.mp passed
  simpa [there] using same

theorem put_ready (ready : Ready s client) (fresh : ∀ deployment, after = some deployment →
    deployment.resourceVersion ∉ s.used) : Ready (put s at_ after) (mark at_ client) := by
  cases client with
  | idle => trivial
  | checked call written =>
    obtain ⟨known,untouched,touched⟩ := ready
    refine ⟨List.mem_append_right _ known,?_,?_⟩
    · intro kept
      simp only [Bool.or_eq_false_iff,decide_eq_false_iff_not] at kept
      simp only [put,Function.update_of_ne kept.2]
      exact untouched kept.1
    · intro marked deployment found
      by_cases here : target call = at_
      · simp only [put,here,Function.update_self] at found
        intro same
        exact fresh deployment found (same ▸ known)
      · simp only [put,Function.update_of_ne here] at found
        simp only [here,decide_false,Bool.or_false] at marked
        exact touched marked deployment found

theorem put_sound (sound : Sound s) (fresh : ∀ deployment, after = some deployment →
    deployment.resourceVersion ∉ s.used) : Sound (put s at_ after) := by
  refine ⟨fun other deployment found => ?_,fun client => put_ready (sound.clients client) fresh⟩
  by_cases here : other = at_
  · subst other
    simp only [put,Function.update_self] at found
    simp [put,found]
  · simp only [put,Function.update_of_ne here] at found
    exact List.mem_append_right _ (sound.stamped other deployment found)

theorem write_sound (sound : Sound s) (fresh : resourceVersion ∉ s.used) :
    Sound (write s at_ deployment resourceVersion content) := by
  unfold write
  split
  · exact sound
  · refine put_sound sound fun stored same => ?_
    cases Option.some.inj same
    exact fresh

theorem placed_sound (sound : Sound s) (ready : Ready s after) :
    Sound { s with clients := Function.update s.clients client after } :=
  ⟨sound.stamped,updated_all sound.clients ready⟩

theorem logged_sound (sound : Sound s) : Sound { s with log := log } := ⟨sound.stamped,sound.clients⟩

inductive Moves (s : State) : Event → State → Prop where
  | refused : Moves s (.check client call) s
  | passed : checked (s.cluster (target call)) call = some deployment →
      Moves s (.check client call) { s with clients := Function.update s.clients client (.checked call false) }
  | gone : s.clients client = .checked call written → s.cluster (target call) = none →
      Moves s (.patch client now resourceVersion) { s with clients := Function.update s.clients client .idle }
  | patched : resourceVersion ∉ s.used → s.clients client = .checked call written →
      s.cluster (target call) = some deployment →
      Moves s (.patch client now resourceVersion)
        { write { s with clients := Function.update s.clients client .idle } (target call) deployment resourceVersion
            (patched call now deployment.content) with log := s.log ++ [⟨call,deployment⟩] }
  | created : resourceVersion ∉ s.used →
      Moves s (.create at_ uid resourceVersion content) (put s at_ (some ⟨uid,resourceVersion,content⟩))
  | updated : resourceVersion ∉ s.used →
      Moves s (.update at_ resourceVersion content) (write s at_ deployment resourceVersion content)
  | deleted : Moves s (.delete at_) (put s at_ none)

theorem step_moves (taken : step s event = some next) : Moves s event next := by
  cases event with
  | check client call =>
    simp only [step,stepCheck] at taken
    split at taken
    · split at taken
      · cases Option.some.inj taken; exact .refused
      · rename_i deployment passed
        cases Option.some.inj taken
        exact .passed passed
    · cases taken
  | patch client now resourceVersion =>
    simp only [step] at taken
    split at taken
    · cases taken
    · rename_i fresh
      simp only [stepPatch] at taken
      split at taken
      · cases taken
      · rename_i call written busy
        split at taken
        · rename_i gone
          cases Option.some.inj taken
          exact .gone busy gone
        · rename_i deployment found
          cases Option.some.inj taken
          exact .patched fresh busy found
  | create at_ uid resourceVersion content =>
    simp only [step] at taken
    split at taken
    · cases taken
    · rename_i fresh
      split at taken
      · cases Option.some.inj taken; exact .created fresh
      · cases taken
  | update at_ resourceVersion content =>
    simp only [step] at taken
    split at taken
    · cases taken
    · rename_i fresh
      split at taken
      · cases taken
      · cases Option.some.inj taken; exact .updated fresh
  | delete at_ =>
    simp only [step] at taken
    split at taken
    · cases taken
    · cases Option.some.inj taken; exact .deleted

theorem step_sound (sound : Sound s) (taken : step s event = some next) : Sound next := by
  cases step_moves taken with
  | refused => exact sound
  | passed passed =>
    obtain ⟨found,_,version⟩ := checked_parts passed
    exact placed_sound sound ⟨version ▸ sound.stamped _ _ found,fun _ => ⟨_,passed⟩,fun marked => (nomatch marked)⟩
  | gone _ _ => exact placed_sound sound trivial
  | @patched resourceVersion client _ _ _ _ fresh _ _ =>
    have finished : Sound { s with clients := Function.update s.clients client .idle } := placed_sound sound trivial
    exact logged_sound (write_sound finished fresh)
  | created fresh =>
    refine put_sound sound fun stored same => ?_
    cases Option.some.inj same
    exact fresh
  | updated fresh => exact write_sound sound fresh
  | deleted => exact put_sound sound fun _ same => (nomatch same)

@[simp] theorem write_log (s : State) : (write s at_ deployment resourceVersion content).log = s.log := by
  unfold write
  split <;> rfl

theorem patch_exact (applied : AppliedAsApproved s) (ready : Ready s (.checked call written))
    (found : s.cluster (target call) = some deployment) (logged : next.log = s.log ++ [⟨call,deployment⟩]) :
    AppliedAsApproved next ↔ written = false := by
  obtain ⟨_,untouched,touched⟩ := ready
  unfold AppliedAsApproved
  rw [logged]
  constructor
  · intro all
    by_contra marked
    have version := (all ⟨call,deployment⟩ (by simp)).2
    exact touched (by simpa using marked) deployment found version
  · intro kept effect member
    rcases List.mem_append.mp member with earlier | last
    · exact applied effect earlier
    · cases List.mem_singleton.mp last
      obtain ⟨again,passed⟩ := untouched kept
      obtain ⟨there,uid,version⟩ := checked_parts passed
      cases Option.some.inj (found.symm.trans there)
      exact ⟨uid,version⟩

theorem step_exact (sound : Sound s) (applied : AppliedAsApproved s) (taken : step s event = some next) :
    AppliedAsApproved next ↔ Undisturbed s event := by
  cases step_moves taken with
  | refused => exact iff_of_true applied trivial
  | passed _ => exact iff_of_true applied trivial
  | gone busy absent =>
    refine iff_of_true applied ?_
    simp only [Undisturbed,busy]
    exact .inr absent
  | @patched resourceVersion client call written deployment now _ busy found =>
    have ready := sound.clients client
    rw [busy] at ready
    simp only [Undisturbed,busy,found,reduceCtorEq,or_false]
    exact patch_exact applied ready found rfl
  | created _ => exact iff_of_true applied trivial
  | updated _ =>
    refine iff_of_true ?_ trivial
    unfold AppliedAsApproved
    rw [write_log]
    exact applied
  | deleted => exact iff_of_true applied trivial

-- In every state of a run each patch was applied to the version that its call
-- names, exactly when nobody wrote a deployment between a check and a patch.
theorem patches_applied_as_approved_iff_undisturbed (path : Runs step initial events t) :
    Always step AppliedAsApproved initial events ↔ Throughout step Undisturbed initial events :=
  path.always_exact (fun sound taken => step_sound sound taken)
    (fun sound applied taken => step_exact sound applied taken) initial_sound
    (fun _ member => (nomatch member))

def api : Target := ⟨"payments","api"⟩

def scaleApi : WriterCall := .scaleDeployment "payments" "api" 4 "u-1" "1"

def quiet : List Event :=
  [.create api "u-1" "1" ⟨2,none,"image"⟩,.check 0 scaleApi,.patch 0 0 "2"]

theorem quiet_applied : Always step AppliedAsApproved initial quiet := by
  have ran : (consume step initial quiet).isSome = true := by decide +kernel
  obtain ⟨t,consumed⟩ := Option.isSome_iff_exists.mp ran
  exact (patches_applied_as_approved_iff_undisturbed (consume_exact.mp consumed)).mpr (by decide +kernel)

def disturbed : List Event :=
  [.create api "u-1" "1" ⟨2,none,"image"⟩,.check 0 scaleApi,.update api "2" ⟨2,none,"another image"⟩,.patch 0 0 "3"]

theorem disturbed_patch_applied : ∃ t, Runs step initial disturbed t ∧ ¬ AppliedAsApproved t := by
  have found : (consume step initial disturbed).map
      (fun t => t.log.map fun effect => (expectedResourceVersion effect.call,effect.before.resourceVersion)) =
        some [("1","2")] := by decide +kernel
  obtain ⟨t,consumed,versions⟩ := Option.map_eq_some_iff.mp found
  refine ⟨t,consume_exact.mp consumed,fun applied => ?_⟩
  have member : ("1","2") ∈ t.log.map
      fun effect => (expectedResourceVersion effect.call,effect.before.resourceVersion) := by simp [versions]
  obtain ⟨effect,inside,pair⟩ := List.mem_map.mp member
  obtain ⟨expects,finds⟩ := Prod.mk.inj pair
  have same := (applied effect inside).2
  rw [expects,finds] at same
  exact absurd same (by decide)

end OpenModelOps.SreCluster
