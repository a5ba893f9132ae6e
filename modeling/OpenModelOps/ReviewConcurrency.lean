import OpenModelOps.ReviewService
import OpenModelOps.RunHistory

namespace OpenModelOps.ReviewConcurrency
open KeyedTable ReviewService RunHistory
open PythonText (Instant)

inductive Outcome where
  | refreshed (comments : List InlineComment)
  | approved (commentId : Int) (actor : String)

-- A call in flight. Both calls write back the whole document that they read.
inductive Client where
  | idle
  | fetching (config : ReviewAgentConfig) (pull : Pull) (review : PullRequestReview)
  | saving (pull : Pull) (read updated : PullRequestReview) (outcome : Outcome)

-- The log is not part of the program: it lists the calls that returned after a
-- write, with the key of the pull request.
structure State where
  store : ReviewStore
  clients : Nat → Client
  log : List (String × Outcome)

inductive Event where
  | refresh (client : Nat) (config : ReviewAgentConfig) (pull : Pull)
  | fetch (client : Nat) (github : GitHub) (now : Instant)
  | approve (client : Nat) (pull : Pull) (commentId : Int) (actor : String)
  | write (client : Nat)

def place (s : State) (client : Nat) (after : Client) : State :=
  { s with clients := Function.update s.clients client after }

-- The read of refresh_report; it returns at once where nothing is to be fetched.
def stepRefresh (s : State) (client : Nat) (config : ReviewAgentConfig) (pull : Pull) : Option State :=
  match s.clients client with
  | .idle => match get s.store pull with
    | none => some s
    | some review => if review.eligibleAtOpen then some (place s client (.fetching config pull review)) else some s
  | _ => none

def stepFetch (s : State) (client : Nat) (github : GitHub) (now : Instant) : Option State :=
  match s.clients client with
  | .fetching config pull review => match fetchAll config github pull review.changedPaths with
    | .error _ => some (place s client .idle)
    | .ok (report,security) => some (place s client (.saving pull review
        (review.recordFindings report.summaries report.comments security now) (.refreshed report.comments)))
  | _ => none

-- The read of approve_suggestion and its checks, which touch no shared data.
def stepApprove (s : State) (client : Nat) (pull : Pull) (commentId : Int) (actor : String) : Option State :=
  match s.clients client with
  | .idle => match get s.store pull with
    | none => some s
    | some review => match review.approveSuggestion commentId actor with
      | .error _ => some s
      | .ok updated => some (place s client (.saving pull review updated (.approved commentId actor)))
  | _ => none

def stepWrite (s : State) (client : Nat) : Option State :=
  match s.clients client with
  | .saving pull _ updated outcome =>
    some ⟨save s.store updated,Function.update s.clients client .idle,s.log ++ [(pull.key,outcome)]⟩
  | _ => none

def step (s : State) : Event → Option State
  | .refresh client config pull => stepRefresh s client config pull
  | .fetch client github now => stepFetch s client github now
  | .approve client pull commentId actor => stepApprove s client pull commentId actor
  | .write client => stepWrite s client

def start (saved : List PullRequestReview) : State := ⟨saved.foldl save Table.empty,fun _ => .idle,[]⟩

def Outcome.comments : Outcome → Option (List InlineComment)
  | .refreshed comments => some comments
  | .approved _ _ => none

def Outcome.approval (commentId : Int) : Outcome → Option String
  | .refreshed _ => none
  | .approved other actor => if other = commentId then some actor else none

-- What the calls that returned make of a pull request that was last stored so:
-- the report of the last refresh, and for each comment its last approval.
def latest (log : List (String × Outcome)) (key : String) (look : Outcome → Option α) (before : Option α) : Option α :=
  log.foldl (fun current entry => if entry.1 = key then (look entry.2).or current else current) before

structure Kept (base : ReviewStore) (s : State) : Prop where
  comments : ∀ pull, (get s.store pull).map (·.inlineComments) =
    latest s.log pull.key Outcome.comments ((get base pull).map (·.inlineComments))
  approvals : ∀ pull commentId, (get s.store pull).bind (·.approvals.get commentId) =
    latest s.log pull.key (Outcome.approval commentId) ((get base pull).bind (·.approvals.get commentId))

-- At a write the document still has what the call read and does not replace:
-- the approvals of the other comments and, for an approval, the comments.
def Unchanged (s : State) : Event → Prop
  | .write client => match s.clients client with
    | .saving pull read _ outcome => ∃ current, get s.store pull = some current ∧
        (∀ commentId, outcome.approval commentId = none →
          current.approvals.get commentId = read.approvals.get commentId) ∧
        (outcome.comments = none → current.inlineComments = read.inlineComments)
    | _ => True
  | _ => True

@[simp] theorem latest_snoc (log : List (String × Outcome)) (entry : String × Outcome) (key : String)
    (look : Outcome → Option α) (before : Option α) :
    latest (log ++ [entry]) key look before =
      if entry.1 = key then (look entry.2).or (latest log key look before) else latest log key look before := by
  simp [latest,List.foldl_append]

structure Writes (read updated : PullRequestReview) (outcome : Outcome) : Prop where
  key : updated.key = read.key
  comments : updated.inlineComments = outcome.comments.getD read.inlineComments
  approvals : ∀ commentId, updated.approvals.get commentId =
    (outcome.approval commentId).or (read.approvals.get commentId)

theorem recordFindings_writes (review : PullRequestReview) (report : ReviewReport) (security : List SecurityFinding)
    (now : Instant) : Writes review (review.recordFindings report.summaries report.comments security now)
      (.refreshed report.comments) :=
  ⟨rfl,rfl,fun _ => rfl⟩

theorem approveSuggestion_writes {review updated : PullRequestReview}
    (approved : review.approveSuggestion commentId actor = .ok updated) :
    Writes review updated (.approved commentId actor) := by
  obtain ⟨_,rfl⟩ := approveSuggestion_parts approved
  refine ⟨rfl,rfl,fun other => ?_⟩
  rw [Dict.get_set]
  by_cases same : other = commentId
  · simp [Outcome.approval,same]
  · simp [Outcome.approval,same,Ne.symm same]

def Ready (store : ReviewStore) : Client → Prop
  | .idle => True
  | .fetching _ pull review => review.key = pull.key ∧ (get store pull).isSome = true
  | .saving pull read updated outcome => read.key = pull.key ∧ (get store pull).isSome = true ∧
      Writes read updated outcome

structure Sound (s : State) : Prop where
  keyed : Keyed s.store
  clients : ∀ client, Ready s.store (s.clients client)

theorem saved_keyed (saved : List PullRequestReview) (keyed : Keyed store) : Keyed (saved.foldl save store) := by
  induction saved generalizing store with
  | nil => exact keyed
  | cons review rest ih =>
    have own : review.key = Pull.key ⟨review.owner,review.repository,review.pullNumber⟩ := rfl
    exact ih (keyed.saved own)

theorem start_sound (saved : List PullRequestReview) : Sound (start saved) :=
  ⟨saved_keyed saved (fun _ _ found => (nomatch found)),fun _ => trivial⟩

theorem start_kept (saved : List PullRequestReview) : Kept (start saved).store (start saved) :=
  ⟨fun _ => rfl,fun _ _ => rfl⟩

section Steps
variable {base : ReviewStore} {s next : State} {event : Event} {pull : Pull} {read updated : PullRequestReview}
  {outcome : Outcome} {client : Nat}

theorem step_cases (sound : Sound s) (taken : step s event = some next) :
    (∃ client after, next = place s client after ∧ Ready s.store after ∧ Unchanged s event) ∨
    ∃ client pull read updated outcome, event = .write client ∧ s.clients client = .saving pull read updated outcome ∧
      next = ⟨save s.store updated,Function.update s.clients client .idle,s.log ++ [(pull.key,outcome)]⟩ := by
  have stays : ∀ client, s = place s client (s.clients client) := by
    intro client
    rw [place,Function.update_eq_self]
  cases event with
  | refresh client config pull =>
    refine .inl ⟨client,?_⟩
    simp only [step,stepRefresh] at taken
    split at taken
    · split at taken
      · cases Option.some.inj taken
        exact ⟨_,stays client,sound.clients client,trivial⟩
      · rename_i review found
        split at taken
        · cases Option.some.inj taken
          exact ⟨_,rfl,⟨sound.keyed pull review found,by rw [found]; rfl⟩,trivial⟩
        · cases Option.some.inj taken
          exact ⟨_,stays client,sound.clients client,trivial⟩
    · cases taken
  | fetch client github now =>
    refine .inl ⟨client,?_⟩
    simp only [step,stepFetch] at taken
    split at taken
    · rename_i config pull review fetching
      have ready := sound.clients client
      rw [fetching] at ready
      split at taken
      · cases Option.some.inj taken
        exact ⟨_,rfl,trivial,trivial⟩
      · rename_i report security fetched
        cases Option.some.inj taken
        exact ⟨_,rfl,⟨ready.1,ready.2,recordFindings_writes review report security now⟩,trivial⟩
    · cases taken
  | approve client pull commentId actor =>
    refine .inl ⟨client,?_⟩
    simp only [step,stepApprove] at taken
    split at taken
    · split at taken
      · cases Option.some.inj taken
        exact ⟨_,stays client,sound.clients client,trivial⟩
      · rename_i review found
        split at taken
        · cases Option.some.inj taken
          exact ⟨_,stays client,sound.clients client,trivial⟩
        · rename_i updated approved
          cases Option.some.inj taken
          exact ⟨_,rfl,⟨sound.keyed pull review found,by rw [found]; rfl,approveSuggestion_writes approved⟩,trivial⟩
    · cases taken
  | write client =>
    simp only [step,stepWrite] at taken
    split at taken
    · rename_i pull read updated outcome saving
      exact .inr ⟨client,pull,read,updated,outcome,rfl,saving,(Option.some.inj taken).symm⟩
    · cases taken

theorem Ready.saved {store : ReviewStore} {client : Client} (ready : Ready store client) :
    Ready (save store updated) client := by
  have grows : ∀ pull, (get store pull).isSome = true → (get (save store updated) pull).isSome = true := by
    intro pull present
    rw [get_save]
    split
    · rfl
    · exact present
  cases client with
  | idle => trivial
  | fetching config pull review => exact ⟨ready.1,grows pull ready.2⟩
  | saving pull read updated outcome => exact ⟨ready.1,grows pull ready.2.1,ready.2.2⟩

theorem step_sound (sound : Sound s) (taken : step s event = some next) : Sound next := by
  rcases step_cases sound taken with ⟨client,after,rfl,ready,_⟩ | ⟨client,pull,read,updated,outcome,_,saving,rfl⟩
  · exact ⟨sound.keyed,updated_all sound.clients ready⟩
  · have ready := sound.clients client
    rw [saving] at ready
    have keyed : updated.key = pull.key := ready.2.2.key.trans ready.1
    exact ⟨sound.keyed.saved keyed,updated_all (fun other => (sound.clients other).saved) trivial⟩

theorem write_exact (kept : Kept base s) (keyed : read.key = pull.key) (writes : Writes read updated outcome)
    (found : get s.store pull = some current) (clients : Nat → Client) :
    Kept base ⟨save s.store updated,clients,s.log ++ [(pull.key,outcome)]⟩ ↔
      (∀ commentId, outcome.approval commentId = none →
        current.approvals.get commentId = read.approvals.get commentId) ∧
      (outcome.comments = none → current.inlineComments = read.inlineComments) := by
  have named : updated.key = pull.key := writes.key.trans keyed
  have comments := kept.comments pull
  have approvals := kept.approvals pull
  rw [found,Option.map_some] at comments
  simp only [found,Option.bind_some] at approvals
  constructor
  · intro after
    refine ⟨fun commentId other => ?_,fun other => ?_⟩
    · have stored := after.approvals pull commentId
      simpa [get_save,named,writes.approvals,other,← approvals] using stored.symm
    · have stored := after.comments pull
      simpa [get_save,named,writes.comments,other,← comments] using stored.symm
  · rintro ⟨sameApprovals,sameComments⟩
    constructor
    · intro other
      by_cases here : other.key = pull.key
      · simp only [get_save,named,here,if_true,Option.map_some,writes.comments,latest_snoc,get_same_key base here]
        rw [← comments]
        cases replaced : outcome.comments with
        | none => simp [sameComments replaced]
        | some comments => rfl
      · simpa [get_save,named,here,Ne.symm here] using kept.comments other
    · intro other commentId
      by_cases here : other.key = pull.key
      · simp only [get_save,named,here,if_true,Option.bind_some,writes.approvals,latest_snoc,get_same_key base here]
        rw [← approvals]
        cases replaced : outcome.approval commentId with
        | none => simp [sameApprovals commentId replaced]
        | some actor => rfl
      · simpa [get_save,named,here,Ne.symm here] using kept.approvals other commentId

theorem step_exact (sound : Sound s) (kept : Kept base s) (taken : step s event = some next) :
    Kept base next ↔ Unchanged s event := by
  rcases step_cases sound taken with ⟨client,after,rfl,_,quiet⟩ | ⟨client,pull,read,updated,outcome,rfl,saving,rfl⟩
  · exact iff_of_true ⟨kept.comments,kept.approvals⟩ quiet
  · have ready := sound.clients client
    rw [saving] at ready
    obtain ⟨keyed,present,writes⟩ := ready
    obtain ⟨current,found⟩ := Option.isSome_iff_exists.mp present
    rw [write_exact kept keyed writes found]
    simp only [Unchanged,saving,found]
    constructor
    · exact fun same => ⟨current,rfl,same⟩
    · rintro ⟨_,again,same⟩
      cases Option.some.inj again
      exact same

end Steps

-- In every state of a run the stored comments are those of the last refresh
-- that returned and no approval that was returned is lost, exactly when at
-- each write the document has what the call read and does not replace.
theorem reports_and_approvals_kept_iff_unchanged (path : Runs step (start saved) events t) :
    Always step (Kept (start saved).store) (start saved) events ↔ Throughout step Unchanged (start saved) events :=
  path.always_exact (fun sound taken => step_sound sound taken)
    (fun sound kept taken => step_exact sound kept taken) (start_sound saved) (start_kept saved)

def latched : PullRequestReview :=
  { owner := "org", repository := "repo", pullNumber := 1, headSha := "abcdef1", baseBranch := "main",
    fromFork := false, eligibleAtOpen := true, changedPaths := [], summaries := [],
    inlineComments := [⟨20,"beacode[bot]","app.py",some 7,"Suggestion",""⟩], securityFindings := [],
    fetchedAt := some 1767225600000000, approvals := Table.empty }

def approvedWhileFetching : List Event :=
  let config : ReviewAgentConfig := ⟨"main",false,[]⟩
  let pull : Pull := ⟨"org","repo",1⟩
  [.refresh 0 config pull,.approve 1 pull 20 "human-reviewer",.write 1,
   .fetch 0 (answering latched.inlineComments) 1767225660000000,.write 0]

def approvedAfterRefresh : List Event :=
  let config : ReviewAgentConfig := ⟨"main",false,[]⟩
  let pull : Pull := ⟨"org","repo",1⟩
  [.refresh 0 config pull,.fetch 0 (answering latched.inlineComments) 1767225660000000,.write 0,
   .approve 1 pull 20 "human-reviewer",.write 1]

theorem kept_when_approved_after_refresh :
    Always step (Kept (start [latched]).store) (start [latched]) approvedAfterRefresh := by
  have path : Runs step (start [latched]) approvedAfterRefresh _ := consume_exact.mp rfl
  refine (reports_and_approvals_kept_iff_unchanged path).mpr ?_
  refine throughout_cons.mpr ⟨trivial,fun _ first => ?_⟩
  cases Option.some.inj first
  refine throughout_cons.mpr ⟨trivial,fun _ second => ?_⟩
  cases Option.some.inj second
  refine throughout_cons.mpr ⟨⟨latched,rfl,fun _ _ => rfl,fun absent => (nomatch absent)⟩,fun _ third => ?_⟩
  cases Option.some.inj third
  refine throughout_cons.mpr ⟨trivial,fun _ fourth => ?_⟩
  cases Option.some.inj fourth
  refine throughout_cons.mpr ⟨⟨_,rfl,fun _ _ => rfl,fun _ => rfl⟩,fun _ _ => ?_⟩
  intro earlier event later middle split
  simp at split

theorem approval_lost_while_fetching : ∃ t, Runs step (start [latched]) approvedWhileFetching t ∧
    (∀ client, t.clients client = .idle) ∧ ¬ Kept (start [latched]).store t := by
  refine ⟨_,consume_exact.mp rfl,fun client => ?_,fun kept => ?_⟩
  · match client with
    | 0 => rfl
    | 1 => rfl
    | _ + 2 => rfl
  · have approval := kept.approvals ⟨"org","repo",1⟩ 20
    revert approval
    decide +kernel

end OpenModelOps.ReviewConcurrency
