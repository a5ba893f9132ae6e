import OpenModelOps.JoinedText
import OpenModelOps.ReviewApproval
import OpenModelOps.ReviewStorage

namespace OpenModelOps.ReviewLatch
open JoinedText KeyedTable PythonText PythonDatetime RunHistory
open ReviewService (Pull ReviewSummary PullRequestReview ReviewStore ReviewAgentConfig GitHub Scope Authorization Keyed
  fetchAll securityScope approveSuggestion_parts save_cases get_same_key get_save)
open ReviewApproval (Call)
open ReviewStorage (Database Storable Readable encode get save get_encode save_encode pullNumber_short)

inductive ReviewDecision where
  | pending | ready | changesRequested | skippedFork
  deriving DecidableEq

-- str.upper, as far as the names of the states show it: no other character
-- outside ASCII has an upper case that stands in one of them.
def upper (s : String) : List Char :=
  s.toList.flatMap fun c => if c = 'ſ' then ['S'] else if c = 'ﬅ' ∨ c = 'ﬆ' then ['S','T'] else [c.toUpper]

-- max by review_id: the first of the greatest.
def latest : List ReviewSummary → Option ReviewSummary
  | [] => none
  | first :: rest => some (rest.foldl (fun best review => if best.reviewId < review.reviewId then review else best) first)

def decision (review : PullRequestReview) (reviewerLogin : String) (requestChanges : Bool) : ReviewDecision :=
  if !review.eligibleAtOpen then .skippedFork
  else match latest (review.summaries.filter fun summary => decide (summary.reviewer = reviewerLogin)) with
    | none => .pending
    | some summary =>
      if requestChanges ∧ upper summary.state = "CHANGES_REQUESTED".toList then .changesRequested
      else if upper summary.state ∉ ["APPROVED".toList,"COMMENTED".toList] then .pending
      else .ready

inductive GitHubCall where
  | fetchReport (pull : Pull)
  | fetchSecurityFindings (pull : Pull) (changedPaths : List String) (scope : Scope)

def GitHubCall.pull : GitHubCall → Pull
  | .fetchReport pull => pull
  | .fetchSecurityFindings pull _ _ => pull

-- The calls of a refresh: the second is made once the first has answered.
def requests (config : ReviewAgentConfig) (github : GitHub) (pull : Pull) (changedPaths : List String) : List GitHubCall :=
  .fetchReport pull :: match github.fetchReport pull with
    | .ok _ =>
      if config.securityAlertsEnabled then [.fetchSecurityFindings pull changedPaths (securityScope config)] else []
    | .error _ => []

def eligible (config : ReviewAgentConfig) (baseBranch : String) (fromFork : Bool) : Bool :=
  baseBranch == config.targetBranch && (!fromFork || config.forkSupport)

def opening (config : ReviewAgentConfig) (pull : Pull) (headSha baseBranch : String) (fromFork : Bool)
    (changedPaths : List String) : PullRequestReview :=
  { owner := pull.owner, repository := pull.repository, pullNumber := pull.pullNumber, headSha := headSha,
    baseBranch := baseBranch, fromFork := fromFork, eligibleAtOpen := eligible config baseBranch fromFork,
    changedPaths := changedPaths, summaries := [], inlineComments := [], securityFindings := [], fetchedAt := none,
    approvals := Table.empty }

inductive Reply where
  | review (review : PullRequestReview)
  | authorization (authorization : Authorization)

-- What a call leaves behind: the database, the calls of the client, and the
-- reply; no reply is an exception.
structure Outcome where
  db : Database
  calls : List GitHubCall
  reply : Option Reply

def required (db : Database) (pull : Pull) : Option PullRequestReview := (get db pull).join

def saving (db : Database) (calls : List GitHubCall) (review : PullRequestReview) : Outcome :=
  match save db review with
  | none => ⟨db,calls,none⟩
  | some after => ⟨after,calls,some (.review review)⟩

def perform (db : Database) : Call → Outcome
  | .openPullRequest config pull headSha baseBranch fromFork changedPaths => match get db pull with
    | none => ⟨db,[],none⟩
    | some (some existing) => ⟨db,[],some (.review existing)⟩
    | some none => saving db [] (opening config pull headSha baseBranch fromFork changedPaths)
  | .refreshReport config github now pull => match required db pull with
    | none => ⟨db,[],none⟩
    | some review =>
      if !review.eligibleAtOpen then ⟨db,[],some (.review review)⟩
      else match fetchAll config github pull review.changedPaths with
        | .error _ => ⟨db,requests config github pull review.changedPaths,none⟩
        | .ok (report,security) => saving db (requests config github pull review.changedPaths)
            (review.recordFindings report.summaries report.comments security now)
  | .approveSuggestion pull commentId actor => match required db pull with
    | none => ⟨db,[],none⟩
    | some review => match review.approveSuggestion commentId actor with
      | .error _ => ⟨db,[],none⟩
      | .ok updated => saving db [] updated
  | .authorizeApply pull commentId => match required db pull with
    | none => ⟨db,[],none⟩
    | some review => match review.requireApprovedSuggestion commentId with
      | .error _ => ⟨db,[],none⟩
      | .ok actor => ⟨db,[],some (.authorization ⟨"authorized",commentId,actor⟩)⟩

def step (db : Database) (call : Call) : Option Database := some (perform db call).db

def pullOf : Call → Pull
  | .openPullRequest _ pull _ _ _ _ => pull
  | .refreshReport _ _ _ pull => pull
  | .approveSuggestion pull _ _ => pull
  | .authorizeApply pull _ => pull

-- The clock gives a time that a datetime can have.
def Clocked : Call → Prop
  | .refreshReport _ _ now _ => Representable now
  | _ => True

def Opens (pull : Pull) : Call → Prop
  | .openPullRequest _ other _ _ _ _ => other = pull
  | _ => False

def Plain (pull : Pull) : Prop := '/' ∉ pull.owner.toList ∧ '/' ∉ pull.repository.toList

structure SameLatch (review other : PullRequestReview) : Prop where
  eligibleAtOpen : review.eligibleAtOpen = other.eligibleAtOpen
  headSha : review.headSha = other.headSha
  baseBranch : review.baseBranch = other.baseBranch
  fromFork : review.fromFork = other.fromFork
  changedPaths : review.changedPaths = other.changedPaths

structure Skipped (review : PullRequestReview) : Prop where
  summaries : review.summaries = []
  inlineComments : review.inlineComments = []
  securityFindings : review.securityFindings = []
  approvals : review.approvals = Table.empty

theorem SameLatch.refl (review : PullRequestReview) : SameLatch review review := ⟨rfl,rfl,rfl,rfl,rfl⟩

theorem SameLatch.trans (left : SameLatch first second) (right : SameLatch second third) : SameLatch first third :=
  ⟨left.eligibleAtOpen.trans right.eligibleAtOpen,left.headSha.trans right.headSha,left.baseBranch.trans right.baseBranch,
    left.fromFork.trans right.fromFork,left.changedPaths.trans right.changedPaths⟩

theorem decision_skipped (ineligible : review.eligibleAtOpen = false) (reviewerLogin : String) (requestChanges : Bool) :
    decision review reviewerLogin requestChanges = .skippedFork := by
  rw [decision,ineligible]
  rfl

theorem toString_unmarked (n : Int) : '#' ∉ (toString n).toList := by
  intro member
  rcases JsonText.intText_chars n _ (List.mem_map_of_mem member) with sign | decimal
  · exact absurd sign (by decide)
  · exact absurd decimal.1 (by decide)

theorem key_parts (pull : Pull) : pull.key.toList =
    (pull.owner.toList ++ '/' :: pull.repository.toList) ++ '#' :: (toString pull.pullNumber).toList := by
  simp [Pull.key,String.toList_append]

-- The last hash ends the names, and the one slash before it parts them.
theorem key_injective {pull other : Pull} (plain : Plain pull) (same : other.key = pull.key) : other = pull := by
  have chars := congrArg String.toList same
  rw [key_parts,key_parts] at chars
  obtain ⟨names,numbers⟩ := after_mark (toString_unmarked _) (toString_unmarked _) chars
  obtain ⟨owners,_,repositories⟩ := (List.append_cons_inj_of_notMem plain.1 plain.2).mp names.symm
  have number : other.pullNumber = pull.pullNumber :=
    JsonText.intText_injective (congrArg JsonText.text (String.toList_injective numbers))
  cases pull
  cases other
  cases String.toList_injective owners
  cases String.toList_injective repositories
  cases number
  rfl

inductive Writes (store : ReviewStore) : Call → ReviewStore → Prop where
  | kept : Writes store call store
  | opened : ReviewService.get store pull = none →
      Writes store (.openPullRequest config pull headSha baseBranch fromFork changedPaths)
        (ReviewService.save store (opening config pull headSha baseBranch fromFork changedPaths))
  | refreshed : ReviewService.get store pull = some review → review.eligibleAtOpen = true →
      Writes store (.refreshReport config github now pull)
        (ReviewService.save store (review.recordFindings summaries comments security now))
  | approved : ReviewService.get store pull = some review → commentId ∈ review.inlineComments.map (·.commentId) →
      Writes store (.approveSuggestion pull commentId actor)
        (ReviewService.save store {review with approvals := review.approvals.set commentId actor})

structure Performed (store : ReviewStore) (call : Call) (outcome : Outcome) (after : ReviewStore) : Prop where
  db : outcome.db = encode after
  readable : Readable after
  writes : Writes store call after
  replied : ∀ review, outcome.reply = some (.review review) → ReviewService.get after (pullOf call) = some review
  authorized : ∀ authorization, outcome.reply = some (.authorization authorization) →
    ∃ review, ReviewService.get store (pullOf call) = some review ∧ review.approvals.get authorization.commentId ≠ none
  asked : ∀ made ∈ outcome.calls, made.pull = pullOf call ∧
    ∃ review, ReviewService.get store (pullOf call) = some review ∧ review.eligibleAtOpen = true

section Calls
variable {store : ReviewStore} {call : Call} {pull : Pull} {review : PullRequestReview} {calls : List GitHubCall}
  {config : ReviewAgentConfig} {github : GitHub} {changedPaths : List String}

theorem required_encode (readable : Readable store) (found : required (encode store) pull = some review) :
    ReviewService.get store pull = some review := by
  rw [required,get_encode readable] at found
  split at found
  · exact found
  · cases found

theorem requests_pull (made : GitHubCall) (member : made ∈ requests config github pull changedPaths) : made.pull = pull := by
  unfold requests at member
  rcases List.mem_cons.mp member with rfl | member
  · rfl
  · split at member
    · split at member
      · cases List.mem_singleton.mp member
        rfl
      · cases member
    · cases member

theorem Performed.raised (readable : Readable store) (asked : ∀ made ∈ calls, made.pull = pullOf call ∧
    ∃ review, ReviewService.get store (pullOf call) = some review ∧ review.eligibleAtOpen = true) :
    Performed store call ⟨encode store,calls,none⟩ store where
  db := rfl
  readable := readable
  writes := .kept
  replied _ reply := by cases reply
  authorized _ reply := by cases reply
  asked := asked

theorem Performed.read (readable : Readable store) (found : ReviewService.get store (pullOf call) = some review) :
    Performed store call ⟨encode store,[],some (.review review)⟩ store where
  db := rfl
  readable := readable
  writes := .kept
  replied other reply := by
    cases reply
    exact found
  authorized _ reply := by cases reply
  asked := List.forall_mem_nil _

theorem saving_performed (readable : Readable store) (timed : ∀ t, review.fetchedAt = some t → Representable t)
    (keyed : review.key = (pullOf call).key) (writes : Writes store call (ReviewService.save store review))
    (asked : ∀ made ∈ calls, made.pull = pullOf call ∧
      ∃ old, ReviewService.get store (pullOf call) = some old ∧ old.eligibleAtOpen = true) :
    ∃ after, Performed store call (saving (encode store) calls review) after := by
  unfold saving
  cases saved : save (encode store) review with
  | none => exact ⟨store,.raised readable asked⟩
  | some db =>
    obtain ⟨storable,rfl⟩ := (save_encode timed).mp saved
    refine ⟨ReviewService.save store review,rfl,readable.saved storable,writes,?_,?_,asked⟩
    · intro other reply
      cases reply
      rw [get_save,if_pos keyed.symm]
    · intro authorization reply
      cases reply

theorem perform_open (readable : Readable store) (config : ReviewAgentConfig) (pull : Pull) (headSha baseBranch : String)
    (fromFork : Bool) (changedPaths : List String) :
    ∃ after, Performed store (.openPullRequest config pull headSha baseBranch fromFork changedPaths)
      (perform (encode store) (.openPullRequest config pull headSha baseBranch fromFork changedPaths)) after := by
  unfold perform
  dsimp only
  cases read : get (encode store) pull with
  | none => exact ⟨store,.raised readable (List.forall_mem_nil _)⟩
  | some found =>
    have there : ReviewService.get store pull = found := by
      rw [get_encode readable] at read
      split at read
      · exact Option.some.inj read
      · cases read
    cases found with
    | some existing => exact ⟨store,.read readable there⟩
    | none =>
      refine saving_performed readable (fun t time => ?_) rfl (.opened there) (List.forall_mem_nil _)
      cases time

theorem perform_refresh (keyed : Keyed store) (readable : Readable store) (config : ReviewAgentConfig) (github : GitHub)
    (clocked : Representable now) (pull : Pull) :
    ∃ after, Performed store (.refreshReport config github now pull)
      (perform (encode store) (.refreshReport config github now pull)) after := by
  unfold perform
  dsimp only
  cases read : required (encode store) pull with
  | none => exact ⟨store,.raised readable (List.forall_mem_nil _)⟩
  | some review =>
    have found := required_encode readable read
    cases latch : review.eligibleAtOpen with
    | false =>
      simp only [latch,Bool.not_false,if_true]
      exact ⟨store,.read readable found⟩
    | true =>
      have asked : ∀ made ∈ requests config github pull review.changedPaths, made.pull = pull ∧
          ∃ old, ReviewService.get store pull = some old ∧ old.eligibleAtOpen = true := fun made member =>
        ⟨requests_pull made member,review,found,latch⟩
      simp only [latch,Bool.not_true,Bool.false_eq_true,if_false]
      cases fetched : fetchAll config github pull review.changedPaths with
      | error _ =>
        exact ⟨store,.raised readable asked⟩
      | ok answer =>
        refine saving_performed readable (fun t time => ?_) (keyed pull review found) (.refreshed found latch) asked
        cases time
        exact clocked

theorem perform_approve (keyed : Keyed store) (readable : Readable store) (pull : Pull) (commentId : Int) (actor : String) :
    ∃ after, Performed store (.approveSuggestion pull commentId actor)
      (perform (encode store) (.approveSuggestion pull commentId actor)) after := by
  unfold perform
  dsimp only
  cases read : required (encode store) pull with
  | none => exact ⟨store,.raised readable (List.forall_mem_nil _)⟩
  | some review =>
    have found := required_encode readable read
    dsimp only
    cases approved : review.approveSuggestion commentId actor with
    | error _ => exact ⟨store,.raised readable (List.forall_mem_nil _)⟩
    | ok updated =>
      obtain ⟨present,rfl⟩ := approveSuggestion_parts approved
      exact saving_performed readable (readable _ _ found).timed (keyed pull review found) (.approved found present)
        (List.forall_mem_nil _)

theorem perform_authorize (readable : Readable store) (pull : Pull) (commentId : Int) :
    ∃ after, Performed store (.authorizeApply pull commentId) (perform (encode store) (.authorizeApply pull commentId)) after := by
  unfold perform
  dsimp only
  cases read : required (encode store) pull with
  | none => exact ⟨store,.raised readable (List.forall_mem_nil _)⟩
  | some review =>
    have found := required_encode readable read
    dsimp only
    cases granted : review.requireApprovedSuggestion commentId with
    | error _ => exact ⟨store,.raised readable (List.forall_mem_nil _)⟩
    | ok actor =>
      refine ⟨store,rfl,readable,.kept,?_,?_,List.forall_mem_nil _⟩
      · intro other reply
        cases reply
      · intro authorization reply
        cases reply
        refine ⟨review,found,fun missing => ?_⟩
        simp [PullRequestReview.requireApprovedSuggestion,missing] at granted

theorem perform_performed (keyed : Keyed store) (readable : Readable store) (clocked : Clocked call) :
    ∃ after, Performed store call (perform (encode store) call) after := by
  cases call with
  | openPullRequest config pull headSha baseBranch fromFork changedPaths => exact perform_open readable _ _ _ _ _ _
  | refreshReport config github now pull => exact perform_refresh keyed readable config github clocked pull
  | approveSuggestion pull commentId actor => exact perform_approve keyed readable pull commentId actor
  | authorizeApply pull commentId => exact perform_authorize readable pull commentId

end Calls

structure Sound (store : ReviewStore) : Prop where
  keyed : Keyed store
  readable : Readable store
  skipped : ∀ pull review, ReviewService.get store pull = some review → review.eligibleAtOpen = false → Skipped review

theorem empty_sound : Sound Table.empty where
  keyed _ _ found := by cases found
  readable _ _ found := by cases found
  skipped _ _ found := by cases found

section Latches
variable {store after start : ReviewStore} {call : Call} {calls : List Call} {pull : Pull} {review fresh : PullRequestReview}

theorem opening_key (config : ReviewAgentConfig) (pull : Pull) (headSha baseBranch : String) (fromFork : Bool)
    (changedPaths : List String) : (opening config pull headSha baseBranch fromFork changedPaths).key = pull.key := rfl

theorem get_save_other {other : Pull} (keyed : fresh.key = other.key) (apart : pull.key ≠ other.key) :
    ReviewService.get (ReviewService.save store fresh) pull = ReviewService.get store pull := by
  rw [get_save,if_neg]
  intro equal
  exact apart (equal.trans keyed)

theorem Sound.saved (sound : Sound store) (readable : Readable (ReviewService.save store fresh)) (keyed : fresh.key = pull.key)
    (skipped : fresh.eligibleAtOpen = false → Skipped fresh) : Sound (ReviewService.save store fresh) := by
  refine ⟨sound.keyed.saved keyed,readable,fun other review found ineligible => ?_⟩
  rcases save_cases keyed found with ⟨_,rfl⟩ | ⟨_,before⟩
  · exact skipped ineligible
  · exact sound.skipped other review before ineligible

theorem Sound.listed (sound : Sound store) (found : ReviewService.get store pull = some review)
    (present : commentId ∈ review.inlineComments.map (·.commentId)) : review.eligibleAtOpen = true := by
  by_contra latch
  rw [(sound.skipped pull review found (Bool.eq_false_of_not_eq_true latch)).inlineComments] at present
  cases present

theorem Writes.sound (writes : Writes store call after) (sound : Sound store) (readable : Readable after) : Sound after := by
  cases writes with
  | kept => exact sound
  | @opened pull config headSha baseBranch fromFork changedPaths absent =>
    exact sound.saved readable (opening_key ..) fun _ => ⟨rfl,rfl,rfl,rfl⟩
  | @refreshed pull review config github now summaries comments security found latch =>
    refine sound.saved readable (sound.keyed pull review found) fun ineligible => ?_
    cases latch.symm.trans ineligible
  | @approved pull review commentId actor found present =>
    refine sound.saved readable (sound.keyed pull review found) fun ineligible => ?_
    cases (sound.listed found present).symm.trans ineligible

structure Kept (store : ReviewStore) (pull : Pull) (review : PullRequestReview) : Prop where
  stored : ∃ stored, ReviewService.get store pull = some stored ∧ SameLatch stored review ∧
    (review.eligibleAtOpen = false → stored = review)

theorem Kept.saved {other : Pull} {old fresh : PullRequestReview} (kept : Kept store pull review)
    (found : ReviewService.get store other = some old) (keyed : fresh.key = other.key) (latch : SameLatch fresh old)
    (eligible : old.eligibleAtOpen = true) : Kept (ReviewService.save store fresh) pull review := by
  obtain ⟨stored,there,same,untouched⟩ := kept.stored
  by_cases here : pull.key = other.key
  · rw [get_same_key store here,found] at there
    cases Option.some.inj there
    refine ⟨fresh,?_,latch.trans same,fun ineligible => ?_⟩
    · rw [get_save,if_pos (here.trans keyed.symm)]
    · cases (same.eligibleAtOpen.symm.trans eligible).symm.trans ineligible
  · refine ⟨stored,?_,same,untouched⟩
    rw [get_save_other keyed here]
    exact there

theorem Writes.keeps (writes : Writes store call after) (sound : Sound store) (kept : Kept store pull review) :
    Kept after pull review := by
  cases writes with
  | kept => exact kept
  | @opened other config headSha baseBranch fromFork changedPaths absent =>
    obtain ⟨stored,there,same,untouched⟩ := kept.stored
    have apart : pull.key ≠ other.key := by
      intro equal
      rw [get_same_key store equal,absent] at there
      cases there
    refine ⟨stored,?_,same,untouched⟩
    rw [get_save_other (opening_key ..) apart]
    exact there
  | @refreshed other old config github now summaries comments security found latch =>
    exact kept.saved found (sound.keyed other old found) ⟨rfl,rfl,rfl,rfl,rfl⟩ latch
  | @approved other old commentId actor found present =>
    exact kept.saved found (sound.keyed other old found) ⟨rfl,rfl,rfl,rfl,rfl⟩ (sound.listed found present)

theorem Writes.unopened (writes : Writes store call after) (sound : Sound store) (plain : Plain pull)
    (fresh : ReviewService.get store pull = none) (quiet : ¬ Opens pull call) : ReviewService.get after pull = none := by
  have apart : ∀ {other old}, ReviewService.get store other = some old → pull.key ≠ other.key := by
    intro other old found equal
    rw [get_same_key store equal,found] at fresh
    cases fresh
  cases writes with
  | kept => exact fresh
  | @opened other config headSha baseBranch fromFork changedPaths absent =>
    rw [get_save_other (opening_key ..) fun equal => quiet (key_injective plain equal.symm)]
    exact fresh
  | @refreshed other old config github now summaries comments security found latch =>
    refine (get_save_other ?_ (apart found)).trans fresh
    exact sound.keyed other old found
  | @approved other old commentId actor found present =>
    refine (get_save_other ?_ (apart found)).trans fresh
    exact sound.keyed other old found

theorem run_keeps (holds : ReviewStore → Prop) {db : Database}
    (preserved : ∀ {store call after}, call ∈ calls → Sound store → holds store → Writes store call after → holds after)
    (path : Runs step (encode start) calls db) (clocked : ∀ call ∈ calls, Clocked call) (sound : Sound start)
    (held : holds start) : ∃ after, db = encode after ∧ Sound after ∧ holds after := by
  generalize coded : encode start = first at path
  induction path generalizing start with
  | stop => exact ⟨start,coded.symm,sound,held⟩
  | @take before next last call calls taken _ ih =>
    subst coded
    cases Option.some.inj taken
    obtain ⟨after,performed⟩ := perform_performed sound.keyed sound.readable (clocked call List.mem_cons_self)
    have grown := performed.writes.sound sound performed.readable
    exact ih (fun member => preserved (List.mem_cons_of_mem _ member))
      (fun call member => clocked call (List.mem_cons_of_mem _ member)) grown
      (preserved List.mem_cons_self sound held performed.writes) performed.db.symm

theorem opened_reply {store : ReviewStore} (readable : Readable store) (fresh : ReviewService.get store pull = none)
    (reply : (perform (encode store) (.openPullRequest config pull headSha baseBranch fromFork changedPaths)).reply =
      some (.review review)) : review = opening config pull headSha baseBranch fromFork changedPaths := by
  unfold perform at reply
  dsimp only at reply
  rw [get_encode readable,fresh] at reply
  split at reply
  · cases reply
  · rename_i found
    split at found
    · cases found
    · cases found
  · unfold saving at reply
    split at reply
    · cases reply
    · cases reply
      rfl

structure Latched (db : Database) (pull : Pull) (review : PullRequestReview) : Prop where
  stored : ∃ stored, get db pull = some (some stored) ∧ SameLatch stored review
  replied : ∀ call, Clocked call → pullOf call = pull → ∀ other, (perform db call).reply = some (.review other) →
    SameLatch other review

structure Refused (db : Database) (pull : Pull) : Prop where
  stored : ∃ stored, get db pull = some (some stored) ∧ Skipped stored ∧
    ∀ reviewerLogin requestChanges, decision stored reviewerLogin requestChanges = .skippedFork
  unasked : ∀ call, Clocked call → ∀ made ∈ (perform db call).calls, made.pull ≠ pull
  unauthorized : ∀ call, Clocked call → pullOf call = pull →
    ∀ authorization, (perform db call).reply ≠ some (.authorization authorization)
  replied : ∀ call, Clocked call → pullOf call = pull → ∀ other, (perform db call).reply = some (.review other) →
    Skipped other ∧ ∀ reviewerLogin requestChanges, decision other reviewerLogin requestChanges = .skippedFork

theorem Kept.latched (kept : Kept store pull review) (sound : Sound store) (short : pull.pullNumber.natAbs < 10 ^ maxStrDigits) :
    Latched (encode store) pull review := by
  obtain ⟨stored,there,same,_⟩ := kept.stored
  refine ⟨⟨stored,?_,same⟩,fun call clocked mine other reply => ?_⟩
  · rw [get_encode sound.readable,if_pos short,there]
  · obtain ⟨after,performed⟩ := perform_performed sound.keyed sound.readable clocked
    obtain ⟨current,found,latch,_⟩ := (performed.writes.keeps sound kept).stored
    have replied := performed.replied other reply
    rw [mine,found] at replied
    cases Option.some.inj replied
    exact latch

theorem Kept.refused (kept : Kept store pull review) (sound : Sound store) (ineligible : review.eligibleAtOpen = false)
    (short : pull.pullNumber.natAbs < 10 ^ maxStrDigits) : Refused (encode store) pull := by
  obtain ⟨stored,there,_,untouched⟩ := kept.stored
  cases untouched ineligible
  have skipped := sound.skipped pull review there ineligible
  have decided := decision_skipped ineligible
  refine ⟨⟨review,?_,skipped,decided⟩,?_,?_,?_⟩
  · rw [get_encode sound.readable,if_pos short,there]
  · intro call clocked made member
    obtain ⟨after,performed⟩ := perform_performed sound.keyed sound.readable clocked
    obtain ⟨same,old,found,latch⟩ := performed.asked made member
    rw [same]
    rintro mine
    rw [mine,there] at found
    cases Option.some.inj found
    cases latch.symm.trans ineligible
  · intro call clocked mine authorization reply
    obtain ⟨after,performed⟩ := perform_performed sound.keyed sound.readable clocked
    obtain ⟨old,found,granted⟩ := performed.authorized authorization reply
    rw [mine,there] at found
    cases Option.some.inj found
    rw [skipped.approvals] at granted
    exact granted rfl
  · intro call clocked mine other reply
    obtain ⟨after,performed⟩ := perform_performed sound.keyed sound.readable clocked
    obtain ⟨current,found,_,same⟩ := (performed.writes.keeps sound kept).stored
    have replied := performed.replied other reply
    rw [mine,found] at replied
    cases Option.some.inj replied
    cases same ineligible
    exact ⟨skipped,decided⟩

end Latches

-- Whatever is called before and after, a pull request stays as it was latched
-- when it was first opened, and one that was latched ineligible is left alone.
theorem latch_outlives_history (pull : Pull) (plain : Plain pull) (earlier later : List Call)
    (clocked : ∀ call ∈ earlier ++ later, Clocked call) (before after : Database)
    (path : Runs step Table.empty earlier before) (config : ReviewAgentConfig) (headSha baseBranch : String)
    (fromFork : Bool) (changedPaths : List String) (review : PullRequestReview)
    (opened : (perform before (.openPullRequest config pull headSha baseBranch fromFork changedPaths)).reply =
      some (.review review))
    (rest : Runs step (perform before (.openPullRequest config pull headSha baseBranch fromFork changedPaths)).db later
      after) :
    ((∀ call ∈ earlier, ¬ Opens pull call) → review.eligibleAtOpen = eligible config baseBranch fromFork ∧
      review.headSha = headSha ∧ review.baseBranch = baseBranch ∧ review.fromFork = fromFork ∧
      review.changedPaths = changedPaths) ∧
    Latched after pull review ∧ (review.eligibleAtOpen = false → Refused after pull) := by
  have start : Runs step (encode Table.empty) earlier before := path
  have first : ∀ call ∈ earlier, Clocked call := fun call member => clocked call (List.mem_append_left _ member)
  have last : ∀ call ∈ later, Clocked call := fun call member => clocked call (List.mem_append_right _ member)
  have quiet : ∀ {store call after}, call ∈ earlier → Sound store →
      ((∀ call ∈ earlier, ¬ Opens pull call) → ReviewService.get store pull = none) → Writes store call after →
      (∀ call ∈ earlier, ¬ Opens pull call) → ReviewService.get after pull = none :=
    fun member sound fresh writes unopened => writes.unopened sound plain (fresh unopened) (unopened _ member)
  obtain ⟨store,rfl,sound,fresh⟩ := run_keeps _ quiet start first empty_sound fun _ => rfl
  have clock : Clocked (.openPullRequest config pull headSha baseBranch fromFork changedPaths) := trivial
  obtain ⟨middle,performed⟩ := perform_performed sound.keyed sound.readable clock
  have grown := performed.writes.sound sound performed.readable
  have there : ReviewService.get middle pull = some review := performed.replied review opened
  have named : (⟨review.owner,review.repository,review.pullNumber⟩ : Pull) = pull :=
    key_injective plain (grown.keyed pull review there)
  have short : pull.pullNumber.natAbs < 10 ^ maxStrDigits :=
    named ▸ pullNumber_short maxStrDigits (grown.readable _ review there).short
  rw [performed.db] at rest
  obtain ⟨reached,rfl,held,kept⟩ := run_keeps (Kept · pull review) (fun _ sound kept writes => writes.keeps sound kept)
    rest last grown ⟨review,there,.refl review,fun _ => rfl⟩
  refine ⟨fun unopened => ?_,kept.latched held short,fun ineligible => kept.refused held ineligible short⟩
  cases opened_reply sound.readable (fresh unopened) opened
  exact ⟨rfl,rfl,rfl,rfl,rfl⟩

theorem every_call_runs (db : Database) (calls : List Call) : ∃ after, Runs step db calls after := by
  induction calls generalizing db with
  | nil => exact ⟨db,.stop⟩
  | cons call rest ih =>
    obtain ⟨after,path⟩ := ih (perform db call).db
    exact ⟨after,.take rfl path⟩

def fork : Pull := ⟨"org","repo",4⟩

def closed : ReviewAgentConfig := ⟨"main",false,[⟨"security-scanner",.repo⟩]⟩

def supporting : ReviewAgentConfig := {closed with forkSupport := true}

def switched : List Call :=
  [.openPullRequest supporting fork "newsha12" "main" true ["app.py"],
   .refreshReport supporting (ReviewService.answering [⟨20,"beacode[bot]","app.py",some 7,"Suggestion",""⟩])
     1767225600000000 fork,
   .approveSuggestion fork 20 "human-reviewer",.authorizeApply fork 20]

def eligibleReply : Option Reply → Bool
  | some (.review review) => review.eligibleAtOpen
  | _ => true

theorem fork_stays_skipped : ∃ review after, review.headSha = "abcdef1" ∧
    Runs step (perform Table.empty (.openPullRequest closed fork "abcdef1" "main" true [])).db switched after ∧
    Latched after fork review ∧ Refused after fork := by
  have seen : eligibleReply (perform Table.empty (.openPullRequest closed fork "abcdef1" "main" true [])).reply = false := by
    decide +kernel
  unfold eligibleReply at seen
  split at seen
  · rename_i review opened
    have plain : Plain fork := ⟨by decide,by decide⟩
    have clocked : ∀ call ∈ [] ++ switched, Clocked call := by
      have clock : Representable 1767225600000000 := by decide
      simp [switched,Clocked,clock]
    obtain ⟨after,path⟩ := every_call_runs
      (perform Table.empty (.openPullRequest closed fork "abcdef1" "main" true [])).db switched
    obtain ⟨given,latched,refused⟩ := latch_outlives_history fork plain [] switched clocked Table.empty after .stop closed
      "abcdef1" "main" true [] review opened path
    exact ⟨review,after,(given (List.forall_mem_nil _)).2.1,path,latched,refused seen⟩
  · cases seen

end OpenModelOps.ReviewLatch
