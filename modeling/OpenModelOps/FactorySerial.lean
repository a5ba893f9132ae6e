import OpenModelOps.FactoryIsolation

namespace OpenModelOps.FactorySerial
open KeyedTable PythonText FactoryDomain FactoryRequests FactoryHistory RunHistory

inductive Origin where
  | created (identity : Identity) (request : WorkloadRequest)
  | operated (client : Nat) (identity : Identity) (call : Call) (now : Instant)

structure Commit where
  workloadId : String
  version : Nat
  document : FactoryWorkload
  origin : Origin

def committed (settings : Settings) (s : State) : Event → Option Commit
  | .create identity request workloadId => match createWorkload identity request workloadId with
    | .error _ => none
    | .ok w => (create s.db w).map fun _ => ⟨workloadId,1,w,.created identity request⟩
  | .read .. => none
  | .write client now => match s.clients client with
    | .idle => none
    | .loaded identity workloadId call w version => match perform settings identity workloadId call w now with
      | .error _ => none
      | .ok next => (save s.db next version).map fun saved =>
          ⟨workloadId,saved.2,next,.operated client identity call now⟩

def commits (settings : Settings) (s : State) : List Event → List Commit
  | [] => []
  | event :: rest => match step settings s event with
    | none => []
    | some next => (committed settings s event).toList ++ commits settings next rest

def answers (settings : Settings) (s : State) : List Event → List View
  | [] => []
  | event :: rest => match respond settings s event with
    | none => []
    | some (next,.answered body) => body :: answers settings next rest
    | some (next,_) => answers settings next rest

def alone (c : Commit) : List Event :=
  match c.origin with
  | .created identity request => [.create identity request c.workloadId]
  | .operated client identity call now => [.read client identity c.workloadId call,.write client now]

def serial (log : List Commit) : List Event := log.flatMap alone

def commitsOf (workloadId : String) (log : List Commit) : List Commit :=
  log.filter fun c => decide (c.workloadId = workloadId)

inductive Extends (settings : Settings) : Option (Nat × FactoryWorkload) → Commit → Prop where
  | created : createWorkload identity request workloadId = .ok document →
      Extends settings none ⟨workloadId,1,document,.created identity request⟩
  | operated : perform settings identity workloadId call before now = .ok document →
      Extends settings (some (version,before)) ⟨workloadId,version + 1,document,.operated client identity call now⟩

structure Linearized (settings : Settings) (events : List Event) (t : State) : Prop where
  versions : ∀ id, (commitsOf id (commits settings initial events)).map (·.version) =
    List.range' 1 (commitsOf id (commits settings initial events)).length
  first : ∀ id c, (commitsOf id (commits settings initial events))[0]? = some c → Extends settings none c
  later : ∀ id n earlier c, (commitsOf id (commits settings initial events))[n]? = some earlier →
    (commitsOf id (commits settings initial events))[n + 1]? = some c →
    Extends settings (some (earlier.version,earlier.document)) c
  stored : ∀ id, (t.db.find id).map (fun row => (row.version,row.document)) =
    (commitsOf id (commits settings initial events)).getLast?.map fun c => (c.version,c.document)
  serial : Runs (step settings) initial (serial (commits settings initial events)) ⟨t.db,fun _ => .idle⟩
  answers : answers settings initial (FactorySerial.serial (commits settings initial events)) =
    answers settings initial events
  refused : ∀ earlier event later s next failure, events = earlier ++ event :: later →
    Runs (step settings) initial earlier s → respond settings s event = some (next,.failed failure) → next.db = s.db

def still (db : Database) : State := ⟨db,fun _ => .idle⟩

def content (db : Database) (id : String) : Option (Nat × FactoryWorkload) :=
  (db.find id).map fun row => (row.version,row.document)

def Authorized : Client → Prop
  | .idle => True
  | .loaded identity _ call _ _ => authorize identity call.role = .ok ()

structure Sound (settings : Settings) (s : State) : Prop where
  valid : Valid settings s
  authorized : ∀ client, Authorized (s.clients client)

inductive Commits (settings : Settings) (s : State) (event : Event) (next : State) (outcome : Outcome) : Prop where
  | none : committed settings s event = none → next.db = s.db → (∀ body, outcome ≠ .answered body) →
      Commits settings s event next outcome
  | one (c : Commit) : committed settings s event = some c → outcome = .answered (view c.document c.version) →
      Extends settings (content s.db c.workloadId) c →
      (∀ id, content next.db id = if id = c.workloadId then some (c.version,c.document) else content s.db id) →
      Runs (step settings) (still s.db) (alone c) (still next.db) →
      answers settings (still s.db) (alone c) = [view c.document c.version] →
      Commits settings s event next outcome

theorem create_commits (identity : Identity) (request : WorkloadRequest) (workloadId : String) :
    Commits settings s (.create identity request workloadId) (respondCreate s identity request workloadId).1
      (respondCreate s identity request workloadId).2 := by
  cases made : createWorkload identity request workloadId with
  | error refusal =>
    refine .none ?_ ?_ ?_
    · simp [committed,made]
    · simp [respondCreate,made]
    · simp [respondCreate,made]
  | ok w =>
    have sameId := (createWorkload_parts made).1
    cases inserted : create s.db w with
    | none =>
      refine .none ?_ ?_ ?_
      · simp [committed,made,inserted]
      · simp [respondCreate,made,inserted]
      · simp [respondCreate,made,inserted]
    | some db =>
      have fresh := Table.insert_fresh inserted
      have finds := Table.find_insert inserted
      have responds : ∀ clients, respondCreate ⟨s.db,clients⟩ identity request workloadId =
          (⟨db,clients⟩,.answered (view w 1)) := by
        intro clients
        simp [respondCreate,made,inserted]
      refine .one ⟨workloadId,1,w,.created identity request⟩ ?_ ?_ ?_ ?_ ?_ ?_
      · simp [committed,made,inserted]
      · rw [responds s.clients]
      · have absent : content s.db workloadId = none := by
          rw [content,← sameId]
          exact congrArg _ fresh
        rw [absent]
        exact .created made
      · intro id
        rw [responds s.clients]
        simp only [content,finds,sameId]
        split <;> rfl
      · rw [responds s.clients]
        refine .single ?_
        simp only [step,respond,still,responds,Option.map_some]
      · simp only [answers,alone,respond,still,responds]

theorem write_commits (sound : Sound settings s) (loaded : s.clients client = .loaded identity workloadId call w version) :
    Commits settings s (.write client now) (respondWrite settings s client identity workloadId call w version now).1
      (respondWrite settings s client identity workloadId call w version now).2 := by
  have held := sound.valid.clients client
  have allowed := sound.authorized client
  rw [loaded] at held allowed
  cases done : perform settings identity workloadId call w now with
  | error refusal =>
    refine .none ?_ ?_ ?_
    · simp [committed,loaded,done]
    · simp [respondWrite,done]
    · simp [respondWrite,done]
  | ok next =>
    cases saved : save s.db next version with
    | none =>
      refine .none ?_ ?_ ?_
      · simp [committed,loaded,done,saved]
      · simp [respondWrite,done,saved]
      · simp [respondWrite,done,saved]
    | some pair =>
      obtain ⟨db,result⟩ := pair
      obtain ⟨sameId,_,_⟩ := perform_evolves done
      obtain ⟨heldId,_,row,found,tenant,_,current⟩ := held
      obtain ⟨rfl,again,present,_,atVersion,finds⟩ := save_parts saved
      rw [sameId,heldId,found] at present
      cases Option.some.inj present
      have document := current atVersion
      have selected : respondRead ⟨s.db,fun _ => .idle⟩ client identity workloadId call =
          (⟨s.db,Function.update (fun _ => .idle) client (.loaded identity workloadId call w version)⟩,.waiting) := by
        simp [respondRead,show authorize identity call.role = .ok () from allowed,
          get_exact.mpr ⟨row,found,tenant,document,atVersion⟩]
      have responds : ∀ clients, respondWrite settings ⟨s.db,clients⟩ client identity workloadId call w version now =
          (⟨db,Function.update clients client .idle⟩,.answered (view next (version + 1))) := by
        intro clients
        simp [respondWrite,done,saved]
      have quiet : Function.update (Function.update (fun _ : Nat => Client.idle) client
          (.loaded identity workloadId call w version)) client .idle = fun _ => .idle := by
        rw [Function.update_idem,Function.update_eq_self_iff]
      refine .one ⟨workloadId,version + 1,next,.operated client identity call now⟩ ?_ ?_ ?_ ?_ ?_ ?_
      · simp [committed,loaded,done,saved]
      · rw [responds s.clients]
      · have before : content s.db workloadId = some (version,w) := by
          simp [content,found,atVersion,document]
        rw [before]
        exact .operated done
      · intro id
        rw [responds s.clients]
        simp only [content,finds,sameId,heldId]
        split <;> rfl
      · rw [responds s.clients]
        refine .take (t := ⟨s.db,Function.update (fun _ => .idle) client (.loaded identity workloadId call w version)⟩)
          ?_ (.single ?_)
        · simp only [step,respond,still,selected,Option.map_some]
        · simp only [step,respond,Function.update_self,responds,Option.map_some,quiet,still]
      · simp only [answers,alone,respond,still,selected,Function.update_self,responds]

theorem respond_commits (sound : Sound settings s) (answered : respond settings s event = some (next,outcome)) :
    Commits settings s event next outcome := by
  cases respond_cases answered with
  | create identity request workloadId answer =>
    have made := @create_commits settings s identity request workloadId
    rw [answer] at made
    exact made
  | read client identity workloadId call idle answer =>
    refine .none rfl ?_ ?_
    · obtain rfl := congrArg Prod.fst answer
      exact respondRead_rows
    · intro body equal
      have shape := congrArg Prod.snd answer
      rw [equal] at shape
      unfold respondRead at shape
      split at shape
      · cases shape
      · split at shape <;> cases shape
  | write client now identity workloadId call w version loaded answer =>
    have made := @write_commits settings s client identity workloadId call w version now sound loaded
    rw [answer] at made
    exact made

theorem respond_authorized (sound : Sound settings s) (answered : respond settings s event = some (next,outcome)) :
    ∀ client, Authorized (next.clients client) := by
  cases respond_cases answered with
  | create identity request workloadId answer =>
    obtain rfl := congrArg Prod.fst answer
    unfold respondCreate
    split
    · exact sound.authorized
    · split <;> exact sound.authorized
  | read client identity workloadId call idle answer =>
    obtain rfl := congrArg Prod.fst answer
    unfold respondRead
    split
    · exact sound.authorized
    · rename_i allowed
      split
      · exact sound.authorized
      · exact updated_all sound.authorized allowed
  | write client now identity workloadId call w version loaded answer =>
    obtain rfl := congrArg Prod.fst answer
    have idled : ∀ slot, Authorized (Function.update s.clients client .idle slot) :=
      updated_all sound.authorized trivial
    unfold respondWrite
    dsimp only
    split
    · exact idled
    · split <;> exact idled

theorem respond_sound (sound : Sound settings s) (answered : respond settings s event = some (next,outcome)) :
    Sound settings next :=
  ⟨respond_valid sound.valid answered,respond_authorized sound answered⟩

theorem initial_sound (settings : Settings) : Sound settings initial := ⟨initial_valid settings,fun _ => trivial⟩

theorem answers_append (path : Runs (step settings) s first t) :
    answers settings s (first ++ last) = answers settings s first ++ answers settings t last := by
  induction path with
  | stop => rfl
  | @take s t u event rest taken _ ih =>
    obtain ⟨outcome,answered⟩ := step_parts taken
    simp only [List.cons_append,answers,answered]
    cases outcome with
    | waiting => exact ih
    | answered body => exact congrArg (body :: ·) ih
    | failed refusal => exact ih

theorem serial_cons (c : Commit) (log : List Commit) : serial (c :: log) = alone c ++ serial log := rfl

theorem run_serial (sound : Sound settings s) (path : Runs (step settings) s events t) :
    Runs (step settings) (still s.db) (serial (commits settings s events)) (still t.db) ∧
      answers settings (still s.db) (serial (commits settings s events)) = answers settings s events := by
  induction path with
  | stop => exact ⟨.stop,rfl⟩
  | @take s t u event rest taken remaining ih =>
    obtain ⟨outcome,answered⟩ := step_parts taken
    obtain ⟨runs,replies⟩ := ih (respond_sound sound answered)
    cases respond_commits sound answered with
    | none quiet same silent =>
      rw [same] at runs replies
      simp only [commits,taken,quiet,Option.toList_none,List.nil_append]
      refine ⟨runs,?_⟩
      rw [replies]
      cases outcome with
      | waiting => simp only [answers,answered]
      | answered body => exact absurd rfl (silent body)
      | failed refusal => simp only [answers,answered]
    | one c commit reply _ _ path told =>
      have log : commits settings s (event :: rest) = c :: commits settings t rest := by
        simp only [commits,taken,commit,Option.toList_some,List.singleton_append]
      rw [log,serial_cons]
      refine ⟨path.trans runs,?_⟩
      rw [answers_append path,told,replies]
      simp only [answers,answered,reply,List.singleton_append]

def Follows (settings : Settings) (previous : Option (Nat × FactoryWorkload)) : List Commit → Prop
  | [] => True
  | c :: rest => Extends settings previous c ∧ Follows settings (some (c.version,c.document)) rest

theorem Extends.version (extended : Extends settings previous c) : c.version = (previous.map Prod.fst).getD 0 + 1 := by
  cases extended <;> rfl

theorem Follows.versions (follows : Follows settings previous log) :
    log.map (·.version) = List.range' ((previous.map Prod.fst).getD 0 + 1) log.length := by
  induction log generalizing previous with
  | nil => rfl
  | cons c rest ih =>
    obtain ⟨extended,follows⟩ := follows
    have later := ih follows
    rw [List.map_cons,List.length_cons,List.range'_succ,later,← extended.version]
    rfl

theorem Follows.adjacent (follows : Follows settings previous log) (left : log[n]? = some earlier)
    (right : log[n + 1]? = some c) : Extends settings (some (earlier.version,earlier.document)) c := by
  induction log generalizing previous n with
  | nil => cases left
  | cons head rest ih =>
    cases n with
    | zero =>
      cases Option.some.inj left
      cases rest with
      | nil => cases right
      | cons next rest =>
        cases Option.some.inj right
        exact follows.2.1
    | succ n => exact ih follows.2 left right

theorem commitsOf_cons (id : String) (c : Commit) (log : List Commit) :
    commitsOf id (c :: log) = if c.workloadId = id then c :: commitsOf id log else commitsOf id log := by
  unfold commitsOf
  rw [List.filter_cons]
  simp

theorem run_follows (sound : Sound settings s) (path : Runs (step settings) s events t) (id : String) :
    Follows settings (content s.db id) (commitsOf id (commits settings s events)) ∧
      content t.db id = ((commitsOf id (commits settings s events)).getLast?.map fun c => (c.version,c.document)).or
        (content s.db id) := by
  induction path with
  | stop => exact ⟨trivial,rfl⟩
  | @take s t u event rest taken remaining ih =>
    obtain ⟨outcome,answered⟩ := step_parts taken
    obtain ⟨follows,last⟩ := ih (respond_sound sound answered)
    cases respond_commits sound answered with
    | none quiet same silent =>
      rw [same] at follows last
      simp only [commits,taken,quiet,Option.toList_none,List.nil_append]
      exact ⟨follows,last⟩
    | one c commit reply extended contents path told =>
      have log : commits settings s (event :: rest) = c :: commits settings t rest := by
        simp only [commits,taken,commit,Option.toList_some,List.singleton_append]
      rw [log,commitsOf_cons]
      rw [contents] at follows last
      by_cases here : c.workloadId = id
      · subst id
        rw [if_pos rfl] at follows last ⊢
        refine ⟨⟨extended,follows⟩,?_⟩
        rw [last,List.getLast?_cons]
        cases (commitsOf c.workloadId (commits settings t rest)).getLast? <;> rfl
      · rw [if_neg (Ne.symm here)] at follows last
        rw [if_neg here]
        exact ⟨follows,last⟩

-- Any interleaving of the requests is a serial execution of those that were
-- answered; the others changed nothing.
theorem interleaved_requests_linearize (path : Runs (step settings) initial events t) :
    Linearized settings events t := by
  have sound := initial_sound settings
  obtain ⟨runs,replies⟩ := run_serial sound path
  have follows := fun id => (run_follows sound path id).1
  refine ⟨fun id => (follows id).versions,?_,?_,?_,runs,replies,?_⟩
  · intro id c head
    have chain := follows id
    cases log : commitsOf id (commits settings initial events) with
    | nil => rw [log] at head; cases head
    | cons first rest =>
      rw [log] at head chain
      cases Option.some.inj head
      exact chain.1
  · exact fun id n earlier c left right => (follows id).adjacent left right
  · intro id
    have last := (run_follows sound path id).2
    rw [show content initial.db id = none from rfl,Option.or_none] at last
    exact last
  · exact fun _ _ _ _ _ _ _ _ answered => failed_unchanged answered

open FactoryIsolation in
-- Two evaluators read the same version; the second one has to read again.
def contended : List Event :=
  [.create builder rehearsalRequest "w-1",
   .read 0 evaluator "w-1" (.recordGate (passingGate "quality")),
   .read 1 evaluator "w-1" (.recordGate (passingGate "security")),
   .write 0 0,.write 1 0,
   .read 1 evaluator "w-1" (.recordGate (passingGate "security")),.write 1 60000000]

open FactoryIsolation in
theorem contended_linearizes : ∃ t, Runs (step rehearsalSettings) initial contended t ∧
    (commitsOf "w-1" (commits rehearsalSettings initial contended)).map (·.version) = [1,2,3] ∧
    Linearized rehearsalSettings contended t := by
  have ran : (consume (step rehearsalSettings) initial contended).isSome = true := by decide +kernel
  obtain ⟨t,consumed⟩ := Option.isSome_iff_exists.mp ran
  have path := consume_exact.mp consumed
  have linearized := interleaved_requests_linearize path
  refine ⟨t,path,?_,linearized⟩
  have count : (commitsOf "w-1" (commits rehearsalSettings initial contended)).length = 3 := by decide +kernel
  rw [linearized.versions,count]
  rfl

end OpenModelOps.FactorySerial
