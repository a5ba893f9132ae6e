import OpenModelOps.FactorySigned
import OpenModelOps.FactoryStorage
import OpenModelOps.Simulation

namespace OpenModelOps.FactoryDocuments
open JsonText KeyedTable PythonText PythonDatetime FactoryDomain Raising RunHistory Simulation
open FactoryRequests (Settings Identity WorkloadRequest Call Failure Client Event Outcome authorize refuse createWorkload
  advance perform view refuse_ok)
open FactoryStorage (FloatFormat Same Timed Floats Spelled document serialize gate encode)

-- The service with its table as it is: each workload is a JSON text, read
-- before a request is worked on and written after it.
structure State where
  db : FactoryStorage.Database
  clients : Nat → Client

def initial : State := ⟨Table.empty,fun _ => .idle⟩

def respondCreate (s : State) (identity : Identity) (request : WorkloadRequest) (workloadId : String) :
    State × Outcome :=
  match createWorkload identity request workloadId with
  | .error failure => (s,.failed failure)
  | .ok w => match FactoryStorage.create s.db w with
    | none => (s,.failed ⟨500,"Internal Server Error"⟩)
    | some db => ({s with db := db},.answered (view w 1))

def respondRead (format : FloatFormat) (s : State) (client : Nat) (identity : Identity) (workloadId : String)
    (call : Call) : State × Outcome :=
  match authorize identity call.role with
  | .error failure => (s,.failed failure)
  | .ok () => match FactoryStorage.get format s.db workloadId identity.tenant with
    | none => (s,.failed ⟨500,"Internal Server Error"⟩)
    | some none => (s,.failed ⟨404,"workload not found"⟩)
    | some (some (w,version)) =>
      ({s with clients := Function.update s.clients client (.loaded identity workloadId call w version)},.waiting)

def digitsExceeded : String :=
  "Exceeds the limit (4300 digits) for integer string conversion; use sys.set_int_max_str_digits() to increase the limit"

-- The document is written before the statement is sent, inside the try block.
def respondWrite (settings : Settings) (s : State) (client : Nat) (identity : Identity) (workloadId : String)
    (call : Call) (w : FactoryWorkload) (version : Nat) (now : Instant) : State × Outcome :=
  let clients := Function.update s.clients client .idle
  match perform settings identity workloadId call w now with
  | .error failure => (⟨s.db,clients⟩,.failed failure)
  | .ok next =>
    if serialize next = none then (⟨s.db,clients⟩,.failed ⟨409,digitsExceeded⟩)
    else match FactoryStorage.save s.db next version with
      | none => (⟨s.db,clients⟩,.failed ⟨409,"workload changed concurrently"⟩)
      | some (db,saved) => (⟨db,clients⟩,.answered (view next saved))

def respond (settings : Settings) (format : FloatFormat) (s : State) : Event → Option (State × Outcome)
  | .create identity request workloadId => some (respondCreate s identity request workloadId)
  | .read client identity workloadId call => match s.clients client with
    | .idle => some (respondRead format s client identity workloadId call)
    | .loaded .. => none
  | .write client now => match s.clients client with
    | .idle => none
    | .loaded identity workloadId call w version =>
      some (respondWrite settings s client identity workloadId call w version now)

def step (settings : Settings) (format : FloatFormat) : State → Event → Option State :=
  Simulation.advance (respond settings format)

-- The values that Python has: floats, times of a datetime, and numbers of
-- milliseconds that the parser of the body reads.
def Arrives (format : FloatFormat) : Event → Prop
  | .create _ request _ => request.latencyP95Ms < 10 ^ maxStrDigits ∧
      format.IsFloat request.availabilityTarget ∧ format.IsFloat request.errorRateTarget
  | .read .. => True
  | .write _ now => Representable now

instance decideArrives (format : FloatFormat) : DecidablePred (Arrives format)
  | .create _ request _ => inferInstanceAs (Decidable (request.latencyP95Ms < 10 ^ maxStrDigits ∧
      format.IsFloat request.availabilityTarget ∧ format.IsFloat request.errorRateTarget))
  | .read .. => .isTrue trivial
  | .write _ now => inferInstanceAs (Decidable (Representable now))

structure Storable (format : FloatFormat) (w : FactoryWorkload) : Prop where
  spelled : Spelled w.spec.slo
  floats : Floats format w.spec.slo
  timed : Timed w

inductive Carries (format : FloatFormat) : Client → Client → Prop where
  | idle : Carries format .idle .idle
  | loaded (same : Same v w) (storable : Storable format w) :
      Carries format (.loaded identity workloadId call v version) (.loaded identity workloadId call w version)

-- The documents are those of the workloads in the other service.
structure Coded (format : FloatFormat) (s : State) (u : FactoryRequests.State) : Prop where
  rows : s.db = encode u.db
  storable : ∀ id row, u.db.find id = some row → Storable format row.document
  clients : ∀ client, Carries format (s.clients client) (u.clients client)

section Equal
variable {v w : FactoryWorkload}

theorem same_missing (same : Same v w) : v.missingOrFailedGates = w.missingOrFailedGates := by
  have passes : ∀ name, v.passes name = w.passes name := by
    intro name
    unfold FactoryWorkload.passes
    rw [same.gates]
  unfold FactoryWorkload.missingOrFailedGates
  simp only [passes]

theorem same_evaluators (same : Same v w) (actor : String) :
    actor ∈ (Dict.values v.gates).map GateResult.evaluator ↔ actor ∈ (Dict.values w.gates).map GateResult.evaluator := by
  simp only [List.mem_map,Dict.mem_values_iff,same.gates]

theorem same_view (same : Same v w) (version : Nat) : view v version = view w version := by
  have missing := same_missing same
  unfold FactoryRequests.view FactoryWorkload.scorecard
  rw [missing,same.workloadId,same.spec,same.stage,same.approvedBy,same.policyDigest,same.history]

theorem same_moved (same : Same v w) (target : WorkloadStage) (actor reason : String) (now : Instant) :
    Same (v.move target actor reason now) (w.move target actor reason now) := by
  refine ⟨same.spec,same.workloadId,rfl,same.gates,same.approvedBy,same.policyDigest,?_⟩
  unfold FactoryWorkload.move
  dsimp only
  rw [same.history,same.stage]

theorem recordGate_alike (same : Same v w) (result : GateResult) : Alike Same (v.recordGate result) (w.recordGate result) := by
  unfold FactoryWorkload.recordGate
  rw [same.stage]
  refine .guard Iff.rfl _ (.guard Iff.rfl _ (.ok ?_))
  refine ⟨same.spec,same.workloadId,rfl,fun name => ?_,same.approvedBy,same.policyDigest,same.history⟩
  simp only [Dict.get_set,same.gates]

theorem approve_alike (same : Same v w) (actor policyDigest : String) (now : Instant) :
    Alike Same (v.approve actor policyDigest now) (w.approve actor policyDigest now) := by
  unfold FactoryWorkload.approve
  simp only [same_missing same,same.stage,same.spec]
  refine .guard Iff.rfl _ (.guard (by rw [same_evaluators same]) _ (.ok (same_moved ?_ _ _ _ _)))
  exact ⟨rfl,same.workloadId,rfl,same.gates,rfl,rfl,same.history⟩

theorem advance_alike (settings : Settings) (identity : Identity) (operation reason : String) (same : Same v w)
    (now : Instant) : Alike Same (advance settings identity operation reason v now)
      (advance settings identity operation reason w now) := by
  have moved : ∀ (target : WorkloadStage) (why : String),
      Alike Same (.ok (v.move target identity.subject why now)) (.ok (w.move target identity.subject why now) : Except String _) :=
    fun target why => .ok (same_moved same target _ why now)
  unfold FactoryRequests.advance FactoryWorkload.provision FactoryWorkload.release FactoryWorkload.suspend
    FactoryWorkload.retire
  rw [same.spec,same.stage]
  dsimp only
  split
  · exact .guard Iff.rfl _ ((approve_alike same _ _ now).mapError _)
  · split
    · exact (Alike.guard Iff.rfl _ (moved _ _)).mapError _
    · split
      · exact (Alike.guard Iff.rfl _ (moved _ _)).mapError _
      · split
        · exact (Alike.guard Iff.rfl _ (moved _ _)).mapError _
        · split
          · exact (Alike.guard Iff.rfl _ (moved _ _)).mapError _
          · exact .error _

theorem perform_alike (settings : Settings) (identity : Identity) (workloadId : String) (call : Call) (same : Same v w)
    (now : Instant) : Alike Same (perform settings identity workloadId call v now)
      (perform settings identity workloadId call w now) := by
  cases call with
  | recordGate request =>
    exact .bind fun statement => .bind fun _ => .bind fun result => (recordGate_alike same result).mapError _
  | advance operation reason => exact advance_alike settings identity operation reason same now

theorem document_sorted (w : FactoryWorkload) : sortKeys (document w) =
    .obj [(text "approved_by",sortKeys (.ofOption str w.approvedBy)),(text "gates",sortKeys (.obj (dictFields gate w.gates))),
      (text "history",sortKeys (.arr (w.history.map fun entry => .obj (FactoryStorage.historyFields entry)))),
      (text "policy_digest",sortKeys (.ofOption str w.policyDigest)),
      (text "spec",sortKeys (.obj (FactoryStorage.specFields w.spec))),(text "stage",str w.stage.value),
      (text "workload_id",str w.workloadId)] := rfl

theorem same_document (same : Same v w) : sortedText (document v) = sortedText (document w) := by
  have gates := @dictFields_moved _ _ gate v.gates w.gates (Dict.rows_perm_iff.mpr same.gates)
  rw [sortedText,sortedText,document_sorted,document_sorted,gates,same.approvedBy,same.history,same.policyDigest,same.spec,
    same.stage,same.workloadId]

theorem serialize_unspelled (unspelled : ¬ Spelled w.spec.slo) : serialize w = none := by
  cases written : serialize w with
  | none => rfl
  | some cs => exact absurd ((FactoryStorage.document_short w).mp (dumped_parts written).1) unspelled

theorem same_serialize (same : Same v w) : serialize v = serialize w := by
  by_cases spelled : Spelled w.spec.slo
  · have also : Spelled v.spec.slo := by rw [same.spec]; exact spelled
    rw [FactoryStorage.serialize_spelled spelled,FactoryStorage.serialize_spelled also,same_document same]
  · have also : ¬ Spelled v.spec.slo := by rw [same.spec]; exact spelled
    rw [serialize_unspelled spelled,serialize_unspelled also]

theorem same_save (same : Same v w) (db : FactoryStorage.Database) (version : Nat) :
    FactoryStorage.save db v version = FactoryStorage.save db w version := by
  unfold FactoryStorage.save
  rw [same_serialize same,same.workloadId,same.spec]

end Equal

section Steps
variable {format : FloatFormat} {settings : Settings}

theorem createWorkload_slo (made : createWorkload identity request workloadId = .ok w) :
    w.spec.slo.availabilityTarget = request.availabilityTarget ∧ w.spec.slo.latencyP95Ms = request.latencyP95Ms ∧
      w.spec.slo.errorRateTarget = request.errorRateTarget := by
  unfold FactoryRequests.createWorkload at made
  obtain ⟨_,_,made⟩ := bind_ok made
  obtain ⟨slo,promised,made⟩ := bind_ok made
  obtain ⟨spec,built,made⟩ := bind_ok made
  cases Except.ok.inj made
  have kept : spec.slo = slo := by
    have constructed := refuse_ok built
    unfold FactorySpec.make at constructed
    repeat' (split at constructed)
    all_goals first | (cases Except.ok.inj constructed; rfl) | cases constructed
  have constructed := refuse_ok promised
  unfold SLO.make at constructed
  repeat' (split at constructed)
  all_goals first | (cases Except.ok.inj constructed; rw [FactoryWorkload.draft,kept]; exact ⟨rfl,rfl,rfl⟩) | cases constructed

theorem created_storable (made : createWorkload identity request workloadId = .ok w)
    (arrives : Arrives format (.create identity request workloadId)) : Storable format w := by
  obtain ⟨available,latency,accurate⟩ := createWorkload_slo made
  refine ⟨?_,⟨?_,?_⟩,?_⟩
  · unfold FactoryStorage.Spelled
    rw [latency]
    exact arrives.1
  · rw [available]
    exact arrives.2.1
  · rw [accurate]
    exact arrives.2.2
  · intro name result found
    rw [FactorySigned.createWorkload_gates made] at found
    cases found

theorem perform_timed (done : perform settings identity workloadId call w now = .ok next) (timed : Timed w)
    (clock : Representable now) : Timed next := by
  cases call with
  | recordGate request =>
    obtain ⟨_,_,done⟩ := bind_ok done
    obtain ⟨_,_,done⟩ := bind_ok done
    obtain ⟨added,built,done⟩ := bind_ok done
    have measured : added.measuredAt = now := by
      have constructed := refuse_ok built
      unfold GateResult.make at constructed
      split at constructed
      · cases Except.ok.inj constructed
        rfl
      · cases constructed
    obtain ⟨_,_,rfl⟩ := recordGate_exact.mp (refuse_ok done)
    intro name result found
    rw [Dict.get_set] at found
    split at found
    · cases Option.some.inj found
      rw [measured]
      exact clock
    · exact timed name result found
  | advance operation reason =>
    intro name result found
    rw [FactorySigned.advance_gates done] at found
    exact timed name result found

theorem perform_storable (done : perform settings identity workloadId call w now = .ok next) (storable : Storable format w)
    (clock : Representable now) : Storable format next := by
  have spec := (FactoryHistory.perform_evolves done).2.1
  refine ⟨?_,?_,perform_timed done storable.timed clock⟩
  · rw [spec]
    exact storable.spelled
  · rw [spec]
    exact storable.floats

theorem get_absent {db : FactoryRequests.Database} (absent : FactoryRequests.get db workloadId tenant = none) :
    FactoryStorage.get format (encode db) workloadId tenant = some none := by
  unfold FactoryRequests.get at absent
  unfold FactoryStorage.get
  rw [FactoryStorage.encode,Table.find_recode]
  cases found : db.find workloadId with
  | none => rfl
  | some row =>
    rw [found] at absent
    dsimp only at absent
    split at absent
    · cases absent
    · rename_i foreign
      exact if_neg foreign

theorem create_coded {s : State} {u : FactoryRequests.State} (coded : Coded format s u)
    (arrives : Arrives format (.create identity request workloadId)) :
    (FactoryRequests.respondCreate u identity request workloadId).2 = (respondCreate s identity request workloadId).2 ∧
      Coded format (respondCreate s identity request workloadId).1
        (FactoryRequests.respondCreate u identity request workloadId).1 := by
  unfold respondCreate FactoryRequests.respondCreate
  cases made : createWorkload identity request workloadId with
  | error failure => exact ⟨rfl,coded⟩
  | ok w =>
    have storable := created_storable made arrives
    dsimp only
    rw [coded.rows,FactoryStorage.create_encode u.db storable.spelled]
    cases inserted : FactoryRequests.create u.db w with
    | none => exact ⟨rfl,coded⟩
    | some db =>
      refine ⟨rfl,rfl,fun id row found => ?_,coded.clients⟩
      rw [Table.find_insert inserted] at found
      split at found
      · cases Option.some.inj found
        exact storable
      · exact coded.storable id row found

theorem read_coded {s : State} {u : FactoryRequests.State} (coded : Coded format s u) (client : Nat) (identity : Identity)
    (workloadId : String) (call : Call) :
    (FactoryRequests.respondRead u client identity workloadId call).2 =
        (respondRead format s client identity workloadId call).2 ∧
      Coded format (respondRead format s client identity workloadId call).1
        (FactoryRequests.respondRead u client identity workloadId call).1 := by
  unfold respondRead FactoryRequests.respondRead
  cases authorize identity call.role with
  | error failure => exact ⟨rfl,coded⟩
  | ok _ =>
    dsimp only
    rw [coded.rows]
    cases found : FactoryRequests.get u.db workloadId identity.tenant with
    | none =>
      rw [get_absent found]
      exact ⟨rfl,coded⟩
    | some pair =>
      obtain ⟨w,version⟩ := pair
      obtain ⟨row,there,_,same,_⟩ := FactoryRequests.get_exact.mp found
      have storable := coded.storable workloadId row there
      rw [same] at storable
      obtain ⟨v,back,equal⟩ := FactoryStorage.get_encode found storable.spelled storable.floats storable.timed
      rw [back]
      exact ⟨rfl,rfl,coded.storable,related_update coded.clients client (.loaded equal storable)⟩

theorem write_coded {s : State} {u : FactoryRequests.State} (coded : Coded format s u) (same : Same v w)
    (storable : Storable format w) (clock : Representable now) :
    (FactoryRequests.respondWrite settings u client identity workloadId call w version now).2 =
        (respondWrite settings s client identity workloadId call v version now).2 ∧
      Coded format (respondWrite settings s client identity workloadId call v version now).1
        (FactoryRequests.respondWrite settings u client identity workloadId call w version now).1 := by
  have idled := related_update coded.clients client Carries.idle
  have alike := perform_alike settings identity workloadId call same now
  unfold respondWrite FactoryRequests.respondWrite
  dsimp only
  generalize perform settings identity workloadId call v now = read at alike ⊢
  generalize done : perform settings identity workloadId call w now = kept at alike ⊢
  cases alike with
  | error failure => exact ⟨rfl,coded.rows,coded.storable,idled⟩
  | @ok next after equal =>
    have following := perform_storable done storable clock
    have text_ : serialize next ≠ none := by
      rw [same_serialize equal,FactoryStorage.serialize_spelled following.spelled]
      exact Option.some_ne_none _
    dsimp only
    rw [if_neg text_,coded.rows,same_save equal,FactoryStorage.save_encode u.db following.spelled]
    cases saved : FactoryRequests.save u.db after version with
    | none => exact ⟨rfl,rfl,coded.storable,idled⟩
    | some pair =>
      obtain ⟨_,_,_,_,_,finds⟩ := FactoryRequests.save_parts saved
      refine ⟨congrArg Outcome.answered (same_view equal _).symm,rfl,fun id row found => ?_,idled⟩
      rw [finds] at found
      split at found
      · cases Option.some.inj found
        exact following
      · exact coded.storable id row found

theorem respond_coded {s t : State} {u : FactoryRequests.State} (coded : Coded format s u)
    (arrives : Arrives format event) (answered : respond settings format s event = some (t,outcome)) :
    ∃ after, FactoryRequests.respond settings u event = some (after,outcome) ∧ Coded format t after := by
  cases event with
  | create identity request workloadId =>
    obtain ⟨same,together⟩ := create_coded coded arrives
    have answer := Option.some.inj answered
    rw [answer] at same together
    exact ⟨_,congrArg some (Prod.ext rfl same),together⟩
  | read client identity workloadId call =>
    have carries := coded.clients client
    simp only [respond] at answered
    split at answered
    · rename_i idle
      rw [idle] at carries
      generalize held : u.clients client = other at carries
      cases carries with
      | idle =>
        obtain ⟨same,together⟩ := read_coded coded client identity workloadId call
        have answer := Option.some.inj answered
        rw [answer] at same together
        refine ⟨_,?_,together⟩
        simp only [FactoryRequests.respond,held]
        exact congrArg some (Prod.ext rfl same)
    · cases answered
  | write client now =>
    have carries := coded.clients client
    simp only [respond] at answered
    split at answered
    · cases answered
    · rename_i loaded
      rw [loaded] at carries
      generalize held : u.clients client = other at carries
      cases carries with
      | loaded equal storable =>
        obtain ⟨same,together⟩ := write_coded coded equal storable arrives
        have answer := Option.some.inj answered
        rw [answer] at same together
        refine ⟨_,?_,together⟩
        simp only [FactoryRequests.respond,held]
        exact congrArg some (Prod.ext rfl same)

theorem documents_simulate (settings : Settings) (format : FloatFormat) :
    Simulates (respond settings format) (FactoryRequests.respond settings) (fun _ _ => True)
      (fun _ => Arrives format) (Coded format) := by
  constructor
  · intro s t u event outcome coded _ arrives answered
    exact respond_coded coded arrives answered
  · intro s t u event outcome _ unasked _
    exact absurd trivial unasked

end Steps

-- The service over JSON texts answers every interleaving of requests as the
-- service over workloads does, and a read of its table gives the same workload.
theorem workload_documents_refine (settings : Settings) (format : FloatFormat) (events : List Event) (s : State)
    (path : Runs (step settings format) initial events s) (arrives : ∀ event ∈ events, Arrives format event) :
    ∃ u, Runs (FactoryRequests.step settings) FactoryRequests.initial events u ∧
      transcript (FactoryRequests.respond settings) FactoryRequests.initial events =
        transcript (respond settings format) initial events ∧
      ∀ workloadId tenant, match FactoryRequests.get u.db workloadId tenant with
        | none => FactoryStorage.get format s.db workloadId tenant = some none
        | some (w,version) => ∃ v, FactoryStorage.get format s.db workloadId tenant = some (some (v,version)) ∧ Same v w := by
  have start : Coded format initial FactoryRequests.initial := ⟨rfl,fun _ _ found => (by cases found),fun _ => .idle⟩
  have everything := own_all path
  obtain ⟨u,taken,same,coded⟩ := (documents_simulate settings format).run path (throughout_each arrives) start
  rw [everything] at taken
  rw [everything,observed_all] at same
  refine ⟨u,taken,same,fun workloadId tenant => ?_⟩
  cases found : FactoryRequests.get u.db workloadId tenant with
  | none =>
    rw [coded.rows]
    exact get_absent found
  | some pair =>
    obtain ⟨w,version⟩ := pair
    obtain ⟨row,there,_,equal,_⟩ := FactoryRequests.get_exact.mp found
    have storable := coded.storable workloadId row there
    rw [equal] at storable
    rw [coded.rows]
    exact FactoryStorage.get_encode found storable.spelled storable.floats storable.timed

open FactoryIsolation (rehearsalSettings rehearsalRequest builder evaluator passingGate)
open FactoryStorage (seventeen)

-- Two gates in another order than that of their names.
def recorded : List Event :=
  [.create builder rehearsalRequest "w-1",.read 0 evaluator "w-1" (.recordGate (passingGate "quality")),.write 0 0,
    .read 0 evaluator "w-1" (.recordGate (passingGate "cost")),.write 0 60000000]

theorem recorded_refined : ∃ s u, Runs (step rehearsalSettings seventeen) initial recorded s ∧
    Runs (FactoryRequests.step rehearsalSettings) FactoryRequests.initial recorded u ∧
    transcript (FactoryRequests.respond rehearsalSettings) FactoryRequests.initial recorded =
      transcript (respond rehearsalSettings seventeen) initial recorded ∧
    (transcript (respond rehearsalSettings seventeen) initial recorded).length = 5 := by
  have accepted : (consume (step rehearsalSettings seventeen) initial recorded).isSome = true := by decide +kernel
  obtain ⟨s,consumed⟩ := Option.isSome_iff_exists.mp accepted
  have path := consume_exact.mp consumed
  have arrives : ∀ event ∈ recorded, Arrives seventeen event := by decide +kernel
  obtain ⟨u,kept,same,_⟩ := workload_documents_refine rehearsalSettings seventeen recorded s path arrives
  refine ⟨s,u,path,kept,same,?_⟩
  rw [← same]
  decide +kernel

end OpenModelOps.FactoryDocuments
