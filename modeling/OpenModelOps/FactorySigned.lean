import OpenModelOps.FactoryEvidence

namespace OpenModelOps.FactorySigned
open KeyedTable PythonText FactoryDomain FactoryGovernance FactoryRequests FactoryHistory FactoryIsolation
  FactoryEvidence RunHistory

def Signed (settings : Settings) (workloadId : String) (result : GateResult) : Prop :=
  ∃ (statement : EvidenceStatement) (key raw : List UInt8),
    Dict.get settings.publicKeys result.signingKeyId = some key ∧ b64decode result.signature.toList = some raw ∧
    settings.crypto.ed25519 key raw statement.canonicalBytes = true ∧ statement.workloadId = workloadId ∧
    statement.gate = result.gate ∧ statement.evidenceUri = result.evidence ∧
    statement.evidenceDigest = result.evidenceDigest ∧ statement.evaluator = result.evaluator

def Submitted (events : List Event) (workloadId : String) (result : GateResult) : Prop :=
  ∃ client identity request, .read client identity workloadId (.recordGate request) ∈ events ∧
    "gate-evaluator" ∈ identity.roles ∧ identity.subject = result.evaluator

def GatesHeld (settings : Settings) (events : List Event) (workloadId : String) (gates : Dict String GateResult) :
    Prop :=
  ∀ gate result, Dict.get gates gate = some result →
    result.gate = gate ∧ Signed settings workloadId result ∧ Submitted events workloadId result

structure Attested (settings : Settings) (events : List Event) (s : State) : Prop where
  rows : ∀ id row, s.db.find id = some row → GatesHeld settings events id row.document.gates
  clients : ∀ client identity workloadId call w version,
    s.clients client = .loaded identity workloadId call w version →
    GatesHeld settings events workloadId w.gates ∧ .read client identity workloadId call ∈ events ∧
      call.role ∈ identity.roles

theorem GatesHeld.later (held : GatesHeld settings events workloadId gates) (event : Event) :
    GatesHeld settings (events ++ [event]) workloadId gates := by
  intro gate result found
  obtain ⟨name,signed,client,identity,request,member,role,subject⟩ := held gate result found
  exact ⟨name,signed,client,identity,request,List.mem_append_left _ member,role,subject⟩

theorem Attested.later (attested : Attested settings events s) (event : Event) :
    Attested settings (events ++ [event]) s := by
  refine ⟨fun id row found => (attested.rows id row found).later event,?_⟩
  intro client identity workloadId call w version loaded
  obtain ⟨held,member,role⟩ := attested.clients client identity workloadId call w version loaded
  exact ⟨held.later event,List.mem_append_left _ member,role⟩

theorem advance_gates (done : advance settings identity operation reason w now = .ok next) : next.gates = w.gates := by
  unfold advance at done
  split at done
  · dsimp only at done
    split at done
    · cases done
    · obtain ⟨_,_,_,_,_,gates,_⟩ := approve_parts (refuse_ok done)
      exact gates
  · split at done
    · obtain ⟨_,_,rfl⟩ := provision_parts (refuse_ok done); rfl
    · split at done
      · obtain ⟨_,_,rfl⟩ := release_parts (refuse_ok done); rfl
      · split at done
        · obtain ⟨_,rfl⟩ := suspend_parts (refuse_ok done); rfl
        · split at done
          · obtain ⟨_,rfl⟩ := retire_parts (refuse_ok done); rfl
          · cases done

theorem recordGate_held (production : settings.production = true)
    (done : recordGate settings identity workloadId request w now = .ok next)
    (held : GatesHeld settings events workloadId w.gates)
    (asked : .read client identity workloadId (.recordGate request) ∈ events)
    (role : "gate-evaluator" ∈ identity.roles) : GatesHeld settings events workloadId next.gates := by
  obtain ⟨statement,result,made,verified,gate,_,evidence,evaluator,digest,keyId,signature,recorded⟩ :=
    recordGate_parts done
  obtain ⟨_,_,rfl⟩ := recordGate_exact.mp recorded
  obtain ⟨key,raw,trusted,decoded,accepts⟩ := verified_signed production verified
  obtain ⟨workloadOf,gateOf,uriOf,digestOf,evaluatorOf⟩ := statement_parts made
  intro name stored found
  rw [Dict.get_set] at found
  split at found
  · rename_i here
    cases Option.some.inj found
    refine ⟨here.symm,⟨statement,key,raw,?_,?_,accepts,workloadOf,?_,?_,?_,?_⟩,client,identity,request,asked,role,
      evaluator.symm⟩
    · rw [keyId]; exact trusted
    · rw [signature]; exact decoded
    · rw [gate,gateOf]
    · rw [evidence,uriOf]
    · rw [digest,digestOf]
    · rw [evaluator,evaluatorOf]
  · exact held name stored found

theorem perform_held (production : settings.production = true)
    (done : perform settings identity workloadId call w now = .ok next)
    (held : GatesHeld settings events workloadId w.gates) (asked : .read client identity workloadId call ∈ events)
    (role : call.role ∈ identity.roles) : GatesHeld settings events workloadId next.gates := by
  cases call with
  | recordGate request => exact recordGate_held production done held asked role
  | advance operation reason =>
    have done : advance settings identity operation reason w now = .ok next := done
    rw [advance_gates done]
    exact held

theorem idle_clients (attested : Attested settings events s) (client : Nat) :
    ∀ slot identity workloadId call w version,
      Function.update s.clients client .idle slot = .loaded identity workloadId call w version →
      GatesHeld settings events workloadId w.gates ∧ .read slot identity workloadId call ∈ events ∧
        call.role ∈ identity.roles := by
  intro slot identity workloadId call w version loaded
  by_cases here : slot = client
  · subst slot
    rw [Function.update_self] at loaded
    cases loaded
  · rw [Function.update_of_ne here] at loaded
    exact attested.clients slot identity workloadId call w version loaded

theorem createWorkload_gates (made : createWorkload identity request workloadId = .ok w) : w.gates = Table.empty := by
  unfold createWorkload at made
  obtain ⟨_,_,made⟩ := Raising.bind_ok made
  obtain ⟨_,_,made⟩ := Raising.bind_ok made
  obtain ⟨_,_,made⟩ := Raising.bind_ok made
  cases Except.ok.inj made
  rfl

theorem respondCreate_attested (attested : Attested settings events s) :
    Attested settings events (respondCreate s identity request workloadId).1 := by
  unfold respondCreate
  split
  · exact attested
  · rename_i w made
    split
    · exact attested
    · rename_i db inserted
      refine ⟨fun id row found => ?_,attested.clients⟩
      have finds := Table.find_insert inserted id
      rw [found] at finds
      split at finds
      · cases Option.some.inj finds
        intro gate result present
        rw [createWorkload_gates made] at present
        cases present
      · exact attested.rows id row finds.symm

theorem authorize_role (allowed : authorize identity role = .ok ()) : role ∈ identity.roles := by
  unfold authorize at allowed
  split at allowed
  · assumption
  · cases allowed

theorem respondRead_attested (attested : Attested settings events s)
    (asked : .read client identity workloadId call ∈ events) :
    Attested settings events (respondRead s client identity workloadId call).1 := by
  unfold respondRead
  split
  · exact attested
  · rename_i allowed
    split
    · exact attested
    · rename_i w version selected
      obtain ⟨row,found,_,document,_⟩ := get_exact.mp selected
      refine ⟨attested.rows,?_⟩
      intro slot who where_ what held version loaded
      dsimp only at loaded
      by_cases here : slot = client
      · subst slot
        rw [Function.update_self] at loaded
        cases loaded
        have gates := attested.rows _ _ found
        rw [document] at gates
        exact ⟨gates,asked,authorize_role allowed⟩
      · rw [Function.update_of_ne here] at loaded
        exact attested.clients slot who where_ what held version loaded

theorem respondWrite_attested (production : settings.production = true) (attested : Attested settings events s)
    (valid : ClientValid s.db (.loaded identity workloadId call w version))
    (loaded : s.clients client = .loaded identity workloadId call w version) :
    Attested settings events (respondWrite settings s client identity workloadId call w version now).1 := by
  unfold respondWrite
  dsimp only
  split
  · exact ⟨attested.rows,idle_clients attested client⟩
  · rename_i next done
    split
    · exact ⟨attested.rows,idle_clients attested client⟩
    · rename_i db saved stored
      refine ⟨fun id row found => ?_,idle_clients attested client⟩
      obtain ⟨held,asked,role⟩ := attested.clients client identity workloadId call w version loaded
      obtain ⟨_,old,present,_,_,finds⟩ := save_parts stored
      rw [finds] at found
      split at found
      · rename_i here
        cases Option.some.inj found
        rw [here,(perform_evolves done).1,valid.1]
        exact perform_held production done held asked role
      · exact attested.rows id row found

theorem step_attested (production : settings.production = true) (valid : Valid settings s)
    (attested : Attested settings events s) (taken : step settings s event = some next) :
    Attested settings (events ++ [event]) next := by
  have grown := attested.later event
  have last : event ∈ events ++ [event] := List.mem_append_right _ List.mem_cons_self
  obtain ⟨outcome,answered⟩ := step_parts taken
  cases respond_cases answered with
  | create identity request workloadId answer =>
    obtain rfl := congrArg Prod.fst answer
    exact respondCreate_attested grown
  | read client identity workloadId call idle answer =>
    obtain rfl := congrArg Prod.fst answer
    exact respondRead_attested grown last
  | write client now identity workloadId call w version loaded answer =>
    obtain rfl := congrArg Prod.fst answer
    have held := valid.clients client
    rw [loaded] at held
    exact respondWrite_attested production grown held loaded

theorem run_attested (production : settings.production = true) (path : Runs (step settings) initial events s) :
    Attested settings events s := by
  refine path.recorded (fun reached held taken => step_attested production (reached_valid reached) held taken) ?_
  exact ⟨fun _ _ found => (nomatch found),fun _ _ _ _ _ _ loaded => (nomatch loaded)⟩

def Stored (settings : Settings) (workloadId : String) (result : GateResult) : Prop :=
  ∃ events s, Runs (step settings) initial events s ∧ storedGate s.db workloadId result.gate = some result

theorem canonicalBytes_injective {s u : EvidenceStatement} (same : s.canonicalBytes = u.canonicalBytes) : s = u := by
  obtain ⟨workload,gate,uri,digest,evaluator⟩ := canonicalBytes_cancel same
  cases s
  cases u
  cases workload
  cases gate
  cases uri
  cases digest
  cases evaluator
  rfl

theorem stored_signed (production : settings.production = true) (stored : Stored settings workloadId result) :
    Signed settings workloadId result := by
  obtain ⟨events,s,path,read⟩ := stored
  obtain ⟨row,found,present⟩ := storedGate_exact.mp read
  exact ((run_attested production path).rows _ _ found _ _ present).2.1

theorem signed_binds (unique : UniqueMessage settings.crypto) (first : Signed settings workloadId result)
    (second : Signed settings otherId other)
    (sameKey : Dict.get settings.publicKeys result.signingKeyId = Dict.get settings.publicKeys other.signingKeyId)
    (sameSignature : b64decode result.signature.toList = b64decode other.signature.toList) :
    workloadId = otherId ∧ result.gate = other.gate ∧ result.evidence = other.evidence ∧
      result.evidenceDigest = other.evidenceDigest ∧ result.evaluator = other.evaluator := by
  obtain ⟨statement,key,raw,trusted,decoded,accepts,rfl,gate,uri,digest,evaluator⟩ := first
  obtain ⟨against,otherKey,otherRaw,alsoTrusted,alsoDecoded,alsoAccepts,rfl,otherGate,otherUri,otherDigest,
    otherEvaluator⟩ := second
  rw [← sameKey,trusted] at alsoTrusted
  cases Option.some.inj alsoTrusted
  rw [← sameSignature,decoded] at alsoDecoded
  cases Option.some.inj alsoDecoded
  cases canonicalBytes_injective (unique key raw _ _ accepts alsoAccepts)
  exact ⟨rfl,gate.symm.trans otherGate,uri.symm.trans otherUri,digest.symm.trans otherDigest,
    evaluator.symm.trans otherEvaluator⟩

theorem stored_evidence_bound (settings : Settings) (production : settings.production = true)
    (unique : UniqueMessage settings.crypto) :
    (∀ events s, Runs (step settings) initial events s → ∀ workloadId row, s.db.find workloadId = some row →
      ∀ gate result, Dict.get row.document.gates gate = some result →
        result.gate = gate ∧ Signed settings workloadId result ∧ Submitted events workloadId result) ∧
    (∀ first second : EvidenceStatement, first.canonicalBytes = second.canonicalBytes → first = second) ∧
    ∀ workloadId result otherId other, Stored settings workloadId result → Stored settings otherId other →
      Dict.get settings.publicKeys result.signingKeyId = Dict.get settings.publicKeys other.signingKeyId →
      b64decode result.signature.toList = b64decode other.signature.toList →
      workloadId = otherId ∧ result.gate = other.gate ∧ result.evidence = other.evidence ∧
        result.evidenceDigest = other.evidenceDigest ∧ result.evaluator = other.evaluator := by
  refine ⟨fun events s path => (run_attested production path).rows,fun _ _ => canonicalBytes_injective,?_⟩
  intro workloadId result otherId other stored alsoStored
  exact signed_binds unique (stored_signed production stored) (stored_signed production alsoStored)

theorem rehearsal_evidence_bound : ∃ s row result,
    Runs (step signedSettings) initial (resubmission.take 3) s ∧ s.db.find "w-1" = some row ∧
      Dict.get row.document.gates "security" = some result ∧ Signed signedSettings "w-1" result := by
  have reached : ((consume (step signedSettings) initial (resubmission.take 3)).bind fun s =>
      storedGate s.db "w-1" "security").isSome = true := by decide +kernel
  obtain ⟨result,found⟩ := Option.isSome_iff_exists.mp reached
  obtain ⟨s,consumed,read⟩ := Option.bind_eq_some_iff.mp found
  obtain ⟨row,present,held⟩ := storedGate_exact.mp read
  have path := consume_exact.mp consumed
  exact ⟨s,row,result,path,present,held,
    ((stored_evidence_bound signedSettings rfl signedSettings_unique).1 _ s path _ row present _ result held).2.1⟩

end OpenModelOps.FactorySigned
