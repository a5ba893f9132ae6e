import OpenModelOps.FactoryIsolation

namespace OpenModelOps.FactoryEvidence
open KeyedTable PythonText FactoryDomain FactoryGovernance FactoryRequests FactoryHistory FactoryIsolation RunHistory

-- An answered gate submission: who made it, what was asked, and the result the
-- row of the workload holds for that gate afterwards.
structure Submission where
  identity : Identity
  workloadId : String
  request : GateRequest
  stored : GateResult

def storedGate (db : Database) (workloadId gate : String) : Option GateResult :=
  (db.find workloadId).bind fun row => Dict.get row.document.gates gate

def submitted (settings : Settings) (s : State) (client : Nat) (now : Instant) : Option Submission :=
  match s.clients client with
  | .loaded identity workloadId (.recordGate request) _ _ =>
    match respond settings s (.write client now) with
    | some (next,.answered _) =>
      (storedGate next.db workloadId request.gate).map (Submission.mk identity workloadId request)
    | _ => none
  | _ => none

def Accepted (settings : Settings) (submission : Submission) : Prop :=
  ∃ events s client now, Runs (step settings) initial events s ∧ submitted settings s client now = some submission

-- A key and a signature verify at most one message.
def UniqueMessage (crypto : Crypto) : Prop :=
  ∀ key signature message other, crypto.ed25519 key signature message = true →
    crypto.ed25519 key signature other = true → message = other

theorem storedGate_exact {db : Database} : storedGate db workloadId gate = some result ↔
    ∃ row, db.find workloadId = some row ∧ Dict.get row.document.gates gate = some result :=
  Option.bind_eq_some_iff

theorem submitted_parts (valid : Valid settings s) (taken : submitted settings s client now = some submission) :
    ∃ statement, EvidenceStatement.make submission.workloadId submission.request.gate submission.request.evidence
        submission.request.evidenceDigest submission.identity.subject = .ok statement ∧
      verifyGateEvidence settings statement submission.request = .ok () ∧
      submission.stored.gate = submission.request.gate ∧
      submission.stored.evidence = submission.request.evidence ∧
      submission.stored.evaluator = submission.identity.subject ∧
      submission.stored.evidenceDigest = submission.request.evidenceDigest := by
  unfold submitted at taken
  split at taken
  · rename_i identity workloadId request w version loaded
    have held := valid.clients client
    rw [loaded] at held
    split at taken
    · rename_i next body answered
      obtain ⟨result,read,rfl⟩ := Option.map_eq_some_iff.mp taken
      simp only [respond,loaded,respondWrite,perform] at answered
      split at answered
      · cases Option.some.inj answered
      · rename_i after done
        obtain ⟨statement,gateResult,made,verified,gate,_,evidence,evaluator,digest,_,_,recorded⟩ :=
          recordGate_parts done
        obtain ⟨_,_,rfl⟩ := recordGate_exact.mp recorded
        split at answered
        · cases Option.some.inj answered
        · rename_i db _ saved
          cases Option.some.inj answered
          obtain ⟨_,row,_,_,_,finds⟩ := save_parts saved
          obtain ⟨current,present,stored⟩ := storedGate_exact.mp read
          rw [finds,if_pos held.1.symm] at present
          cases Option.some.inj present
          rw [← gate,Dict.get_set_self] at stored
          cases Option.some.inj stored
          exact ⟨statement,made,verified,gate,evidence,evaluator,digest⟩
    · cases taken
  · cases taken

theorem verified_signed (production : settings.production = true)
    (verified : verifyGateEvidence settings statement request = .ok ()) :
    ∃ key raw, Dict.get settings.publicKeys request.signingKeyId = some key ∧
      b64decode request.signature.toList = some raw ∧
      settings.crypto.ed25519 key raw statement.canonicalBytes = true := by
  unfold verifyGateEvidence at verified
  split at verified
  · cases verified
  · rename_i signed
    push Not at signed
    split at verified
    · exact verify_exact.mp (refuse_ok verified)
    · rename_i unsigned
      exact absurd (.inl (signed production).1) unsigned

theorem accepted_signed (production : settings.production = true) (taken : Accepted settings submission) :
    ∃ (statement : EvidenceStatement) (key raw : List UInt8),
      Dict.get settings.publicKeys submission.request.signingKeyId = some key ∧
      b64decode submission.request.signature.toList = some raw ∧
      settings.crypto.ed25519 key raw statement.canonicalBytes = true ∧
      statement.workloadId = submission.workloadId ∧ statement.gate = submission.stored.gate ∧
      statement.evidenceUri = submission.stored.evidence ∧
      statement.evidenceDigest = submission.stored.evidenceDigest ∧
      statement.evaluator = submission.stored.evaluator := by
  obtain ⟨_,_,_,_,path,submitting⟩ := taken
  obtain ⟨statement,made,verified,gate,evidence,evaluator,digest⟩ := submitted_parts (reached_valid path) submitting
  obtain ⟨key,raw,trusted,decoded,accepts⟩ := verified_signed production verified
  obtain ⟨workloadOf,gateOf,uriOf,digestOf,evaluatorOf⟩ := statement_parts made
  exact ⟨statement,key,raw,trusted,decoded,accepts,workloadOf,gateOf.trans gate.symm,uriOf.trans evidence.symm,
    digestOf.trans digest.symm,evaluatorOf.trans evaluator.symm⟩

-- Everything the stored result says about the evidence is fixed by the
-- signature. The status is not among the signed fields.
theorem signature_binds (settings : Settings) (production : settings.production = true)
    (unique : UniqueMessage settings.crypto) (first second : Submission)
    (taken : Accepted settings first) (again : Accepted settings second)
    (sameKey : first.request.signingKeyId = second.request.signingKeyId)
    (sameSignature : first.request.signature = second.request.signature) :
    first.workloadId = second.workloadId ∧ first.stored.gate = second.stored.gate ∧
      first.stored.evidence = second.stored.evidence ∧
      first.stored.evidenceDigest = second.stored.evidenceDigest ∧
      first.stored.evaluator = second.stored.evaluator := by
  obtain ⟨statement,key,raw,trusted,decoded,accepts,workload,gate,uri,digest,evaluator⟩ :=
    accepted_signed production taken
  obtain ⟨other,otherKey,otherRaw,alsoTrusted,alsoDecoded,alsoAccepts,otherWorkload,otherGate,otherUri,otherDigest,
    otherEvaluator⟩ := accepted_signed production again
  rw [← sameKey,trusted] at alsoTrusted
  cases Option.some.inj alsoTrusted
  rw [← sameSignature,decoded] at alsoDecoded
  cases Option.some.inj alsoDecoded
  obtain ⟨workloads,gates,uris,digests,evaluators⟩ :=
    canonicalBytes_cancel (unique key raw _ _ accepts alsoAccepts)
  refine ⟨?_,?_,?_,?_,?_⟩
  · rw [← workload,workloads,otherWorkload]
  · rw [← gate,gates,otherGate]
  · rw [← uri,uris,otherUri]
  · rw [← digest,digests,otherDigest]
  · rw [← evaluator,evaluators,otherEvaluator]

def rehearsalKey : List UInt8 :=
  [1,246,126,153,91,199,92,241,251,60,187,184,108,202,147,107,145,62,80,240,34,124,142,231,158,205,149,254,216,108,33,242]

def rehearsalSignature : String :=
  "L1yOJp/WlLU0tN/sGjElluq9lhTUztPEn1j8N9Qg9fBGYcLmrQ9pj7cKr0nMiBOiblCsi2DRUoKNRtVQSX09Bg=="

-- What the evaluator signed for the security gate of w-1. The statement has no
-- field for the verdict.
def rehearsalMessage : List UInt8 :=
  JsonText.asciiBytes (JsonText.text ("\x7b\"evaluator\":\"gate-bot\",\"evidence_digest\":\"sha256:0a\"," ++
    "\"evidence_uri\":\"https://evidence/security\",\"gate\":\"security\",\"workload_id\":\"w-1\"\x7d"))

-- Ed25519 restricted to the one key and signature of the rehearsal.
def signedSettings : Settings where
  crypto := ⟨rehearsalSettings.crypto.sha256,fun key signature message =>
    decide (key = rehearsalKey) && decide (some signature = b64decode rehearsalSignature.toList) &&
      decide (message = rehearsalMessage)⟩
  production := true
  publicKeys := Dict.set Table.empty "key-1" rehearsalKey

def signedGate (passed : Bool) : GateRequest :=
  ⟨"security",passed,"https://evidence/security","sha256:0a","key-1",rehearsalSignature⟩

def resubmission : List Event :=
  [.create builder rehearsalRequest "w-1",.read 0 evaluator "w-1" (.recordGate (signedGate true)),.write 0 0,
    .read 1 evaluator "w-1" (.recordGate (signedGate false))]

theorem signedSettings_unique : UniqueMessage signedSettings.crypto := by
  intro key signature message other first second
  simp only [signedSettings,Bool.and_eq_true,decide_eq_true_eq] at first second
  rw [first.2,second.2]

theorem submitted_accepted (events : List Event) (client : Nat) (now : Instant)
    (taken : ((consume (step settings) initial events).bind fun s => submitted settings s client now) = some submission) :
    Accepted settings submission := by
  obtain ⟨s,reached,also⟩ := Option.bind_eq_some_iff.mp taken
  exact ⟨events,s,client,now,consume_exact.mp reached,also⟩

theorem resubmission_accepted : ∃ first second, Accepted signedSettings first ∧ Accepted signedSettings second ∧
    first.request.signingKeyId = second.request.signingKeyId ∧ first.request.signature = second.request.signature ∧
    first.stored.status = .pass ∧ second.stored.status = .fail := by
  have statuses : (((consume (step signedSettings) initial (resubmission.take 2)).bind fun s =>
        submitted signedSettings s 0 0).map fun x => (x.request.signingKeyId,x.request.signature,x.stored.status)) =
          some ("key-1",rehearsalSignature,.pass) ∧
      (((consume (step signedSettings) initial resubmission).bind fun s =>
        submitted signedSettings s 1 0).map fun x => (x.request.signingKeyId,x.request.signature,x.stored.status)) =
          some ("key-1",rehearsalSignature,.fail) := by decide +kernel
  obtain ⟨first,taken,fields⟩ := Option.map_eq_some_iff.mp statuses.1
  obtain ⟨second,again,others⟩ := Option.map_eq_some_iff.mp statuses.2
  simp only [Prod.mk.injEq] at fields others
  obtain ⟨key,signature,passed⟩ := fields
  obtain ⟨sameKey,sameSignature,failed⟩ := others
  exact ⟨first,second,submitted_accepted _ _ _ taken,submitted_accepted _ _ _ again,
    key.trans sameKey.symm,signature.trans sameSignature.symm,passed,failed⟩

theorem status_unsigned : ¬ ∀ settings : Settings, settings.production = true → UniqueMessage settings.crypto →
    ∀ first second, Accepted settings first → Accepted settings second →
      first.request.signingKeyId = second.request.signingKeyId →
      first.request.signature = second.request.signature → first.stored.status = second.stored.status := by
  intro fixes
  obtain ⟨first,second,taken,again,sameKey,sameSignature,passed,failed⟩ := resubmission_accepted
  have same := fixes signedSettings rfl signedSettings_unique first second taken again sameKey sameSignature
  rw [passed,failed] at same
  cases same

theorem signature_binds_resubmission : ∃ first second, Accepted signedSettings first ∧
    Accepted signedSettings second ∧ first.stored.status ≠ second.stored.status ∧
    first.stored.evidenceDigest = second.stored.evidenceDigest := by
  obtain ⟨first,second,taken,again,sameKey,sameSignature,passed,failed⟩ := resubmission_accepted
  refine ⟨first,second,taken,again,by rw [passed,failed]; decide,?_⟩
  exact (signature_binds signedSettings rfl signedSettings_unique first second taken again sameKey
    sameSignature).2.2.2.1

end OpenModelOps.FactoryEvidence
