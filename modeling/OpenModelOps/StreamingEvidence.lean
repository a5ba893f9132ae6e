import OpenModelOps.AriaScorecard
import OpenModelOps.JsonDumps
import OpenModelOps.StreamingReliability
import Mathlib.Data.List.Forall2

namespace OpenModelOps.StreamingEvidence
open JsonText PythonFloat PythonNumber PythonChoice PythonText AriaIntelligence AriaScorecard StreamingReliability
variable {δ : Type} {runtime : Runtime δ} {settings : Settings}

def IsFloat (n : Number) : Prop := ∀ k, n ≠ .int k

-- What the two services take from outside: json.dumps writes a float so that
-- json.loads reads a float, a digest is ASCII, and the database keeps every
-- text without surrogates.
structure Service (runtime : Runtime δ) (settings : Settings) : Prop where
  secret : settings.secret ≠ ""
  hexadecimal : ∀ key bytes, isAscii (settings.hmac key bytes) = true
  written : ∃ reread, Reading (fun x => runtime.number (.float x)) reread ∧ ∀ x, IsFloat (reread x)
  stored : ∃ reread, Reading settings.numberText reread ∧ ∀ n, IsFloat n → IsFloat (reread n)
  bound : ∀ t, (∀ c ∈ t, Scalar c) → settings.bind (.str t) = some t
  kept : ∀ row : EvidenceRow, (∀ c ∈ row.signalId, Scalar c) → (∀ c ∈ row.payload, Scalar c) → settings.holds row = true

structure Delivery (δ : Type) where
  assessment : StreamingAssessment δ
  tenant : Str
  now : Int
  receivedAt : String
  request : Request

def Delivery.payload (runtime : Runtime δ) (d : Delivery δ) : List (Text × Json PyFloat) :=
  d.assessment.ariaEvidence runtime d.tenant

-- json.dumps(payload).encode(), with or without sorted keys.
inductive Encodes (runtime : Runtime δ) (payload : List (Text × Json PyFloat)) : List UInt8 → Prop where
  | plain {comma colon} : Separators comma colon →
      Encodes runtime payload (asciiBytes (write (fun x => runtime.number (.float x)) comma colon (.obj payload)))
  | sorted {comma colon} : Separators comma colon → Encodes runtime payload
      (asciiBytes (write (fun x => runtime.number (.float x)) comma colon (sortKeys (.obj payload))))

structure Delivered (runtime : Runtime δ) (settings : Settings) (d : Delivery δ) : Prop where
  produced : ∃ snapshot target, diagnose runtime snapshot target = .ok d.assessment
  encoded : Encodes runtime (d.payload runtime) d.request.message.body
  signed : d.request.signature = settings.signature d.request.message
  named : d.request.message.nonce ≠ ""
  fresh : ∃ observed, parseInt d.request.message.timestamp = some observed ∧
    (d.now - observed).natAbs ≤ settings.toleranceSeconds

structure Carries (d : Delivery δ) (fields : List (Text × Json Number)) : Prop where
  source : field fields (text "source") = some (.str (text "aria"))
  version : field fields (text "schema_version") = some (.str (text "1.0"))
  signal : field fields (text "signal_id") = some (.str (text d.assessment.incidentId))
  tenant : field fields (text "tenant") = some (.str d.tenant.val)
  workload : field fields (text "workload_id") = some (.str d.assessment.workloadId.val)
  severity : field fields (text "severity") = some (.str (text d.assessment.severity.value))
  confidence : ∃ n, IsFloat n ∧ field fields (text "confidence") = some (.num n)

theorem IsFloat.short {n : Number} (float : IsFloat n) (digits : Nat) : Short digits n := by
  cases n with
  | int k => exact absurd rfl (float k)
  | _ => rfl

theorem payload_keys (runtime : Runtime δ) (d : Delivery δ) : ((d.payload runtime).map Prod.fst).Nodup := by
  have keys : (d.payload runtime).map Prod.fst = [text "source",text "schema_version",text "signal_id",text "tenant",
    text "workload_id",text "severity",text "confidence",text "observed_at",text "evidence_digest",
    text "finding_codes",text "slo",text "automatic_remediation"] := rfl
  rw [keys]
  decide +kernel

theorem optional_plain (x : Option PyFloat) : WholeTexts (optional x) := by
  cases x <;> trivial

theorem codes_whole (findings : List Finding) :
    WholeItems (findings.map fun finding => (.str (text finding.code) : Json PyFloat)) := by
  induction findings with
  | nil => trivial
  | cons finding rest ih => exact ⟨text_whole _,ih⟩

theorem payload_whole (runtime : Runtime δ) (d : Delivery δ) : WholeFields (d.payload runtime) := by
  refine wholeFields_iff.mpr fun entry member => ?_
  simp only [Delivery.payload,StreamingAssessment.ariaEvidence,List.mem_cons,List.not_mem_nil,or_false] at member
  rcases member with rfl | rfl | rfl | rfl | rfl | rfl | rfl | rfl | rfl | rfl | rfl | rfl
  all_goals first
    | exact ⟨text_whole _,text_whole _⟩
    | exact ⟨text_whole _,Subtype.property _⟩
    | exact ⟨text_whole _,trivial⟩
    | exact ⟨text_whole _,codes_whole _⟩
    | exact ⟨text_whole _,text_whole _,trivial,text_whole _,optional_plain _,text_whole _,trivial,text_whole _,
        optional_plain _,text_whole _,optional_plain _,text_whole _,text_whole _,trivial⟩

theorem carries_read (runtime : Runtime δ) {reread : PyFloat → Number} (d : Delivery δ) {fields : List (Text × Json Number)}
    (change : Json PyFloat → Json Number) (floats : ∀ x, IsFloat (reread x))
    (read : ∀ key, field fields key = (field (d.payload runtime) key).map change)
    (texts : ∀ t, change (.str t) = .str t) (numbers : ∀ x, change (.num x) = .num (reread x)) : Carries d fields := by
  have found : ∀ {key v}, (key,v) ∈ d.payload runtime → field fields key = some (change v) := by
    intro key v member
    rw [read,(field_unique (payload_keys runtime d)).mpr member]
    rfl
  have spelled : ∀ {key t}, (key,.str t) ∈ d.payload runtime → field fields key = some (.str t) := by
    intro key t member
    rw [found member,texts]
  refine ⟨spelled ?_,spelled ?_,spelled ?_,spelled ?_,spelled ?_,spelled ?_,?_⟩
  · simp [Delivery.payload,StreamingAssessment.ariaEvidence]
  · simp [Delivery.payload,StreamingAssessment.ariaEvidence]
  · simp [Delivery.payload,StreamingAssessment.ariaEvidence]
  · simp [Delivery.payload,StreamingAssessment.ariaEvidence]
  · simp [Delivery.payload,StreamingAssessment.ariaEvidence]
  · simp [Delivery.payload,StreamingAssessment.ariaEvidence]
  · have sent : (text "confidence",.num (if d.assessment.findings.isEmpty then assumed else .finite 1)) ∈
        d.payload runtime := by
      simp [Delivery.payload,StreamingAssessment.ariaEvidence]
    exact ⟨_,floats _,by rw [found sent,numbers]⟩

theorem carries_stored {d : Delivery δ} {reread : Number → Number} (carries : Carries d fields)
    (floats : ∀ n, IsFloat n → IsFloat (reread n))
    (read : ∀ key, field stored key = (field fields key).map (reprinted reread)) :
    Carries d stored := by
  have spelled : ∀ {key t}, field fields key = some (.str t) → field stored key = some (.str t) := by
    intro key t found
    rw [read,found]
    rfl
  refine ⟨spelled carries.source,spelled carries.version,spelled carries.signal,spelled carries.tenant,
    spelled carries.workload,spelled carries.severity,?_⟩
  obtain ⟨n,float,found⟩ := carries.confidence
  exact ⟨reread n,floats n float,by rw [read,found]; rfl⟩

structure Parsed (runtime : Runtime δ) (d : Delivery δ) (fields : List (Text × Json Number)) : Prop where
  carries : Carries d fields
  whole : WholeFields fields
  floats : EachField IsFloat fields

theorem encodes_parsed (service : Service runtime settings) {d : Delivery δ}
    (encoded : Encodes runtime (d.payload runtime) body) :
    ∃ fields, loadsBytes body = .ok (.obj fields) ∧ Parsed runtime d fields := by
  obtain ⟨reread,reading,floats⟩ := service.written
  have whole : WholeTexts (.obj (d.payload runtime)) := payload_whole runtime d
  have each : ∀ v : Json PyFloat, EachNumber IsFloat (convert reread v) := fun v =>
    EachNumber.convert (fun n _ => floats n) v (eachNumber_of_all (fun _ => trivial) v)
  have short : ∀ v : Json PyFloat, intsWithin maxStrDigits (convert reread v) = true := by
    intro v
    refine (intsWithin_iff _ _).mpr (EachNumber.convert (P := fun _ => True) (fun n _ => (floats n).short _) v ?_)
    exact eachNumber_of_all (fun _ => trivial) v
  cases encoded with
  | plain separators =>
    refine ⟨_,loadsBytes_write reading separators whole (short _),?_,?_,?_⟩
    · refine carries_read runtime d (convert reread) floats (fun key => ?_) (fun _ => rfl) (fun _ => rfl)
      rw [field_convert]
    · exact convertFields_whole reread _ whole
    · exact each (.obj (d.payload runtime))
  | sorted separators =>
    have wholeSorted := sortKeys_whole _ whole
    obtain ⟨fields,shape,lookup⟩ := sorted_object (payload_keys runtime d)
    rw [shape] at wholeSorted ⊢
    refine ⟨_,loadsBytes_write reading separators wholeSorted (short _),?_,?_,?_⟩
    · refine carries_read runtime d (fun v => convert reread (sortKeys v)) floats (fun key => ?_) (fun _ => rfl) (fun _ => rfl)
      rw [field_convert,lookup]
      cases field (d.payload runtime) key <;> rfl
    · exact convertFields_whole reread _ wholeSorted
    · exact each (.obj fields)

theorem signature_accepted (service : Service runtime settings) (m : Message) :
    isAscii (settings.signature m) = true ∧ settings.signature m ≠ "" := by
  have ascii := service.hexadecimal (encode settings.secret) m.signedBytes
  constructor
  · unfold isAscii at ascii ⊢
    rw [Settings.signature,String.toList_append,List.all_append,ascii,Bool.and_true]
    decide
  · intro empty
    have chars := congrArg String.toList empty
    rw [Settings.signature,String.toList_append] at chars
    cases chars

theorem verify_delivered (service : Service runtime settings) {d : Delivery δ} (delivered : Delivered runtime settings d)
    (loaded : loadsBytes d.request.message.body = .ok (.obj fields)) (carries : Carries d fields) :
    verify settings d.now d.request.message d.request.signature = .ok fields := by
  obtain ⟨ascii,nonempty⟩ := signature_accepted service d.request.message
  obtain ⟨observed,parsed,within⟩ := delivered.fresh
  have timed : d.request.message.timestamp ≠ "" := by
    intro empty
    have unread : parseInt "" = none := by decide
    rw [empty,unread] at parsed
    cases parsed
  have headers : ¬ (settings.secret = "" ∨ d.request.message.timestamp = "" ∨ d.request.message.nonce = "" ∨
      settings.signature d.request.message = "") := by
    simp [service.secret,timed,delivered.named,nonempty]
  have contract : (!equals (field fields (text "source")) "aria" || !equals (field fields (text "schema_version")) "1.0" ||
      !truthy (field fields (text "signal_id"))) = false := by
    obtain ⟨snapshot,target,produced⟩ := delivered.produced
    obtain ⟨rest,name⟩ := diagnose_named produced
    rw [carries.source,carries.version,carries.signal,name]
    simp [equals,truthy]
  rw [delivered.signed]
  unfold verify
  rw [if_neg headers]
  simp only [parsed]
  rw [if_neg (by omega),if_neg (by simp [ascii]),if_neg (by simp)]
  simp only [loaded,contract]
  rfl

end OpenModelOps.StreamingEvidence
