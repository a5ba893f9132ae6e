import OpenModelOps.FactoryDomain
import OpenModelOps.JsonQuoting

namespace OpenModelOps.FactoryGovernance
open KeyedTable PythonText JsonText FactoryDomain

-- Primitives outside the repository: the hex digest of SHA-256, and Ed25519
-- verification by raw public key, signature and message.
structure Crypto where
  sha256 : List UInt8 → String
  ed25519 : List UInt8 → List UInt8 → List UInt8 → Bool

def evidenceSchemes : List String := ["https://","s3://","oci://","file://"]

structure EvidenceStatement where
  workloadId : String
  gate : String
  evidenceUri : String
  evidenceDigest : String
  evaluator : String
  located : evidenceSchemes.any (startsWith evidenceUri) = true
  digested : startsWith evidenceDigest "sha256:" = true

def EvidenceStatement.make (workloadId gate evidenceUri evidenceDigest evaluator : String) :
    Except String EvidenceStatement :=
  if located : evidenceSchemes.any (startsWith evidenceUri) = true then
    if digested : startsWith evidenceDigest "sha256:" = true then
      .ok ⟨workloadId,gate,evidenceUri,evidenceDigest,evaluator,located,digested⟩
    else .error "evidence must use a sha256 digest"
  else .error "evidence URI uses an unsupported scheme"

theorem statement_parts (made : EvidenceStatement.make workloadId gate uri digest evaluator = .ok statement) :
    statement.workloadId = workloadId ∧ statement.gate = gate ∧ statement.evidenceUri = uri ∧
      statement.evidenceDigest = digest ∧ statement.evaluator = evaluator := by
  unfold EvidenceStatement.make at made
  split at made
  · split at made
    · cases Except.ok.inj made; exact ⟨rfl,rfl,rfl,rfl,rfl⟩
    · cases made
  · cases made

def EvidenceStatement.fields (s : EvidenceStatement) : Json Int :=
  .obj [(text "workload_id",.str (text s.workloadId)),(text "gate",.str (text s.gate)),
    (text "evidence_uri",.str (text s.evidenceUri)),(text "evidence_digest",.str (text s.evidenceDigest)),
    (text "evaluator",.str (text s.evaluator))]

def EvidenceStatement.canonicalText (s : EvidenceStatement) : Text := compactDumps intText s.fields

def EvidenceStatement.canonicalBytes (s : EvidenceStatement) : List UInt8 := asciiBytes s.canonicalText

def entry (lead name value : String) : Text :=
  text lead ++ quoted (text name) ++ [0x3a] ++ quoted (text value)

theorem canonicalText_eq (s : EvidenceStatement) :
    s.canonicalText = entry "\x7b" "evaluator" s.evaluator ++ (entry "," "evidence_digest" s.evidenceDigest ++
      (entry "," "evidence_uri" s.evidenceUri ++ (entry "," "gate" s.gate ++
        (entry "," "workload_id" s.workloadId ++ text "\x7d")))) := by
  have sorted : sortKeys s.fields = .obj [(text "evaluator",.str (text s.evaluator)),
      (text "evidence_digest",.str (text s.evidenceDigest)),(text "evidence_uri",.str (text s.evidenceUri)),
      (text "gate",.str (text s.gate)),(text "workload_id",.str (text s.workloadId))] := rfl
  rw [EvidenceStatement.canonicalText,compactDumps,sorted]
  simp only [write,writeFields,entry,List.isEmpty_cons,List.isEmpty_nil,if_true,Bool.false_eq_true,if_false,
    List.append_assoc,List.append_nil]
  rfl

theorem entry_cancel (same : entry lead name value ++ rest = entry lead name other ++ more) :
    value = other ∧ rest = more := by
  simp only [entry,List.append_assoc,List.append_cancel_left_eq] at same
  obtain ⟨values,ends⟩ := quoted_cancel (text_whole value) (text_whole other) same
  exact ⟨text_injective values,ends⟩

theorem entry_ascii (lead name value : String) (plain : ∀ x ∈ text lead, x < 0x80) :
    ∀ x ∈ entry lead name value, x < 0x80 := by
  intro x member
  simp only [entry,List.mem_append,List.mem_singleton] at member
  rcases member with ((inLead | inName) | rfl) | inValue
  · exact plain x inLead
  · exact quoted_ascii _ x inName
  · decide
  · exact quoted_ascii _ x inValue

theorem canonicalText_ascii (s : EvidenceStatement) : ∀ x ∈ s.canonicalText, x < 0x80 := by
  have comma : ∀ x ∈ text ",", x < 0x80 := by decide
  have opening : ∀ x ∈ text "\x7b", x < 0x80 := by decide
  have closing : ∀ x ∈ text "\x7d", x < 0x80 := by decide
  rw [canonicalText_eq]
  intro x member
  simp only [List.mem_append] at member
  rcases member with here | here | here | here | here | here
  · exact entry_ascii _ _ _ opening x here
  · exact entry_ascii _ _ _ comma x here
  · exact entry_ascii _ _ _ comma x here
  · exact entry_ascii _ _ _ comma x here
  · exact entry_ascii _ _ _ comma x here
  · exact closing x here

theorem canonicalBytes_cancel {s u : EvidenceStatement} (same : s.canonicalBytes = u.canonicalBytes) :
    s.workloadId = u.workloadId ∧ s.gate = u.gate ∧ s.evidenceUri = u.evidenceUri ∧
      s.evidenceDigest = u.evidenceDigest ∧ s.evaluator = u.evaluator := by
  have texts := asciiBytes_injective (canonicalText_ascii s) (canonicalText_ascii u) same
  rw [canonicalText_eq,canonicalText_eq] at texts
  obtain ⟨evaluator,texts⟩ := entry_cancel texts
  obtain ⟨digest,texts⟩ := entry_cancel texts
  obtain ⟨uri,texts⟩ := entry_cancel texts
  obtain ⟨gate,texts⟩ := entry_cancel texts
  obtain ⟨workload,_⟩ := entry_cancel texts
  exact ⟨workload,gate,uri,digest,evaluator⟩

def base64Value (c : Char) : Option Nat :=
  if 'A' ≤ c ∧ c ≤ 'Z' then some (c.toNat - 65)
  else if 'a' ≤ c ∧ c ≤ 'z' then some (c.toNat - 71)
  else if '0' ≤ c ∧ c ≤ '9' then some (c.toNat + 4)
  else if c = '+' then some 62 else if c = '/' then some 63 else none

-- base64.b64decode(s, validate=True): whole groups of four, padding only at
-- the end, unused bits of the last group ignored.
def b64decode : List Char → Option (List UInt8)
  | [] => some []
  | a :: b :: c :: d :: rest =>
    match base64Value a,base64Value b with
    | some x,some y =>
      let first := UInt8.ofNat (x * 4 + y / 16)
      if c = '=' then (if d = '=' ∧ rest = [] then some [first] else none)
      else match base64Value c with
        | none => none
        | some z =>
          let second := UInt8.ofNat (y % 16 * 16 + z / 4)
          if d = '=' then (if rest = [] then some [first,second] else none)
          else match base64Value d,b64decode rest with
            | some u,some more => some (first :: second :: UInt8.ofNat (z % 4 * 64 + u) :: more)
            | _,_ => none
    | _,_ => none
  | _ => none

example : b64decode "aGVsbG8=".toList = some "hello".toUTF8.data.toList := by decide

structure EvidenceVerifier where
  publicKeys : Dict String (List UInt8)

def EvidenceVerifier.verify (verifier : EvidenceVerifier) (crypto : Crypto) (statement : EvidenceStatement)
    (keyId signature : String) : Except String Unit :=
  match Dict.get verifier.publicKeys keyId with
  | none => .error "untrusted evidence signing key"
  | some encodedKey => match b64decode signature.toList with
    | none => .error "evidence signature verification failed"
    | some raw =>
      if crypto.ed25519 encodedKey raw statement.canonicalBytes then .ok ()
      else .error "evidence signature verification failed"

theorem verify_exact {verifier : EvidenceVerifier} : verifier.verify crypto statement keyId signature = .ok () ↔
    ∃ key raw, Dict.get verifier.publicKeys keyId = some key ∧ b64decode signature.toList = some raw ∧
      crypto.ed25519 key raw statement.canonicalBytes = true := by
  unfold EvidenceVerifier.verify
  cases trusted : Dict.get verifier.publicKeys keyId with
  | none => simp
  | some key => cases decoded : b64decode signature.toList <;> simp

structure PolicyDecision where
  allowed : Bool
  policyDigest : String
  reasons : List String
  deriving DecidableEq

def policyVersion : String := "factory-policy-v1"

def evaluate (crypto : Crypto) (spec : FactorySpec) : PolicyDecision :=
  let reasons :=
    (if spec.environment = "production" ∧ spec.internetEgress then
      ["production workloads require approved private egress"] else []) ++
    (if spec.dataClassification = "restricted" ∧ spec.internetEgress then
      ["restricted data cannot use internet egress"] else []) ++
    (if spec.requiresGpu ∧ 9999/10000 < spec.slo.availabilityTarget then
      ["GPU availability target requires a reviewed multi-zone capacity plan"] else [])
  ⟨reasons.isEmpty,"sha256:" ++ crypto.sha256 policyVersion.toUTF8.data.toList,reasons⟩

theorem policyDigest_nonempty (crypto : Crypto) (spec : FactorySpec) : (evaluate crypto spec).policyDigest ≠ "" := by
  intro empty
  have chars := congrArg String.toList empty
  simp [evaluate] at chars

end OpenModelOps.FactoryGovernance
