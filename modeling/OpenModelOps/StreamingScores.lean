import OpenModelOps.JsonDecimal
import OpenModelOps.Raising
import OpenModelOps.StreamingEvidence

namespace OpenModelOps.StreamingScores
open JsonText PythonFloat PythonNumber PythonChoice PythonText AriaIntelligence AriaScorecard StreamingReliability
open StreamingEvidence
open Raising (related_left related_right isOk_iff)
variable {δ : Type} {runtime : Runtime δ} {settings : Settings}

structure Stores (row : EvidenceRow) (d : Delivery δ) : Prop where
  signal : row.signalId = text d.assessment.incidentId
  nonce : row.nonce = d.request.message.nonce
  payload : ∃ fields, payloadOf row = some fields ∧ Carries d fields

theorem stored_payload (service : Service runtime settings) {d : Delivery δ} (parsed : Parsed runtime d fields)
    {row : EvidenceRow} (written : row.payload = dumps settings.numberText fields) :
    (∃ stored, payloadOf row = some stored ∧ Carries d stored) ∧ ∀ c ∈ row.payload, Scalar c := by
  obtain ⟨reread,reading,floats⟩ := service.stored
  obtain ⟨stored,loaded,read,each⟩ := loads_dumps reading parsed.whole
  have short : intsWithin maxStrDigits (.obj stored) = true :=
    (intsWithin_iff _ _).mpr (each (fun n float => (floats n float).short _) parsed.floats)
  refine ⟨⟨stored,?_,carries_stored parsed.carries floats read⟩,?_⟩
  · rw [payloadOf,written,loadsText,loaded]
    simp only [short,if_true]
  · intro c member
    rw [written] at member
    have printable := dumps_printable reading fields c member
    exact .inl (Nat.lt_of_le_of_lt printable.2 (by decide))

theorem insert_fresh {evidence : Evidence} {row : EvidenceRow}
    (signal : row.signalId ∉ evidence.table.rows.map EvidenceRow.signalId)
    (nonce : row.nonce ∉ evidence.table.rows.map EvidenceRow.nonce) :
    ∃ next, evidence.insert row = some next ∧ next.table.rows = evidence.table.rows ++ [row] := by
  unfold Evidence.insert
  rw [dif_pos ⟨signal,nonce⟩]
  exact ⟨_,rfl,rfl⟩

theorem record_delivered (service : Service runtime settings) {d : Delivery δ} (parsed : Parsed runtime d fields)
    {evidence : Evidence} (signal : text d.assessment.incidentId ∉ evidence.table.rows.map EvidenceRow.signalId)
    (nonce : d.request.message.nonce ∉ evidence.table.rows.map EvidenceRow.nonce) (receivedAt : String) :
    ∃ next row, record settings evidence fields d.request.message.nonce receivedAt = .ok (next,row) ∧
      next.table.rows = evidence.table.rows ++ [row] ∧ Stores row d := by
  let row : EvidenceRow :=
    ⟨text d.assessment.incidentId,d.request.message.nonce,receivedAt,dumps settings.numberText fields⟩
  obtain ⟨payload,scalars⟩ := @stored_payload _ _ _ _ service d parsed row rfl
  obtain ⟨next,inserted,rows⟩ := @insert_fresh evidence row signal nonce
  have keeps : settings.holds row = true := service.kept row (text_scalar _) scalars
  have bound : (field fields (text "signal_id")).bind settings.bind = some (text d.assessment.incidentId) := by
    rw [parsed.carries.signal]
    exact service.bound _ (text_scalar _)
  refine ⟨next,row,?_,rows,rfl,rfl,payload⟩
  unfold record
  simp only [bound]
  rw [if_neg (by simpa [row] using keeps)]
  simp only [row] at inserted
  rw [inserted]

theorem receive_delivered (service : Service runtime settings) {d : Delivery δ} (delivered : Delivered runtime settings d)
    {evidence : Evidence} (signal : text d.assessment.incidentId ∉ evidence.table.rows.map EvidenceRow.signalId)
    (nonce : d.request.message.nonce ∉ evidence.table.rows.map EvidenceRow.nonce) :
    ∃ next row, receive settings d.now d.receivedAt evidence d.request = .ok (next,row) ∧
      next.table.rows = evidence.table.rows ++ [row] ∧ Stores row d := by
  obtain ⟨fields,loaded,parsed⟩ := encodes_parsed service delivered.encoded
  have verified := verify_delivered service delivered loaded parsed.carries
  obtain ⟨next,row,recorded,rows,stores⟩ := record_delivered service parsed signal nonce d.receivedAt
  refine ⟨next,row,?_,rows,stores⟩
  unfold receive
  rw [verified]
  exact recorded

def deliver (settings : Settings) : Evidence → List (Delivery δ) → Except Failure Evidence
  | evidence,[] => .ok evidence
  | evidence,d :: rest => match receive settings d.now d.receivedAt evidence d.request with
    | .error failure => .error failure
    | .ok (next,_) => deliver settings next rest

theorem stores_signals {rows : List EvidenceRow} {done : List (Delivery δ)} (stores : List.Forall₂ Stores rows done) :
    rows.map EvidenceRow.signalId = done.map (fun d => text d.assessment.incidentId) ∧
      rows.map EvidenceRow.nonce = done.map fun d => d.request.message.nonce := by
  induction stores with
  | nil => exact ⟨rfl,rfl⟩
  | cons first _ ih => exact ⟨by simp [first.signal,ih.1],by simp [first.nonce,ih.2]⟩

theorem fresh_of_nodup {κ : Type} {f : Delivery δ → κ} (unique : ((done ++ d :: rest).map f).Nodup) :
    f d ∉ done.map f := by
  rw [List.map_append,List.map_cons] at unique
  exact fun member => List.disjoint_of_nodup_append unique member List.mem_cons_self

theorem deliver_stored (service : Service runtime settings) {done rest : List (Delivery δ)} {evidence : Evidence}
    (stores : List.Forall₂ Stores evidence.table.rows done) (delivered : ∀ d ∈ rest, Delivered runtime settings d)
    (signals : ((done ++ rest).map fun d => d.assessment.incidentId).Nodup)
    (nonces : ((done ++ rest).map fun d => d.request.message.nonce).Nodup) :
    ∃ final, deliver settings evidence rest = .ok final ∧ List.Forall₂ Stores final.table.rows (done ++ rest) := by
  induction rest generalizing done evidence with
  | nil => exact ⟨evidence,rfl,by rwa [List.append_nil]⟩
  | cons d rest ih =>
    obtain ⟨signalIds,nonceIds⟩ := stores_signals stores
    have signal : text d.assessment.incidentId ∉ evidence.table.rows.map EvidenceRow.signalId := by
      have texts := signals.map text_injective
      rw [List.map_map] at texts
      rw [signalIds]
      exact @fresh_of_nodup _ _ _ _ _ (text ∘ fun d => d.assessment.incidentId) texts
    have nonce : d.request.message.nonce ∉ evidence.table.rows.map EvidenceRow.nonce := by
      rw [nonceIds]
      exact @fresh_of_nodup _ _ _ _ _ (fun d => d.request.message.nonce) nonces
    obtain ⟨next,row,received,rows,stored⟩ := receive_delivered service (delivered d List.mem_cons_self) signal nonce
    have more : List.Forall₂ Stores next.table.rows (done ++ [d]) := by
      rw [rows]
      exact List.rel_append stores (.cons stored .nil)
    have split : done ++ d :: rest = done ++ [d] ++ rest := by simp
    rw [split] at signals nonces ⊢
    obtain ⟨final,delivers,all⟩ := ih more (fun e member => delivered e (List.mem_cons_of_mem _ member)) signals nonces
    refine ⟨final,?_,all⟩
    rw [deliver,received]
    exact delivers

def mine (tenant workloadId : Text) (deliveries : List (Delivery δ)) : List (Delivery δ) :=
  deliveries.filter fun d => decide (d.tenant.val = tenant) && decide (d.assessment.workloadId.val = workloadId)

def severities (tenant workloadId : Text) (deliveries : List (Delivery δ)) : List Severity :=
  (mine tenant workloadId deliveries).map fun d => d.assessment.severity

def Severity.severe (severity : Severity) : Bool := decide (severity = .critical) || decide (severity = .high)

structure Reports (card : Scorecard) (severities : List Severity) : Prop where
  signals : card.signals = severities.length
  highest : severities = [] ∧ card.highestSeverity = .null ∨ ∃ severity ∈ severities,
    (∀ other ∈ severities, other.rank ≤ severity.rank) ∧ card.highestSeverity = .str (text severity.value)
  criticalOrHigh : card.criticalOrHigh = severities.countP Severity.severe
  impact : card.releaseGateImpact = if 0 < severities.countP Severity.severe then "fail-candidate" else "none"

theorem rank_injective {a b : Severity} (same : a.rank = b.rank) : a = b := by
  cases a <;> cases b <;> first | rfl | cases same

-- The consumer has no rank for info, and takes 0.
theorem carries_rank {d : Delivery δ} (carries : Carries d fields) : rankOf fields = d.assessment.severity.rank := by
  rw [rankOf,carries.severity]
  cases d.assessment.severity <;> rfl

theorem carries_severe {d : Delivery δ} (carries : Carries d fields) :
    severe fields = Severity.severe d.assessment.severity := by
  rw [severe,carries.severity]
  cases d.assessment.severity <;> rfl

theorem carries_concerns {d : Delivery δ} (carries : Carries d fields) (tenant workloadId : Text) :
    concerns tenant workloadId fields =
      (decide (d.tenant.val = tenant) && decide (d.assessment.workloadId.val = workloadId)) := by
  rw [concerns,carries.tenant,carries.workload]
  rfl

theorem payloads_read {rows : List EvidenceRow} {deliveries : List (Delivery δ)}
    (stores : List.Forall₂ Stores rows deliveries) :
    ∃ payloads, rows.mapM payloadOf = some payloads ∧
      List.Forall₂ (fun fields (d : Delivery δ) => Carries d fields) payloads deliveries := by
  induction stores with
  | nil => exact ⟨[],rfl,.nil⟩
  | cons first _ ih =>
    obtain ⟨payloads,read,carry⟩ := ih
    obtain ⟨fields,here,carries⟩ := first.payload
    exact ⟨fields :: payloads,by simp [List.mapM_cons,here,read],.cons carries carry⟩

theorem confidences_read (floats : Floats) {payloads : List (List (Text × Json Number))} {deliveries : List (Delivery δ)}
    (carry : List.Forall₂ (fun fields (d : Delivery δ) => Carries d fields) payloads deliveries) :
    ∃ confidences, payloads.mapM (fun item => floats.float ((field item (text "confidence")).getD (.num (.int 0)))) =
      some confidences := by
  induction carry with
  | nil => exact ⟨[],rfl⟩
  | cons first _ ih =>
    obtain ⟨confidences,read⟩ := ih
    obtain ⟨n,float,found⟩ := first.confidence
    have converted : ∃ x, floats.float (.num n) = some x := by
      cases n with
      | int k => exact absurd rfl (float k)
      | _ => exact ⟨_,rfl⟩
    obtain ⟨x,here⟩ := converted
    exact ⟨x :: confidences,by simp [List.mapM_cons,found,here,read]⟩

theorem severe_rank (severity : Severity) : Severity.severe severity = true ↔ 3 ≤ severity.rank := by
  cases severity <;> simp [Severity.severe,Severity.rank]

theorem severe_counted {payloads : List (List (Text × Json Number))} {deliveries : List (Delivery δ)}
    (carry : List.Forall₂ (fun fields (d : Delivery δ) => Carries d fields) payloads deliveries) :
    payloads.countP severe = (deliveries.map fun d => d.assessment.severity).countP Severity.severe := by
  induction carry with
  | nil => rfl
  | cons first _ ih => rw [List.map_cons,List.countP_cons,List.countP_cons,ih,carries_severe first]

theorem card_reports {payloads : List (List (Text × Json Number))} {deliveries : List (Delivery δ)}
    (carry : List.Forall₂ (fun fields (d : Delivery δ) => Carries d fields) payloads deliveries) (workloadId : Text)
    (confidences : List PyFloat) :
    Reports (card workloadId payloads confidences) (deliveries.map fun d => d.assessment.severity) := by
  have counted := severe_counted carry
  cases chosen : maxBy rankOf payloads with
  | none =>
    have empty := maxBy_none.mp chosen
    subst empty
    cases carry
    exact ⟨rfl,.inl ⟨rfl,rfl⟩,rfl,rfl⟩
  | some best =>
    obtain ⟨inside,greatest⟩ := maxBy_greatest chosen
    obtain ⟨d,member,carries⟩ := related_left carry inside
    have above : ∀ other ∈ deliveries.map (fun d => d.assessment.severity), other.rank ≤ d.assessment.severity.rank := by
      intro other found
      obtain ⟨e,present,rfl⟩ := List.mem_map.mp found
      obtain ⟨fields,stored,also⟩ := related_right carry present
      have ordered := greatest fields stored
      rwa [carries_rank also,carries_rank carries] at ordered
    refine ⟨by simp [card,carry.length_eq],.inr ⟨_,List.mem_map_of_mem member,above,?_⟩,counted,?_⟩
    · simp [card,chosen,carries.severity]
    · simp only [card,chosen,Option.any_some,carries_severe carries,List.countP_pos_iff]
      refine if_congr ⟨fun here => ⟨_,List.mem_map_of_mem member,here⟩,?_⟩ rfl rfl
      rintro ⟨other,found,there⟩
      exact (severe_rank _).mpr (Nat.le_trans ((severe_rank _).mp there) (above other found))

theorem scorecard_reports (floats : Floats) {evidence : Evidence} {deliveries : List (Delivery δ)}
    (stores : List.Forall₂ Stores evidence.table.rows deliveries) (tenant workloadId : Text) :
    ∃ card, scorecard floats evidence tenant workloadId = some card ∧
      Reports card (severities tenant workloadId deliveries) := by
  obtain ⟨payloads,read,carry⟩ := payloads_read stores
  have matching : List.Forall₂ (fun fields (d : Delivery δ) => Carries d fields)
      (payloads.filter (concerns tenant workloadId)) (mine tenant workloadId deliveries) := by
    refine List.rel_filter (fun fields d carries => ?_) carry
    simp only [carries_concerns carries]
  obtain ⟨confidences,converted⟩ := confidences_read floats matching
  have keys : (payloads.filter (concerns tenant workloadId)).any (fun item =>
      (field item (text "severity")).any fun value => !hashable value) = false := by
    refine List.any_eq_false.mpr fun item member => ?_
    obtain ⟨d,_,carries⟩ := related_left matching member
    simp [carries.severity,hashable]
  refine ⟨card workloadId (payloads.filter (concerns tenant workloadId)) confidences,?_,
    card_reports matching workloadId confidences⟩
  simp only [scorecard,read,Option.bind_some,keys,converted]
  rfl

theorem Reports.agree {card other : Scorecard} {xs ys : List Severity} (left : Reports card xs) (right : Reports other ys)
    (same : xs.Perm ys) : card.signals = other.signals ∧ card.highestSeverity = other.highestSeverity ∧
      card.criticalOrHigh = other.criticalOrHigh ∧ card.releaseGateImpact = other.releaseGateImpact := by
  have counts := same.countP_eq Severity.severe
  refine ⟨by rw [left.signals,right.signals,same.length_eq],?_,by rw [left.criticalOrHigh,right.criticalOrHigh,counts],
    by rw [left.impact,right.impact,counts]⟩
  rcases left.highest with ⟨rfl,none⟩ | ⟨a,inside,above,highest⟩
  · rcases right.highest with ⟨_,noneToo⟩ | ⟨b,present,_⟩
    · rw [none,noneToo]
    · exact absurd (same.mem_iff.mpr present) (List.not_mem_nil)
  · rcases right.highest with ⟨rfl,_⟩ | ⟨b,present,aboveToo,highestToo⟩
    · exact absurd (same.mem_iff.mp inside) (List.not_mem_nil)
    · have equal := rank_injective (Nat.le_antisymm (aboveToo a (same.mem_iff.mp inside)) (above b (same.mem_iff.mpr present)))
      rw [highest,highestToo,equal]

theorem no_rows : List.Forall₂ (@Stores δ) Evidence.empty.table.rows [] := .nil

structure Deliveries (runtime : Runtime δ) (settings : Settings) (deliveries : List (Delivery δ)) : Prop where
  delivered : ∀ d ∈ deliveries, Delivered runtime settings d
  incidents : (deliveries.map fun d => d.assessment.incidentId).Nodup
  nonces : (deliveries.map fun d => d.request.message.nonce).Nodup

-- Every signal is accepted, and the scorecard of a tenant and a workload says
-- what their assessments say, whatever came before, between and for others.
theorem signals_accepted_scored (service : Service runtime settings) (floats : Floats) {deliveries : List (Delivery δ)}
    (all : Deliveries runtime settings deliveries) :
    ∃ evidence, deliver settings .empty deliveries = .ok evidence ∧
      (∀ d ∈ deliveries, ∃ fields, verify settings d.now d.request.message d.request.signature = .ok fields ∧
        Carries d fields) ∧
      ∀ tenant workloadId, ∃ card, scorecard floats evidence tenant workloadId = some card ∧
        Reports card (severities tenant workloadId deliveries) ∧
        ∀ others final, Deliveries runtime settings others → deliver settings .empty others = .ok final →
          (mine tenant workloadId others).Perm (mine tenant workloadId deliveries) →
          ∃ again, scorecard floats final tenant workloadId = some again ∧ again.signals = card.signals ∧
            again.highestSeverity = card.highestSeverity ∧ again.criticalOrHigh = card.criticalOrHigh ∧
            again.releaseGateImpact = card.releaseGateImpact := by
  obtain ⟨evidence,delivers,stores⟩ := deliver_stored service no_rows all.delivered all.incidents all.nonces
  refine ⟨evidence,delivers,fun d member => ?_,fun tenant workloadId => ?_⟩
  · have delivered := all.delivered d member
    obtain ⟨fields,loaded,parsed⟩ := encodes_parsed service delivered.encoded
    exact ⟨fields,verify_delivered service delivered loaded parsed.carries,parsed.carries⟩
  · obtain ⟨card,scored,reports⟩ := scorecard_reports floats stores tenant workloadId
    refine ⟨card,scored,reports,fun others final also delivered same => ?_⟩
    obtain ⟨last,deliversToo,storesToo⟩ :=
      deliver_stored service no_rows also.delivered also.incidents also.nonces
    rw [delivered] at deliversToo
    cases Except.ok.inj deliversToo
    obtain ⟨again,scoredToo,reportsToo⟩ := scorecard_reports floats storesToo tenant workloadId
    exact ⟨again,scoredToo,reportsToo.agree reports (same.map _)⟩

def spelling : PyFloat → Decimal := fun x =>
  if x = .finite 0 then decimal 0 0 [] else if x = .finite 1 then decimal 1 0 []
  else if x = assumed then decimal 0 8 [] else if x = defaultTarget then decimal 0 9 [9,9] else decimal 0 0 [0,1]

def respelling : Number → Decimal := fun n =>
  if n = .real 1 then decimal 1 0 [] else if n = .real (4/5) then decimal 0 8 []
  else if n = .real (999/1000) then decimal 0 9 [9,9] else decimal 0 0 [0,1]

-- The digests are those of the evidence of the two snapshots below.
def live : Runtime String where
  sha256 bytes := if bytes.length = 484 then "c4eadac30361f163529d6330d0a6e18f262696b0aa92a729836c3f9506c87cd5"
    else "bf526a326fae5a36c3c628a19e6d97197d93a59a25d2d82ed081defc0eec7064"
  number := fun
    | .int n => intText n
    | .float x => (spelling x).text
  isoformat t := t ++ "+00:00"
  dumpTime t := t ++ "Z"
  dumpFloat := .num
  sub := fun
    | .finite a,.finite b => .finite (a - b)
    | _,_ => .nan
  mul _ _ := .nan
  div _ _ := .nan
  ratio _ _ := none
  round _ _ := .finite (1152921504606847 / 1152921504606846976)

-- The tags are the HMAC-SHA256 of the two messages below.
def ingress : Settings where
  secret := "secret"
  hmac _ bytes := if bytes.length = 540 then "8cff3f5dfa6239c6fcd4668c9d709c850f63aaa1032dc0b44e97885c6126bcc0"
    else "9043c5f731f07ce9314321fddcb6400e5dc64effb5d8bc39b9741fb3ceadb7d2"
  numberText n := (respelling n).text
  bind := fun
    | .str t => some t
    | _ => none
  holds _ := true

def calm : StreamingSnapshot String where
  workloadId := str "payments"
  observedAt := "2026-01-01T00:00:00"
  producedTotal := 100
  consumedTotal := 100
  consumerLag := 0
  duplicateRate := .float (.finite 0)
  dlqRate := .float (.finite 0)
  diskUsedPercent := .float (.finite 0)
  p99LatencyMs := .float (.finite 0)

def outage : StreamingSnapshot String := {calm with offlinePartitions := 12}

def assessed (snapshot : StreamingSnapshot String) : StreamingAssessment String :=
  match diagnose live snapshot with
  | .ok produced => produced
  | .error _ => assessment live snapshot [] (insufficient live defaultTarget (.finite 0))

def signed (assessment : StreamingAssessment String) (nonce : String) (body : List UInt8) : Delivery String :=
  let m : Message := ⟨"1767225600",nonce,body⟩
  ⟨assessment,str "acme",1767225610,"2026-01-01T00:00:10+00:00",⟨m,ingress.signature m⟩⟩

def first : Delivery String := signed (assessed calm) "n-1" (asciiBytes
  (write (fun x => live.number (.float x)) (text ", ") (text ": ") (.obj ((assessed calm).ariaEvidence live (str "acme")))))

def second : Delivery String := signed (assessed outage) "n-2" (asciiBytes
  (write (fun x => live.number (.float x)) [0x2c] [0x3a] (sortKeys (.obj ((assessed outage).ariaEvidence live (str "acme"))))))

theorem live_service : Service live ingress where
  secret := by decide
  hexadecimal key bytes := by
    simp only [ingress]
    split <;> decide
  written := ⟨_,decimal_reading spelling,fun x k => by rintro ⟨⟩⟩
  stored := ⟨_,decimal_reading respelling,fun n _ k => by rintro ⟨⟩⟩
  bound _ _ := rfl
  kept _ _ _ := rfl

theorem assessed_diagnosed {snapshot : StreamingSnapshot String} (produces : (diagnose live snapshot).isOk = true) :
    diagnose live snapshot = .ok (assessed snapshot) := by
  obtain ⟨produced,diagnosed⟩ := isOk_iff.mp produces
  rw [assessed,diagnosed]

theorem signed_delivered {snapshot : StreamingSnapshot String} (produces : (diagnose live snapshot).isOk = true)
    (encoded : Encodes live ((assessed snapshot).ariaEvidence live (str "acme")) body) (named : nonce ≠ "") :
    Delivered live ingress (signed (assessed snapshot) nonce body) := by
  have fresh : parseInt "1767225600" = some 1767225600 := by decide +kernel
  exact ⟨⟨snapshot,_,assessed_diagnosed produces⟩,encoded,rfl,named,_,fresh,by simp [signed,ingress]⟩

theorem signals_accepted_scored_outage : ∃ evidence, deliver ingress .empty [first,second] = .ok evidence ∧
    ∃ card, scorecard ⟨fun n => some (.finite n),fun q => if q = 4/5 then assumed else .finite q,fun _ => none⟩ evidence
      (text "acme") (text "payments") = some card ∧ card.signals = 2 ∧ card.highestSeverity = .str (text "critical") ∧
      card.criticalOrHigh = 1 ∧ card.releaseGateImpact = "fail-candidate" := by
  have calmed : (diagnose live calm).isOk = true := by decide +kernel
  have alarmed : (diagnose live outage).isOk = true := by decide +kernel
  have deliveries : Deliveries live ingress [first,second] := by
    refine ⟨?_,by decide +kernel,by decide +kernel⟩
    simp only [List.forall_mem_cons]
    have one : Delivered live ingress first := signed_delivered calmed (.plain spaced) (by decide)
    have other : Delivered live ingress second := signed_delivered alarmed (.sorted unspaced) (by decide)
    exact ⟨one,other,by simp⟩
  obtain ⟨evidence,delivers,_,scores⟩ := signals_accepted_scored live_service
    ⟨fun n => some (.finite n),fun q => if q = 4/5 then assumed else .finite q,fun _ => none⟩ deliveries
  obtain ⟨card,scored,reports,_⟩ := scores (text "acme") (text "payments")
  have both : severities (text "acme") (text "payments") [first,second] = [.info,.critical] := by decide +kernel
  rw [both] at reports
  refine ⟨evidence,delivers,card,scored,reports.signals,?_,reports.criticalOrHigh,reports.impact⟩
  rcases reports.highest with ⟨none,_⟩ | ⟨severity,member,above,highest⟩
  · cases none
  · have rank := above .critical (by simp)
    simp only [List.mem_cons,List.not_mem_nil,or_false] at member
    rcases member with rfl | rfl
    · cases rank
    · exact highest

end OpenModelOps.StreamingScores
