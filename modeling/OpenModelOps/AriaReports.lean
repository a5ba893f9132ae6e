import OpenModelOps.AriaScorecard
import OpenModelOps.JsonDumps
import OpenModelOps.JsonRecords
import OpenModelOps.Raising

namespace OpenModelOps.AriaReports
open JsonText PythonFloat PythonText AriaIntelligence AriaScorecard Raising RunHistory
variable {settings : Settings} {reread : Number → Number} {s : State}

-- What a report asks of a payload beyond the contract: severity goes into a
-- dict and a set, confidence into float().
structure Scorable (floats : Floats) (payload : List (Text × Json Number)) : Prop where
  severity : ∀ value, field payload (text "severity") = some value → hashable value = true
  confidence : (floats.float ((field payload (text "confidence")).getD (.num (.int 0)))).isSome

theorem scorable_iff {floats : Floats} {payload : List (Text × Json Number)} :
    Scorable floats payload ↔ (field payload (text "severity")).all hashable = true ∧
      (floats.float ((field payload (text "confidence")).getD (.num (.int 0)))).isSome := by
  constructor
  · intro scorable
    refine ⟨?_,scorable.confidence⟩
    cases found : field payload (text "severity") with
    | none => rfl
    | some value => exact scorable.severity value found
  · intro both
    refine ⟨?_,both.2⟩
    intro value found
    simpa [found] using both.1

instance (floats : Floats) (payload : List (Text × Json Number)) : Decidable (Scorable floats payload) :=
  decidable_of_iff _ scorable_iff.symm

def Addressed (payload : List (Text × Json Number)) : Prop :=
  (∃ tenant, field payload (text "tenant") = some (.str tenant)) ∧
    ∃ workloadId, field payload (text "workload_id") = some (.str workloadId)

def storedPayloads (s : State) : List (List (Text × Json Number)) := s.evidence.table.rows.filterMap payloadOf

def storedFor (s : State) (tenant workloadId : Text) : List (List (Text × Json Number)) :=
  (storedPayloads s).filter (concerns tenant workloadId)

-- Every report is given, and is the same in every other history that stored the
-- same payloads for its tenant and workload.
structure Served (settings : Settings) (floats : Floats) (s : State) : Prop where
  answered : ∀ tenant workloadId, ∃ card, scorecard floats s.evidence tenant workloadId = some card
  independent : ∀ events other, Runs (step settings) initial events other → ∀ tenant workloadId,
    storedFor other tenant workloadId = storedFor s tenant workloadId →
      scorecard floats other.evidence tenant workloadId = scorecard floats s.evidence tenant workloadId

def Readable (s : State) : Prop := ∀ row ∈ s.evidence.table.rows, ∃ payload, payloadOf row = some payload

theorem dumps_readable (reading : Reading settings.numberText reread)
    (kept : ∀ n, Short maxStrDigits n → Short maxStrDigits (reread n)) {payload : List (Text × Json Number)}
    (short : intsWithin maxStrDigits (.obj payload) = true) {row : EvidenceRow}
    (written : row.payload = dumps settings.numberText payload) : ∃ stored, payloadOf row = some stored := by
  obtain ⟨stored,loaded,numbers⟩ := loads_redumped reading payload
  have within : intsWithin maxStrDigits (.obj stored) = true :=
    (intsWithin_iff _ _).mpr (numbers kept ((intsWithin_iff _ _).mp short))
  refine ⟨stored,?_⟩
  rw [payloadOf,written,loadsText,loaded]
  simp only [within,if_true]

theorem step_readable (reading : Reading settings.numberText reread)
    (kept : ∀ n, Short maxStrDigits n → Short maxStrDigits (reread n)) {event : Event} {next : State}
    (readable : Readable s) (taken : step settings s event = some next) : Readable next := by
  cases event with
  | publish message =>
    cases Option.some.inj taken
    exact readable
  | request now receivedAt request =>
    cases Option.some.inj taken
    split
    · exact readable
    · rename_i evidence row done
      obtain ⟨payload,verified,rows,_,written⟩ := receive_parts done
      obtain ⟨_,_,loaded⟩ := verify_parts verified
      have here := dumps_readable reading kept (loadsBytes_within loaded).2 written
      intro stored member
      simp only [rows,List.mem_append,List.mem_singleton] at member
      rcases member with old | new
      · exact readable stored old
      · rw [new]
        exact here

theorem runs_readable (reading : Reading settings.numberText reread)
    (kept : ∀ n, Short maxStrDigits n → Short maxStrDigits (reread n)) {events : List Event}
    (path : Runs (step settings) initial events s) : Readable s := by
  apply path.invariant
  · exact fun readable taken => step_readable reading kept readable taken
  · intro row member
    cases member

theorem scorecard_stored (readable : Readable s) (floats : Floats) (tenant workloadId : Text) :
    scorecard floats s.evidence tenant workloadId =
      if (storedFor s tenant workloadId).any
          (fun item => (field item (text "severity")).any fun value => !hashable value) then none
      else ((storedFor s tenant workloadId).mapM fun item =>
        floats.float ((field item (text "confidence")).getD (.num (.int 0)))).map
          (card workloadId (storedFor s tenant workloadId)) := by
  have read : s.evidence.table.rows.mapM payloadOf = some (storedPayloads s) := mapM_filterMap readable
  rw [scorecard,read]
  rfl

theorem scorecard_answers (readable : Readable s) (floats : Floats) (tenant workloadId : Text) :
    (∃ card, scorecard floats s.evidence tenant workloadId = some card) ↔
      ∀ payload ∈ storedFor s tenant workloadId, Scorable floats payload := by
  rw [scorecard_stored readable]
  have hashed : (storedFor s tenant workloadId).any
      (fun item => (field item (text "severity")).any fun value => !hashable value) = false ↔
      ∀ payload ∈ storedFor s tenant workloadId, ∀ value,
        field payload (text "severity") = some value → hashable value = true := by
    rw [List.any_eq_false]
    refine forall₂_congr fun payload _ => ?_
    cases field payload (text "severity") <;> simp
  constructor
  · intro answered
    obtain ⟨made,done⟩ := answered
    split at done
    · cases done
    · rename_i plain
      obtain ⟨confidences,floated,_⟩ := Option.map_eq_some_iff.mp done
      have each := mapM_isSome.mp ⟨confidences,floated⟩
      have severities := hashed.mp (by simpa using plain)
      exact fun payload member => ⟨severities payload member,each payload member⟩
  · intro scorable
    have severities := hashed.mpr fun payload member => (scorable payload member).severity
    obtain ⟨confidences,floated⟩ := mapM_isSome.mpr fun payload member => (scorable payload member).confidence
    rw [severities,floated]
    exact ⟨_,rfl⟩

theorem addressed_iff {payload : List (Text × Json Number)} :
    Addressed payload ↔ ∃ tenant workloadId, concerns tenant workloadId payload = true := by
  have spelled : ∀ (value : Option (Json Number)) (t : Text), spells value t = true ↔ value = some (.str t) := by
    intro value t
    unfold spells
    split <;> simp_all
  simp only [Addressed,concerns,Bool.and_eq_true,spelled,exists_and_left,exists_and_right]

theorem reports_served_iff (settings : Settings) (floats : Floats) (reread : Number → Number)
    (reading : Reading settings.numberText reread)
    (kept : ∀ n, Short maxStrDigits n → Short maxStrDigits (reread n)) (events : List Event) (s : State)
    (path : Runs (step settings) initial events s) :
    Served settings floats s ↔ ∀ payload ∈ storedPayloads s, Addressed payload → Scorable floats payload := by
  have readable := runs_readable reading kept path
  constructor
  · intro served payload member addressed
    obtain ⟨tenant,workloadId,concerned⟩ := addressed_iff.mp addressed
    have all := (scorecard_answers readable floats tenant workloadId).mp (served.answered tenant workloadId)
    exact all payload (List.mem_filter.mpr ⟨member,concerned⟩)
  · intro scorable
    refine ⟨?_,?_⟩
    · intro tenant workloadId
      apply (scorecard_answers readable floats tenant workloadId).mpr
      intro payload member
      obtain ⟨inside,concerned⟩ := List.mem_filter.mp member
      exact scorable payload inside (addressed_iff.mpr ⟨tenant,workloadId,concerned⟩)
    · intro others other run tenant workloadId same
      rw [scorecard_stored readable,scorecard_stored (runs_readable reading kept run),same]

def exactFloats : Floats where
  ofInt n := some (.finite n)
  ofDecimal q := .finite q
  ofText _ := none

def alert (confidence : String) : Message where
  timestamp := "1767225600"
  nonce := "n-1"
  body := encode ("\x7b\"schema_version\":\"1.0\",\"signal_id\":\"signal-1\",\"source\":\"aria\",\"tenant\":\"acme\"," ++
    "\"workload_id\":\"fraud\",\"severity\":\"high\",\"confidence\":" ++ confidence ++ "\x7d")

-- The tags are the HMAC-SHA256 of the signed bytes of the two alerts.
def live : Settings where
  secret := "secret"
  hmac _ bytes :=
    if bytes = (alert "1").signedBytes then "85554020b9a089b493117e339d660b32d72ead367a3dc08ae4e5daf1bfc5f490"
    else "1943f081aa7c29850442d6520dfd73faae7a83332a4c8c51e0ffa4cf11a7f15c"
  numberText := Number.text
  bind := fun
    | .str t => some t
    | _ => none
  holds _ := true

def delivered (m : Message) : List Event :=
  [.request 1767225610 "2026-01-01T00:00:10+00:00" ⟨m,live.signature m⟩]

theorem confident_served : ∃ s, Runs (step live) initial (delivered (alert "1")) s ∧
    (storedPayloads s).length = 1 ∧ Served live exactFloats s := by
  have checked : (consume (step live) initial (delivered (alert "1"))).map (fun s =>
      decide ((storedPayloads s).length = 1 ∧ ∀ payload ∈ storedPayloads s, Scorable exactFloats payload)) = some true := by
    decide +kernel
  obtain ⟨s,consumed,checks⟩ := Option.map_eq_some_iff.mp checked
  obtain ⟨single,scorable⟩ := of_decide_eq_true checks
  have path := consume_exact.mp consumed
  refine ⟨s,path,single,?_⟩
  apply (reports_served_iff live exactFloats Number.reread number_reading (fun _ => reread_short) _ s path).mpr
  exact fun payload member _ => scorable payload member

theorem worded_confidence_breaks : ¬ ∀ (settings : Settings) (floats : Floats) (reread : Number → Number),
    Reading settings.numberText reread → (∀ n, Short maxStrDigits n → Short maxStrDigits (reread n)) →
    ∀ (events : List Event) (s : State), Runs (step settings) initial events s → Served settings floats s := by
  intro holds
  have checked : (consume (step live) initial (delivered (alert "\"high\""))).map (fun s =>
      (scorecard exactFloats s.evidence (text "acme") (text "fraud")).isSome) = some false := by decide +kernel
  obtain ⟨s,consumed,raises⟩ := Option.map_eq_some_iff.mp checked
  have served := holds live exactFloats Number.reread number_reading (fun _ => reread_short) _ s
    (consume_exact.mp consumed)
  obtain ⟨card,answered⟩ := served.answered (text "acme") (text "fraud")
  rw [answered] at raises
  cases raises

end OpenModelOps.AriaReports
