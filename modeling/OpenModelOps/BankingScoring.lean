import OpenModelOps.OrderedDict
import OpenModelOps.RunHistory
import Mathlib.Algebra.Order.Ring.Rat
import Mathlib.Data.List.Induction

namespace OpenModelOps.BankingScoring
open KeyedTable RunHistory

inductive Channel where
  | cardPresent | ecommerce | transfer | billPayment
  deriving DecidableEq

structure Transaction where
  eventId : String
  amountCad : ℚ
  channel : Channel
  deviceTrusted : Bool := true
  international : Bool := false
  transactionsLast10m : Nat := 1
  failedAuthLast24h : Nat := 0
  named : (decide (8 ≤ eventId.length) && decide (eventId.length ≤ 128)) = true
  bounded : (decide (0 < amountCad) && decide (amountCad ≤ 1000000) && decide (transactionsLast10m ≤ 1000) &&
    decide (failedAuthLast24h ≤ 1000)) = true
  deriving DecidableEq

inductive Decision where
  | approve | review | decline
  deriving DecidableEq

structure ScoredTransaction where
  score : ℚ
  reasons : List String
  deriving DecidableEq

-- One `if` of score: whether it applies, what it adds and the reason it gives.
-- The weights are the doubles nearest to 0.28, 0.18, 0.24, 0.25, 0.25 and 0.04.
structure Rule where
  applies : Bool
  weight : ℚ
  reason : Option String

def rules (t : Transaction) : List Rule :=
  [⟨decide (5000 ≤ t.amountCad),1261007895663739 / 4503599627370496,some "HIGH_AMOUNT"⟩,
   ⟨t.international,3242591731706757 / 18014398509481984,some "INTERNATIONAL"⟩,
   ⟨!t.deviceTrusted,1080863910568919 / 4503599627370496,some "UNTRUSTED_DEVICE"⟩,
   ⟨decide (8 ≤ t.transactionsLast10m),1 / 4,some "HIGH_VELOCITY"⟩,
   ⟨decide (3 ≤ t.failedAuthLast24h),1 / 4,some "AUTH_FAILURES"⟩,
   ⟨decide (t.channel = .ecommerce),5764607523034235 / 144115188075855872,none⟩]

-- The float addition is a parameter; the sum starts at the double nearest to
-- 0.02.
def score (add : ℚ → ℚ → ℚ) (t : Transaction) : ScoredTransaction :=
  let value := (rules t).foldl (fun value rule => if rule.applies then add value rule.weight else value)
    (5764607523034235 / 288230376151711744)
  let reasons := (rules t).filterMap fun rule => if rule.applies then rule.reason else none
  ⟨min value 1,if reasons.isEmpty then ["BASELINE_ACTIVITY"] else reasons⟩

-- The doubles nearest to 0.70 and 0.35.
def decisionFor (value : ℚ) : Decision :=
  if 3152519739159347 / 4503599627370496 ≤ value then .decline
  else if 3152519739159347 / 9007199254740992 ≤ value then .review
  else .approve

structure ScoreResponse where
  eventId : String
  decision : Decision
  riskScore : ℚ
  reasonCodes : List String
  modelVersion : String
  duplicate : Bool := false
  deriving DecidableEq

def modelVersion : String := "rules-v1"

structure Settings where
  add : ℚ → ℚ → ℚ
  maxIdempotencyKeys : Int := 100000

-- none is the ValidationError of a risk_score outside its bounds.
def responseFor (settings : Settings) (t : Transaction) : Option ScoreResponse :=
  let result := score settings.add t
  if 0 ≤ result.score ∧ result.score ≤ 1 then
    some ⟨t.eventId,decisionFor result.score,result.score,result.reasons,modelVersion,false⟩
  else none

abbrev Seen := Dict String ScoreResponse

-- if len(_seen) > MAX_IDEMPOTENCY_KEYS: _seen.popitem(last=False).
def popOldest (limit : Int) (seen : Seen) : Seen :=
  if limit < seen.rows.length then ⟨seen.rows.tail,seen.unique.sublist ((List.tail_sublist _).map Prod.fst)⟩ else seen

def scoreTransaction (settings : Settings) (seen : Seen) (t : Transaction) : Seen × Option ScoreResponse :=
  match Dict.get seen t.eventId with
  | some previous => (Dict.moveToEnd seen t.eventId,some {previous with duplicate := true})
  | none => match responseFor settings t with
    | none => (seen,none)
    | some response => (popOldest settings.maxIdempotencyKeys (Dict.set seen t.eventId response),some response)

structure Entry where
  transaction : Transaction
  response : Option ScoreResponse
  deriving DecidableEq

structure State where
  seen : Seen
  log : List Entry

def initial : State := ⟨Table.empty,[]⟩

def serve (settings : Settings) (s : State) (t : Transaction) : State :=
  let (seen,response) := scoreTransaction settings s.seen t
  ⟨seen,s.log ++ [⟨t,response⟩]⟩

def served (settings : Settings) (requests : List Transaction) : State := requests.foldl (serve settings) initial

structure Describes (settings : Settings) (t : Transaction) (response : ScoreResponse) : Prop where
  score : response.riskScore = (score settings.add t).score
  decision : response.decision = decisionFor (BankingScoring.score settings.add t).score
  reasons : response.reasonCodes = (BankingScoring.score settings.add t).reasons

def Entry.fresh (entry : Entry) : Bool := entry.response.any fun response => !response.duplicate

def lastFresh (log : List Entry) (eventId : String) : Option Entry :=
  log.reverse.find? fun entry => decide (entry.transaction.eventId = eventId) && entry.fresh

-- Every answer speaks of its own transaction, or it is marked as a duplicate and
-- speaks of the last transaction with its id that was scored.
def Answered (settings : Settings) (earlier : List Entry) (entry : Entry) : Prop :=
  ∀ response, entry.response = some response → response.eventId = entry.transaction.eventId ∧
    ((response.duplicate = false ∧ Describes settings entry.transaction response) ∨
      response.duplicate = true ∧ ∃ first, lastFresh earlier entry.transaction.eventId = some first ∧
        first.response = some {response with duplicate := false} ∧ Describes settings first.transaction response)

structure Sound (settings : Settings) (s : State) : Prop where
  kept : ∀ row ∈ s.seen.rows, ∃ first, lastFresh s.log row.1 = some first ∧ first.response = some row.2
  answered : EachAfter (Answered settings) s.log

theorem lastFresh_snoc (log : List Entry) (entry : Entry) (eventId : String) :
    lastFresh (log ++ [entry]) eventId =
      if entry.transaction.eventId = eventId ∧ entry.fresh = true then some entry else lastFresh log eventId := by
  rw [lastFresh,List.reverse_append,List.reverse_singleton,List.singleton_append,List.find?_cons]
  by_cases hit : entry.transaction.eventId = eventId ∧ entry.fresh = true
  · simp [hit]
  · rw [if_neg hit]
    simp only [not_and,Bool.not_eq_true] at hit
    by_cases same : entry.transaction.eventId = eventId
    · simp [same,hit same,lastFresh]
    · simp [same,lastFresh]

theorem lastFresh_parts (found : lastFresh log eventId = some first) :
    first ∈ log ∧ first.transaction.eventId = eventId ∧ first.fresh = true := by
  have member := List.mem_of_find?_eq_some found
  have hit := List.find?_some found
  simp only [Bool.and_eq_true,decide_eq_true_eq] at hit
  exact ⟨List.mem_reverse.mp member,hit.1,hit.2⟩

theorem fresh_response {entry : Entry} (fresh : entry.fresh = true) (given : entry.response = some response) :
    response.duplicate = false := by
  simpa [Entry.fresh,given] using fresh

theorem responseFor_describes (made : responseFor settings t = some response) :
    response.eventId = t.eventId ∧ response.duplicate = false ∧ Describes settings t response := by
  unfold responseFor at made
  dsimp only at made
  split at made
  · cases Option.some.inj made
    exact ⟨rfl,rfl,rfl,rfl,rfl⟩
  · cases made

theorem popOldest_mem (member : row ∈ (popOldest limit seen).rows) : row ∈ seen.rows := by
  unfold popOldest at member
  split at member
  · exact List.mem_of_mem_tail member
  · exact member

theorem scoreTransaction_cases (settings : Settings) (seen : Seen) (t : Transaction) :
    (∃ previous, (t.eventId,previous) ∈ seen.rows ∧
      scoreTransaction settings seen t = (Dict.moveToEnd seen t.eventId,some {previous with duplicate := true})) ∨
    scoreTransaction settings seen t = (seen,none) ∨
    ∃ response, responseFor settings t = some response ∧ scoreTransaction settings seen t =
      (popOldest settings.maxIdempotencyKeys (Dict.set seen t.eventId response),some response) := by
  unfold scoreTransaction
  cases found : Dict.get seen t.eventId with
  | some previous => exact .inl ⟨previous,Dict.get_row.mp found,rfl⟩
  | none =>
    cases made : responseFor settings t with
    | none => exact .inr (.inl rfl)
    | some response => exact .inr (.inr ⟨response,rfl,rfl⟩)

theorem Sound.described (sound : Sound settings s) (found : lastFresh s.log eventId = some first)
    (given : first.response = some response) :
    response.eventId = eventId ∧ response.duplicate = false ∧ Describes settings first.transaction response := by
  obtain ⟨member,named,fresh⟩ := lastFresh_parts found
  obtain ⟨earlier,later,split⟩ := List.append_of_mem member
  have single := fresh_response fresh given
  obtain ⟨sameId,own | ⟨again,_⟩⟩ := sound.answered earlier first later split response given
  · exact ⟨sameId.trans named,own⟩
  · rw [single] at again
    cases again

theorem Sound.stale (sound : Sound settings s) {entry : Entry} (stale : entry.fresh = false)
    (within : ∀ row ∈ seen.rows, row ∈ s.seen.rows) (answered : Answered settings s.log entry) :
    Sound settings ⟨seen,s.log ++ [entry]⟩ := by
  refine ⟨?_,eachAfter_snoc.mpr ⟨sound.answered,answered⟩⟩
  intro row member
  obtain ⟨first,found,given⟩ := sound.kept row (within row member)
  refine ⟨first,?_,given⟩
  rw [lastFresh_snoc,if_neg (by simp [stale])]
  exact found

theorem Sound.repeated (sound : Sound settings s) (stored : (t.eventId,previous) ∈ s.seen.rows) :
    Sound settings ⟨Dict.moveToEnd s.seen t.eventId,s.log ++ [⟨t,some {previous with duplicate := true}⟩]⟩ := by
  obtain ⟨first,found,given⟩ := sound.kept _ stored
  obtain ⟨named,single,describes⟩ := sound.described found given
  apply sound.stale rfl (fun _ => Dict.moveToEnd_mem.mp)
  intro response answer
  cases Option.some.inj answer
  refine ⟨named,.inr ⟨rfl,first,found,?_,describes.score,describes.decision,describes.reasons⟩⟩
  rw [given,← single]

theorem Sound.scored (sound : Sound settings s) (made : responseFor settings t = some response) (limit : Int) :
    Sound settings ⟨popOldest limit (Dict.set s.seen t.eventId response),s.log ++ [⟨t,some response⟩]⟩ := by
  obtain ⟨named,single,describes⟩ := responseFor_describes made
  have fresh : Entry.fresh ⟨t,some response⟩ = true := by simp [Entry.fresh,single]
  refine ⟨?_,eachAfter_snoc.mpr ⟨sound.answered,?_⟩⟩
  · intro row member
    rw [lastFresh_snoc]
    by_cases here : t.eventId = row.1
    · have stored : row.2 = response := by
        have value := Dict.get_row.mpr (popOldest_mem member)
        rw [← here,Dict.get_set_self] at value
        exact (Option.some.inj value).symm
      exact ⟨_,if_pos ⟨here,fresh⟩,by rw [stored]⟩
    · rw [if_neg fun both => here both.1]
      cases Dict.set_mem (popOldest_mem member) with
      | inl new => exact absurd (by rw [new]) here
      | inr old => exact sound.kept row old
  · intro other answer
    cases Option.some.inj answer
    exact ⟨named,.inl ⟨single,describes⟩⟩

theorem serve_sound (sound : Sound settings s) (t : Transaction) : Sound settings (serve settings s t) := by
  unfold serve
  obtain ⟨previous,stored,same⟩ | same | ⟨response,made,same⟩ := scoreTransaction_cases settings s.seen t
  · rw [same]
    exact sound.repeated stored
  · rw [same]
    exact sound.stale rfl (fun _ member => member) nofun
  · rw [same]
    exact sound.scored made settings.maxIdempotencyKeys

theorem served_sound (settings : Settings) (requests : List Transaction) : Sound settings (served settings requests) := by
  induction requests using List.reverseRecOn with
  | nil => exact ⟨nofun,eachAfter_nil⟩
  | append_singleton requests t ih =>
    rw [served,List.foldl_append]
    exact serve_sound ih t

theorem served_transactions (settings : Settings) (requests : List Transaction) :
    (served settings requests).log.map Entry.transaction = requests := by
  induction requests using List.reverseRecOn with
  | nil => rfl
  | append_singleton requests t ih =>
    rw [served,List.foldl_append]
    have logged : (serve settings (served settings requests) t).log.map Entry.transaction =
        (served settings requests).log.map Entry.transaction ++ [t] := by simp [serve]
    exact logged.trans (by rw [ih])

def Consistent (settings : Settings) (requests : List Transaction) : Prop :=
  ∀ t ∈ requests, ∀ u ∈ requests, t.eventId = u.eventId → score settings.add t = score settings.add u

theorem answers_by_event (settings : Settings) (requests : List Transaction) :
    EachAfter (Answered settings) (served settings requests).log ∧
    (Consistent settings requests → ∀ entry ∈ (served settings requests).log, ∀ response,
      entry.response = some response → Describes settings entry.transaction response) := by
  have sound := served_sound settings requests
  have asked : ∀ entry ∈ (served settings requests).log, entry.transaction ∈ requests := by
    intro entry member
    have listed := List.mem_map_of_mem (f := Entry.transaction) member
    rwa [served_transactions] at listed
  refine ⟨sound.answered,?_⟩
  intro consistent entry member response given
  obtain ⟨earlier,later,split⟩ := List.append_of_mem member
  obtain ⟨_,⟨_,own⟩ | ⟨_,first,found,_,describes⟩⟩ := sound.answered earlier entry later split response given
  · exact own
  · obtain ⟨before,named,_⟩ := lastFresh_parts found
    have among : first ∈ (served settings requests).log := by
      rw [split]
      exact List.mem_append_left _ before
    have same := consistent _ (asked first among) _ (asked entry member) named
    exact ⟨by rw [describes.score,same],by rw [describes.decision,same],by rw [describes.reasons,same]⟩

def small : Transaction := ⟨"event-000001",341 / 4,.cardPresent,true,false,2,0,by decide +kernel,by decide +kernel⟩

-- The same id with another content.
def large : Transaction := ⟨"event-000001",12500,.ecommerce,false,true,14,5,by decide +kernel,by decide +kernel⟩

def exactSum : Settings := {add := (· + ·)}

def approved : ScoreResponse :=
  ⟨"event-000001",.approve,5764607523034235 / 288230376151711744,["BASELINE_ACTIVITY"],"rules-v1",false⟩

theorem reused_id_misdescribes : ¬ ∀ (settings : Settings) (requests : List Transaction),
    ∀ entry ∈ (served settings requests).log, ∀ response, entry.response = some response →
      Describes settings entry.transaction response := by
  intro holds
  have logged : (served exactSum [small,large]).log = [⟨small,some approved⟩,⟨large,some {approved with duplicate := true}⟩] := by
    decide +kernel
  have describes := holds exactSum [small,large] ⟨large,some {approved with duplicate := true}⟩ (by simp [logged]) _ rfl
  have declined : decisionFor (score exactSum.add large).score = .decline := by decide +kernel
  have decision := describes.decision
  rw [declined] at decision
  cases decision

end OpenModelOps.BankingScoring
