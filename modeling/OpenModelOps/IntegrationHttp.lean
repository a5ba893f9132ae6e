import OpenModelOps.AriaRefusal
import OpenModelOps.OrderedDict

namespace OpenModelOps.IntegrationHttp
open JsonText KeyedTable
open AriaRefusal (loadsWithin)

-- conversionError is what int() or str() raises, connectionError what leaves
-- urlopen or the read of the answer as it is, by its class.
inductive Raised where
  | integrationError (message : String)
  | connectionError (name : String)
  | load (fault : AriaRefusal.LoadError)
  | attributeError | keyError | conversionError
  | valueError (message : String)
  deriving DecidableEq

structure JsonResponse where
  status : Nat
  body : Json Number

-- What urlopen does with a request: an answer whose body can be read, one of the
-- exceptions that request expects, or another one, as RemoteDisconnected,
-- BadStatusLine and IncompleteRead are.
inductive Outcome where
  | success (status : Nat) (content : List UInt8)
  | httpError (code : Int)
  | urlError
  | timeout
  | broken (name : String)

structure HttpRequest where
  method : String
  url : String
  data : Option (List UInt8)
  headers : Dict String String

abbrev Transport := HttpRequest → Nat → Outcome

structure JsonHttpClient where
  maximumAttempts : Nat := 3
  bounded : 1 ≤ maximumAttempts ∧ maximumAttempts ≤ 5 := by decide

structure Exchange where
  sent : Nat
  pauses : List ℚ
  result : Except Raised JsonResponse

-- 0.05 * 2**attempt, with the double nearest to 0.05.
def pause (attempt : Nat) : ℚ := 3602879701896397 / 72057594037927936 * 2 ^ attempt

def parsed (depth : Nat) (status : Nat) (content : List UInt8) : Except Raised JsonResponse :=
  if content = [] then .ok ⟨status,.obj []⟩
  else match loadsWithin depth content with
    | .error fault => .error (.load fault)
    | .ok body => .ok ⟨status,body⟩

def Exchange.once (result : Except Raised JsonResponse) : Exchange := ⟨1,[],result⟩

def Exchange.after (attempt : Nat) (later : Exchange) : Exchange :=
  ⟨later.sent + 1,pause attempt :: later.pauses,later.result⟩

-- The loop, from an attempt on, with the attempts that remain.
def requestFrom (depth : Nat) (outcomes : Nat → Outcome) (attempt : Nat) : Nat → Exchange
  | 0 => ⟨0,[],.error (.integrationError "integration request failed")⟩
  | remaining + 1 => match outcomes attempt with
    | .success status content => .once (parsed depth status content)
    | .httpError code =>
      if code < 500 ∨ remaining = 0 then .once (.error (.integrationError ("integration returned HTTP " ++ toString code)))
      else .after attempt (requestFrom depth outcomes (attempt + 1) remaining)
    | .urlError | .timeout =>
      if remaining = 0 then .once (.error (.integrationError "integration is unavailable"))
      else .after attempt (requestFrom depth outcomes (attempt + 1) remaining)
    | .broken name => .once (.error (.connectionError name))

def requestHeaders (data : Option (List UInt8)) (headers : Dict String String) : Dict String String :=
  let merged := Dict.ofRows (("Accept","application/json") :: headers.rows)
  if data.isSome then merged.set "Content-Type" "application/json" else merged

def JsonHttpClient.attempts (client : JsonHttpClient) (idempotent : Bool) : Nat :=
  if idempotent then client.maximumAttempts else 1

def JsonHttpClient.request (client : JsonHttpClient) (depth : Nat) (transport : Transport) (method url : String)
    (data : Option (List UInt8)) (headers : Dict String String) (idempotent : Bool := true) : Exchange :=
  requestFrom depth (transport ⟨method,url,data,requestHeaders data headers⟩) 0 (client.attempts idempotent)

def Retried : Outcome → Prop
  | .success _ _ | .broken _ => False
  | .httpError code => 500 ≤ code
  | .urlError | .timeout => True

def conclude (depth : Nat) : Outcome → Except Raised JsonResponse
  | .success status content => parsed depth status content
  | .httpError code => .error (.integrationError ("integration returned HTTP " ++ toString code))
  | .urlError | .timeout => .error (.integrationError "integration is unavailable")
  | .broken name => .error (.connectionError name)

-- An exchange that starts with an attempt ends k attempts later: with the first
-- outcome that is not retried, or with the last attempt that is allowed.
structure Ends (depth : Nat) (outcomes : Nat → Outcome) (attempt remaining k : Nat) (exchange : Exchange) : Prop where
  within : k ≤ remaining
  sent : exchange.sent = k + 1
  retried : ∀ j < k, Retried (outcomes (attempt + j))
  final : Retried (outcomes (attempt + k)) → k = remaining
  paused : exchange.pauses = (List.range k).map fun j => pause (attempt + j)
  result : exchange.result = conclude depth (outcomes (attempt + k))

variable {depth : Nat} {outcomes : Nat → Outcome} {attempt remaining : Nat}

theorem requestFrom_retry (retried : Retried (outcomes attempt)) :
    requestFrom depth outcomes attempt (remaining + 2) =
      .after attempt (requestFrom depth outcomes (attempt + 1) (remaining + 1)) := by
  rw [requestFrom]
  cases outcome : outcomes attempt with
  | success status content =>
    rw [outcome] at retried
    exact retried.elim
  | httpError code =>
    rw [outcome] at retried
    have late : ¬ (code < 500 ∨ remaining + 1 = 0) := by simpa [Retried] using retried
    exact if_neg late
  | urlError => exact if_neg (by simp)
  | timeout => exact if_neg (by simp)
  | broken name =>
    rw [outcome] at retried
    exact retried.elim

theorem requestFrom_final (final : Retried (outcomes attempt) → remaining = 0) :
    requestFrom depth outcomes attempt (remaining + 1) = .once (conclude depth (outcomes attempt)) := by
  rw [requestFrom]
  cases outcome : outcomes attempt with
  | success status content => rfl
  | httpError code =>
    rw [outcome] at final
    refine if_pos ?_
    rcases lt_or_ge code 500 with refused | failing
    · exact .inl refused
    · exact .inr (final failing)
  | urlError =>
    rw [outcome] at final
    exact if_pos (final trivial)
  | timeout =>
    rw [outcome] at final
    exact if_pos (final trivial)
  | broken name => rfl

theorem requestFrom_ends (depth : Nat) (outcomes : Nat → Outcome) (attempt remaining : Nat) :
    ∃ k, Ends depth outcomes attempt remaining k (requestFrom depth outcomes attempt (remaining + 1)) := by
  induction remaining generalizing attempt with
  | zero =>
    rw [requestFrom_final fun _ => rfl]
    exact ⟨0,le_refl 0,rfl,nofun,fun _ => rfl,rfl,rfl⟩
  | succ remaining ih =>
    by_cases retried : Retried (outcomes attempt)
    · rw [requestFrom_retry retried]
      obtain ⟨k,within,sent,before,final,paused,result⟩ := ih (attempt + 1)
      have shift : ∀ j, attempt + 1 + j = attempt + (j + 1) := fun j => by omega
      simp only [shift] at before final paused result
      refine ⟨k + 1,by omega,congrArg (· + 1) sent,?_,fun again => congrArg (· + 1) (final again),?_,result⟩
      · intro j below
        cases j with
        | zero => exact retried
        | succ j => exact before j (by omega)
      · rw [Exchange.after,paused,List.range_succ_eq_map,List.map_cons,List.map_map]
        rfl
    · rw [requestFrom_final fun again => absurd again retried]
      exact ⟨0,Nat.zero_le _,rfl,nofun,fun again => absurd again retried,rfl,rfl⟩

def Ended (outcome : Except Raised JsonResponse) : Prop :=
  (∃ response, outcome = .ok response) ∨ ∃ message, outcome = .error (.integrationError message)

structure Disciplined (client : JsonHttpClient) (outcomes : Nat → Outcome) (idempotent : Bool) (exchange : Exchange) :
    Prop where
  once : idempotent = false → exchange.sent ≤ 1
  bounded : exchange.sent ≤ client.maximumAttempts
  stops : ∀ k, k + 1 < exchange.sent → Retried (outcomes k)
  ends : Ended exchange.result

def Expected (depth : Nat) : Outcome → Prop
  | .success _ content => content ≠ [] → ∃ body, loadsWithin depth content = .ok body
  | .broken _ => False
  | _ => True

def EndsExpected (depth : Nat) (outcomes : Nat → Outcome) (attempts : Nat) : Prop :=
  ∀ k < attempts, (∀ j < k, Retried (outcomes j)) → ¬ Retried (outcomes k) → Expected depth (outcomes k)

theorem retried_expected (retried : Retried outcome) : Expected depth outcome := by
  cases outcome with
  | success status content => exact retried.elim
  | broken name => exact retried.elim
  | _ => trivial

theorem conclude_ended (depth : Nat) (outcome : Outcome) : Ended (conclude depth outcome) ↔ Expected depth outcome := by
  cases outcome with
  | success status content =>
    simp only [conclude,parsed,Ended,Expected]
    by_cases empty : content = []
    · simp [empty]
    · rw [if_neg empty]
      cases loadsWithin depth content with
      | ok body => exact iff_of_true (.inl ⟨_,rfl⟩) fun _ => ⟨body,rfl⟩
      | error fault => simp [empty]
  | httpError code => exact iff_of_true (.inr ⟨_,rfl⟩) trivial
  | urlError => exact iff_of_true (.inr ⟨_,rfl⟩) trivial
  | timeout => exact iff_of_true (.inr ⟨_,rfl⟩) trivial
  | broken name =>
    refine iff_of_false ?_ id
    rintro (⟨_,same⟩ | ⟨_,same⟩) <;> cases same

section Requests
variable (client : JsonHttpClient) (depth : Nat) (transport : Transport) (method url : String) (data : Option (List UInt8))
  (headers : Dict String String) (idempotent : Bool)

theorem attempts_positive : client.attempts idempotent = client.attempts idempotent - 1 + 1 := by
  have least := client.bounded.1
  cases idempotent with
  | false => rfl
  | true =>
    simp only [JsonHttpClient.attempts,if_true]
    omega

theorem attempts_bounded : client.attempts idempotent ≤ client.maximumAttempts := by
  have least := client.bounded.1
  cases idempotent with
  | false => exact least
  | true => exact le_refl _

theorem request_ends : ∃ k, Ends depth (transport ⟨method,url,data,requestHeaders data headers⟩) 0
    (client.attempts idempotent - 1) k (client.request depth transport method url data headers idempotent) := by
  unfold JsonHttpClient.request
  rw [attempts_positive]
  exact requestFrom_ends depth _ 0 _

theorem request_answered {status : Nat} {content : List UInt8}
    (answered : transport ⟨method,url,data,requestHeaders data headers⟩ 0 = .success status content) :
    client.request depth transport method url data headers idempotent = .once (parsed depth status content) := by
  unfold JsonHttpClient.request
  rw [attempts_positive,requestFrom_final,answered,conclude]
  rw [answered]
  exact False.elim

theorem request_disciplined_iff :
    Disciplined client (transport ⟨method,url,data,requestHeaders data headers⟩) idempotent
        (client.request depth transport method url data headers idempotent) ↔
      EndsExpected depth (transport ⟨method,url,data,requestHeaders data headers⟩) (client.attempts idempotent) := by
  obtain ⟨k,ends⟩ := request_ends client depth transport method url data headers idempotent
  generalize client.request depth transport method url data headers idempotent = exchange at ends
  generalize transport ⟨method,url,data,requestHeaders data headers⟩ = outcomes at ends
  have attempts := attempts_positive client idempotent
  have within := ends.within
  have retried := ends.retried
  have final := ends.final
  have result := ends.result
  simp only [Nat.zero_add] at retried final result
  constructor
  · intro disciplined last below earlier unretried
    have here : last = k := by
      rcases lt_trichotomy last k with before | same | after
      · exact absurd (retried last before) unretried
      · exact same
      · have spent := final (earlier k after)
        omega
    have concluded := disciplined.ends
    rw [result] at concluded
    rw [here]
    exact (conclude_ended depth (outcomes k)).mp concluded
  · intro expected
    refine ⟨?_,?_,?_,?_⟩
    · intro once
      have single : client.attempts idempotent = 1 := by
        rw [once]
        rfl
      rw [ends.sent]
      omega
    · have bounded := attempts_bounded client idempotent
      rw [ends.sent]
      omega
    · intro j before
      rw [ends.sent] at before
      exact retried j (by omega)
    · rw [result,conclude_ended]
      by_cases again : Retried (outcomes k)
      · exact retried_expected again
      · exact expected k (by omega) retried again

end Requests

def page : Outcome := .success 200 "<html>".toUTF8.toList

theorem page_escapes : ¬ ∀ (client : JsonHttpClient) (depth : Nat) (transport : Transport) (method url : String)
    (data : Option (List UInt8)) (headers : Dict String String) (idempotent : Bool),
      Disciplined client (transport ⟨method,url,data,requestHeaders data headers⟩) idempotent
        (client.request depth transport method url data headers idempotent) := by
  intro all
  have ends := (all {} 1000 (fun _ _ => page) "GET" "https://registry.example/models" none Table.empty true).ends
  obtain ⟨body,loaded⟩ := (conclude_ended 1000 page).mp ends (by decide +kernel)
  have refused : (loadsWithin 1000 "<html>".toUTF8.toList).isOk = false := by decide +kernel
  rw [loaded] at refused
  cases refused

end OpenModelOps.IntegrationHttp
