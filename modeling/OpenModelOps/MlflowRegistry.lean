import OpenModelOps.IntegrationHttp
import OpenModelOps.Raising
import Mathlib.Data.List.DropRight
import Mathlib.Data.List.Sort

namespace OpenModelOps.MlflowRegistry
open IntegrationHttp JsonText KeyedTable

-- A setting of the registry: a tag of a model version, or an alias of a model.
inductive Target where
  | tag (name version key : String)
  | aliased (name label : String)
  deriving DecidableEq

inductive Operation where
  | setTag (name version key value : String)
  | setAlias (name version label : String)
  deriving DecidableEq

namespace Operation

def target : Operation → Target
  | .setTag name version key _ => .tag name version key
  | .setAlias name _ label => .aliased name label

def value : Operation → String
  | .setTag _ _ _ value => value
  | .setAlias _ version _ => version

def path : Operation → String
  | .setTag _ _ _ _ => "/api/2.0/mlflow/model-versions/set-tag"
  | .setAlias _ _ _ => "/api/2.0/mlflow/registered-models/alias"

def payload : Operation → Json Number
  | .setTag name version key value => .obj [(text "name",.str (text name)),(text "version",.str (text version)),
      (text "key",.str (text key)),(text "value",.str (text value))]
  | .setAlias name version label => .obj [(text "name",.str (text name)),(text "version",.str (text version)),
      (text "alias",.str (text label))]

-- json.dumps(payload, separators=(",", ":")).encode(), which is ASCII. No number
-- occurs in a payload.
def data (operation : Operation) : List UInt8 :=
  (write (fun _ => []) (text ",") (text ":") operation.payload).map UInt8.ofNat

end Operation

structure MLflowRegistryClient where
  baseUrl : String
  http : JsonHttpClient

def MLflowRegistryClient.make (baseUrl : String) (http : JsonHttpClient) : MLflowRegistryClient :=
  ⟨String.ofList (baseUrl.toList.rdropWhile fun c => c == '/'),http⟩

-- The requests of record_governance, in the order of their keys.
def governance (name version : String) (evidence : Dict String String) : List Operation :=
  (evidence.rows.insertionSort fun a b => textLe (text a.1) (text b.1) = true).map fun row =>
    .setTag name version ("openmodelops." ++ row.1) row.2

inductive Call where
  | recordGovernance (name version : String) (evidence : Dict String String)
  | promoteAlias (name version label : String)

def Call.operations : Call → List Operation
  | .recordGovernance name version evidence => governance name version evidence
  | .promoteAlias name version label => [.setAlias name version label]

structure Sending where
  operation : Operation
  outcome : Outcome

def send (client : MLflowRegistryClient) (depth : Nat) (outcomes : Nat → Outcome) (operation : Operation) : Exchange :=
  client.http.request depth (fun _ => outcomes) "POST" (client.baseUrl ++ operation.path) (some operation.data)
    Table.empty

def sendingsOf (operation : Operation) (outcomes : Nat → Outcome) (exchange : Exchange) : List Sending :=
  (List.range exchange.sent).map fun k => ⟨operation,outcomes k⟩

def sendAll (client : MLflowRegistryClient) (depth : Nat) (outcomes : Nat → Outcome) :
    List Operation → List Sending × Except Raised Unit
  | [] => ([],.ok ())
  | operation :: rest =>
    let exchange := send client depth outcomes operation
    match exchange.result with
    | .error raised => (sendingsOf operation outcomes exchange,.error raised)
    | .ok _ =>
      let later := sendAll client depth (fun k => outcomes (exchange.sent + k)) rest
      (sendingsOf operation outcomes exchange ++ later.1,later.2)

structure Made where
  client : MLflowRegistryClient
  depth : Nat
  outcomes : Nat → Outcome
  call : Call

def Made.sendings (made : Made) : List Sending :=
  (sendAll made.client made.depth made.outcomes made.call.operations).1

def Made.result (made : Made) : Except Raised Unit :=
  (sendAll made.client made.depth made.outcomes made.call.operations).2

-- What a registry may have carried out, in any order and any number of times:
-- nothing that was not sent, and whatever it has answered.
structure CarriedOut (sendings : List Sending) (applied : List Operation) : Prop where
  sent : ∀ operation ∈ applied, ∃ sending ∈ sendings, sending.operation = operation
  answered : ∀ sending ∈ sendings, ∀ status content, sending.outcome = .success status content →
    sending.operation ∈ applied

def Compatible (operations : List Operation) : Prop :=
  ∀ one ∈ operations, ∀ other ∈ operations, one.target = other.target → one.value = other.value

section Sending
variable {client : MLflowRegistryClient} {depth : Nat} {outcomes : Nat → Outcome} {operation : Operation}
  {operations : List Operation}

theorem send_answered {response : JsonResponse} (done : (send client depth outcomes operation).result = .ok response) :
    ∃ sending ∈ sendingsOf operation outcomes (send client depth outcomes operation),
      sending.operation = operation ∧ ∃ status content, sending.outcome = .success status content := by
  obtain ⟨k,ends⟩ := request_ends client.http depth (fun _ => outcomes) "POST" (client.baseUrl ++ operation.path)
    (some operation.data) Table.empty true
  have concluded : conclude depth (outcomes (0 + k)) = .ok response := ends.result.symm.trans done
  rw [Nat.zero_add] at concluded
  refine ⟨⟨operation,outcomes k⟩,List.mem_map.mpr ⟨k,?_,rfl⟩,rfl,?_⟩
  · rw [List.mem_range]
    exact Nat.lt_of_lt_of_eq (Nat.lt_succ_self k) ends.sent.symm
  · cases outcome : outcomes k with
    | success status content => exact ⟨status,content,rfl⟩
    | httpError code => rw [outcome] at concluded; cases concluded
    | urlError => rw [outcome] at concluded; cases concluded
    | timeout => rw [outcome] at concluded; cases concluded
    | broken name => rw [outcome] at concluded; cases concluded

theorem sendAll_sent (client : MLflowRegistryClient) (depth : Nat) (outcomes : Nat → Outcome)
    (operations : List Operation) : ∀ sending ∈ (sendAll client depth outcomes operations).1,
    sending.operation ∈ operations := by
  induction operations generalizing outcomes with
  | nil => exact nofun
  | cons operation rest ih =>
    have own : ∀ sending ∈ sendingsOf operation outcomes (send client depth outcomes operation),
        sending.operation ∈ operation :: rest := by
      intro sending member
      obtain ⟨k,_,rfl⟩ := List.mem_map.mp member
      exact List.mem_cons_self
    intro sending member
    unfold sendAll at member
    dsimp only at member
    split at member
    · exact own sending member
    · rcases List.mem_append.mp member with here | later
      · exact own sending here
      · exact List.mem_cons_of_mem _ (ih _ sending later)

theorem sendAll_answered (done : (sendAll client depth outcomes operations).2 = .ok ()) : ∀ operation ∈ operations,
    ∃ sending ∈ (sendAll client depth outcomes operations).1,
      sending.operation = operation ∧ ∃ status content, sending.outcome = .success status content := by
  induction operations generalizing outcomes with
  | nil => exact nofun
  | cons operation rest ih =>
    unfold sendAll at done ⊢
    dsimp only at done ⊢
    split at done
    · cases done
    · rename_i response answered
      intro other member
      rcases List.mem_cons.mp member with rfl | later
      · obtain ⟨sending,inside,parts⟩ := send_answered answered
        exact ⟨sending,List.mem_append_left _ inside,parts⟩
      · obtain ⟨sending,inside,parts⟩ := ih done other later
        exact ⟨sending,List.mem_append_right _ inside,parts⟩

end Sending

section Registry
variable {σ : Type} {serve : Operation → σ → σ} {read : σ → Target → Option String} {applied : List Operation}
  {registry : σ} {target : Target}

-- What the registry documents of the two endpoints: a setting is overwritten,
-- and the others stay.
def Overwrites (serve : Operation → σ → σ) (read : σ → Target → Option String) : Prop :=
  ∀ operation registry target, read (serve operation registry) target =
    if target = operation.target then some operation.value else read registry target

def carry (serve : Operation → σ → σ) (registry : σ) (applied : List Operation) : σ :=
  applied.foldl (fun registry operation => serve operation registry) registry

theorem carry_untouched (overwrites : Overwrites serve read) (other : ∀ operation ∈ applied, operation.target ≠ target) :
    read (carry serve registry applied) target = read registry target := by
  induction applied generalizing registry with
  | nil => rfl
  | cons operation rest ih =>
    obtain ⟨here,later⟩ := List.forall_mem_cons.mp other
    exact (ih later).trans ((overwrites operation registry target).trans (if_neg here.symm))

theorem carry_agreed (overwrites : Overwrites serve read) {value : String}
    (agreed : ∀ operation ∈ applied, operation.target = target → operation.value = value)
    (some_ : ∃ operation ∈ applied, operation.target = target) :
    read (carry serve registry applied) target = some value := by
  induction applied generalizing registry with
  | nil =>
    obtain ⟨_,member,_⟩ := some_
    cases member
  | cons operation rest ih =>
    obtain ⟨here,later⟩ := List.forall_mem_cons.mp agreed
    by_cases again : ∃ other ∈ rest, other.target = target
    · exact ih later again
    · have last : ∀ other ∈ rest, other.target ≠ target := fun other member same => again ⟨other,member,same⟩
      have own : operation.target = target := by
        obtain ⟨first,member,same⟩ := some_
        rcases List.mem_cons.mp member with rfl | inside
        · exact same
        · exact absurd same (last first inside)
      refine (carry_untouched overwrites last).trans ?_
      rw [overwrites,if_pos own.symm,here own]

end Registry

section Synchronizing
variable {history : List Made} {applied : List Operation}

def wanted (history : List Made) : List Operation := history.flatMap fun made => made.call.operations

def sendings (history : List Made) : List Sending := history.flatMap Made.sendings

theorem carried_wanted (carried : CarriedOut (sendings history) applied) : ∀ operation ∈ applied,
    operation ∈ wanted history := by
  intro operation member
  obtain ⟨sending,sent,rfl⟩ := carried.sent operation member
  obtain ⟨made,inside,own⟩ := List.mem_flatMap.mp sent
  exact List.mem_flatMap.mpr ⟨made,inside,sendAll_sent made.client made.depth made.outcomes made.call.operations sending own⟩

theorem returned_carried (carried : CarriedOut (sendings history) applied) {made : Made} (member : made ∈ history)
    (returned : made.result = .ok ()) : ∀ operation ∈ made.call.operations, operation ∈ applied := by
  intro operation inside
  obtain ⟨sending,sent,rfl,status,content,answered⟩ := sendAll_answered returned operation inside
  exact carried.answered sending (List.mem_flatMap.mpr ⟨made,member,sent⟩) status content answered

-- Requests may be lost, repeated, reordered and carried out long after the client
-- has given up on them, and calls may be repeated until they return.
theorem registry_synchronized {σ : Type} {serve : Operation → σ → σ} {read : σ → Target → Option String}
    (overwrites : Overwrites serve read) (compatible : Compatible (wanted history))
    (carried : CarriedOut (sendings history) applied) (registry : σ) :
    (∀ made ∈ history, made.result = .ok () → ∀ operation ∈ made.call.operations,
      read (carry serve registry applied) operation.target = some operation.value) ∧
    ∀ target, read (carry serve registry applied) target = read registry target ∨
      ∃ operation ∈ wanted history, operation.target = target ∧
        read (carry serve registry applied) target = some operation.value := by
  have known := carried_wanted carried
  have settled : ∀ operation ∈ applied,
      read (carry serve registry applied) operation.target = some operation.value := fun operation member =>
    carry_agreed overwrites (fun other inside same => compatible other (known other inside) operation
      (known operation member) same) ⟨operation,member,rfl⟩
  constructor
  · intro made member returned operation inside
    exact settled operation (returned_carried carried member returned operation inside)
  · intro target
    by_cases touched : ∃ operation ∈ applied, operation.target = target
    · obtain ⟨operation,member,rfl⟩ := touched
      exact .inr ⟨operation,known operation member,rfl,settled operation member⟩
    · exact .inl (carry_untouched overwrites fun operation member same => touched ⟨operation,member,same⟩)

theorem governance_mem {name version : String} {evidence : Dict String String} {operation : Operation} :
    operation ∈ governance name version evidence ↔
      ∃ row ∈ evidence.rows, .setTag name version ("openmodelops." ++ row.1) row.2 = operation := by
  rw [governance,List.mem_map]
  simp only [List.mem_insertionSort]

theorem call_compatible (call : Call) : Compatible call.operations := by
  cases call with
  | recordGovernance name version evidence =>
    intro one first other second same
    obtain ⟨left,inside,rfl⟩ := governance_mem.mp first
    obtain ⟨right,member,rfl⟩ := governance_mem.mp second
    have keys : left.1 = right.1 := by
      injection same with _ _ keys
      exact String.append_right_inj "openmodelops." |>.mp keys
    exact congrArg Prod.snd (List.inj_on_of_nodup_map evidence.unique inside member keys)
  | promoteAlias name version label =>
    intro one first other second _
    cases List.mem_singleton.mp first
    cases List.mem_singleton.mp second
    rfl

theorem repeated_compatible {call : Call} (repeated : ∀ made ∈ history, made.call = call) :
    Compatible (wanted history) := by
  have own : ∀ operation ∈ wanted history, operation ∈ call.operations := by
    intro operation member
    obtain ⟨made,inside,here⟩ := List.mem_flatMap.mp member
    rwa [repeated made inside] at here
  exact fun one first other second => call_compatible call one (own one first) other (own other second)

end Synchronizing

def release : Call := .recordGovernance "fraud" "3" (Dict.ofRows [("gate","passed"),("approver","alice")])

theorem three_attempts : 1 ≤ 3 ∧ 3 ≤ 5 := by decide

def registryClient : MLflowRegistryClient := .make "http://mlflow:5000/" ⟨3,three_attempts⟩

-- No answer to the first call comes through, and the second call needs two
-- attempts for its first tag.
def retriedRelease : List Made :=
  [⟨registryClient,1000,fun _ => .timeout,release⟩,
    ⟨registryClient,1000,fun k => if k = 0 then .timeout else .success 200 [],release⟩]

def lateRelease : List Operation :=
  [.setTag "fraud" "3" "openmodelops.approver" "alice",.setTag "fraud" "3" "openmodelops.gate" "passed",
    .setTag "fraud" "3" "openmodelops.approver" "alice"]

def settings (operation : Operation) (registry : Target → Option String) : Target → Option String :=
  Function.update registry operation.target (some operation.value)

theorem settings_overwrites : Overwrites settings fun registry target => registry target := by
  intro operation registry target
  exact Function.update_apply registry operation.target (some operation.value) target

theorem late_release_synchronized :
    carry settings (fun _ => none) lateRelease (.tag "fraud" "3" "openmodelops.approver") = some "alice" ∧
      carry settings (fun _ => none) lateRelease (.tag "fraud" "3" "openmodelops.gate") = some "passed" := by
  have operations : release.operations = [.setTag "fraud" "3" "openmodelops.approver" "alice",
      .setTag "fraud" "3" "openmodelops.gate" "passed"] := by decide +kernel
  have second : Made.mk registryClient 1000 (fun k => if k = 0 then .timeout else .success 200 []) release ∈
      retriedRelease := List.mem_cons_of_mem _ List.mem_cons_self
  have returned : (Made.mk registryClient 1000 (fun k => if k = 0 then .timeout else .success 200 []) release).result =
      .ok () := Raising.toOption_ok.mp (by decide +kernel)
  have same : ∀ made ∈ retriedRelease, made.call = release := by simp [retriedRelease]
  have carried : CarriedOut (sendings retriedRelease) lateRelease := by
    constructor
    · intro operation member
      have asked : operation ∈ release.operations := by
        rw [operations]
        simp only [lateRelease,List.mem_cons,List.not_mem_nil,or_false] at member ⊢
        tauto
      obtain ⟨sending,inside,own,_⟩ := sendAll_answered returned operation asked
      exact ⟨sending,List.mem_flatMap.mpr ⟨_,second,inside⟩,own⟩
    · intro sending member status content _
      obtain ⟨made,inside,own⟩ := List.mem_flatMap.mp member
      have asked := sendAll_sent made.client made.depth made.outcomes made.call.operations sending own
      rw [same made inside,operations] at asked
      exact List.mem_append_left [Operation.setTag "fraud" "3" "openmodelops.approver" "alice"] asked
  obtain ⟨set,_⟩ := registry_synchronized settings_overwrites (repeated_compatible same) carried fun _ => none
  have each := set _ second returned
  rw [show (Made.mk registryClient 1000 _ release).call.operations = _ from operations] at each
  exact ⟨each _ List.mem_cons_self,each _ (List.mem_cons_of_mem _ List.mem_cons_self)⟩

end OpenModelOps.MlflowRegistry
