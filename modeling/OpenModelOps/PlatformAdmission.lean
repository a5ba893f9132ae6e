import OpenModelOps.PlatformSpec
import Mathlib.Algebra.Order.Ring.Cast
import Mathlib.Tactic.NormNum
import Mathlib.Tactic.Linarith

namespace OpenModelOps.PlatformAdmission
open JsonText PlatformSpec

inductive Operation where
  | create | update | delete | connect
  deriving DecidableEq

-- The raw object is given as what its bytes denote. A null leaves it empty, as
-- an absent object does.
structure AdmissionRequest where
  uid : String
  operation : Operation
  object : Option (Json Numeral)

-- The bytes up to the end of the first JSON value, and the AdmissionReview that
-- they decode to: with or without its request, or none.
structure Body where
  size : Nat
  review : Option (Option AdmissionRequest)

structure Status where
  reason : String
  message : String
  code : Nat

structure AdmissionResponse where
  uid : String
  allowed : Bool
  result : Option Status

inductive Answer where
  | failed (message : String) (code : Nat)
  | reviewed (response : AdmissionResponse)

-- strconv.ParseFloat refuses what would round to an infinity.
def parseFloat (written : Numeral) : Bool := decide (|written.value| < 2^1024 - 2^970)

mutual
def finite : Json Numeral → Bool
  | .num written => parseFloat written
  | .arr items => finiteItems items
  | .obj fields => finiteFields fields
  | _ => true
def finiteItems : List (Json Numeral) → Bool
  | [] => true
  | item :: rest => finite item && finiteItems rest
def finiteFields : List (Text × Json Numeral) → Bool
  | [] => true
  | (_,value) :: rest => finite value && finiteFields rest
end

mutual
def nesting : Json ν → Nat
  | .arr items => nestingItems items + 1
  | .obj fields => nestingFields fields + 1
  | _ => 0
def nestingItems : List (Json ν) → Nat
  | [] => 0
  | item :: rest => max (nesting item) (nestingItems rest)
def nestingFields : List (Text × Json ν) → Nat
  | [] => 0
  | (_,value) :: rest => max (nesting value) (nestingFields rest)
end

-- Both decoders have this limit.
def maxNestingDepth : Nat := 10000

-- json.Unmarshal into a map.
def unmarshal (round : ℚ → ℚ) : Option (Json Numeral) → Option (Object GoNumber)
  | some (.obj fields) =>
    if finiteFields fields then some (convertFields (encodingJson round) fields) else none
  | _ => none

def review (round : ℚ → ℚ) (request : AdmissionRequest) : AdmissionResponse :=
  let refused := fun status => AdmissionResponse.mk request.uid false (some status)
  if request.operation = .create ∨ request.operation = .update then
    match unmarshal round request.object with
    | none => refused ⟨"","object is not valid JSON",0⟩
    | some object => match parse object with
      | .error message => refused ⟨"",message,0⟩
      | .ok spec => if validate spec = [] then ⟨request.uid,true,none⟩
          else refused ⟨"Invalid",String.intercalate "; " (validate spec),422⟩
  else ⟨request.uid,true,none⟩

def maxBytes : Nat := 2^20

-- json.Decoder over http.MaxBytesReader. The object is two levels down in the
-- review.
def decode (body : Body) : Option (Option AdmissionRequest) :=
  if maxBytes < body.size then none
  else match body.review with
    | some (some request) =>
      if (request.object.map nesting).getD 0 + 2 ≤ maxNestingDepth then some (some request) else none
    | other => other

def serveHTTP (round : ℚ → ℚ) (body : Body) : Answer :=
  match decode body with
  | none => .failed "invalid admission review" 400
  | some none => .failed "missing admission request" 400
  | some (some request) => .reviewed (review round request)

def Allowed (answer : Answer) : Prop := ∃ response, answer = .reviewed response ∧ response.allowed = true

-- The part of Reconcile before any child is touched.
inductive Policy where
  | unread
  | invalid (message : String)
  | rejected (message : String)
  | accepted (spec : WorkloadSpec)

def reconcilePolicy (object : Object GoNumber) : Policy :=
  match parse object with
  | .error message => .invalid message
  | .ok spec => if validate spec = [] then .accepted spec
      else .rejected ("[" ++ String.intercalate " " (validate spec) ++ "]")

-- Whether the client can decode the object, in an answer that has some levels
-- around it: none in the answer to a get, two in a list.
def Readable (around : Nat) (object : Object Numeral) : Prop :=
  finiteFields object = true ∧ nesting (.obj object) + around ≤ maxNestingDepth

instance (around : Nat) (object : Object Numeral) : Decidable (Readable around object) :=
  inferInstanceAs (Decidable (_ ∧ _))

-- The object as it is read back from the API server.
def reconcileObject (round : ℚ → ℚ) (around : Nat) (object : Object Numeral) : Policy :=
  if Readable around object then reconcilePolicy (convertFields (controllerRuntime round) object) else .unread

def Accepted (policy : Policy) : Prop := ∃ spec, policy = .accepted spec

def Exceeds (object : Object Numeral) (name : String) (bound : ℚ) : Prop :=
  ∃ written, nestedField object [text "spec",text name] = some (.num written) ∧
    (written.value < 1 ∨ bound < written.value)

def OutOfRange (object : Object Numeral) : Prop := Exceeds object "replicas" 100 ∨ Exceeds object "port" 65535

def Arrives (size : Nat) (object : Object Numeral) : Prop :=
  size ≤ maxBytes ∧ nesting (.obj object) + 2 ≤ maxNestingDepth

def Truncated (object : Object Numeral) (name : String) (bound : Int) : Prop :=
  ∃ n : Int, nestedField object [text "spec",text name] = some (.num (.integer n)) ∧
    (-2^63 ≤ n ∧ n < 2^63) ∧ (int32 n < 1 ∨ bound < int32 n)

def Refused (object : Object Numeral) : Prop := Truncated object "replicas" 100 ∨ Truncated object "port" 65535

def reviewOf (size : Nat) (uid : String) (operation : Operation) (object : Object Numeral) : Body :=
  ⟨size,some (some ⟨uid,operation,some (.obj object)⟩)⟩

theorem decode_review (size : Nat) (uid : String) (operation : Operation) (object : Object Numeral) :
    (Arrives size object → decode (reviewOf size uid operation object) =
      some (some ⟨uid,operation,some (.obj object)⟩)) ∧
    (¬ Arrives size object → decode (reviewOf size uid operation object) = none) := by
  unfold decode reviewOf Arrives
  dsimp only [Option.map_some,Option.getD_some]
  constructor
  · rintro ⟨short,shallow⟩
    rw [if_neg (Nat.not_lt.mpr short),if_pos shallow]
  · intro lost
    split
    · rfl
    · rename_i short
      exact if_neg fun shallow => lost ⟨Nat.not_lt.mp short,shallow⟩

theorem allowed_iff (round : ℚ → ℚ) (size : Nat) (uid : String) (object : Object Numeral)
    (changes : operation = .create ∨ operation = .update) :
    Allowed (serveHTTP round (reviewOf size uid operation object)) ↔
      Arrives size object ∧ finiteFields object = true ∧
        ∃ spec, parse (convertFields (encodingJson round) object) = .ok spec ∧ validate spec = [] := by
  by_cases arrives : Arrives size object
  · rw [serveHTTP,(decode_review size uid operation object).1 arrives]
    simp only [arrives,true_and,Allowed,review,if_pos changes,unmarshal,Answer.reviewed.injEq,exists_eq_left']
    cases finiteFields object with
    | false => simp
    | true =>
      simp only [if_true,true_and]
      cases parse (convertFields (encodingJson round) object) with
      | error message => simp
      | ok spec => by_cases clean : validate spec = [] <;> simp [clean]
  · rw [serveHTTP,(decode_review size uid operation object).2 arrives]
    constructor
    · rintro ⟨response,answered,_⟩
      cases answered
    · intro allowed
      exact absurd allowed.1 arrives

theorem policy_iff (object : Object GoNumber) :
    Accepted (reconcilePolicy object) ↔ ∃ spec, parse object = .ok spec ∧ validate spec = [] := by
  unfold Accepted reconcilePolicy
  cases parse object with
  | error message => simp
  | ok spec => by_cases clean : validate spec = [] <;> simp [clean]

-- No number of the webhook's object is an int64, so its defaults stand.
theorem webhook_defaults (round : ℚ → ℚ) (object : Object Numeral) (path : List String) :
    nestedInt64 (convertFields (encodingJson round) object) path = none := by
  rw [nestedInt64,nestedField_convert]
  cases nestedField object (path.map text) with
  | none => rfl
  | some value => cases value <;> rfl

theorem webhook_ranged (round : ℚ → ℚ) (object : Object Numeral) :
    Ranged (convertFields (encodingJson round) object) := by
  simp only [Ranged,webhook_defaults,Option.getD_none]
  decide

theorem int32_small (low : 0 ≤ n) (high : n < 2^31) : int32 n = n := by
  have width : ((2^32 : Nat) : Int) = 4294967296 := by norm_num
  unfold int32 Int.bmod
  rw [width]
  dsimp only
  split <;> omega

theorem operator_bounds (round : ℚ → ℚ) (object : Object Numeral) (name : String) (default bound : Int)
    (small : bound < 2^31) (usual : 1 ≤ default ∧ default ≤ bound) :
    (1 ≤ int32 ((nestedInt64 (convertFields (controllerRuntime round) object) ["spec",name]).getD default) ∧
      int32 ((nestedInt64 (convertFields (controllerRuntime round) object) ["spec",name]).getD default) ≤ bound) ↔
    ¬ Truncated object name bound := by
  have settled : 1 ≤ int32 default ∧ int32 default ≤ bound := by
    rw [int32_small (by omega) (by omega)]
    exact usual
  have other : (∀ n : Int, nestedField object (["spec",name].map text) ≠ some (.num (.integer n))) →
      ¬ Truncated object name bound := by
    rintro never ⟨n,found,_⟩
    exact never n found
  rw [nestedInt64,nestedField_convert]
  cases found : nestedField object (["spec",name].map text) with
  | none => exact iff_of_true settled (other fun n written => nomatch found.symm.trans written)
  | some value =>
    cases value with
    | num written =>
      cases written with
      | integer n =>
        have read : Truncated object name bound ↔
            (-2^63 ≤ n ∧ n < 2^63) ∧ (int32 n < 1 ∨ bound < int32 n) := by
          constructor
          · rintro ⟨m,written,fits,exceeds⟩
            cases Json.num.inj (Option.some.inj (found.symm.trans written))
            exact ⟨fits,exceeds⟩
          · intro exceeds
            exact ⟨n,found,exceeds⟩
        rw [read]
        by_cases fits : -2^63 ≤ n ∧ n < 2^63
        · simp only [Option.map_some,convert,controllerRuntime,if_pos fits,Option.bind_some,asInt64,Option.getD_some]
          omega
        · simp only [Option.map_some,convert,controllerRuntime,if_neg fits,Option.bind_some,asInt64,Option.getD_none]
          exact iff_of_true settled fun exceeds => fits exceeds.1
      | decimal q => exact iff_of_true settled (other fun n written => nomatch found.symm.trans written)
    | _ => exact iff_of_true settled (other fun n written => nomatch found.symm.trans written)

theorem operator_ranged (round : ℚ → ℚ) (object : Object Numeral) :
    Ranged (convertFields (controllerRuntime round) object) ↔ ¬ Refused object := by
  rw [Ranged,Refused,not_or]
  exact and_congr (operator_bounds round object "replicas" 1 100 (by norm_num) (by norm_num))
    (operator_bounds round object "port" 8000 65535 (by norm_num) (by norm_num))

theorem truncated_exceeds (small : bound < 2^31) (truncated : Truncated object name bound) :
    Exceeds object name bound := by
  obtain ⟨n,found,_,exceeds⟩ := truncated
  refine ⟨.integer n,found,?_⟩
  by_contra within
  simp only [Numeral.value,not_or,not_lt] at within
  have low : 1 ≤ n := by exact_mod_cast within.1
  have high : n ≤ bound := by exact_mod_cast within.2
  rw [int32_small (by omega) (by omega)] at exceeds
  omega

theorem refused_out_of_range (refused : Refused object) : OutOfRange object := by
  rcases refused with replicas | port
  · exact .inl (by exact_mod_cast truncated_exceeds (by norm_num) replicas)
  · exact .inr (by exact_mod_cast truncated_exceeds (by norm_num) port)

-- Webhook and operator agree, with no number out of range admitted, exactly on
-- the objects that fail a check without numbers or that cannot be decoded, on
-- the reviews that arrive with their numbers in range, and on those that do not
-- arrive when the operator refuses the object as well.
theorem admission_agrees_iff (round : ℚ → ℚ) (around size : Nat) (uid : String) (operation : Operation)
    (changes : operation = .create ∨ operation = .update) (object : Object Numeral) :
    ((Allowed (serveHTTP round (reviewOf size uid operation object)) ↔
        Accepted (reconcileObject round around object)) ∧
      (OutOfRange object → ¬ Allowed (serveHTTP round (reviewOf size uid operation object)))) ↔
    ¬ Governed object ∨ finiteFields object = false ∨
      (Arrives size object ∧ Readable around object ∧ ¬ OutOfRange object) ∨
      (¬ Arrives size object ∧ (¬ Readable around object ∨ Refused object)) := by
  have webhook : Allowed (serveHTTP round (reviewOf size uid operation object)) ↔
      Arrives size object ∧ finiteFields object = true ∧ Governed object := by
    rw [allowed_iff round size uid object changes,accepted_iff,governed_convert]
    simp only [webhook_ranged,and_true]
  have operator : Accepted (reconcileObject round around object) ↔
      Readable around object ∧ Governed object ∧ ¬ Refused object := by
    unfold reconcileObject
    split
    · rename_i readable
      rw [policy_iff,accepted_iff,governed_convert,operator_ranged]
      exact (and_iff_right readable).symm
    · rename_i unreadable
      refine iff_of_false ?_ fun accepted => unreadable accepted.1
      rintro ⟨spec,accepted⟩
      cases accepted
  have readable : Readable around object → finiteFields object = true := And.left
  have refused : Refused object → OutOfRange object := refused_out_of_range
  rw [webhook,operator,← Bool.not_eq_true]
  by_cases governed : Governed object
  · by_cases decoded : finiteFields object = true
    · by_cases arrives : Arrives size object
      · simp only [governed,decoded,arrives,true_and,not_true,false_or,false_and,or_false,true_iff,imp_false]
        exact ⟨fun both => ⟨both.1.1,both.2⟩,fun both => ⟨⟨both.1,fun lost => both.2 (refused lost)⟩,both.2⟩⟩
      · simp only [governed,decoded,arrives,true_and,not_true,not_false_eq_true,false_or,false_and,false_iff,
          implies_true,and_true,not_and_or,not_not]
    · have unreadable : ¬ Readable around object := fun read => decoded (readable read)
      simp only [decoded,unreadable,Bool.false_eq_true,false_and,and_false,not_false_eq_true,implies_true,and_true,
        true_or,or_true]
  · simp only [governed,false_and,and_false,not_false_eq_true,implies_true,and_true,true_or]

def workload (replicas : Numeral) : Object Numeral :=
  [(text "spec",.obj [(text "image",.str (text "model@sha256:abc")),(text "approved",.bool true),
    (text "replicas",.num replicas),
    (text "resources",.obj [(text "cpuRequest",.str (text "1")),(text "memoryRequest",.str (text "1Gi")),
      (text "cpuLimit",.str (text "2")),(text "memoryLimit",.str (text "2Gi"))])])]

theorem workload_governed (replicas : Numeral) : Governed (workload replicas) := by
  refine ⟨⟨_,rfl,by decide⟩,rfl,?_⟩
  intro name member
  simp only [resourceNames,List.mem_cons,List.not_mem_nil,or_false] at member
  rcases member with rfl | rfl | rfl | rfl <;> exact ⟨_,rfl,by decide⟩

theorem workload_replicas (replicas : Numeral) :
    OutOfRange (workload replicas) ↔ replicas.value < 1 ∨ 100 < replicas.value := by
  constructor
  · rintro (⟨written,found,exceeds⟩ | ⟨written,found,_⟩)
    · cases Option.some.inj found; exact exceeds
    · cases found
  · intro exceeds
    exact .inl ⟨replicas,rfl,exceeds⟩

theorem parseFloat_small (written : Numeral) (small : |written.value| < 2^54 - 1) : parseFloat written = true := by
  have gap : ∀ top : ℚ, 1 ≤ top → (2 : ℚ)^54 - 1 ≤ 2^54 * top - top := by
    intro top one
    linarith
  have one : (1 : ℚ) ≤ 2^970 := one_le_pow₀ one_le_two
  have width : (2 : ℚ)^1024 = 2^54 * 2^970 := pow_add 2 54 970
  apply decide_eq_true
  rw [width]
  exact lt_of_lt_of_le small (gap _ one)

theorem workload_decoded (replicas : Numeral) (small : |replicas.value| < 2^54 - 1) :
    finiteFields (workload replicas) = true := by
  simp [workload,finiteFields,finite,parseFloat_small replicas small]

theorem workload_nesting (replicas : Numeral) : nesting (.obj (workload replicas)) = 3 := rfl

-- Three replicas pass both; the webhook passes any other number as well.
theorem admission_agrees_three :
    Allowed (serveHTTP id (reviewOf 500 "one" .create (workload (.integer 3)))) ∧
      Accepted (reconcileObject id 0 (workload (.integer 3))) := by
  have decoded : finiteFields (workload (.integer 3)) = true := workload_decoded _ (by norm_num [Numeral.value])
  have arrives : Arrives 500 (workload (.integer 3)) := ⟨by decide,by rw [workload_nesting]; decide⟩
  have readable : Readable 0 (workload (.integer 3)) := ⟨decoded,by rw [workload_nesting]; decide⟩
  have within : ¬ OutOfRange (workload (.integer 3)) := by rw [workload_replicas]; norm_num [Numeral.value]
  have agreed := (admission_agrees_iff id 0 500 "one" .create (.inl rfl) (workload (.integer 3))).mpr
    (.inr (.inr (.inl ⟨arrives,readable,within⟩)))
  have admitted : Allowed (serveHTTP id (reviewOf 500 "one" .create (workload (.integer 3)))) := by
    rw [allowed_iff id 500 "one" _ (.inl rfl),accepted_iff,governed_convert]
    exact ⟨arrives,decoded,workload_governed _,webhook_ranged id _⟩
  exact ⟨admitted,agreed.1.mp admitted⟩

theorem admission_disagrees : OutOfRange (workload (.integer 500)) ∧
    Allowed (serveHTTP id (reviewOf 500 "one" .create (workload (.integer 500)))) ∧
    ¬ Accepted (reconcileObject id 0 (workload (.integer 500))) := by
  have decoded : finiteFields (workload (.integer 500)) = true := workload_decoded _ (by norm_num [Numeral.value])
  have readable : Readable 0 (workload (.integer 500)) := ⟨decoded,by rw [workload_nesting]; decide⟩
  refine ⟨by rw [workload_replicas]; norm_num [Numeral.value],?_,?_⟩
  · rw [allowed_iff id 500 "one" _ (.inl rfl),accepted_iff,governed_convert]
    exact ⟨⟨by decide,by rw [workload_nesting]; decide⟩,decoded,workload_governed _,webhook_ranged id _⟩
  · rw [reconcileObject,if_pos readable,policy_iff,accepted_iff]
    rintro ⟨_,⟨_,high⟩,_⟩
    have counted : nestedInt64 (convertFields (controllerRuntime id) (workload (.integer 500))) ["spec","replicas"] =
        some 500 := rfl
    rw [counted] at high
    exact absurd high (by decide)

end OpenModelOps.PlatformAdmission
