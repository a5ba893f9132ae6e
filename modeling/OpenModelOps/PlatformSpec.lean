import OpenModelOps.JsonText
import Mathlib.Algebra.Order.Ring.Rat

namespace OpenModelOps.PlatformSpec
open JsonText

-- A JSON number as it is written: digits only, or with a fraction or exponent.
inductive Numeral where
  | integer (n : Int)
  | decimal (q : ℚ)
  deriving DecidableEq

def Numeral.value : Numeral → ℚ
  | .integer n => n
  | .decimal q => q

-- The dynamic types a number can have in an unstructured object.
inductive GoNumber where
  | int64 (n : Int)
  | float64 (x : ℚ)

abbrev Object (ν : Type) := List (Text × Json ν)

-- encoding/json into an interface value. Rounding to a double is a parameter;
-- nothing here depends on it.
def encodingJson (round : ℚ → ℚ) (written : Numeral) : GoNumber := .float64 (round written.value)

-- The decoder of controller-runtime keeps integers that an int64 can hold.
def controllerRuntime (round : ℚ → ℚ) : Numeral → GoNumber
  | .integer n => if -2^63 ≤ n ∧ n < 2^63 then .int64 n else .float64 (round n)
  | .decimal q => .float64 (round q)

-- unstructured.NestedFieldNoCopy without its error, which Parse discards.
def nestedField : Object ν → List Text → Option (Json ν)
  | _,[] => none
  | object,[name] => field object name
  | object,name :: rest => match field object name with
    | some (.obj inner) => nestedField inner rest
    | _ => none

def asString : Json ν → Option Text
  | .str value => some value
  | _ => none

def asBool : Json ν → Option Bool
  | .bool value => some value
  | _ => none

def asInt64 : Json GoNumber → Option Int
  | .num (.int64 n) => some n
  | _ => none

def nestedString (object : Object ν) (path : List String) : Option Text :=
  (nestedField object (path.map text)).bind asString

def nestedBool (object : Object ν) (path : List String) : Option Bool :=
  (nestedField object (path.map text)).bind asBool

def nestedInt64 (object : Object GoNumber) (path : List String) : Option Int :=
  (nestedField object (path.map text)).bind asInt64

structure WorkloadSpec where
  image : Text
  replicas : Int
  port : Int
  approved : Bool
  cpuRequest : Text
  memoryRequest : Text
  cpuLimit : Text
  memoryLimit : Text
  serviceAccount : Text

def int32 (n : Int) : Int := n.bmod (2^32)

def parse (object : Object GoNumber) : Except String WorkloadSpec :=
  let image := (nestedString object ["spec","image"]).getD []
  if image = [] then .error "spec.image is required"
  else
    let value := fun name => (nestedString object ["spec","resources",name]).getD []
    .ok {
      image := image
      replicas := int32 ((nestedInt64 object ["spec","replicas"]).getD 1)
      port := int32 ((nestedInt64 object ["spec","port"]).getD 8000)
      approved := (nestedBool object ["spec","approved"]).getD false
      cpuRequest := value "cpuRequest"
      memoryRequest := value "memoryRequest"
      cpuLimit := value "cpuLimit"
      memoryLimit := value "memoryLimit"
      serviceAccount := (nestedString object ["spec","serviceAccountName"]).getD [] }

def contains (t part : Text) : Bool := t.tails.any part.isPrefixOf

def validate (spec : WorkloadSpec) : List String :=
  (if contains spec.image (text "@sha256:") then [] else ["spec.image must be pinned by sha256 digest"]) ++
  (if spec.approved then [] else ["spec.approved must be true before deployment"]) ++
  (if spec.replicas < 1 ∨ spec.replicas > 100 then ["spec.replicas must be between 1 and 100"] else []) ++
  (if spec.port < 1 ∨ spec.port > 65535 then ["spec.port must be between 1 and 65535"] else []) ++
  (if spec.cpuRequest = [] ∨ spec.memoryRequest = [] ∨ spec.cpuLimit = [] ∨ spec.memoryLimit = [] then
    ["spec.resources must define cpuRequest, memoryRequest, cpuLimit and memoryLimit"] else [])

def resourceNames : List String := ["cpuRequest","memoryRequest","cpuLimit","memoryLimit"]

structure Governed (object : Object ν) : Prop where
  pinned : ∃ image, nestedString object ["spec","image"] = some image ∧ contains image (text "@sha256:") = true
  approved : nestedBool object ["spec","approved"] = some true
  resourced : ∀ name ∈ resourceNames, ∃ value, nestedString object ["spec","resources",name] = some value ∧ value ≠ []

def Ranged (object : Object GoNumber) : Prop :=
  (1 ≤ int32 ((nestedInt64 object ["spec","replicas"]).getD 1) ∧
    int32 ((nestedInt64 object ["spec","replicas"]).getD 1) ≤ 100) ∧
  1 ≤ int32 ((nestedInt64 object ["spec","port"]).getD 8000) ∧
    int32 ((nestedInt64 object ["spec","port"]).getD 8000) ≤ 65535

theorem nestedField_convert (f : ν → μ) (object : Object ν) (path : List Text) :
    nestedField (convertFields f object) path = (nestedField object path).map (convert f) := by
  fun_induction nestedField object path with
  | case1 => rfl
  | case2 object name => exact field_convert f object name
  | case3 object name rest more inner found ih =>
    rw [nestedField.eq_3 _ _ _ more,field_convert,found]
    exact ih
  | case4 object name rest more other =>
    rw [nestedField.eq_3 _ _ _ more,field_convert]
    cases found : field object name with
    | none => rfl
    | some value =>
      cases value with
      | obj inner => exact absurd found (other inner)
      | _ => rfl

theorem nestedString_convert (f : ν → μ) (object : Object ν) (path : List String) :
    nestedString (convertFields f object) path = nestedString object path := by
  rw [nestedString,nestedField_convert,nestedString]
  cases nestedField object (path.map text) with
  | none => rfl
  | some value => cases value <;> rfl

theorem nestedBool_convert (f : ν → μ) (object : Object ν) (path : List String) :
    nestedBool (convertFields f object) path = nestedBool object path := by
  rw [nestedBool,nestedField_convert,nestedBool]
  cases nestedField object (path.map text) with
  | none => rfl
  | some value => cases value <;> rfl

theorem governed_convert (f : ν → μ) (object : Object ν) : Governed (convertFields f object) ↔ Governed object := by
  constructor
  · rintro ⟨pinned,approved,resourced⟩
    simp only [nestedString_convert,nestedBool_convert] at pinned approved resourced
    exact ⟨pinned,approved,resourced⟩
  · rintro ⟨pinned,approved,resourced⟩
    refine ⟨?_,?_,?_⟩
    · simpa only [nestedString_convert] using pinned
    · simpa only [nestedBool_convert] using approved
    · simpa only [nestedString_convert] using resourced

theorem contains_nonempty (found : contains t (text "@sha256:") = true) : t ≠ [] := by
  rintro rfl
  revert found
  decide

theorem given_exact {found : Option Text} : found.getD [] ≠ [] ↔ ∃ value, found = some value ∧ value ≠ [] := by
  cases found <;> simp

theorem accepted_iff (object : Object GoNumber) :
    (∃ spec, parse object = .ok spec ∧ validate spec = []) ↔ Governed object ∧ Ranged object := by
  unfold parse
  dsimp only
  constructor
  · rintro ⟨spec,parsed,clean⟩
    split at parsed
    · cases parsed
    · rename_i imaged
      cases Except.ok.inj parsed
      simp only [validate,List.append_eq_nil_iff] at clean
      obtain ⟨⟨⟨⟨pinned,approved⟩,replicas⟩,port⟩,resources⟩ := clean
      simp only [ite_eq_left_iff,ite_eq_right_iff,reduceCtorEq,imp_false,not_or,Bool.not_eq_true,
        Bool.not_eq_false] at pinned approved replicas port resources
      obtain ⟨cpu,memory,cpuLimit,memoryLimit⟩ := resources
      obtain ⟨image,given,_⟩ := given_exact.mp imaged
      rw [given] at pinned
      refine ⟨⟨⟨image,given,pinned⟩,?_,?_⟩,⟨by omega,by omega⟩,by omega,by omega⟩
      · cases flag : nestedBool object ["spec","approved"] with
        | none => rw [flag] at approved; cases approved
        | some value => rw [flag] at approved; exact congrArg some approved
      · intro name member
        simp only [resourceNames,List.mem_cons,List.not_mem_nil,or_false] at member
        rcases member with rfl | rfl | rfl | rfl
        · exact given_exact.mp cpu
        · exact given_exact.mp memory
        · exact given_exact.mp cpuLimit
        · exact given_exact.mp memoryLimit
  · rintro ⟨⟨⟨image,given,pinned⟩,approved,resourced⟩,⟨low,high⟩,first,last⟩
    have imaged := contains_nonempty pinned
    rw [given,Option.getD_some,if_neg imaged]
    refine ⟨_,rfl,?_⟩
    have cpu := given_exact.mpr (resourced "cpuRequest" (by decide))
    have memory := given_exact.mpr (resourced "memoryRequest" (by decide))
    have cpuLimit := given_exact.mpr (resourced "cpuLimit" (by decide))
    have memoryLimit := given_exact.mpr (resourced "memoryLimit" (by decide))
    have counted : ¬ (int32 ((nestedInt64 object ["spec","replicas"]).getD 1) < 1 ∨
        int32 ((nestedInt64 object ["spec","replicas"]).getD 1) > 100) := by omega
    have listening : ¬ (int32 ((nestedInt64 object ["spec","port"]).getD 8000) < 1 ∨
        int32 ((nestedInt64 object ["spec","port"]).getD 8000) > 65535) := by omega
    simp only [validate,pinned,approved,Option.getD_some,if_true,if_neg counted,if_neg listening,cpu,memory,cpuLimit,
      memoryLimit,or_false,if_false,List.append_nil]

end OpenModelOps.PlatformSpec
