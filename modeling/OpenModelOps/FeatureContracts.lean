import OpenModelOps.OrderedDict
import OpenModelOps.PythonValue

namespace OpenModelOps.FeatureContracts
open KeyedTable PythonFloat PythonValue
variable {ω : Type}

-- An int bound is the number that it is.
structure FeatureDefinition where
  name : String
  dtype : String
  minimum : Option PyFloat := none
  maximum : Option PyFloat := none

inductive Raised where
  | featureContractError (message : String)
  | typeError | keyError

-- The entry of the type table for a dtype.
def checks (dtype : String) : Option (Value ω → Bool) :=
  if dtype = "float" then some fun
    | .float _ | .int _ => true
    | _ => false
  else if dtype = "int" then some fun
    | .int _ => true
    | _ => false
  else if dtype = "string" then some fun
    | .str _ => true
    | _ => false
  else if dtype = "bool" then some fun
    | .bool _ => true
    | _ => false
  else none

def FeatureDefinition.typed (definition : FeatureDefinition) (value : Value ω) : Bool :=
  (checks definition.dtype).any fun check => check value

-- `bound is not None and refuses(value, bound)`. Only a number is compared with a
-- bound.
def crosses (refuses : PyFloat → PyFloat → Bool) (bound : Option PyFloat) (value : Value ω) : Except Raised Bool :=
  match bound,value.number with
  | none,_ => .ok false
  | some limit,some x => .ok (refuses x limit)
  | some _,none => .error .typeError

def FeatureDefinition.validate (definition : FeatureDefinition) (value : Value ω) : Except Raised Unit := do
  if definition.typed value = false then
    throw (.featureContractError (definition.name ++ " must be " ++ definition.dtype))
  if ← crosses (fun x limit => x.lt limit) definition.minimum value then
    throw (.featureContractError (definition.name ++ " below minimum"))
  if ← crosses (fun x limit => limit.lt x) definition.maximum value then
    throw (.featureContractError (definition.name ++ " above maximum"))

structure FeatureRecord (ω : Type) where
  values : Dict String (Value ω)

structure FeatureService where
  definitions : Dict String FeatureDefinition

-- The last of several definitions with one name counts.
def FeatureService.init (definitions : List FeatureDefinition) : FeatureService where
  definitions := Dict.ofRows (definitions.map fun definition => (definition.name,definition))

def keys (dict : Dict String α) : List String := dict.rows.map Prod.fst

def without (left right : List String) : List String :=
  (left.filter fun name => !right.contains name).insertionSort fun a b => a ≤ b

def FeatureService.validateRow (service : FeatureService) (row : String × Value ω) : Except Raised Unit :=
  match Dict.get service.definitions row.1 with
  | none => .error .keyError
  | some definition => definition.validate row.2

-- repr is that of a list of str.
def FeatureService.validate (repr : List String → String) (service : FeatureService) (record : FeatureRecord ω) :
    Except Raised Unit :=
  let unknown := without (keys record.values) (keys service.definitions)
  let missing := without (keys service.definitions) (keys record.values)
  if unknown ≠ [] ∨ missing ≠ [] then
    .error (.featureContractError ("feature mismatch unknown=" ++ repr unknown ++ " missing=" ++ repr missing))
  else record.values.rows.forM fun row => service.validateRow row

def Limited (bound : Option PyFloat) (value : Value ω) (holds : PyFloat → PyFloat → Bool) : Prop :=
  ∀ limit, bound = some limit → ∃ x, value.number = some x ∧ holds x limit = true

structure Meets (definition : FeatureDefinition) (value : Value ω) : Prop where
  typed : definition.typed value = true
  minimum : Limited definition.minimum value fun x limit => limit.le x
  maximum : Limited definition.maximum value fun x limit => x.le limit

structure Accepts (service : FeatureService) (record : FeatureRecord ω) : Prop where
  names : ∀ name, name ∈ keys record.values ↔ name ∈ keys service.definitions
  values : ∀ row ∈ record.values.rows, ∀ definition, Dict.get service.definitions row.1 = some definition →
    Meets definition row.2

structure Decides (repr : List String → String) (service : FeatureService) (record : FeatureRecord ω) : Prop where
  returns : service.validate repr record = .ok () ↔ Accepts service record
  raises : ¬ Accepts service record → ∃ message, service.validate repr record = .error (.featureContractError message)

def Outside (refuses : PyFloat → PyFloat → Bool) (bound : Option PyFloat) (value : Value ω) : Prop :=
  ∃ limit, bound = some limit ∧ ∃ x, value.number = some x ∧ refuses x limit = true

def Broken (definition : FeatureDefinition) (value : Value ω) : Prop :=
  definition.typed value = false ∨ Outside (fun x limit => x.lt limit) definition.minimum value ∨
    Outside (fun x limit => limit.lt x) definition.maximum value

def Unordered (definition : FeatureDefinition) (value : Value ω) : Prop :=
  definition.typed value = true ∧ value.number = none ∧ (definition.minimum.isSome ∨ definition.maximum.isSome)

def Comparable (definition : FeatureDefinition) (value : Value ω) : Prop :=
  definition.typed value = true → ∀ bound ∈ [definition.minimum,definition.maximum], ∀ limit, bound = some limit →
    limit ≠ .nan ∧ ∃ x, value.number = some x ∧ x ≠ .nan

inductive Checked (definition : FeatureDefinition) (value : Value ω) : Except Raised Unit → Prop where
  | passed : ¬ Broken definition value → ¬ Unordered definition value → Checked definition value (.ok ())
  | refused (message : String) : Broken definition value → Checked definition value (.error (.featureContractError message))
  | unordered : Unordered definition value → ¬ Broken definition value → Checked definition value (.error .typeError)

theorem crosses_number {x : PyFloat} {value : Value ω} (numeric : value.number = some x) (refuses : PyFloat → PyFloat → Bool)
    (bound : Option PyFloat) : ∃ crossed, crosses refuses bound value = .ok crossed ∧
      (crossed = true ↔ Outside refuses bound value) := by
  unfold crosses Outside
  rw [numeric]
  cases bound with
  | none => exact ⟨false,rfl,by simp⟩
  | some limit => exact ⟨refuses x limit,rfl,by simp⟩

theorem crosses_unordered {limit : PyFloat} {value : Value ω} (numeric : value.number = none)
    (refuses : PyFloat → PyFloat → Bool) : crosses refuses (some limit) value = .error .typeError := by
  unfold crosses
  rw [numeric]

theorem validate_checked (definition : FeatureDefinition) (value : Value ω) :
    Checked definition value (definition.validate value) := by
  unfold FeatureDefinition.validate
  cases typed : definition.typed value with
  | false => exact .refused _ (.inl typed)
  | true =>
    rw [if_neg (by decide)]
    cases numeric : value.number with
    | none =>
      have unbroken : ¬ Broken definition value := by
        simp [Broken,Outside,typed,numeric]
      cases minimum : definition.minimum with
      | some limit =>
        rw [crosses_unordered numeric]
        exact .unordered ⟨typed,numeric,.inl (by rw [minimum]; rfl)⟩ unbroken
      | none =>
        cases maximum : definition.maximum with
        | some limit =>
          rw [crosses_unordered numeric,crosses]
          exact .unordered ⟨typed,numeric,.inr (by rw [maximum]; rfl)⟩ unbroken
        | none =>
          refine .passed unbroken ?_
          simp [Unordered,minimum,maximum]
    | some x =>
      have ordered : ¬ Unordered definition value := by simp [Unordered,numeric]
      obtain ⟨low,first,below⟩ := crosses_number numeric (fun x limit => x.lt limit) definition.minimum
      obtain ⟨high,second,above⟩ := crosses_number numeric (fun x limit => limit.lt x) definition.maximum
      rw [first]
      cases low with
      | true => exact .refused _ (.inr (.inl (below.mp rfl)))
      | false =>
        have inside := mt below.mpr (by decide)
        rw [second]
        cases high with
        | true => exact .refused _ (.inr (.inr (above.mp rfl)))
        | false =>
          refine .passed ?_ ordered
          simp only [Broken,typed,not_or]
          exact ⟨by decide,inside,mt above.mpr (by decide)⟩

def Ordered (bound : Option PyFloat) (value : Value ω) : Prop :=
  ∀ limit, bound = some limit → limit ≠ .nan ∧ ∃ x, value.number = some x ∧ x ≠ .nan

theorem limited_iff (bound : Option PyFloat) (value : Value ω) {holds refuses : PyFloat → PyFloat → Bool}
    (opposite : ∀ x limit, holds x limit = true ↔ refuses x limit = false ∧ x ≠ .nan ∧ limit ≠ .nan) :
    Limited bound value holds ↔ Ordered bound value ∧ ¬ Outside refuses bound value := by
  constructor
  · intro limited
    constructor
    · intro limit set
      obtain ⟨x,numeric,held⟩ := limited limit set
      obtain ⟨_,number,whole⟩ := (opposite x limit).mp held
      exact ⟨whole,x,numeric,number⟩
    · intro outside
      obtain ⟨limit,set,x,numeric,refused⟩ := outside
      obtain ⟨y,again,held⟩ := limited limit set
      obtain rfl := Option.some.inj (numeric.symm.trans again)
      rw [((opposite x limit).mp held).1] at refused
      cases refused
  · intro both limit set
    obtain ⟨whole,x,numeric,number⟩ := both.1 limit set
    refine ⟨x,numeric,(opposite x limit).mpr ⟨?_,number,whole⟩⟩
    rw [← Bool.not_eq_true]
    intro refused
    exact both.2 ⟨limit,set,x,numeric,refused⟩

theorem comparable_iff {definition : FeatureDefinition} {value : Value ω} : Comparable definition value ↔
    (definition.typed value = true → Ordered definition.minimum value ∧ Ordered definition.maximum value) := by
  simp [Comparable,Ordered]

theorem meets_iff {definition : FeatureDefinition} {value : Value ω} : Meets definition value ↔
    Comparable definition value ∧ ¬ Broken definition value ∧ ¬ Unordered definition value := by
  have low := @limited_iff _ definition.minimum value (fun x limit => limit.le x) (fun x limit => x.lt limit)
    fun x limit => le_iff_not_lt
  have high := @limited_iff _ definition.maximum value (fun x limit => x.le limit) (fun x limit => limit.lt x)
    fun x limit => le_iff_not_lt.trans (and_congr_right fun _ => and_comm)
  rw [comparable_iff]
  constructor
  · intro meets
    have below := low.mp meets.minimum
    have above := high.mp meets.maximum
    refine ⟨fun _ => ⟨below.1,above.1⟩,?_,?_⟩
    · simp only [Broken,meets.typed,not_or]
      exact ⟨by decide,below.2,above.2⟩
    · intro unordered
      obtain ⟨_,text,set⟩ := unordered
      have none : ∀ bound, Ordered bound value → bound.isSome = true → False := by
        intro bound ordered some
        obtain ⟨limit,set⟩ := Option.isSome_iff_exists.mp some
        obtain ⟨_,x,numeric,_⟩ := ordered limit set
        rw [text] at numeric
        cases numeric
      rcases set with minimum | maximum
      · exact none _ below.1 minimum
      · exact none _ above.1 maximum
  · intro passed
    obtain ⟨comparable,unbroken,_⟩ := passed
    simp only [Broken,not_or,Bool.not_eq_false] at unbroken
    have ordered := comparable unbroken.1
    exact ⟨unbroken.1,low.mpr ⟨ordered.1,unbroken.2.1⟩,high.mpr ⟨ordered.2,unbroken.2.2⟩⟩

theorem unordered_incomparable {definition : FeatureDefinition} {value : Value ω}
    (comparable : Comparable definition value) : ¬ Unordered definition value := by
  intro unordered
  obtain ⟨typed,text,set⟩ := unordered
  have none : ∀ bound ∈ [definition.minimum,definition.maximum], bound.isSome = true → False := by
    intro bound listed some
    obtain ⟨limit,set⟩ := Option.isSome_iff_exists.mp some
    obtain ⟨_,x,numeric,_⟩ := comparable typed bound listed limit set
    rw [text] at numeric
    cases numeric
  rcases set with minimum | maximum
  · exact none _ (by simp) minimum
  · exact none _ (by simp) maximum

section Rows
variable {repr : List String → String} {service : FeatureService} {record : FeatureRecord ω}

def SameNames (service : FeatureService) (record : FeatureRecord ω) : Prop :=
  ∀ name, name ∈ keys record.values ↔ name ∈ keys service.definitions

def At (service : FeatureService) (property : FeatureDefinition → Value ω → Prop) (row : String × Value ω) : Prop :=
  ∃ definition, Dict.get service.definitions row.1 = some definition ∧ property definition row.2

def Settled (service : FeatureService) (record : FeatureRecord ω) : Prop :=
  ¬ SameNames service record ∨
    (∃ before row after, record.values.rows = before ++ row :: after ∧ At service Broken row ∧
      ∀ other ∈ before, ¬ At service Unordered other) ∨
    ∀ row ∈ record.values.rows, ∀ definition, Dict.get service.definitions row.1 = some definition →
      Comparable definition row.2

theorem without_nil {left right : List String} : without left right = [] ↔ ∀ name ∈ left, name ∈ right := by
  rw [without,← List.length_eq_zero_iff,List.length_insertionSort,List.length_eq_zero_iff,List.filter_eq_nil_iff]
  simp

theorem sameNames_iff : SameNames service record ↔ ¬ (without (keys record.values) (keys service.definitions) ≠ [] ∨
    without (keys service.definitions) (keys record.values) ≠ []) := by
  rw [not_or,not_not,not_not,without_nil,without_nil]
  constructor
  · exact fun same => ⟨fun name => (same name).mp,fun name => (same name).mpr⟩
  · exact fun both name => ⟨both.1 name,both.2 name⟩

theorem validate_rows (same : SameNames service record) :
    service.validate repr record = record.values.rows.forM service.validateRow := by
  unfold FeatureService.validate
  dsimp only
  rw [if_neg (sameNames_iff.mp same)]

theorem validate_mismatch (differ : ¬ SameNames service record) :
    ∃ message, service.validate repr record = .error (.featureContractError message) := by
  unfold FeatureService.validate
  dsimp only
  rw [if_pos (not_not.mp (mt sameNames_iff.mpr differ))]
  exact ⟨_,rfl⟩

theorem defined (same : SameNames service record) {row : String × Value ω} (member : row ∈ record.values.rows) :
    ∃ definition, Dict.get service.definitions row.1 = some definition := by
  obtain ⟨other,inside,named⟩ := List.mem_map.mp ((same row.1).mp (List.mem_map_of_mem member))
  refine ⟨other.2,Dict.get_row.mpr ?_⟩
  rw [← named]
  exact inside

theorem validateRow_checked {row : String × Value ω} {definition : FeatureDefinition}
    (found : Dict.get service.definitions row.1 = some definition) :
    Checked definition row.2 (service.validateRow row) := by
  unfold FeatureService.validateRow
  rw [found]
  exact validate_checked definition row.2

theorem validateRow_ok {row : String × Value ω} {definition : FeatureDefinition}
    (found : Dict.get service.definitions row.1 = some definition) (passed : service.validateRow row = .ok ()) :
    ¬ Broken definition row.2 ∧ ¬ Unordered definition row.2 := by
  have checked := validateRow_checked found
  rw [passed] at checked
  cases checked with
  | passed unbroken ordered => exact ⟨unbroken,ordered⟩

theorem refused_run {before after : List (String × Value ω)} {row : String × Value ω} (broken : At service Broken row)
    (known : ∀ other ∈ before, ∃ definition, Dict.get service.definitions other.1 = some definition)
    (ordered : ∀ other ∈ before, ¬ At service Unordered other) :
    ∃ message, (before ++ row :: after).forM service.validateRow = .error (.featureContractError message) := by
  induction before with
  | nil =>
    obtain ⟨definition,found,broken⟩ := broken
    have checked := validateRow_checked found
    have step : (row :: after).forM service.validateRow =
      (service.validateRow row >>= fun _ => after.forM service.validateRow) := rfl
    rw [List.nil_append,step]
    generalize service.validateRow row = result at checked
    cases checked with
    | passed unbroken _ => exact absurd broken unbroken
    | refused message _ => exact ⟨message,rfl⟩
    | unordered _ unbroken => exact absurd broken unbroken
  | cons first before ih =>
    obtain ⟨⟨definition,found⟩,known⟩ := List.forall_mem_cons.mp known
    obtain ⟨here,ordered⟩ := List.forall_mem_cons.mp ordered
    have checked := validateRow_checked found
    have step : (first :: before ++ row :: after).forM service.validateRow =
      (service.validateRow first >>= fun _ => (before ++ row :: after).forM service.validateRow) := rfl
    rw [step]
    generalize service.validateRow first = result at checked
    cases checked with
    | passed _ _ => exact ih known ordered
    | refused message _ => exact ⟨message,rfl⟩
    | unordered unordered _ => exact absurd ⟨definition,found,unordered⟩ here

theorem accepts_ok (accepts : Accepts service record) : service.validate repr record = .ok () := by
  rw [validate_rows accepts.names]
  apply Raising.forM_ok.mpr
  intro row member
  obtain ⟨definition,found⟩ := defined accepts.names member
  obtain ⟨_,unbroken,ordered⟩ := meets_iff.mp (accepts.values row member definition found)
  have checked := validateRow_checked found
  generalize service.validateRow row = result at checked
  cases checked with
  | passed _ _ => rfl
  | refused _ broken => exact absurd broken unbroken
  | unordered unordered _ => exact absurd unordered ordered

theorem settled_decides (settled : Settled service record) : Decides repr service record := by
  have refuses : (∃ message, service.validate repr record = .error (.featureContractError message)) →
      Decides repr service record := by
    intro refused
    obtain ⟨message,refused⟩ := refused
    refine ⟨⟨?_,accepts_ok⟩,fun _ => ⟨message,refused⟩⟩
    intro passed
    rw [refused] at passed
    cases passed
  by_cases same : SameNames service record
  swap
  · exact refuses (validate_mismatch same)
  rcases settled with differ | broken | comparable
  · exact absurd same differ
  · obtain ⟨before,row,after,split,broken,ordered⟩ := broken
    apply refuses
    rw [validate_rows same,split]
    apply refused_run broken _ ordered
    intro other member
    apply defined same
    rw [split]
    exact List.mem_append_left _ member
  · cases result : service.validate repr record with
    | ok _ =>
      have accepts : Accepts service record := by
        refine ⟨same,?_⟩
        intro row member definition found
        rw [validate_rows same] at result
        exact meets_iff.mpr ⟨comparable row member definition found,validateRow_ok found (Raising.forM_ok.mp result row member)⟩
      exact ⟨⟨fun _ => accepts,fun _ => result⟩,absurd accepts⟩
    | error raised =>
      apply refuses
      rw [validate_rows same] at result
      obtain ⟨before,row,after,split,_,raises⟩ := Raising.forM_error.mp result
      have member : row ∈ record.values.rows := by simp [split]
      obtain ⟨definition,found⟩ := defined same member
      have checked := validateRow_checked found
      rw [raises] at checked
      cases checked with
      | refused message _ =>
        refine ⟨message,?_⟩
        rw [validate_rows same]
        exact result
      | unordered unordered _ => exact absurd unordered (unordered_incomparable (comparable row member definition found))

theorem decides_settled (decides : Decides repr service record) : Settled service record := by
  by_cases same : SameNames service record
  swap
  · exact .inl same
  apply Or.inr
  cases result : service.validate repr record with
  | ok _ =>
    have accepts := decides.returns.mp result
    exact .inr fun row member definition found => (meets_iff.mp (accepts.values row member definition found)).1
  | error raised =>
    have strange : ¬ Accepts service record := by
      intro accepts
      rw [accepts_ok accepts] at result
      cases result
    obtain ⟨message,refused⟩ := decides.raises strange
    rw [validate_rows same] at refused
    obtain ⟨before,row,after,split,passed,raises⟩ := Raising.forM_error.mp refused
    have member : row ∈ record.values.rows := by simp [split]
    obtain ⟨definition,found⟩ := defined same member
    have checked := validateRow_checked found
    rw [raises] at checked
    cases checked with
    | refused _ broken =>
      refine .inl ⟨before,row,after,split,⟨definition,found,broken⟩,?_⟩
      intro other inside unordered
      obtain ⟨other_definition,known,unordered⟩ := unordered
      exact (validateRow_ok known (passed other inside)).2 unordered

end Rows

-- Where no value is refused, a nan with a bound passes and a str with a bound
-- raises a TypeError.
theorem validate_decides_iff (repr : List String → String) (definitions : List FeatureDefinition)
    (record : FeatureRecord ω) :
    Decides repr (.init definitions) record ↔ Settled (.init definitions) record :=
  ⟨decides_settled,settled_decides⟩

-- nan is neither below the minimum nor above the maximum.
def riskScore : FeatureDefinition := ⟨"risk_score","float",some (.finite 0),some (.finite 1)⟩

def unknownRisk : FeatureRecord Empty := ⟨⟨[("risk_score",.float .nan)],by decide⟩⟩

theorem nan_accepted : ¬ ∀ (repr : List String → String) (definitions : List FeatureDefinition)
    (record : FeatureRecord Empty), Decides repr (.init definitions) record := by
  intro all
  have decides := all (fun _ => "[]") [riskScore] unknownRisk
  have returned : FeatureService.validate (fun _ => "[]") (.init [riskScore]) unknownRisk = .ok () := rfl
  have accepts := decides.returns.mp returned
  have meets := accepts.values _ (List.mem_singleton_self _) riskScore rfl
  obtain ⟨x,numeric,held⟩ := meets.minimum (.finite 0) rfl
  cases numeric
  cases held

end OpenModelOps.FeatureContracts
