import Mathlib.Algebra.Order.Ring.Rat
import OpenModelOps.EcommerceRetrieval
import OpenModelOps.JsonRecords
import OpenModelOps.JsonSchema
import OpenModelOps.PythonNumber
import OpenModelOps.PythonText
import OpenModelOps.Raising

namespace OpenModelOps.EcommerceTools
open EcommerceRetrieval JsonText PythonFloat PythonNumber PythonText

structure ToolDefinition where
  name : String
  description : String
  inputSchema : Schema

def productSearch : ToolDefinition where
  name := "product_search"
  description := "Search the approved synthetic product catalog."
  inputSchema := .object [("query",.string),("limit",.integer 1 10)] ["query"] false

def productCompare : ToolDefinition where
  name := "product_compare"
  description := "Compare two approved product IDs."
  inputSchema := .object [("product_ids",.array 2 2 .string)] ["product_ids"] false

def definitions : List ToolDefinition := [productSearch,productCompare]

-- An integer in the sense of JSON Schema, where 3.0 is one.
def whole : PyNumber → Option Int
  | .int n => some n
  | .float (.finite q) => if q.den = 1 then some q.num else none
  | .float .negZero => some 0
  | .float _ => none

-- conversionError is the ValueError of int() or of str().
inductive Raised where
  | valueError (message : String)
  | permissionError (message : String)
  | conversionError | typeError | overflowError

def Raised.isValueError : Raised → Bool
  | .valueError _ | .conversionError => true
  | _ => false

-- int(value). A str with a surrogate is no number.
def toInt : Json PyNumber → Except Raised Int
  | .bool b => .ok (if b then 1 else 0)
  | .num (.int n) => .ok n
  | .num (.float (.finite q)) => .ok (q.num.tdiv q.den)
  | .num (.float .negZero) => .ok 0
  | .num (.float .nan) => .error .conversionError
  | .num (.float _) => .error .overflowError
  | .str t => match (untext t).bind parseInt with
    | none => .error .conversionError
    | some n => .ok n
  | _ => .error .typeError

-- A bool is a number.
def number : Json PyNumber → Option PyFloat
  | .bool b => some (.finite (if b then 1 else 0))
  | .num (.int n) => some (.finite n)
  | .num (.float x) => some x
  | _ => none

def isNan : Json PyNumber → Bool
  | .num (.float .nan) => true
  | _ => false

-- The operator ==; no dict has a key twice. json.loads gives one nan, which is not
-- equal to itself, but items of lists and dicts that are one object are the same.
mutual
def equal : Json PyNumber → Json PyNumber → Bool
  | .null,.null => true
  | .str t,.str u => decide (t = u)
  | .arr items,.arr others => equalItems items others
  | .obj fields,.obj others => fields.length == others.length && equalFields fields others
  | left,right => match number left,number right with
    | some x,some y => x.le y && y.le x
    | _,_ => false
def equalItems : List (Json PyNumber) → List (Json PyNumber) → Bool
  | [],[] => true
  | item :: rest,other :: others => (isNan item && isNan other || equal item other) && equalItems rest others
  | _,_ => false
def equalFields : List (Text × Json PyNumber) → List (Text × Json PyNumber) → Bool
  | [],_ => true
  | (key,value) :: rest,others =>
    (match field others key with
      | some other => isNan value && isNan other || equal value other
      | none => false) && equalFields rest others
end

-- repr of a float and of a str; a float begins with a digit, a sign, inf or nan.
structure Literals where
  float : PyFloat → Text
  quoted : Text → Text
  numeral : ∀ x, (float x).head? ≠ some 0x70

-- repr; none is the ValueError for an int with too many digits.
mutual
def repr (literals : Literals) : Json PyNumber → Option Text
  | .null => some (text "None")
  | .bool b => some (text (if b then "True" else "False"))
  | .num (.int n) => if n.natAbs < 10 ^ maxStrDigits then some (intText n) else none
  | .num (.float x) => some (literals.float x)
  | .str t => some (literals.quoted t)
  | .arr items => (reprItems literals items).map fun inner => text "[" ++ inner ++ text "]"
  | .obj fields => (reprFields literals fields).map fun inner => text "\x7b" ++ inner ++ text "\x7d"
def reprItems (literals : Literals) : List (Json PyNumber) → Option Text
  | [] => some []
  | item :: rest => (repr literals item).bind fun first => (reprItems literals rest).map fun later =>
      first ++ (if rest.isEmpty then [] else text ", ") ++ later
def reprFields (literals : Literals) : List (Text × Json PyNumber) → Option Text
  | [] => some []
  | (key,value) :: rest => (repr literals value).bind fun first => (reprFields literals rest).map fun later =>
      literals.quoted key ++ text ": " ++ first ++ (if rest.isEmpty then [] else text ", ") ++ later
end

-- str(value).
def str (literals : Literals) : Json PyNumber → Option Text
  | .str t => some t
  | value => repr literals value

variable {K : Type} [Field K] [LinearOrder K]

structure ProductToolRegistry (K : Type) [Field K] [LinearOrder K] where
  catalog : ProductCatalog K
  settings : Settings K
  literals : Literals

structure Listed (K : Type) [Field K] [LinearOrder K] where
  product : Product K
  retrievalScore : Option K

-- A surrogate belongs to no token of a query; it stands as NUL, which does not
-- either.
def queryOf (t : Text) : String := String.ofList (t.map Char.ofNat)

def lookup (registry : ProductToolRegistry K) (identifier : Json PyNumber) : Except Raised (Product K) :=
  match str registry.literals identifier with
  | none => .error .conversionError
  | some t => match (untext t).bind registry.catalog.byId with
    | none => .error (.valueError "unknown product ID")
    | some product => .ok product

def limitOf (arguments : List (Text × Json PyNumber)) : Except Raised Int :=
  match field arguments (text "limit") with
  | none => .ok 5
  | some value => toInt value

def callSearch (registry : ProductToolRegistry K) (arguments : List (Text × Json PyNumber)) :
    Except Raised (List (Listed K)) :=
  match Schema.closed ["query","limit"] arguments,field arguments (text "query") with
  | true,some (.str query) => do
    let hits := search registry.settings registry.catalog (queryOf query) (← limitOf arguments)
    return hits.map fun hit => ⟨hit.product,some hit.score⟩
  | _,_ => .error (.valueError "invalid product_search arguments")

def callCompare (registry : ProductToolRegistry K) (arguments : List (Text × Json PyNumber)) :
    Except Raised (List (Listed K)) :=
  match Schema.closed ["product_ids"] arguments,field arguments (text "product_ids") with
  | true,some (.arr [first,second]) => do
    if equal first second then throw (.valueError "exactly two distinct product IDs are required")
    let one ← lookup registry first
    let other ← lookup registry second
    return [⟨one,none⟩,⟨other,none⟩]
  | true,some (.arr _) => .error (.valueError "exactly two distinct product IDs are required")
  | _,_ => .error (.valueError "invalid product_compare arguments")

def call (registry : ProductToolRegistry K) (name : Text) (arguments : List (Text × Json PyNumber)) :
    Except Raised (List (Listed K)) :=
  if name = text productSearch.name then callSearch registry arguments
  else if name = text productCompare.name then callCompare registry arguments
  else .error (.permissionError "tool is not registered")

def Conforms (tool : ToolDefinition) (arguments : List (Text × Json PyNumber)) : Prop :=
  Schema.accepts whole tool.inputSchema (.obj arguments) = true

structure Enforced (registry : ProductToolRegistry K) (name : Text) (arguments : List (Text × Json PyNumber)) : Prop where
  returns : ∀ products, call registry name arguments = .ok products →
    ∃ tool ∈ definitions, name = text tool.name ∧ Conforms tool arguments
  refuses : ∀ tool ∈ definitions, name = text tool.name → ¬ Conforms tool arguments →
    ∃ raised, call registry name arguments = .error raised ∧ raised.isValueError = true
  denies : (∀ tool ∈ definitions, name ≠ text tool.name) →
    ∃ message, call registry name arguments = .error (.permissionError message)
  raises : ∀ raised, call registry name arguments = .error raised →
    raised.isValueError = true ∨ ∃ message, raised = .permissionError message

def limitFine : Json PyNumber → Bool
  | .num (.float .nan) => true
  | .str t => ((untext t).bind parseInt).isNone
  | value => Schema.accepts whole (.integer 1 10) value

def Searchable (arguments : List (Text × Json PyNumber)) : Prop :=
  Schema.closed ["query","limit"] arguments = true ∧ ∃ query, field arguments (text "query") = some (.str query)

def Bounded (name : Text) (arguments : List (Text × Json PyNumber)) : Prop :=
  name = text productSearch.name → Searchable arguments →
    ∀ value, field arguments (text "limit") = some value → limitFine value = true

variable {registry : ProductToolRegistry K} {name : Text} {arguments : List (Text × Json PyNumber)}
  {value : Json PyNumber} {product : Product K}

inductive Converts (value : Json PyNumber) : Except Raised Int → Prop where
  | within (n : Int) : limitFine value = true → Schema.accepts whole (.integer 1 10) value = true → Converts value (.ok n)
  | refused : limitFine value = true → Converts value (.error .conversionError)
  | outside (n : Int) : limitFine value = false → Schema.accepts whole (.integer 1 10) value = false →
      Converts value (.ok n)
  | typeError : limitFine value = false → Converts value (.error .typeError)
  | overflowError : limitFine value = false → Converts value (.error .overflowError)

theorem toInt_converts (value : Json PyNumber) : Converts value (toInt value) := by
  have split : ∀ n, limitFine value = Schema.accepts whole (.integer 1 10) value → Converts value (.ok n) := by
    intro n same
    cases fine : limitFine value with
    | false => exact .outside n fine (same.symm.trans fine)
    | true => exact .within n fine (same.symm.trans fine)
  cases value with
  | null => exact .typeError rfl
  | bool b => exact split _ rfl
  | arr items => exact .typeError rfl
  | obj fields => exact .typeError rfl
  | str t =>
    have fine : limitFine (.str t) = ((untext t).bind parseInt).isNone := rfl
    simp only [toInt]
    cases parsed : (untext t).bind parseInt with
    | none => exact .refused (by rw [fine,parsed]; rfl)
    | some n => exact .outside n (by rw [fine,parsed]; rfl) rfl
  | num n =>
    cases n with
    | int n => exact split n rfl
    | float x =>
      cases x with
      | finite q => exact split _ rfl
      | negZero => exact split 0 rfl
      | infinity => exact .overflowError rfl
      | negInfinity => exact .overflowError rfl
      | nan => exact .refused rfl

theorem conforms_search : Conforms productSearch arguments ↔ Searchable arguments ∧
    ∀ value, field arguments (text "limit") = some value → Schema.accepts whole (.integer 1 10) value = true := by
  unfold Conforms Searchable productSearch
  rw [Schema.accepts,Bool.and_eq_true,Bool.and_eq_true,Schema.acceptsProperties_iff]
  simp only [List.forall_mem_cons,List.not_mem_nil,false_imp_iff,implies_true,and_true,Schema.accepts_string,List.map_cons,
    List.map_nil,Bool.false_or,List.all_cons,List.all_nil,Bool.and_true]
  constructor
  · intro conforms
    obtain ⟨⟨⟨query,limit⟩,present⟩,closed⟩ := conforms
    obtain ⟨value,found⟩ := Option.isSome_iff_exists.mp present
    obtain ⟨t,rfl⟩ := query value found
    exact ⟨⟨closed,t,found⟩,limit⟩
  · intro conforms
    obtain ⟨⟨closed,query,found⟩,limit⟩ := conforms
    refine ⟨⟨⟨?_,limit⟩,by rw [found]; rfl⟩,closed⟩
    intro value same
    exact ⟨query,Option.some.inj (same.symm.trans found)⟩

theorem callSearch_searchable (registry : ProductToolRegistry K) (searchable : Searchable arguments) :
    ∃ hits : Int → List (Listed K), callSearch registry arguments = (limitOf arguments).map hits := by
  obtain ⟨closed,query,found⟩ := searchable
  unfold callSearch
  rw [closed,found]
  exact ⟨_,rfl⟩

theorem callSearch_unsearchable (unsearchable : ¬ Searchable arguments) :
    callSearch registry arguments = .error (.valueError "invalid product_search arguments") := by
  unfold callSearch
  split
  · rename_i query closed found
    exact absurd ⟨closed,query,found⟩ unsearchable
  · rfl

theorem repr_foreign {literals : Literals} {t : Text} (shown : repr literals value = some t) (foreign : ∀ u, value ≠ .str u) :
    t.head? ≠ some 0x70 := by
  cases value with
  | null =>
    cases Option.some.inj shown
    decide
  | bool b =>
    cases Option.some.inj shown
    cases b <;> decide
  | num n =>
    cases n with
    | int n =>
      rw [repr] at shown
      split at shown
      · cases Option.some.inj shown
        intro lead
        rcases intText_chars n _ (List.mem_of_mem_head? lead) with sign | decimal
        · exact absurd sign (by decide)
        · exact absurd decimal.2 (by decide)
      · cases shown
    | float x =>
      cases Option.some.inj shown
      exact literals.numeral x
  | str u => exact absurd rfl (foreign u)
  | arr items =>
    obtain ⟨inner,_,rfl⟩ := Option.map_eq_some_iff.mp shown
    simp [text]
  | obj fields =>
    obtain ⟨inner,_,rfl⟩ := Option.map_eq_some_iff.mp shown
    simp [text]

theorem identifier_head {s : String} (identified : identifier s = true) : (text s).head? = some 0x70 := by
  unfold identifier at identified
  split at identified
  · rename_i shape
    rw [text,shape]
    rfl
  · cases identified

theorem lookup_str (found : lookup registry value = .ok product) : ∃ t, value = .str t := by
  by_contra foreign
  rw [not_exists] at foreign
  unfold lookup at found
  split at found
  · cases found
  rename_i t shown
  split at found
  · cases found
  rename_i other listed
  obtain ⟨s,plain,known⟩ := Option.bind_eq_some_iff.mp listed
  have same : text other.productId = t := by
    have named : other.productId = s := by simpa using List.find?_some known
    rw [named]
    exact text_untext plain
  have represented : repr registry.literals value = some t := by
    unfold str at shown
    split at shown
    · exact absurd rfl (foreign _)
    · exact shown
  apply repr_foreign represented foreign
  rw [← same]
  exact identifier_head other.identified

theorem lookup_error {raised : Raised} (failed : lookup registry value = .error raised) : raised.isValueError = true := by
  unfold lookup at failed
  split at failed
  · cases failed
    rfl
  · split at failed
    · cases failed
      rfl
    · cases failed

theorem conforms_compare (closed : Schema.closed ["product_ids"] arguments = true)
    (found : field arguments (text "product_ids") = some (.arr [.str first,.str second])) :
    Conforms productCompare arguments := by
  unfold Conforms productCompare
  rw [Schema.accepts,Bool.and_eq_true,Bool.and_eq_true,Schema.acceptsProperties_iff]
  refine ⟨⟨?_,by simp [found]⟩,closed⟩
  intro property member value same
  obtain rfl := List.mem_singleton.mp member
  cases Option.some.inj (same.symm.trans found)
  rfl

theorem callCompare_ok {products : List (Listed K)} (compared : callCompare registry arguments = .ok products) :
    Conforms productCompare arguments := by
  unfold callCompare at compared
  split at compared
  · rename_i first second closed found
    split at compared
    · cases compared
    obtain ⟨one,left,compared⟩ := Raising.bind_ok compared
    obtain ⟨other,right,_⟩ := Raising.bind_ok compared
    obtain ⟨t,rfl⟩ := lookup_str left
    obtain ⟨u,rfl⟩ := lookup_str right
    exact conforms_compare closed found
  · cases compared
  · cases compared

theorem callCompare_error {raised : Raised} (failed : callCompare registry arguments = .error raised) :
    raised.isValueError = true := by
  unfold callCompare at failed
  split at failed
  · rename_i first second _ _
    split at failed
    · cases failed
      rfl
    cases left : lookup registry first with
    | error early =>
      rw [left] at failed
      cases failed
      exact lookup_error left
    | ok one =>
      cases right : lookup registry second with
      | error late =>
        rw [left,right] at failed
        cases failed
        exact lookup_error right
      | ok other =>
        rw [left,right] at failed
        cases failed
  · cases failed
    rfl
  · cases failed
    rfl

theorem tools_differ : text productCompare.name ≠ text productSearch.name := by decide

theorem call_search : call registry (text productSearch.name) arguments = callSearch registry arguments := by
  rw [call,if_pos rfl]

theorem call_compare : call registry (text productCompare.name) arguments = callCompare registry arguments := by
  rw [call,if_neg tools_differ,if_pos rfl]

theorem tool_named {tool other : ToolDefinition} (listed : tool ∈ definitions) (also : other ∈ definitions)
    (same : text tool.name = text other.name) : tool = other := by
  simp only [definitions,List.mem_cons,List.not_mem_nil,or_false] at listed also
  rcases listed with rfl | rfl <;> rcases also with rfl | rfl
  · rfl
  · exact absurd same.symm tools_differ
  · exact absurd same tools_differ
  · rfl

theorem enforced_listed {tool : ToolDefinition} (listed : tool ∈ definitions)
    (returns : ∀ products, call registry (text tool.name) arguments = .ok products → Conforms tool arguments)
    (raises : ∀ raised, call registry (text tool.name) arguments = .error raised → raised.isValueError = true) :
    Enforced registry (text tool.name) arguments := by
  refine ⟨?_,?_,?_,?_⟩
  · exact fun products returned => ⟨tool,listed,rfl,returns products returned⟩
  · intro other also same strange
    obtain rfl := tool_named listed also same
    cases result : call registry (text tool.name) arguments with
    | ok products => exact absurd (returns products result) strange
    | error raised => exact ⟨raised,rfl,raises raised result⟩
  · exact fun unlisted => absurd rfl (unlisted tool listed)
  · exact fun raised failed => .inl (raises raised failed)

theorem enforced_compare : Enforced registry (text productCompare.name) arguments := by
  apply enforced_listed (by simp [definitions])
  · rw [call_compare]
    exact fun products => callCompare_ok
  · rw [call_compare]
    exact fun raised => callCompare_error

theorem enforced_unlisted (unlisted : ∀ tool ∈ definitions, name ≠ text tool.name) :
    Enforced registry name arguments := by
  have denied : call registry name arguments = .error (.permissionError "tool is not registered") := by
    rw [call,if_neg (unlisted productSearch (by simp [definitions])),
      if_neg (unlisted productCompare (by simp [definitions]))]
  refine ⟨?_,?_,?_,?_⟩
  · intro products returned
    rw [denied] at returned
    cases returned
  · exact fun tool listed same => absurd same (unlisted tool listed)
  · exact fun _ => ⟨_,denied⟩
  · intro raised failed
    rw [denied] at failed
    cases failed
    exact .inr ⟨_,rfl⟩

theorem limitOf_some (found : field arguments (text "limit") = some value) : limitOf arguments = toInt value := by
  rw [limitOf,found]

theorem search_strange (found : field arguments (text "limit") = some value)
    (outside : Schema.accepts whole (.integer 1 10) value = false) : ¬ Conforms productSearch arguments := by
  intro conforms
  have inside := (conforms_search.mp conforms).2 value found
  rw [outside] at inside
  cases inside

theorem limit_fine (enforced : Enforced registry (text productSearch.name) arguments) (searchable : Searchable arguments)
    (found : field arguments (text "limit") = some value) : limitFine value = true := by
  obtain ⟨hits,called⟩ := callSearch_searchable registry searchable
  rw [limitOf_some found,← call_search] at called
  have converts := toInt_converts value
  generalize toInt value = converted at converts called
  cases converts with
  | within _ fine _ => exact fine
  | refused fine => exact fine
  | outside n _ outside =>
    obtain ⟨raised,refused,_⟩ :=
      enforced.refuses productSearch (by simp [definitions]) rfl (search_strange found outside)
    rw [called] at refused
    cases refused
  | typeError _ =>
    rcases enforced.raises _ called with impossible | ⟨_,impossible⟩
    · cases impossible
    · cases impossible
  | overflowError _ =>
    rcases enforced.raises _ called with impossible | ⟨_,impossible⟩
    · cases impossible
    · cases impossible

theorem bounded_limit (bounded : ∀ value, field arguments (text "limit") = some value → limitFine value = true) :
    (∃ n, limitOf arguments = .ok n ∧ ∀ value, field arguments (text "limit") = some value →
      Schema.accepts whole (.integer 1 10) value = true) ∨ limitOf arguments = .error .conversionError := by
  cases found : field arguments (text "limit") with
  | none => exact .inl ⟨5,by rw [limitOf,found],nofun⟩
  | some value =>
    have fine := bounded value found
    rw [limitOf_some found]
    have converts := toInt_converts value
    generalize toInt value = converted at converts
    cases converts with
    | within n _ inside =>
      refine .inl ⟨n,rfl,fun other same => ?_⟩
      rw [← Option.some.inj same]
      exact inside
    | refused _ => exact .inr rfl
    | outside n coarse _ => exact absurd fine (by simp [coarse])
    | typeError coarse => exact absurd fine (by simp [coarse])
    | overflowError coarse => exact absurd fine (by simp [coarse])

theorem callSearch_outcome (registry : ProductToolRegistry K) (bounded : Searchable arguments →
    ∀ value, field arguments (text "limit") = some value → limitFine value = true) :
    (Conforms productSearch arguments ∧ ∃ products, callSearch registry arguments = .ok products) ∨
      ∃ raised, callSearch registry arguments = .error raised ∧ raised.isValueError = true := by
  by_cases searchable : Searchable arguments
  · obtain ⟨hits,called⟩ := callSearch_searchable registry searchable
    rw [called]
    rcases bounded_limit (bounded searchable) with ⟨n,limit,inside⟩ | refused
    · rw [limit]
      exact .inl ⟨conforms_search.mpr ⟨searchable,inside⟩,_,rfl⟩
    · rw [refused]
      exact .inr ⟨_,rfl,rfl⟩
  · exact .inr ⟨_,callSearch_unsearchable searchable,rfl⟩

theorem enforced_search (bounded : Searchable arguments → ∀ value, field arguments (text "limit") = some value →
    limitFine value = true) : Enforced registry (text productSearch.name) arguments := by
  apply enforced_listed (by simp [definitions])
  all_goals rw [call_search]
  · intro products returned
    rcases callSearch_outcome registry bounded with ⟨conforms,_⟩ | ⟨raised,failed,_⟩
    · exact conforms
    · rw [failed] at returned
      cases returned
  · intro raised failed
    rcases callSearch_outcome registry bounded with ⟨_,products,returned⟩ | ⟨other,same,fine⟩
    · rw [returned] at failed
      cases failed
    · rw [same] at failed
      cases failed
      exact fine

-- The published schema is enforced exactly when a search that has its query
-- names no limit, one from 1 to 10, or one that int() refuses.
theorem call_enforced_iff (registry : ProductToolRegistry K) (name : Text) (arguments : List (Text × Json PyNumber)) :
    Enforced registry name arguments ↔ Bounded name arguments := by
  constructor
  · intro enforced named searchable value found
    subst named
    exact limit_fine enforced searchable found
  · intro bounded
    by_cases search : name = text productSearch.name
    · subst search
      exact enforced_search (bounded rfl)
    by_cases compare : name = text productCompare.name
    · subst compare
      exact enforced_compare
    apply enforced_unlisted
    intro tool listed
    simp only [definitions,List.mem_cons,List.not_mem_nil,or_false] at listed
    rcases listed with rfl | rfl
    · exact search
    · exact compare

section NullLimit

theorem lamp_priced : (0 : ℚ) < 40 ∧ (40 : ℚ) ≤ 100000 := by decide

theorem lamp_rated : (0 : ℚ) ≤ 3 ∧ (3 : ℚ) ≤ 5 := by decide

def lamp : Product ℚ :=
  { productId := "prod-003",name := "Trail lamp",category := "outdoor",description := "A small lamp",priceCad := 40
    rating := 3,reviewCount := 12,features := ["light"],identified := by decide,sized := by decide,priced := lamp_priced
    rated := lamp_rated }

-- What the settings compute is not reached.
def lampRegistry : ProductToolRegistry ℚ where
  catalog := ⟨[lamp],by simp,by simp⟩
  settings := ⟨id,id,id,id⟩
  literals := ⟨fun _ => text "0.0",id,fun _ => by decide⟩

def nullLimit : List (Text × Json PyNumber) := [(text "query",.str (text "lamp")),(text "limit",.null)]

-- An explicit null is no limit, and int() does not take it.
theorem null_limit_escapes : ¬ ∀ (registry : ProductToolRegistry ℚ) (name : Text)
    (arguments : List (Text × Json PyNumber)), Enforced registry name arguments := by
  intro all
  have raised : call lampRegistry (text "product_search") nullLimit = .error .typeError := rfl
  rcases (all lampRegistry (text "product_search") nullLimit).raises _ raised with refused | ⟨_,same⟩
  · cases refused
  · cases same

end NullLimit

end OpenModelOps.EcommerceTools
