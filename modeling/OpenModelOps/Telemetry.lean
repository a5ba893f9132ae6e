import OpenModelOps.OrderedDict
import OpenModelOps.PythonFloat

namespace OpenModelOps.Telemetry
open KeyedTable KeyedTable.Dict PythonFloat

def words : List String :=
  ["prompt","input","output","document","context","secret","password","authorization"]

-- re.IGNORECASE: a capital letter, and the four letters outside ASCII that the
-- words match besides.
def folded (c : Char) : Char :=
  if c = '\u0130' ∨ c = '\u0131' then 'i' else if c = '\u017f' then 's' else if c = '\u212a' then 'k' else c.toLower

def occurs (word : List Char) : List Char → Bool
  | [] => word.isEmpty
  | c :: rest => word.isPrefixOf (c :: rest) || occurs word rest

def mark (c : Char) : Bool := c == '.' || c == '_'

-- (?:$|[._]); the end may stand before a last newline.
def ended : List Char → Bool
  | [] => true
  | c :: rest => mark c || (c == '\n' && rest.isEmpty)

def tokenHere (text : List Char) : Bool := "token".toList.isPrefixOf text && ended (text.drop 5)

-- (?:^|[._])token(?:$|[._]), after a character or at the start.
def token (free : Bool) : List Char → Bool
  | [] => false
  | c :: rest => (free && tokenHere (c :: rest)) || token (mark c) rest

-- SENSITIVE_KEY.search(key).
def sensitiveKey (key : String) : Bool :=
  let text := key.toList.map folded
  words.any (fun word => occurs word.toList text) || token true text

example : sensitiveKey "llm.Prompt" = true ∧ sensitiveKey "auth_token" = true ∧ sensitiveKey "llm.tokens" = false := by
  decide +kernel

def endsWith (s tail : String) : Bool := tail.toList.isSuffixOf s.toList

def allowedOperations : List String :=
  ["agent","embedding","factory","llm","policy","rerank","retrieval","sre","tool"]

-- A value of type str, bool, int or float.
inductive Plain where
  | str (s : String)
  | bool (b : Bool)
  | int (n : Int)
  | float (x : PyFloat)
  deriving DecidableEq

-- What an attribute can be bound to; an item that is not plain is none.
inductive Value where
  | absent
  | plain (value : Plain)
  | sequence (items : List (Option Plain))
  | other
  deriving DecidableEq

def Value.recordable : Value → Bool
  | .plain _ => true
  | .sequence items => items.all Option.isSome
  | _ => false

structure TelemetrySettings where
  enabled : Bool
  captureContent : Bool

abbrev Attributes := Dict String Value

def withheld (settings : TelemetrySettings) (key : String) : Bool :=
  sensitiveKey key && !endsWith key ".digest" && !settings.captureContent

def safeAttributes (settings : TelemetrySettings) (attributes : Attributes) : Attributes :=
  (attributes.rows.filter fun row => !withheld settings row.1 && row.2.recordable).foldl
    (fun safe row => Dict.set safe row.1 row.2) Table.empty

-- The tracer formats the stack trace once for the explicit record and once when
-- the exception leaves the span's block.
inductive Recording where
  | explicit | leaving

structure BodyException where
  typeName : String
  message : String
  stacktrace : Recording → String

inductive Outcome where
  | success
  | raised (exception : BodyException)

structure Event where
  name : String
  attributes : Dict String String

structure Span where
  name : String
  attributes : Attributes
  events : List Event

-- Span.record_exception of the tracer; the caller's attributes come last.
def Span.recordException (span : Span) (exception : BodyException) (recording : Recording)
    (attributes : List (String × String)) : Span :=
  let described := Dict.set (Dict.set (Dict.set (Dict.set Table.empty "exception.type" exception.typeName)
    "exception.message" exception.message) "exception.stacktrace" (exception.stacktrace recording))
    "exception.escaped" "False"
  {span with events := span.events ++
    [⟨"exception",attributes.foldl (fun event entry => Dict.set event entry.1 entry.2) described⟩]}

def Span.setAttribute (span : Span) (key value : String) : Span :=
  {span with attributes := Dict.set span.attributes key (.plain (.str value))}

inductive Raised where
  | valueError (message : String)
  | body (exception : BodyException)

structure Execution where
  exported : List Span
  raised : Option Raised

def started (settings : TelemetrySettings) (operation : String) (attributes : Attributes) : Span where
  name := "openmodelops." ++ operation
  attributes := Dict.set (safeAttributes settings attributes) "openinference.span.kind" (.plain (.str operation.toUpper))
  events := []

-- The block of the span, then what the tracer does as an exception leaves it.
def finished (span : Span) : Outcome → Span
  | .success => span.setAttribute "openmodelops.outcome" "success"
  | .raised exception =>
    ((span.recordException exception .explicit [("exception.message","operation failed")]).setAttribute
      "openmodelops.outcome" "error").recordException exception .leaving []

def operation (settings : TelemetrySettings) (name : String) (attributes : Attributes) (body : Outcome) : Execution :=
  if name ∈ allowedOperations then
    let span := finished (started settings name attributes) body
    ⟨if settings.enabled then [span] else [],match body with
      | .success => none
      | .raised exception => some (.body exception)⟩
  else ⟨[],some (.valueError ("unsupported telemetry operation: " ++ name))⟩

section Filter
variable {settings : TelemetrySettings} {attributes others : Attributes} {key : String} {value : Value}

theorem set_rows_apart (rows : List (String × Value)) (dict : Attributes) (absent : key ∉ rows.map Prod.fst) :
    get (rows.foldl (fun safe row => Dict.set safe row.1 row.2) dict) key = get dict key := by
  induction rows generalizing dict with
  | nil => rfl
  | cons row rest ih =>
    rw [List.map_cons,List.mem_cons,not_or] at absent
    rw [List.foldl_cons,ih _ absent.2,get_set,if_neg absent.1]

theorem set_rows_mem (rows : List (String × Value)) (dict : Attributes) (unique : (rows.map Prod.fst).Nodup)
    (member : (key,value) ∈ rows) :
    get (rows.foldl (fun safe row => Dict.set safe row.1 row.2) dict) key = some value := by
  induction rows generalizing dict with
  | nil => cases member
  | cons row rest ih =>
    rw [List.map_cons,List.nodup_cons] at unique
    rw [List.foldl_cons]
    rcases List.mem_cons.mp member with rfl | later
    · rw [set_rows_apart rest _ unique.1,get_set_self]
    · exact ih _ unique.2 later

theorem get_safe (settings : TelemetrySettings) (attributes : Attributes) (key : String) (value : Value) :
    get (safeAttributes settings attributes) key = some value ↔
      get attributes key = some value ∧ withheld settings key = false ∧ value.recordable = true := by
  have unique : ((attributes.rows.filter fun row => !withheld settings row.1 && row.2.recordable).map Prod.fst).Nodup :=
    attributes.unique.sublist (List.filter_sublist.map Prod.fst)
  have kept : ∀ value, (key,value) ∈ attributes.rows.filter (fun row => !withheld settings row.1 && row.2.recordable) ↔
      get attributes key = some value ∧ withheld settings key = false ∧ value.recordable = true := by
    intro value
    rw [List.mem_filter,← get_row,Bool.and_eq_true,Bool.not_eq_true']
  rw [← kept]
  constructor
  · intro found
    by_cases listed : key ∈ (attributes.rows.filter fun row => !withheld settings row.1 && row.2.recordable).map Prod.fst
    · obtain ⟨⟨_,stored⟩,member,rfl⟩ := List.mem_map.mp listed
      rw [safeAttributes,set_rows_mem _ _ unique member] at found
      cases Option.some.inj found
      exact member
    · rw [safeAttributes,set_rows_apart _ _ listed] at found
      cases found
  · exact set_rows_mem _ _ unique

theorem safe_agree (silent : settings.captureContent = false)
    (agree : ∀ key, sensitiveKey key = false ∨ endsWith key ".digest" = true → get attributes key = get others key)
    (key : String) : get (safeAttributes settings attributes) key = get (safeAttributes settings others) key := by
  refine Option.ext fun value => ?_
  rw [get_safe,get_safe]
  by_cases shown : sensitiveKey key = false ∨ endsWith key ".digest" = true
  · rw [agree key shown]
  · rw [not_or,Bool.not_eq_false,Bool.not_eq_true] at shown
    have hidden : withheld settings key = true := by rw [withheld,shown.1,shown.2,silent]; rfl
    simp [hidden]

end Filter

structure SameContent (s t : Span) : Prop where
  name : s.name = t.name
  attributes : ∀ key, get s.attributes key = get t.attributes key
  events : s.events = t.events

inductive SameEnd : Outcome → Outcome → Prop where
  | success : SameEnd .success .success
  | raised {e f : BodyException} : e.typeName = f.typeName → SameEnd (.raised e) (.raised f)

inductive SameText : Outcome → Outcome → Prop where
  | success : SameText .success .success
  | raised {e f : BodyException} : e.message = f.message → e.stacktrace = f.stacktrace →
      SameText (.raised e) (.raised f)

section Spans
variable {s t : Span} {left right : Outcome}

theorem get_setAttribute (span : Span) (name value key : String) :
    get (span.setAttribute name value).attributes key =
      if key = name then some (.plain (.str value)) else get span.attributes key := get_set _ _ _ _

theorem finished_attributes (same : ∀ key, get s.attributes key = get t.attributes key) (ends : SameEnd left right)
    (key : String) : get (finished s left).attributes key = get (finished t right).attributes key := by
  cases ends with
  | success =>
    rw [finished,finished,get_setAttribute,get_setAttribute,same]
  | @raised e f _ =>
    show get (Span.setAttribute _ _ _).attributes key = get (Span.setAttribute _ _ _).attributes key
    rw [get_setAttribute,get_setAttribute]
    show (if _ then _ else get s.attributes key) = (if _ then _ else get t.attributes key)
    rw [same]

theorem finished_events (same : s.events = t.events) (ends : SameEnd left right) :
    (finished s left).events = (finished t right).events ↔ SameText left right := by
  cases ends with
  | success => exact iff_of_true same .success
  | @raised e f types =>
    constructor
    · intro equal
      obtain ⟨explicit,leaving⟩ := List.append_inj' equal rfl
      obtain ⟨_,first⟩ := List.append_inj' explicit rfl
      have own := congrArg Event.attributes (List.singleton_inj.mp first)
      have default_ := congrArg Event.attributes (List.singleton_inj.mp leaving)
      have messages := congrArg (fun d => Dict.get d "exception.message") default_
      have inner := congrArg (fun d => Dict.get d "exception.stacktrace") own
      have outer := congrArg (fun d => Dict.get d "exception.stacktrace") default_
      simp [get_set] at messages inner outer
      refine .raised messages (funext fun recording => ?_)
      cases recording with
      | explicit => exact inner
      | leaving => exact outer
    · rintro ⟨⟩
      rename_i messages traces
      simp only [finished,Span.recordException,Span.setAttribute,types,messages,traces,same]

end Spans

theorem operation_silent_iff {settings : TelemetrySettings} (silent : settings.captureContent = false) (name : String)
    {attributes others : Attributes}
    (agree : ∀ key, sensitiveKey key = false ∨ endsWith key ".digest" = true → get attributes key = get others key)
    {left right : Outcome} (ends : SameEnd left right) :
    List.Forall₂ SameContent (operation settings name attributes left).exported
        (operation settings name others right).exported ↔
      settings.enabled = false ∨ name ∉ allowedOperations ∨ SameText left right := by
  by_cases allowed : name ∈ allowedOperations
  swap
  · simp only [operation,if_neg allowed]
    exact iff_of_true .nil (.inr (.inl allowed))
  simp only [operation,if_pos allowed]
  cases enabled : settings.enabled with
  | false => exact iff_of_true .nil (.inl rfl)
  | true =>
    have same : ∀ key, get (started settings name attributes).attributes key =
        get (started settings name others).attributes key := by
      intro key
      rw [started,started,get_set,get_set,safe_agree silent agree]
    have events := finished_events (s := started settings name attributes) (t := started settings name others) rfl ends
    have named : (finished (started settings name attributes) left).name =
        (finished (started settings name others) right).name := by
      cases ends <;> rfl
    rw [or_iff_right Bool.noConfusion,or_iff_right (not_not.mpr allowed),← events]
    constructor
    · intro exported
      cases exported with
      | cons content _ => exact content.events
    · intro equal
      exact .cons ⟨named,finished_attributes same ends,equal⟩ .nil

def prompted (text : String) : Attributes := Dict.set Table.empty "prompt" (.plain (.str text))

theorem operation_silent_iff_prompted : List.Forall₂ SameContent
    (operation ⟨true,false⟩ "llm" (prompted "private") .success).exported
    (operation ⟨true,false⟩ "llm" (prompted "public") .success).exported := by
  refine (operation_silent_iff rfl "llm" (fun key shown => ?_) .success).mpr (.inr (.inr .success))
  by_cases here : key = "prompt"
  · subst here
    exact absurd shown (by decide +kernel)
  · rw [prompted,prompted,get_set,get_set,if_neg here,if_neg here]

def runtimeError (message : String) : BodyException :=
  ⟨"RuntimeError",message,fun _ => "Traceback (most recent call last):\nRuntimeError: " ++ message ++ "\n"⟩

theorem message_exported : ¬ ∀ (settings : TelemetrySettings), settings.captureContent = false → ∀ (name : String)
    (attributes others : Attributes),
    (∀ key, sensitiveKey key = false ∨ endsWith key ".digest" = true → get attributes key = get others key) →
    ∀ left right, SameEnd left right → List.Forall₂ SameContent (operation settings name attributes left).exported
      (operation settings name others right).exported := by
  intro silent
  have same := silent ⟨true,false⟩ rfl "factory" Table.empty Table.empty (fun _ _ => rfl)
    (.raised (runtimeError "customer secret")) (.raised (runtimeError "order 17")) (.raised rfl)
  cases same with
  | cons content _ =>
    have messages := congrArg (List.map fun event => get event.attributes "exception.message") content.events
    revert messages
    decide +kernel

end OpenModelOps.Telemetry
