import OpenModelOps.IntegrationEvaluation
import OpenModelOps.ReviewPages

namespace OpenModelOps.ReviewGithub
open JsonText PythonText AriaIntelligence IntegrationHttp ReviewPages
open AriaScorecard (Floats)
open IntegrationEvaluation (integer)

-- What the client takes from the language: float(), and str() of a float, a list
-- or a dict.
structure Builtins where
  floats : Floats
  shown : Json Number → Option Text

def str (builtins : Builtins) : Json Number → Except Raised Text
  | .null => .ok (text "None")
  | .bool b => .ok (text (if b then "True" else "False"))
  | .num (.int n) => if n.natAbs < 10 ^ maxStrDigits then .ok (intText n) else .error .conversionError
  | .str t => .ok t
  | value => match builtins.shown value with
    | none => .error .conversionError
    | some t => .ok t

-- value.get(name, default).
def get (value : Json Number) (name : String) (default : Json Number) : Except Raised (Json Number) :=
  match value with
  | .obj fields => .ok ((field fields (text name)).getD default)
  | _ => .error .attributeError

-- value or other.
def either (value other : Json Number) : Json Number := if truthy (some value) then value else other

-- int(item["id"]).
def idOf (builtins : Builtins) (item : Fields) : Except Raised Int :=
  match field item (text "id") with
  | none => .error .keyError
  | some value => match integer builtins.floats value with
    | none => .error .conversionError
    | some n => .ok n

structure ReviewSummary where
  reviewId : Int
  reviewer : Text
  state : Text
  body : Text
  url : Text

-- The line is any value.
structure InlineComment where
  commentId : Int
  reviewer : Text
  path : Text
  line : Json Number
  body : Text
  url : Text

structure SecurityFinding where
  source : String
  alertId : Text
  severity : Text
  path : Text
  summary : Text
  url : Text

structure ReviewReport where
  summaries : List ReviewSummary
  comments : List InlineComment

-- str(item.get("user", {}).get("login", "unknown")).
def reviewerOf (builtins : Builtins) (item : Fields) : Except Raised Text := do
  let user ← get (.obj item) "user" (.obj [])
  str builtins (← get user "login" (.str (text "unknown")))

-- str(item.get(name) or "").
def textOf (builtins : Builtins) (item : Fields) (name : String) : Except Raised Text := do
  str builtins (either (← get (.obj item) name .null) (.str []))

def summaryOf (builtins : Builtins) (item : Fields) : Except Raised ReviewSummary := do
  let reviewId ← idOf builtins item
  let reviewer ← reviewerOf builtins item
  let state ← str builtins (← get (.obj item) "state" (.str (text "PENDING")))
  let body ← textOf builtins item "body"
  let url ← textOf builtins item "html_url"
  return ⟨reviewId,reviewer,state,body,url⟩

def commentOf (builtins : Builtins) (item : Fields) : Except Raised InlineComment := do
  let commentId ← idOf builtins item
  let reviewer ← reviewerOf builtins item
  let path ← textOf builtins item "path"
  let line := either (← get (.obj item) "line" .null) (← get (.obj item) "original_line" .null)
  let body ← textOf builtins item "body"
  let url ← textOf builtins item "html_url"
  return ⟨commentId,reviewer,path,line,body,url⟩

def dependabotFinding (builtins : Builtins) (item : Fields) : Except Raised SecurityFinding := do
  let advisory := either (← get (.obj item) "security_advisory" .null) (.obj [])
  let dependency := either (← get (.obj item) "dependency" .null) (.obj [])
  let alertId ← str builtins (← get (.obj item) "number" (.str (text "unknown")))
  let severity ← str builtins (← get advisory "severity" (.str (text "unknown")))
  let path ← str builtins (← get dependency "manifest_path" (.str []))
  let summary ← str builtins (← get advisory "summary" (.str (text "Dependency alert")))
  let url ← str builtins (← get (.obj item) "html_url" (.str []))
  return ⟨"dependabot",alertId,severity,path,summary,url⟩

def codeScanningFinding (builtins : Builtins) (item : Fields) : Except Raised SecurityFinding := do
  let rule := either (← get (.obj item) "rule" .null) (.obj [])
  let location ← get (← get (.obj item) "most_recent_instance" (.obj [])) "location" (.obj [])
  let alertId ← str builtins (← get (.obj item) "number" (.str (text "unknown")))
  let level ← get rule "security_severity_level" .null
  let severity ← str builtins (either level (← get rule "severity" (.str (text "unknown"))))
  let path ← str builtins (← get location "path" (.str []))
  let summary ← str builtins (← get rule "description" (.str (text "Code scanning alert")))
  let url ← str builtins (← get (.obj item) "html_url" (.str []))
  return ⟨"codeql",alertId,severity,path,summary,url⟩

abbrev PullNumber := {n : Int // n.natAbs < 10 ^ maxStrDigits}

structure Session where
  builtins : Builtins
  client : GitHubReviewClient
  transport : Transport
  depth : Nat

def Session.allPages (session : Session) (url : String) : Except Raised (List Fields) :=
  (session.client.allPages session.depth session.transport url).result

def Session.root (session : Session) (owner repo : String) : String :=
  session.client.baseUrl ++ "/repos/" ++ owner ++ "/" ++ repo

def Session.pullRoot (session : Session) (owner repo : String) (pullNumber : PullNumber) : String :=
  session.root owner repo ++ "/pulls/" ++ toString pullNumber.val

def Session.fetchReport (session : Session) (owner repo : String) (pullNumber : PullNumber) :
    Except Raised ReviewReport := do
  let reviews ← session.allPages (session.pullRoot owner repo pullNumber ++ "/reviews")
  let comments ← session.allPages (session.pullRoot owner repo pullNumber ++ "/comments")
  return ⟨← reviews.mapM (summaryOf session.builtins),← comments.mapM (commentOf session.builtins)⟩

def Session.fetchSecurityFindings (session : Session) (owner repo : String) (changedPaths : List Text) (scope : String) :
    Except Raised (List SecurityFinding) := do
  if scope ≠ "diff" ∧ scope ≠ "repo" then throw (.valueError "security scope must be diff or repo")
  let dependabot ← session.allPages (session.root owner repo ++ "/dependabot/alerts?state=open")
  let codeScanning ← session.allPages (session.root owner repo ++ "/code-scanning/alerts?state=open")
  let findings := (← dependabot.mapM (dependabotFinding session.builtins)) ++
    (← codeScanning.mapM (codeScanningFinding session.builtins))
  return if scope = "diff" then findings.filter fun finding => changedPaths.contains finding.path else findings

def Slot (typed : Json Number → Prop) (fields : Fields) (name : String) : Prop :=
  ∀ value, field fields (text name) = some value → value = .null ∨ typed value

def IsText (value : Json Number) : Prop := ∃ t, value = .str t

def IsInt (value : Json Number) : Prop := ∃ n : Int, n.natAbs < 10 ^ maxStrDigits ∧ value = .num (.int n)

def IsObject (documented : Fields → Prop) (value : Json Number) : Prop := ∃ fields, value = .obj fields ∧ documented fields

def Texts (names : List String) (fields : Fields) : Prop := ∀ name ∈ names, Slot IsText fields name

structure ReviewObject (item : Fields) : Prop where
  id : ∃ n, field item (text "id") = some (.num (.int n))
  user : Slot (IsObject (Texts ["login"])) item "user"
  texts : Texts ["state","body","html_url"] item

structure CommentObject (item : Fields) : Prop where
  id : ∃ n, field item (text "id") = some (.num (.int n))
  user : Slot (IsObject (Texts ["login"])) item "user"
  texts : Texts ["path","body","html_url"] item
  line : Slot IsInt item "line"
  originalLine : Slot IsInt item "original_line"

structure DependabotAlert (item : Fields) : Prop where
  number : Slot IsInt item "number"
  advisory : Slot (IsObject (Texts ["severity","summary"])) item "security_advisory"
  dependency : Slot (IsObject (Texts ["manifest_path"])) item "dependency"
  texts : Texts ["html_url"] item

structure CodeScanningAlert (item : Fields) : Prop where
  number : Slot IsInt item "number"
  rule : Slot (IsObject (Texts ["security_severity_level","severity","description"])) item "rule"
  instance_ : Slot (IsObject fun found => Slot (IsObject (Texts ["path"])) found "location") item "most_recent_instance"
  texts : Texts ["html_url"] item

structure Collections where
  reviews : List Fields
  comments : List Fields
  dependabot : List Fields
  codeScanning : List Fields

structure Documented (collections : Collections) : Prop where
  reviews : ∀ item ∈ collections.reviews, ReviewObject item
  comments : ∀ item ∈ collections.comments, CommentObject item
  dependabot : ∀ item ∈ collections.dependabot, DependabotAlert item
  codeScanning : ∀ item ∈ collections.codeScanning, CodeScanningAlert item

def Attributed (item : Fields) : Prop := field item (text "user") ≠ some .null

def Located (item : Fields) : Prop := field item (text "most_recent_instance") ≠ some .null ∧
  ∀ found, field item (text "most_recent_instance") = some (.obj found) → field found (text "location") ≠ some .null

variable {builtins : Builtins} {item fields : Fields} {value other : Json Number} {name : String}

def Spelled (value : Json Number) : Prop := value = .null ∨ IsText value ∨ IsInt value

theorem str_spelled (builtins : Builtins) (spelled : Spelled value) : ∃ t, str builtins value = .ok t := by
  rcases spelled with rfl | ⟨t,rfl⟩ | ⟨n,short,rfl⟩
  · exact ⟨_,rfl⟩
  · exact ⟨t,rfl⟩
  · exact ⟨intText n,by simp only [str,if_pos short]⟩

theorem Spelled.text (s : String) : Spelled (.str (JsonText.text s)) := .inr (.inl ⟨_,rfl⟩)

theorem slot_getD {typed : Json Number → Prop} (slot : Slot typed fields name) (default : Json Number) :
    (field fields (text name)).getD default = default ∨ (field fields (text name)).getD default = .null ∨
      typed ((field fields (text name)).getD default) := by
  cases found : field fields (text name) with
  | none => exact .inl rfl
  | some value => exact .inr (slot value found)

theorem Spelled.getD (slot : Slot IsText fields name ∨ Slot IsInt fields name) {default : Json Number}
    (spelled : Spelled default) : Spelled ((field fields (JsonText.text name)).getD default) := by
  rcases slot with slot | slot
  · rcases slot_getD slot default with same | null | typed
    · rw [same]; exact spelled
    · rw [null]; exact .inl rfl
    · exact .inr (.inl typed)
  · rcases slot_getD slot default with same | null | typed
    · rw [same]; exact spelled
    · rw [null]; exact .inl rfl
    · exact .inr (.inr typed)

theorem Spelled.either (left : Spelled value) (right : Spelled other) : Spelled (either value other) := by
  unfold ReviewGithub.either
  split
  · exact left
  · exact right

theorem either_object {documented : Fields → Prop} (slot : Slot (IsObject documented) fields name) (empty : documented []) :
    ∃ inner, either ((field fields (text name)).getD .null) (.obj []) = .obj inner ∧ documented inner := by
  rcases slot_getD slot .null with same | same | ⟨inner,same,typed⟩
  · rw [same]
    exact ⟨[],rfl,empty⟩
  · rw [same]
    exact ⟨[],rfl,empty⟩
  · rw [same,either]
    split
    · exact ⟨inner,rfl,typed⟩
    · exact ⟨[],rfl,empty⟩

theorem default_object {documented : Fields → Prop} (slot : Slot (IsObject documented) fields name) (empty : documented [])
    (present : field fields (text name) ≠ some .null) :
    ∃ inner, (field fields (text name)).getD (.obj []) = .obj inner ∧ documented inner := by
  cases found : field fields (text name) with
  | none => exact ⟨[],rfl,empty⟩
  | some value =>
    rcases slot value found with rfl | ⟨inner,rfl,typed⟩
    · exact absurd found present
    · exact ⟨inner,rfl,typed⟩

theorem Texts.empty (names : List String) : Texts names [] := fun _ _ _ found => by cases found

theorem idOf_int {n : Int} (id : field item (text "id") = some (.num (.int n))) : idOf builtins item = .ok n := by
  rw [idOf,id]
  rfl

theorem get_obj (fields : Fields) (name : String) (default : Json Number) :
    get (.obj fields) name default = .ok ((field fields (text name)).getD default) := rfl

theorem textOf_ok (builtins : Builtins) (slot : Slot IsText item name) : ∃ t, textOf builtins item name = .ok t := by
  have spelled : Spelled (either ((field item (text name)).getD .null) (.str [])) :=
    .either (.getD (.inl slot) (.inl rfl)) (.inr (.inl ⟨[],rfl⟩))
  exact str_spelled builtins spelled

theorem reviewerOf_ok (builtins : Builtins) (user : Slot (IsObject (Texts ["login"])) item "user") (attributed : Attributed item) :
    ∃ t, reviewerOf builtins item = .ok t := by
  obtain ⟨inner,same,texts⟩ := default_object user (.empty _) attributed
  unfold reviewerOf
  rw [get_obj,same]
  exact str_spelled builtins (.getD (.inl (texts "login" List.mem_cons_self)) (.text "unknown"))

theorem reviewerOf_null (null : ¬ Attributed item) : reviewerOf builtins item = .error .attributeError := by
  have found : field item (text "user") = some .null := not_not.mp null
  unfold reviewerOf
  rw [get_obj,found]
  rfl

theorem getD_ok (builtins : Builtins) (slot : Slot IsText fields name) (default : String) :
    ∃ t, str builtins ((field fields (text name)).getD (.str (text default))) = .ok t :=
  str_spelled builtins (.getD (.inl slot) (.text default))

theorem number_ok (builtins : Builtins) (slot : Slot IsInt fields name) (default : String) :
    ∃ t, str builtins ((field fields (text name)).getD (.str (text default))) = .ok t :=
  str_spelled builtins (.getD (.inr slot) (.text default))

theorem summaryOf_ok (builtins : Builtins) (review : ReviewObject item) (attributed : Attributed item) :
    ∃ summary, summaryOf builtins item = .ok summary ∧ field item (text "id") = some (.num (.int summary.reviewId)) := by
  obtain ⟨n,id⟩ := review.id
  obtain ⟨reviewer,first⟩ := reviewerOf_ok builtins review.user attributed
  obtain ⟨state,second⟩ := getD_ok builtins (review.texts "state" (by simp)) "PENDING"
  obtain ⟨body,third⟩ := textOf_ok builtins (review.texts "body" (by simp))
  obtain ⟨url,fourth⟩ := textOf_ok builtins (review.texts "html_url" (by simp))
  refine ⟨⟨n,reviewer,state,body,url⟩,?_,id⟩
  simp only [summaryOf,idOf_int id,get_obj,first,second,third,fourth,bind,Except.bind]
  rfl

theorem commentOf_ok (builtins : Builtins) (comment : CommentObject item) (attributed : Attributed item) :
    ∃ record, commentOf builtins item = .ok record ∧ field item (text "id") = some (.num (.int record.commentId)) := by
  obtain ⟨n,id⟩ := comment.id
  obtain ⟨reviewer,first⟩ := reviewerOf_ok builtins comment.user attributed
  obtain ⟨path,second⟩ := textOf_ok builtins (comment.texts "path" (by simp))
  obtain ⟨body,third⟩ := textOf_ok builtins (comment.texts "body" (by simp))
  obtain ⟨url,fourth⟩ := textOf_ok builtins (comment.texts "html_url" (by simp))
  refine ⟨⟨n,reviewer,path,either ((field item (text "line")).getD .null)
    ((field item (text "original_line")).getD .null),body,url⟩,?_,id⟩
  simp only [commentOf,idOf_int id,get_obj,first,second,third,fourth,bind,Except.bind]
  rfl

theorem dependabotFinding_ok (builtins : Builtins) (alert : DependabotAlert item) :
    ∃ finding, dependabotFinding builtins item = .ok finding := by
  obtain ⟨advisory,read,advised⟩ := either_object alert.advisory (.empty _)
  obtain ⟨dependency,found,located⟩ := either_object alert.dependency (.empty _)
  obtain ⟨alertId,first⟩ := number_ok builtins alert.number "unknown"
  obtain ⟨severity,second⟩ := getD_ok builtins (advised "severity" (by simp)) "unknown"
  obtain ⟨path,third⟩ := getD_ok builtins (located "manifest_path" (by simp)) ""
  obtain ⟨summary,fourth⟩ := getD_ok builtins (advised "summary" (by simp)) "Dependency alert"
  obtain ⟨url,fifth⟩ := getD_ok builtins (alert.texts "html_url" (by simp)) ""
  refine ⟨⟨"dependabot",alertId,severity,path,summary,url⟩,?_⟩
  have empty : ([] : Text) = text "" := rfl
  simp only [dependabotFinding,get_obj,read,found,first,second,third,fourth,fifth,empty,bind,Except.bind]
  rfl

theorem codeScanningFinding_ok (builtins : Builtins) (alert : CodeScanningAlert item) (located : Located item) :
    ∃ finding, codeScanningFinding builtins item = .ok finding := by
  obtain ⟨rule,read,ruled⟩ := either_object alert.rule (.empty _)
  obtain ⟨found,seen,inside⟩ := default_object alert.instance_ (fun _ absent => by cases absent) located.1
  have placed : field found (text "location") ≠ some .null := by
    intro null
    cases given : field item (text "most_recent_instance") with
    | none =>
      rw [given] at seen
      cases seen
      cases null
    | some value =>
      rw [given] at seen
      cases seen
      exact located.2 found given null
  obtain ⟨location,there,texts⟩ := default_object inside (.empty _) placed
  obtain ⟨alertId,first⟩ := number_ok builtins alert.number "unknown"
  obtain ⟨severity,second⟩ := str_spelled builtins (.either (.getD (.inl (ruled "security_severity_level" (by simp))) (.inl rfl))
    (.getD (.inl (ruled "severity" (by simp))) (.text "unknown")))
  obtain ⟨path,third⟩ := getD_ok builtins (texts "path" (by simp)) ""
  obtain ⟨summary,fourth⟩ := getD_ok builtins (ruled "description" (by simp)) "Code scanning alert"
  obtain ⟨url,fifth⟩ := getD_ok builtins (alert.texts "html_url" (by simp)) ""
  refine ⟨⟨"codeql",alertId,severity,path,summary,url⟩,?_⟩
  have empty : ([] : Text) = text "" := rfl
  simp only [codeScanningFinding,get_obj,read,seen,there,first,second,third,fourth,fifth,empty,bind,Except.bind]
  rfl

theorem summaryOf_null (builtins : Builtins) (review : ReviewObject item) (null : ¬ Attributed item) :
    summaryOf builtins item = .error .attributeError := by
  obtain ⟨n,id⟩ := review.id
  rw [summaryOf,idOf_int id,reviewerOf_null null]
  rfl

theorem commentOf_null (builtins : Builtins) (comment : CommentObject item) (null : ¬ Attributed item) :
    commentOf builtins item = .error .attributeError := by
  obtain ⟨n,id⟩ := comment.id
  rw [commentOf,idOf_int id,reviewerOf_null null]
  rfl

theorem codeScanningFinding_null (builtins : Builtins) (alert : CodeScanningAlert item) (null : ¬ Located item) :
    codeScanningFinding builtins item = .error .attributeError := by
  obtain ⟨rule,read,ruled⟩ := either_object alert.rule (.empty _)
  obtain ⟨alertId,first⟩ := number_ok builtins alert.number "unknown"
  obtain ⟨severity,second⟩ := str_spelled builtins (.either (.getD (.inl (ruled "security_severity_level" (by simp))) (.inl rfl))
    (.getD (.inl (ruled "severity" (by simp))) (.text "unknown")))
  by_cases missing : field item (text "most_recent_instance") = some .null
  · simp only [codeScanningFinding,get_obj,read,missing,bind,Except.bind]
    rfl
  · have deeper : ∃ found, field item (text "most_recent_instance") = some (.obj found) ∧
        field found (text "location") = some .null := by
      by_contra none
      apply null
      refine ⟨missing,?_⟩
      intro found given absent
      exact none ⟨found,given,absent⟩
    obtain ⟨found,given,absent⟩ := deeper
    simp only [codeScanningFinding,get_obj,read,given,absent,Option.getD_some,first,second,bind,Except.bind]
    rfl

variable {session : Session} {owner repo : String} {pullNumber : PullNumber} {changedPaths : List Text}
  {collections : Collections}

structure Serving (session : Session) (owner repo : String) (pullNumber : PullNumber) (collections : Collections) :
    Prop where
  reviews : Serves (session.client.fetch session.depth session.transport)
    (session.pullRoot owner repo pullNumber ++ "/reviews") collections.reviews
  comments : Serves (session.client.fetch session.depth session.transport)
    (session.pullRoot owner repo pullNumber ++ "/comments") collections.comments
  dependabot : Serves (session.client.fetch session.depth session.transport)
    (session.root owner repo ++ "/dependabot/alerts?state=open") collections.dependabot
  codeScanning : Serves (session.client.fetch session.depth session.transport)
    (session.root owner repo ++ "/code-scanning/alerts?state=open") collections.codeScanning

structure Fetched (session : Session) (owner repo : String) (pullNumber : PullNumber) (changedPaths : List Text)
    (collections : Collections) : Prop where
  report : ∃ report, session.fetchReport owner repo pullNumber = .ok report ∧
    List.Forall₂ (fun item summary => summaryOf session.builtins item = .ok summary ∧
      field item (text "id") = some (.num (.int summary.reviewId))) collections.reviews report.summaries ∧
    List.Forall₂ (fun item comment => commentOf session.builtins item = .ok comment ∧
      field item (text "id") = some (.num (.int comment.commentId))) collections.comments report.comments
  findings : ∃ dependabot codeScanning,
    List.Forall₂ (fun item finding => dependabotFinding session.builtins item = .ok finding) collections.dependabot
      dependabot ∧
    List.Forall₂ (fun item finding => codeScanningFinding session.builtins item = .ok finding) collections.codeScanning
      codeScanning ∧
    session.fetchSecurityFindings owner repo changedPaths "repo" = .ok (dependabot ++ codeScanning) ∧
    session.fetchSecurityFindings owner repo changedPaths "diff" =
      .ok ((dependabot ++ codeScanning).filter fun finding => changedPaths.contains finding.path)

structure Readable (collections : Collections) : Prop where
  reviews : ∀ item ∈ collections.reviews, Attributed item
  comments : ∀ item ∈ collections.comments, Attributed item
  codeScanning : ∀ item ∈ collections.codeScanning, Located item
  paged : collections.reviews.length < 10000 ∧ collections.comments.length < 10000 ∧
    collections.dependabot.length < 10000 ∧ collections.codeScanning.length < 10000

theorem allPages_ok {url : String} {items found : List Fields}
    (serves : Serves (session.client.fetch session.depth session.transport) url items)
    (listed : session.allPages url = .ok found) : items.length < 10000 ∧ found = items := by
  have result := allPages_result serves
  rw [Session.allPages,result] at listed
  split at listed
  · rename_i paged
    exact ⟨paged,(Except.ok.inj listed).symm⟩
  · cases listed

theorem allPages_paged {url : String} {items : List Fields}
    (serves : Serves (session.client.fetch session.depth session.transport) url items) (paged : items.length < 10000) :
    session.allPages url = .ok items := by
  rw [Session.allPages,allPages_result serves,if_pos paged]

theorem mapM_records {α : Type} {make : Fields → Except Raised α} {Record : Fields → α → Prop} {items : List Fields}
    (each : ∀ item ∈ items, ∃ record, make item = .ok record ∧ Record item record) :
    ∃ records, items.mapM make = .ok records ∧
      List.Forall₂ (fun item record => make item = .ok record ∧ Record item record) items records := by
  obtain ⟨records,made⟩ := Raising.mapM_total (f := make) fun item member => by
    obtain ⟨record,done,_⟩ := each item member
    exact ⟨record,done⟩
  refine ⟨records,made,?_⟩
  have related := Raising.mapM_ok.mp made
  rw [List.forall₂_iff_zip] at related ⊢
  refine ⟨related.1,fun inside => ?_⟩
  have done := related.2 inside
  obtain ⟨record,again,holds⟩ := each _ (List.of_mem_zip inside).1
  cases Except.ok.inj (done.symm.trans again)
  exact ⟨done,holds⟩

theorem readable_fetched (serving : Serving session owner repo pullNumber collections) (documented : Documented collections)
    (readable : Readable collections) : Fetched session owner repo pullNumber changedPaths collections := by
  obtain ⟨reviews,comments,dependabot,codeScanning⟩ := readable.paged
  obtain ⟨summaries,first,summarized⟩ := mapM_records fun item member =>
    summaryOf_ok session.builtins (documented.reviews item member) (readable.reviews item member)
  obtain ⟨records,second,commented⟩ := mapM_records fun item member =>
    commentOf_ok session.builtins (documented.comments item member) (readable.comments item member)
  obtain ⟨advised,third⟩ := Raising.mapM_total fun item member =>
    dependabotFinding_ok session.builtins (documented.dependabot item member)
  obtain ⟨scanned,fourth⟩ := Raising.mapM_total fun item member =>
    codeScanningFinding_ok session.builtins (documented.codeScanning item member) (readable.codeScanning item member)
  constructor
  · refine ⟨⟨summaries,records⟩,?_,summarized,commented⟩
    rw [Session.fetchReport,allPages_paged serving.reviews reviews,allPages_paged serving.comments comments]
    simp only [first,second,bind,Except.bind]
    rfl
  · refine ⟨advised,scanned,Raising.mapM_ok.mp third,Raising.mapM_ok.mp fourth,?_,?_⟩
    all_goals
      rw [Session.fetchSecurityFindings,if_neg (by decide),allPages_paged serving.dependabot dependabot,
        allPages_paged serving.codeScanning codeScanning]
      simp only [third,fourth,bind,Except.bind]
      rfl

theorem fetchReport_paged (serving : Serving session owner repo pullNumber collections)
    (fetched : session.fetchReport owner repo pullNumber = .ok report) :
    collections.reviews.length < 10000 ∧ collections.comments.length < 10000 := by
  obtain ⟨reviews,first,fetched⟩ := Raising.bind_ok fetched
  obtain ⟨comments,second,_⟩ := Raising.bind_ok fetched
  exact ⟨(allPages_ok serving.reviews first).1,(allPages_ok serving.comments second).1⟩

theorem fetchSecurityFindings_paged (serving : Serving session owner repo pullNumber collections)
    (fetched : session.fetchSecurityFindings owner repo changedPaths "repo" = .ok findings) :
    collections.dependabot.length < 10000 ∧ collections.codeScanning.length < 10000 := by
  rw [Session.fetchSecurityFindings,if_neg (by decide)] at fetched
  obtain ⟨dependabot,first,fetched⟩ := Raising.bind_ok fetched
  obtain ⟨codeScanning,second,_⟩ := Raising.bind_ok fetched
  exact ⟨(allPages_ok serving.dependabot first).1,(allPages_ok serving.codeScanning second).1⟩

theorem fetched_readable (serving : Serving session owner repo pullNumber collections) (documented : Documented collections)
    (fetched : Fetched session owner repo pullNumber changedPaths collections) : Readable collections := by
  obtain ⟨report,reported,summarized,commented⟩ := fetched.report
  obtain ⟨dependabot,codeScanning,_,scanned,found,_⟩ := fetched.findings
  obtain ⟨reviews,comments⟩ := fetchReport_paged serving reported
  obtain ⟨advisories,alerts⟩ := fetchSecurityFindings_paged serving found
  refine ⟨?_,?_,?_,reviews,comments,advisories,alerts⟩
  · intro item member
    by_contra null
    obtain ⟨summary,_,made,_⟩ := Raising.related_left summarized member
    rw [summaryOf_null session.builtins (documented.reviews item member) null] at made
    cases made
  · intro item member
    by_contra null
    obtain ⟨comment,_,made,_⟩ := Raising.related_left commented member
    rw [commentOf_null session.builtins (documented.comments item member) null] at made
    cases made
  · intro item member
    by_contra null
    obtain ⟨finding,_,made⟩ := Raising.related_left scanned member
    rw [codeScanningFinding_null session.builtins (documented.codeScanning item member) null] at made
    cases made

-- Two of the four converters read a field of what may be null.
theorem fetch_reads_iff (session : Session) (owner repo : String) (pullNumber : PullNumber) (changedPaths : List Text)
    (collections : Collections) (serving : Serving session owner repo pullNumber collections)
    (documented : Documented collections) :
    Fetched session owner repo pullNumber changedPaths collections ↔ Readable collections :=
  ⟨fetched_readable serving documented,readable_fetched serving documented⟩

section Unlocated

def desk (url : String) (content : List UInt8) : Session :=
  ⟨⟨⟨fun _ => none,fun _ => .nan,fun _ => none⟩,fun _ => none⟩,octocat,single url content,10⟩

def deskRoot : String := octocat.baseUrl ++ "/repos/" ++ "org" ++ "/" ++ "repo"

theorem pageUrl_differ {path other : String} {c d : Char} {rest more : List Char} (root : String)
    (first : path.toList = '/' :: c :: rest) (second : other.toList = '/' :: d :: more) (differ : d ≠ c) (k j : Nat) :
    pageUrl (root ++ other) k ≠ pageUrl (root ++ path) j := by
  intro same
  have chars := congrArg String.toList same
  simp only [pageUrl,String.toList_append,List.append_assoc] at chars
  have tails := List.append_cancel_left chars
  rw [first,second] at tails
  exact differ (List.cons.inj (List.cons.inj tails).2).1

theorem single_elsewhere {url path other : String} {content : List UInt8} {c d : Char} {rest more : List Char}
    (root : url = deskRoot ++ path) (first : path.toList = '/' :: c :: rest) (second : other.toList = '/' :: d :: more)
    (differ : d ≠ c) : Serves (octocat.fetch 10 (single url content)) (deskRoot ++ other) [] := by
  rw [root]
  exact single_other fun k => pageUrl_differ deskRoot first second differ k 1

theorem single_pulls {url path : String} {content : List UInt8} {c : Char} {rest : List Char}
    (root : url = deskRoot ++ path) (first : path.toList = '/' :: c :: rest) (differ : 'p' ≠ c) (number leaf : String) :
    Serves (octocat.fetch 10 (single url content)) (deskRoot ++ "/pulls/" ++ number ++ leaf) [] := by
  have second : ("/pulls/" ++ (number ++ leaf)).toList = '/' :: 'p' :: ("ulls/".toList ++ (number ++ leaf).toList) :=
    String.toList_append
  rw [String.append_assoc,String.append_assoc]
  exact single_elsewhere root first second differ

def nine : PullNumber := ⟨9,by decide +kernel⟩

def emptyAlert : Collections := ⟨[],[],[[]],[]⟩

theorem emptyAlert_fetched :
    Fetched (desk alertsUrl [0x5b,0x7b,0x7d,0x5d]) "org" "repo" nine [] emptyAlert := by
  apply (fetch_reads_iff (desk alertsUrl [0x5b,0x7b,0x7d,0x5d]) "org" "repo" nine [] emptyAlert ?_ ?_).mpr
  · exact ⟨nofun,nofun,nofun,by decide⟩
  · have root : alertsUrl = deskRoot ++ "/dependabot/alerts?state=open" := by decide +kernel
    exact ⟨single_pulls root rfl (by decide) _ "/reviews",single_pulls root rfl (by decide) _ "/comments",
      single_serves rfl (by decide),single_elsewhere root rfl rfl (by decide)⟩
  · refine ⟨nofun,nofun,?_,nofun⟩
    intro item member
    rw [List.mem_singleton.mp member]
    exact ⟨nofun,nofun,nofun,.empty _⟩

def scanningUrl : String := "https://api.github.com/repos/org/repo/code-scanning/alerts?state=open"

def unlocated : Fields := [(text "most_recent_instance",.null)]

def unlocatedBytes : List UInt8 :=
  [0x5b,0x7b,0x22,0x6d,0x6f,0x73,0x74,0x5f,0x72,0x65,0x63,0x65,0x6e,0x74,0x5f,0x69,0x6e,0x73,0x74,0x61,0x6e,0x63,0x65,
    0x22,0x3a,0x6e,0x75,0x6c,0x6c,0x7d,0x5d]

def unlocatedAlert : Collections := ⟨[],[],[],[unlocated]⟩

theorem null_instance_raises : ¬ ∀ (session : Session) (owner repo : String) (pullNumber : PullNumber)
    (changedPaths : List Text) (collections : Collections), Serving session owner repo pullNumber collections →
      Documented collections → Fetched session owner repo pullNumber changedPaths collections := by
  intro all
  have root : scanningUrl = deskRoot ++ "/code-scanning/alerts?state=open" := by decide +kernel
  have serving : Serving (desk scanningUrl unlocatedBytes) "org" "repo" nine unlocatedAlert :=
    ⟨single_pulls root rfl (by decide) _ "/reviews",single_pulls root rfl (by decide) _ "/comments",
      single_elsewhere root rfl rfl (by decide),single_serves rfl (by decide)⟩
  have documented : Documented unlocatedAlert := by
    refine ⟨nofun,nofun,nofun,?_⟩
    intro item member
    rw [List.mem_singleton.mp member]
    refine ⟨nofun,nofun,?_,fun name listed => ?_⟩
    · intro value found
      exact .inl (Option.some.inj found).symm
    · rw [List.mem_singleton.mp listed]
      exact nofun
  have fetched := all _ _ _ _ [] _ serving documented
  exact ((fetched_readable serving documented fetched).codeScanning unlocated List.mem_cons_self).1 rfl

end Unlocated

end OpenModelOps.ReviewGithub
