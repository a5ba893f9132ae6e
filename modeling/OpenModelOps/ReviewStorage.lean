import OpenModelOps.JsonRecords
import OpenModelOps.PythonDatetime
import OpenModelOps.PythonInt
import OpenModelOps.ReviewService
import OpenModelOps.TableRecoding

namespace OpenModelOps.ReviewStorage
open JsonText KeyedTable PythonText PythonDatetime
open ReviewService (Pull ReviewSummary InlineComment SecurityFinding PullRequestReview ReviewStore)

-- The payload of ReviewStore.save.

def int (n : Int) : Json Number := .num (.int n)

def summaryFields (s : ReviewSummary) : List (Text × Json Number) :=
  [(text "review_id",int s.reviewId),(text "reviewer",str s.reviewer),(text "state",str s.state),(text "body",str s.body),
   (text "url",str s.url)]

def commentFields (c : InlineComment) : List (Text × Json Number) :=
  [(text "comment_id",int c.commentId),(text "reviewer",str c.reviewer),(text "path",str c.path),
   (text "line",.ofOption int c.line),(text "body",str c.body),(text "url",str c.url)]

def findingFields (f : SecurityFinding) : List (Text × Json Number) :=
  [(text "source",str f.source),(text "alert_id",str f.alertId),(text "severity",str f.severity),(text "path",str f.path),
   (text "summary",str f.summary),(text "url",str f.url)]

def approvalFields (approvals : Dict Int String) : List (Text × Json Number) :=
  approvals.rows.map fun row => (text (toString row.1),str row.2)

def documentFields (review : PullRequestReview) : List (Text × Json Number) :=
  [(text "owner",str review.owner),(text "repository",str review.repository),(text "pull_number",int review.pullNumber),
   (text "head_sha",str review.headSha),(text "base_branch",str review.baseBranch),
   (text "from_fork",.bool review.fromFork),(text "eligible_at_open",.bool review.eligibleAtOpen),
   (text "changed_paths",.arr (review.changedPaths.map str)),
   (text "summaries",.arr (review.summaries.map fun s => .obj (summaryFields s))),
   (text "inline_comments",.arr (review.inlineComments.map fun c => .obj (commentFields c))),
   (text "security_findings",.arr (review.securityFindings.map fun f => .obj (findingFields f))),
   (text "fetched_at",.ofOption (fun t => str (isoformat t)) review.fetchedAt),
   (text "approvals",.obj (approvalFields review.approvals))]

def document (review : PullRequestReview) : Json Number := .obj (documentFields review)

-- The names of the approvals are made with str(), which has the limit of
-- json.dumps; none is the ValueError of either.
def serialize (review : PullRequestReview) : Option Text :=
  if ∀ row ∈ review.approvals.rows, row.1.natAbs < 10 ^ maxStrDigits then plainDumps [0x2c] [0x3a] (document review)
  else none

-- What ReviewStore.get makes of it; none is an exception.

def summaryOf (v : Json Number) : Option ReviewSummary := do
  let fields ← v.asObject
  let reviewId ← item fields "review_id" Json.asInt
  let reviewer ← item fields "reviewer" Json.asString
  let state ← item fields "state" Json.asString
  let body ← item fields "body" Json.asString
  let url ← item fields "url" Json.asString
  if onlyKeys ["review_id","reviewer","state","body","url"] fields then return ⟨reviewId,reviewer,state,body,url⟩ else none

def commentOf (v : Json Number) : Option InlineComment := do
  let fields ← v.asObject
  let commentId ← item fields "comment_id" Json.asInt
  let reviewer ← item fields "reviewer" Json.asString
  let path ← item fields "path" Json.asString
  let line ← item fields "line" (Json.nullable Json.asInt)
  let body ← item fields "body" Json.asString
  let url ← item fields "url" Json.asString
  if onlyKeys ["comment_id","reviewer","path","line","body","url"] fields then
    return ⟨commentId,reviewer,path,line,body,url⟩
  else none

def findingOf (v : Json Number) : Option SecurityFinding := do
  let fields ← v.asObject
  let source ← item fields "source" Json.asString
  let alertId ← item fields "alert_id" Json.asString
  let severity ← item fields "severity" Json.asString
  let path ← item fields "path" Json.asString
  let summary ← item fields "summary" Json.asString
  let url ← item fields "url" Json.asString
  if onlyKeys ["source","alert_id","severity","path","summary","url"] fields then
    return ⟨source,alertId,severity,path,summary,url⟩
  else none

def listOf (read : Json Number → Option α) (v : Json Number) : Option (List α) := do
  (← v.asArray).mapM read

-- An empty text is no time.
def timeOf : Json Number → Option (Option Instant)
  | .null => some none
  | .str [] => some none
  | .str t => (fromisoformat t).map some
  | _ => none

def approvalsOf (v : Json Number) : Option (Dict Int String) := do
  return Dict.ofRows (← readItems (fun key => (untext key).bind parseInt) Json.asString (← v.asObject))

def reviewOf (v : Json Number) : Option PullRequestReview := do
  let data ← v.asObject
  let owner ← item data "owner" Json.asString
  let repository ← item data "repository" Json.asString
  let pullNumber ← item data "pull_number" Json.asInt
  let headSha ← item data "head_sha" Json.asString
  let baseBranch ← item data "base_branch" Json.asString
  let fromFork ← item data "from_fork" Json.asBool
  let eligibleAtOpen ← item data "eligible_at_open" Json.asBool
  let changedPaths ← itemOr data "changed_paths" [] (listOf Json.asString)
  let summaries ← itemOr data "summaries" [] (listOf summaryOf)
  let inlineComments ← itemOr data "inline_comments" [] (listOf commentOf)
  let securityFindings ← itemOr data "security_findings" [] (listOf findingOf)
  let fetchedAt ← itemOr data "fetched_at" none timeOf
  let approvals ← itemOr data "approvals" Table.empty approvalsOf
  return ⟨owner,repository,pullNumber,headSha,baseBranch,fromFork,eligibleAtOpen,changedPaths,summaries,inlineComments,
    securityFindings,fetchedAt,approvals⟩

-- pull_reviews (review_key, payload).
abbrev Database := Dict String Text

-- The key has the limit of the payload, in which the number stands too.
def save (db : Database) (review : PullRequestReview) : Option Database := do
  return Dict.set db review.key (← serialize review)

-- The outer none is an exception, also of the key.
def get (db : Database) (pull : Pull) : Option (Option PullRequestReview) :=
  if pull.pullNumber.natAbs < 10 ^ maxStrDigits then
    match Dict.get db pull.key with
    | none => some none
    | some cs => ((loadsText cs).bind reviewOf).map some
  else none

-- A review that can be written and read: its numbers have texts and its time is
-- one that a datetime can have.
structure Storable (review : PullRequestReview) : Prop where
  named : ∀ row ∈ review.approvals.rows, row.1.natAbs < 10 ^ maxStrDigits
  short : intsWithin maxStrDigits (document review) = true
  timed : ∀ t, review.fetchedAt = some t → Representable t

theorem int_read (n : Int) : Json.asInt (int n) = some n := rfl

theorem line_read (line : Option Int) : Json.nullable Json.asInt (Json.ofOption int line) = some line := by
  cases line <;> rfl

theorem summaryOf_read (s : ReviewSummary) : summaryOf (.obj (summaryFields s)) = some s := by
  have names : (summaryFields s).map Prod.fst = ["review_id","reviewer","state","body","url"].map text := rfl
  have unique := named_unique names (by decide)
  have reviewId := item_named unique 0 rfl Json.asInt
  have reviewer := item_named unique 1 rfl Json.asString
  have state := item_named unique 2 rfl Json.asString
  have body := item_named unique 3 rfl Json.asString
  have url := item_named unique 4 rfl Json.asString
  rw [summaryOf]
  refine bind_read rfl (bind_read (reviewId.trans (int_read _)) (bind_read (reviewer.trans (str_read _)) ?_))
  refine bind_read (state.trans (str_read _)) (bind_read (body.trans (str_read _)) ?_)
  exact bind_read (url.trans (str_read _)) (if_pos (onlyKeys_named names))

theorem commentOf_read (c : InlineComment) : commentOf (.obj (commentFields c)) = some c := by
  have names : (commentFields c).map Prod.fst = ["comment_id","reviewer","path","line","body","url"].map text := rfl
  have unique := named_unique names (by decide)
  have commentId := item_named unique 0 rfl Json.asInt
  have reviewer := item_named unique 1 rfl Json.asString
  have path := item_named unique 2 rfl Json.asString
  have line := item_named unique 3 rfl (Json.nullable Json.asInt)
  have body := item_named unique 4 rfl Json.asString
  have url := item_named unique 5 rfl Json.asString
  rw [commentOf]
  refine bind_read rfl (bind_read (commentId.trans (int_read _)) (bind_read (reviewer.trans (str_read _)) ?_))
  refine bind_read (path.trans (str_read _)) (bind_read (line.trans (line_read _)) ?_)
  refine bind_read (body.trans (str_read _)) (bind_read (url.trans (str_read _)) ?_)
  exact if_pos (onlyKeys_named names)

theorem findingOf_read (f : SecurityFinding) : findingOf (.obj (findingFields f)) = some f := by
  have names : (findingFields f).map Prod.fst = ["source","alert_id","severity","path","summary","url"].map text := rfl
  have unique := named_unique names (by decide)
  have source := item_named unique 0 rfl Json.asString
  have alertId := item_named unique 1 rfl Json.asString
  have severity := item_named unique 2 rfl Json.asString
  have path := item_named unique 3 rfl Json.asString
  have summary := item_named unique 4 rfl Json.asString
  have url := item_named unique 5 rfl Json.asString
  rw [findingOf]
  refine bind_read rfl (bind_read (source.trans (str_read _)) (bind_read (alertId.trans (str_read _)) ?_))
  refine bind_read (severity.trans (str_read _)) (bind_read (path.trans (str_read _)) ?_)
  refine bind_read (summary.trans (str_read _)) (bind_read (url.trans (str_read _)) ?_)
  exact if_pos (onlyKeys_named names)

theorem listOf_read {read : Json Number → Option α} {written : α → Json Number} (inverse : ∀ a, read (written a) = some a)
    (items : List α) : listOf read (.arr (items.map written)) = some items :=
  mapM_exact fun a _ => inverse a

theorem timeOf_read (representable : ∀ t, time = some t → Representable t) :
    timeOf (.ofOption (fun t => str (isoformat t)) time) = some time := by
  cases time with
  | none => rfl
  | some t =>
    have read := fromisoformat_isoformat (representable t rfl)
    cases shape : text (isoformat t) with
    | nil =>
      rw [shape] at read
      cases read
    | cons c rest =>
      rw [Json.ofOption,str,shape]
      rw [shape] at read
      exact congrArg (Option.map some) read

theorem approvalsOf_read {approvals : Dict Int String} (named : ∀ row ∈ approvals.rows, row.1.natAbs < 10 ^ maxStrDigits) :
    approvalsOf (.obj (approvalFields approvals)) = some approvals := by
  have rows : readItems (fun key => (untext key).bind parseInt) Json.asString (approvalFields approvals) =
      some approvals.rows := by
    refine mapM_exact fun row member => ?_
    dsimp only
    rw [untext_text,Option.bind_some,parseInt_toString (named row member),Option.bind_some,str_read]
    rfl
  rw [approvalsOf]
  refine bind_read rfl (bind_read rows ?_)
  rw [Dict.ofRows_eq]
  rfl

theorem reviewOf_read (storable : Storable review) : reviewOf (document review) = some review := by
  have names : (documentFields review).map Prod.fst = ["owner","repository","pull_number","head_sha","base_branch",
    "from_fork","eligible_at_open","changed_paths","summaries","inline_comments","security_findings","fetched_at",
    "approvals"].map text := rfl
  have unique := named_unique names (by decide)
  have owner := item_named unique 0 rfl Json.asString
  have repository := item_named unique 1 rfl Json.asString
  have pullNumber := item_named unique 2 rfl Json.asInt
  have headSha := item_named unique 3 rfl Json.asString
  have baseBranch := item_named unique 4 rfl Json.asString
  have fromFork := item_named unique 5 rfl Json.asBool
  have eligibleAtOpen := item_named unique 6 rfl Json.asBool
  have changedPaths := itemOr_named unique 7 rfl [] (listOf Json.asString)
  have summaries := itemOr_named unique 8 rfl [] (listOf summaryOf)
  have inlineComments := itemOr_named unique 9 rfl [] (listOf commentOf)
  have securityFindings := itemOr_named unique 10 rfl [] (listOf findingOf)
  have fetchedAt := itemOr_named unique 11 rfl none timeOf
  have approvals := itemOr_named unique 12 rfl Table.empty approvalsOf
  rw [reviewOf,document]
  refine bind_read rfl (bind_read (owner.trans (str_read _)) (bind_read (repository.trans (str_read _)) ?_))
  refine bind_read (pullNumber.trans (int_read _)) (bind_read (headSha.trans (str_read _)) ?_)
  refine bind_read (baseBranch.trans (str_read _)) (bind_read fromFork (bind_read eligibleAtOpen ?_))
  refine bind_read (changedPaths.trans (listOf_read str_read _)) ?_
  refine bind_read (summaries.trans (listOf_read summaryOf_read _)) ?_
  refine bind_read (inlineComments.trans (listOf_read commentOf_read _)) ?_
  refine bind_read (securityFindings.trans (listOf_read findingOf_read _)) ?_
  refine bind_read (fetchedAt.trans (timeOf_read storable.timed)) ?_
  exact bind_read (approvals.trans (approvalsOf_read storable.named)) rfl

-- Every text of a list of records is one, and every number an integer.

theorem items_whole {written : α → Json Number} (each : ∀ a, WholeTexts (written a)) (items : List α) :
    WholeItems (items.map written) := by
  induction items with
  | nil => trivial
  | cons a rest ih => exact ⟨each a,ih⟩

theorem items_exact {written : α → Json Number} (each : ∀ a, EachNumber Exact (written a)) (items : List α) :
    EachItem Exact (items.map written) := by
  induction items with
  | nil => trivial
  | cons a rest ih => exact ⟨each a,ih⟩

theorem summary_whole (s : ReviewSummary) : WholeTexts (.obj (summaryFields s)) := by
  simp only [summaryFields,str,int,WholeTexts,WholeFields,text_whole,and_self]

theorem line_whole (line : Option Int) : WholeTexts (Json.ofOption int line) := by
  cases line <;> trivial

theorem comment_whole (c : InlineComment) : WholeTexts (.obj (commentFields c)) := by
  simp only [commentFields,str,int,WholeTexts,WholeFields,text_whole,true_and,and_true]
  exact line_whole c.line

theorem finding_whole (f : SecurityFinding) : WholeTexts (.obj (findingFields f)) := by
  simp only [findingFields,str,WholeTexts,WholeFields,text_whole,and_self]

theorem time_whole (time : Option Instant) : WholeTexts (Json.ofOption (fun t => str (isoformat t)) time : Json Number) := by
  cases time with
  | none => trivial
  | some t => simp only [Json.ofOption,str_whole]

theorem approvals_whole (approvals : Dict Int String) : WholeFields (approvalFields approvals) := by
  refine wholeFields_iff.mpr fun entry member => ?_
  obtain ⟨row,_,rfl⟩ := List.mem_map.mp member
  exact ⟨text_whole _,str_whole _⟩

theorem document_whole (review : PullRequestReview) : WholeTexts (document review) := by
  rw [document,WholeTexts,documentFields]
  simp only [WholeFields,int,WholeTexts,str_whole,text_whole,true_and,and_true]
  exact ⟨items_whole str_whole _,items_whole summary_whole _,items_whole comment_whole _,items_whole finding_whole _,
    time_whole _,approvals_whole _⟩

theorem str_exact (s : String) : EachNumber Exact (str s) := trivial

theorem line_exact (line : Option Int) : EachNumber Exact (Json.ofOption int line) := by
  cases line with
  | none => trivial
  | some n => rfl

theorem comment_exact (c : InlineComment) : EachNumber Exact (.obj (commentFields c)) :=
  ⟨rfl,trivial,trivial,line_exact c.line,trivial,trivial,trivial⟩

theorem summary_exact (s : ReviewSummary) : EachNumber Exact (.obj (summaryFields s)) :=
  ⟨rfl,trivial,trivial,trivial,trivial,trivial⟩

theorem finding_exact (f : SecurityFinding) : EachNumber Exact (.obj (findingFields f)) :=
  ⟨trivial,trivial,trivial,trivial,trivial,trivial,trivial⟩

theorem time_exact (time : Option Instant) : EachNumber Exact (Json.ofOption (fun t => str (isoformat t)) time) := by
  cases time <;> trivial

theorem approvals_exact (approvals : Dict Int String) : EachField Exact (approvalFields approvals) := by
  refine eachField_iff.mpr fun entry member => ?_
  obtain ⟨row,_,rfl⟩ := List.mem_map.mp member
  trivial

theorem document_exact (review : PullRequestReview) : EachNumber Exact (document review) :=
  ⟨trivial,trivial,rfl,trivial,trivial,trivial,trivial,items_exact str_exact _,items_exact summary_exact _,
    items_exact comment_exact _,items_exact finding_exact _,time_exact _,approvals_exact _,trivial⟩

def written (review : PullRequestReview) : Text := plainText [0x2c] [0x3a] (document review)

theorem serialize_exact (timed : ∀ t, review.fetchedAt = some t → Representable t) :
    serialize review = some cs ↔ Storable review ∧ cs = written review := by
  unfold serialize
  constructor
  · intro done
    split at done
    · rename_i named
      obtain ⟨short,same⟩ := plainDumped_parts done
      exact ⟨⟨named,short,timed⟩,same⟩
    · cases done
  · rintro ⟨storable,rfl⟩
    rw [if_pos storable.named]
    exact plainDumped storable.short

theorem written_read (storable : Storable review) : (loadsText (written review)).bind reviewOf = some review := by
  rw [written,loads_plainText unspaced (document_whole review) storable.short (document_exact review)]
  exact reviewOf_read storable

theorem pullNumber_short (digits : Nat) (short : intsWithin digits (document review) = true) :
    review.pullNumber.natAbs < 10 ^ digits := by
  have each := (intsWithin_iff digits (document review)).mp short
  exact of_decide_eq_true each.2.2.1

def encode (store : ReviewStore) : Database := Dict.recode written store

def Readable (store : ReviewStore) : Prop := ∀ key review, Dict.get store key = some review → Storable review

theorem get_encode {store : ReviewStore} (readable : Readable store) (pull : Pull) : get (encode store) pull =
    if pull.pullNumber.natAbs < 10 ^ maxStrDigits then some (ReviewService.get store pull) else none := by
  unfold get ReviewService.get
  split
  · rw [encode,Dict.get_recode]
    cases found : Dict.get store pull.key with
    | none => rfl
    | some review => exact congrArg (Option.map some) (written_read (readable _ _ found))
  · rfl

theorem save_encode {store : ReviewStore} (timed : ∀ t, review.fetchedAt = some t → Representable t) :
    save (encode store) review = some db ↔ Storable review ∧ db = encode (ReviewService.save store review) := by
  have stored : encode (ReviewService.save store review) = Dict.set (encode store) review.key (written review) :=
    (Dict.set_recode written store review.key review).symm
  unfold save
  rw [Option.bind_eq_bind,Option.bind_eq_some_iff,stored]
  constructor
  · rintro ⟨cs,done,same⟩
    obtain ⟨storable,rfl⟩ := (serialize_exact timed).mp done
    exact ⟨storable,(Option.some.inj same).symm⟩
  · rintro ⟨storable,rfl⟩
    exact ⟨written review,(serialize_exact timed).mpr ⟨storable,rfl⟩,rfl⟩

theorem Readable.saved {store : ReviewStore} (readable : Readable store) (storable : Storable review) :
    Readable (ReviewService.save store review) := by
  intro key other found
  rw [ReviewService.save,Dict.get_set] at found
  split at found
  · cases Option.some.inj found
    exact storable
  · exact readable key other found

end OpenModelOps.ReviewStorage
