import Mathlib.Data.List.Basic

namespace OpenModelOps.RagWorkflow
variable {Document : Type}

structure RAGResult (Document : Type) where
  answer : String
  documents : List Document
  attempts : Nat
  status : String

-- The callbacks are functions of their arguments; the bounds are those that the
-- constructor checks.
structure CorrectiveRAG (Document : Type) where
  retriever : String → List Document
  grader : String → Document → Bool
  rewriter : String → Nat → String
  generator : String → List Document → String
  maximumAttempts : Nat
  bounded : 1 ≤ maximumAttempts ∧ maximumAttempts ≤ 5

def insufficient : String := "Insufficient evidence to answer from the approved knowledge base."

def graded (rag : CorrectiveRAG Document) (query : String) : List Document :=
  (rag.retriever query).filter (rag.grader query)

-- The loop of invoke, with the queries that the retriever gets. The last
-- argument counts the attempts that the range has left.
def attemptFrom (rag : CorrectiveRAG Document) (question query : String) (attempt : Nat) :
    Nat → RAGResult Document × List String
  | 0 => (⟨insufficient,[],rag.maximumAttempts,"insufficient_evidence"⟩,[])
  | left + 1 =>
    if (graded rag query).isEmpty then
      let next := if attempt < rag.maximumAttempts then rag.rewriter question attempt else query
      let (result,queries) := attemptFrom rag question next (attempt + 1) left
      (result,query :: queries)
    else (⟨rag.generator question (graded rag query),graded rag query,attempt,"grounded"⟩,[query])

def invoke (rag : CorrectiveRAG Document) (question : String) : RAGResult Document × List String :=
  attemptFrom rag question question 1 rag.maximumAttempts

-- The state dictionary of the graph, and a node's answer: an absent key is none.
structure GraphState (Document : Type) where
  question : Option String := none
  query : Option String := none
  attempts : Option Nat := none
  documents : Option (List Document) := none
  answer : Option String := none
  status : Option String := none

def merge (state update : GraphState Document) : GraphState Document where
  question := update.question.or state.question
  query := update.query.or state.query
  attempts := update.attempts.or state.attempts
  documents := update.documents.or state.documents
  answer := update.answer.or state.answer
  status := update.status.or state.status

inductive Failure where
  | keyError (key : String)
  | recursionLimit
  | nameError (name : String)
  | runtimeError (message : String)
  deriving DecidableEq

def subscript (key : String) : Option α → Except Failure α
  | none => .error (.keyError key)
  | some value => .ok value

-- `state.get("query") or state["question"]`.
def queryOf (state : GraphState Document) : Except Failure String :=
  match state.query with
  | none => subscript "question" state.question
  | some query => if query.isEmpty then subscript "question" state.question else .ok query

inductive Node where
  | retrieve
  | rewrite
  | generate
  | refuse

-- A node's answer and the queries that it makes.
def retrieve (rag : CorrectiveRAG Document) (state : GraphState Document) :
    Except Failure (GraphState Document × List String) := do
  let attempt := state.attempts.getD 0 + 1
  let query ← queryOf state
  return ({ attempts := some attempt, query := some query, documents := some (graded rag query) },[query])

def route (rag : CorrectiveRAG Document) (state : GraphState Document) : Except Failure Node := do
  let documents ← subscript "documents" state.documents
  if !documents.isEmpty then
    return .generate
  let attempts ← subscript "attempts" state.attempts
  return if attempts < rag.maximumAttempts then .rewrite else .refuse

def rewrite (rag : CorrectiveRAG Document) (state : GraphState Document) :
    Except Failure (GraphState Document × List String) := do
  let question ← subscript "question" state.question
  let attempts ← subscript "attempts" state.attempts
  return ({ query := some (rag.rewriter question attempts) },[])

def generate (rag : CorrectiveRAG Document) (state : GraphState Document) :
    Except Failure (GraphState Document × List String) := do
  let question ← subscript "question" state.question
  let documents ← subscript "documents" state.documents
  return ({ answer := some (rag.generator question documents), status := some "grounded" },[])

def refuse (_ : GraphState Document) : Except Failure (GraphState Document × List String) :=
  .ok ({ answer := some insufficient, status := some "insufficient_evidence" },[])

def runNode (rag : CorrectiveRAG Document) (state : GraphState Document) :
    Node → Except Failure (GraphState Document × List String)
  | .retrieve => retrieve rag state
  | .rewrite => rewrite rag state
  | .generate => generate rag state
  | .refuse => refuse state

-- The edges; none is END.
def edge (rag : CorrectiveRAG Document) (state : GraphState Document) : Node → Except Failure (Option Node)
  | .retrieve => (route rag state).map some
  | .rewrite => .ok (some .retrieve)
  | .generate => .ok none
  | .refuse => .ok none

-- The compiled graph: nodes run along the edges and the keys that they return
-- overwrite the state. Each run has a limit on the number of nodes.
def execute (rag : CorrectiveRAG Document) (node : Option Node) (state : GraphState Document) (queries : List String) :
    Nat → Except Failure (GraphState Document × List String)
  | 0 => match node with
    | none => .ok (state,queries)
    | some _ => .error .recursionLimit
  | limit + 1 => match node with
    | none => .ok (state,queries)
    | some current => do
      let (update,asked) ← runNode rag state current
      let next ← edge rag (merge state update) current
      execute rag next (merge state update) (queries ++ asked) limit

def invokeGraph (rag : CorrectiveRAG Document) (question : String) (limit : Nat) :
    Except Failure (GraphState Document × List String) :=
  execute rag (some .retrieve) { question := some question, query := some "", attempts := some 0 } [] limit

-- The names of the module itself. The class State is none of them: it is local
-- to compile_langgraph.
def moduleNames : List String :=
  ["annotations","Callable","dataclass","Protocol","RetrievalDocument","RAGResult","Retriever","CorrectiveRAG"]

-- typing.get_type_hints. The module postpones its annotations, so each is a text
-- that is looked up among the globals of the function.
def getTypeHints (globals : List String) (annotations : List String) : Except Failure Unit :=
  match annotations.find? (fun name => decide (name ∉ globals)) with
  | none => .ok ()
  | some name => .error (.nameError name)

def routeAnnotations : List String := ["State"]

-- add_node passes over a name that it cannot resolve, add_conditional_edges
-- does not.
def compileLanggraph (installed : Bool) (globals : List String) (rag : CorrectiveRAG Document) :
    Except Failure (String → Nat → Except Failure (GraphState Document × List String)) := do
  if !installed then
    throw (.runtimeError "install the 'rag' extra to enable LangGraph")
  getTypeHints globals routeAnnotations
  return invokeGraph rag

-- Both implementations try the queries of a sequence one after the other; they
-- differ in the sequence.
def search (rag : CorrectiveRAG Document) (question : String) (queries : Nat → String) (done : Nat) :
    Nat → RAGResult Document × List String
  | 0 => (⟨insufficient,[],rag.maximumAttempts,"insufficient_evidence"⟩,[])
  | left + 1 =>
    if (graded rag (queries done)).isEmpty then
      ((search rag question queries (done + 1) left).1,queries done :: (search rag question queries (done + 1) left).2)
    else (⟨rag.generator question (graded rag (queries done)),graded rag (queries done),done + 1,"grounded"⟩,
      [queries done])

def queryAt (rag : CorrectiveRAG Document) (question : String) : Nat → String
  | 0 => question
  | done + 1 => rag.rewriter question (done + 1)

def graphQueryAt (rag : CorrectiveRAG Document) (question : String) (done : Nat) : String :=
  if (queryAt rag question done).isEmpty then question else queryAt rag question done

section Loops
variable {rag : CorrectiveRAG Document} {question : String}

theorem attemptFrom_search (left done : Nat) (range : done + left = rag.maximumAttempts) :
    attemptFrom rag question (queryAt rag question done) (done + 1) left =
      search rag question (queryAt rag question) done left := by
  induction left generalizing done with
  | zero => rfl
  | succ left ih =>
    simp only [attemptFrom,search]
    split
    · cases left with
      | zero => rfl
      | succ left =>
        have more : done + 1 < rag.maximumAttempts := by omega
        rw [if_pos more]
        have rest := ih (done + 1) (by omega)
        simp only [queryAt] at rest
        rw [rest]
    · rfl

structure Retrieving (rag : CorrectiveRAG Document) (question : String) (done : Nat) (state : GraphState Document) :
    Prop where
  asked : state.question = some question
  attempts : state.attempts = some done
  query : queryOf state = .ok (graphQueryAt rag question done)

structure Ends (state : GraphState Document) (result : RAGResult Document) : Prop where
  answer : state.answer = some result.answer
  documents : state.documents = some result.documents
  attempts : state.attempts = some result.attempts
  status : state.status = some result.status

def retrieved (rag : CorrectiveRAG Document) (question : String) (done : Nat) (state : GraphState Document) :
    GraphState Document :=
  { state with attempts := some (done + 1), query := some (graphQueryAt rag question done),
               documents := some (graded rag (graphQueryAt rag question done)) }

theorem execute_end (state : GraphState Document) (queries : List String) (limit : Nat) :
    execute rag none state queries limit = .ok (state,queries) := by
  cases limit <;> rfl

-- Two nodes run for each attempt: the retrieval and the node it routes to.
theorem execute_retrieve {state : GraphState Document} (ready : Retrieving rag question done state)
    (routed : route rag (retrieved rag question done state) = .ok next) (queries : List String) (limit : Nat) :
    execute rag (some .retrieve) state queries (limit + 1) =
      execute rag (some next) (retrieved rag question done state) (queries ++ [graphQueryAt rag question done])
        limit := by
  simp only [execute,runNode,retrieve,edge,ready.query,ready.attempts]
  change (Except.map some (route rag (retrieved rag question done state)) >>= fun next =>
    execute rag next (retrieved rag question done state) (queries ++ [graphQueryAt rag question done]) limit) = _
  rw [routed]
  rfl

theorem execute_grounded {state : GraphState Document} (ready : Retrieving rag question done state)
    (found : (graded rag (graphQueryAt rag question done)).isEmpty = false) (queries : List String) (limit : Nat) :
    execute rag (some .retrieve) state queries (limit + 2) =
      .ok ({ retrieved rag question done state with
          answer := some (rag.generator question (graded rag (graphQueryAt rag question done))),
          status := some "grounded" },queries ++ [graphQueryAt rag question done]) := by
  have routed : route rag (retrieved rag question done state) = .ok .generate := by
    simp [route,retrieved,subscript,found,bind,Except.bind,pure,Except.pure]
  rw [execute_retrieve ready routed]
  simp [execute,runNode,generate,edge,retrieved,subscript,ready.asked,bind,Except.bind,pure,Except.pure,merge,
    execute_end]

theorem execute_refused {state : GraphState Document} (ready : Retrieving rag question done state)
    (missing : (graded rag (graphQueryAt rag question done)).isEmpty = true)
    (last : ¬ done + 1 < rag.maximumAttempts) (queries : List String) (limit : Nat) :
    execute rag (some .retrieve) state queries (limit + 2) =
      .ok ({ retrieved rag question done state with
          answer := some insufficient, status := some "insufficient_evidence" },
        queries ++ [graphQueryAt rag question done]) := by
  have routed : route rag (retrieved rag question done state) = .ok .refuse := by
    simp [route,retrieved,subscript,missing,last,bind,Except.bind,pure,Except.pure]
  rw [execute_retrieve ready routed]
  simp [execute,runNode,refuse,edge,retrieved,ready.asked,bind,Except.bind,merge,execute_end]

theorem execute_rewritten {state : GraphState Document} (ready : Retrieving rag question done state)
    (missing : (graded rag (graphQueryAt rag question done)).isEmpty = true)
    (more : done + 1 < rag.maximumAttempts) (queries : List String) (limit : Nat) :
    execute rag (some .retrieve) state queries (limit + 2) =
      execute rag (some .retrieve)
        { retrieved rag question done state with query := some (rag.rewriter question (done + 1)) }
        (queries ++ [graphQueryAt rag question done]) limit := by
  have routed : route rag (retrieved rag question done state) = .ok .rewrite := by
    simp [route,retrieved,subscript,missing,more,bind,Except.bind,pure,Except.pure]
  rw [execute_retrieve ready routed]
  simp [execute,runNode,rewrite,edge,retrieved,subscript,ready.asked,bind,Except.bind,pure,Except.pure,merge]

theorem rewritten_retrieving (state : GraphState Document) (asked : state.question = some question) (done : Nat) :
    Retrieving rag question (done + 1)
      { retrieved rag question done state with query := some (rag.rewriter question (done + 1)) } := by
  refine ⟨asked,rfl,?_⟩
  simp only [queryOf,retrieved,graphQueryAt,queryAt,asked,subscript]
  split <;> rename_i empty <;> simp [empty]

def Searches (rag : CorrectiveRAG Document) (question : String) (done : Nat) (state : GraphState Document)
    (left : Nat) : Prop :=
  ∀ queries, ∃ final, (∀ spare, execute rag (some .retrieve) state queries (spare + 2 * left) =
      .ok (final,queries ++ (search rag question (graphQueryAt rag question) done left).2)) ∧
    Ends final (search rag question (graphQueryAt rag question) done left).1

theorem grounded_searches {state : GraphState Document} (ready : Retrieving rag question done state)
    (found : (graded rag (graphQueryAt rag question done)).isEmpty = false) (left : Nat) :
    Searches rag question done state (left + 1) := by
  intro queries
  rw [search,if_neg (by simp [found])]
  refine ⟨{ retrieved rag question done state with
    answer := some (rag.generator question (graded rag (graphQueryAt rag question done))),
    status := some "grounded" },fun spare => ?_,⟨rfl,rfl,rfl,rfl⟩⟩
  exact execute_grounded ready found queries (spare + 2 * left)

theorem execute_searches (left : Nat) {state : GraphState Document} (ready : Retrieving rag question done state)
    (range : done + (left + 1) = rag.maximumAttempts) : Searches rag question done state (left + 1) := by
  induction left generalizing done state with
  | zero =>
    cases missing : (graded rag (graphQueryAt rag question done)).isEmpty with
    | false => exact grounded_searches ready missing 0
    | true =>
      intro queries
      rw [search,if_pos missing,search]
      refine ⟨{ retrieved rag question done state with
        answer := some insufficient, status := some "insufficient_evidence" },fun spare => ?_,⟨rfl,?_,?_,rfl⟩⟩
      · exact execute_refused ready missing (by omega) queries spare
      · exact congrArg some (List.isEmpty_iff.mp missing)
      · exact congrArg some range
  | succ left ih =>
    cases missing : (graded rag (graphQueryAt rag question done)).isEmpty with
    | false => exact grounded_searches ready missing (left + 1)
    | true =>
      intro queries
      have more : done + 1 < rag.maximumAttempts := by omega
      obtain ⟨final,ends,fields⟩ := ih (rewritten_retrieving state ready.asked done) (by omega)
        (queries ++ [graphQueryAt rag question done])
      rw [search,if_pos missing]
      refine ⟨final,fun spare => ?_,fields⟩
      have next := execute_rewritten ready missing more queries (spare + 2 * (left + 1))
      have count : spare + 2 * (left + 1 + 1) = spare + 2 * (left + 1) + 2 := by omega
      rw [count,next,ends spare,List.append_assoc,List.singleton_append]

theorem invokeGraph_search (rag : CorrectiveRAG Document) (question : String) :
    ∃ final, (∀ limit, 2 * rag.maximumAttempts ≤ limit → invokeGraph rag question limit =
        .ok (final,(search rag question (graphQueryAt rag question) 0 rag.maximumAttempts).2)) ∧
      Ends final (search rag question (graphQueryAt rag question) 0 rag.maximumAttempts).1 := by
  obtain ⟨left,count⟩ : ∃ left, rag.maximumAttempts = left + 1 := ⟨rag.maximumAttempts - 1,by have := rag.bounded; omega⟩
  have ready : Retrieving rag question 0
      { question := some question, query := some "", attempts := some 0 } := by
    refine ⟨rfl,rfl,?_⟩
    simp [queryOf,graphQueryAt,queryAt,subscript]
  obtain ⟨final,ends,fields⟩ := execute_searches left ready (by omega) []
  rw [count]
  refine ⟨final,fun limit enough => ?_,fields⟩
  obtain ⟨spare,rfl⟩ : ∃ spare, limit = spare + 2 * (left + 1) := ⟨limit - 2 * (left + 1),by omega⟩
  exact ends spare

theorem invoke_search (rag : CorrectiveRAG Document) (question : String) :
    invoke rag question = search rag question (queryAt rag question) 0 rag.maximumAttempts :=
  attemptFrom_search rag.maximumAttempts 0 (Nat.zero_add _)

def Alike (rag : CorrectiveRAG Document) (first second : Nat → String) (done left : Nat) : Prop :=
  ∀ k < left, (∀ j < k, graded rag (first (done + j)) = []) → first (done + k) = second (done + k)

theorem alike_succ {first second : Nat → String} : Alike rag first second done (left + 1) ↔
    first done = second done ∧ (graded rag (first done) = [] → Alike rag first second (done + 1) left) := by
  constructor
  · intro alike
    refine ⟨alike 0 (by omega) (by omega),fun missing k bound earlier => ?_⟩
    have later := alike (k + 1) (by omega)
    rw [Nat.add_right_comm] at *
    refine later fun j below => ?_
    cases j with
    | zero => exact missing
    | succ j =>
      have before := earlier j (by omega)
      rwa [Nat.add_right_comm] at before
  · rintro ⟨here,rest⟩ k bound earlier
    cases k with
    | zero => exact here
    | succ k =>
      have later := rest (earlier 0 (by omega)) k (by omega) fun j below => by
        have before := earlier (j + 1) (by omega)
        rwa [Nat.add_right_comm]
      rwa [Nat.add_right_comm] at later

theorem search_alike {first second : Nat → String} (alike : Alike rag first second done left) :
    search rag question first done left = search rag question second done left := by
  induction left generalizing done with
  | zero => rfl
  | succ left ih =>
    obtain ⟨here,rest⟩ := alike_succ.mp alike
    rw [search,search,← here]
    split
    · rename_i missing
      rw [ih (rest (List.isEmpty_iff.mp missing))]
    · rfl

theorem alike_of_queries {first second : Nat → String}
    (same : (search rag question first done left).2 = (search rag question second done left).2) :
    Alike rag first second done left := by
  induction left generalizing done with
  | zero => intro k bound; omega
  | succ left ih =>
    have starts : ∀ queries : Nat → String, ∃ rest, (search rag question queries done (left + 1)).2 = queries done :: rest := by
      intro queries
      rw [search]
      split <;> exact ⟨_,rfl⟩
    obtain ⟨_,one⟩ := starts first
    obtain ⟨_,two⟩ := starts second
    have here : first done = second done := by
      rw [one,two] at same
      exact (List.cons.inj same).1
    refine alike_succ.mpr ⟨here,fun missing => ih ?_⟩
    have empty : (graded rag (first done)).isEmpty = true := List.isEmpty_iff.mpr missing
    rw [search,search,← here,if_pos empty,if_pos empty] at same
    exact (List.cons.inj same).2

end Loops

def Follows (graph : String → Nat → Except Failure (GraphState Document × List String))
    (rag : CorrectiveRAG Document) (question : String) : Prop :=
  ∃ final, (∀ limit, 2 * rag.maximumAttempts ≤ limit →
      graph question limit = .ok (final,(invoke rag question).2)) ∧
    Ends final (invoke rag question).1

def Agrees (installed : Bool) (globals : List String) (rag : CorrectiveRAG Document) (question : String) : Prop :=
  ∃ graph, compileLanggraph installed globals rag = .ok graph ∧ Follows graph rag question

theorem follows_iff_alike (rag : CorrectiveRAG Document) (question : String) :
    Follows (invokeGraph rag) rag question ↔ Alike rag (queryAt rag question) (graphQueryAt rag question) 0 rag.maximumAttempts := by
  obtain ⟨final,ends,fields⟩ := invokeGraph_search rag question
  rw [Follows,invoke_search]
  constructor
  · rintro ⟨other,agrees,_⟩
    have limit := Nat.le_refl (2 * rag.maximumAttempts)
    have same := Except.ok.inj ((agrees _ limit).symm.trans (ends _ limit))
    exact alike_of_queries (Prod.mk.inj same).2
  · intro alike
    rw [search_alike alike]
    exact ⟨final,ends,fields⟩

theorem queryAt_eq_graphQueryAt (rag : CorrectiveRAG Document) (question : String) (done : Nat) :
    queryAt rag question done = graphQueryAt rag question done ↔ question = "" ∨ queryAt rag question done ≠ "" := by
  by_cases empty : queryAt rag question done = ""
  · have asks : graphQueryAt rag question done = question := by simp [graphQueryAt,empty]
    rw [asks,empty]
    exact ⟨fun same => .inl same.symm,fun either => (either.resolve_right (fun absent => absent rfl)).symm⟩
  · simp [graphQueryAt,empty]

-- The graph takes an empty rewrite for a missing query and asks the question
-- again; invoke sends the empty query.
theorem follows_iff_rewrites_nonempty (rag : CorrectiveRAG Document) (question : String) :
    Follows (invokeGraph rag) rag question ↔ question = "" ∨
      ∀ attempt, 1 ≤ attempt → attempt < rag.maximumAttempts →
        (∀ earlier < attempt, graded rag (queryAt rag question earlier) = []) → rag.rewriter question attempt ≠ "" := by
  rw [follows_iff_alike]
  simp only [Alike,Nat.zero_add,queryAt_eq_graphQueryAt]
  constructor
  · intro alike
    by_cases asked : question = ""
    · exact .inl asked
    · refine .inr fun attempt positive bound missing => ?_
      obtain ⟨done,rfl⟩ : ∃ done, attempt = done + 1 := ⟨attempt - 1,by omega⟩
      exact (alike (done + 1) bound missing).resolve_left asked
  · rintro (asked | nonempty) done bound missing
    · exact .inl asked
    · cases done with
      | zero => exact (em (question = "")).imp_right fun asked => asked
      | succ done => exact .inr (nonempty (done + 1) (by omega) bound missing)

theorem compileLanggraph_iff (installed : Bool) (globals : List String) (rag : CorrectiveRAG Document) :
    compileLanggraph installed globals rag = .ok graph ↔
      installed = true ∧ "State" ∈ globals ∧ graph = invokeGraph rag := by
  cases installed with
  | false => simp [compileLanggraph,throw,throwThe,MonadExceptOf.throw,bind,Except.bind]
  | true =>
    by_cases resolved : "State" ∈ globals
    · simp [compileLanggraph,getTypeHints,routeAnnotations,resolved,bind,Except.bind,pure,Except.pure,eq_comm]
    · simp [compileLanggraph,getTypeHints,routeAnnotations,resolved,bind,Except.bind]

theorem agrees_iff (installed : Bool) (globals : List String) (rag : CorrectiveRAG Document) (question : String) :
    Agrees installed globals rag question ↔ installed = true ∧ "State" ∈ globals ∧ (question = "" ∨
      ∀ attempt, 1 ≤ attempt → attempt < rag.maximumAttempts →
        (∀ earlier < attempt, graded rag (queryAt rag question earlier) = []) →
        rag.rewriter question attempt ≠ "") := by
  rw [Agrees,← follows_iff_rewrites_nonempty]
  simp only [compileLanggraph_iff,and_assoc]
  constructor
  · rintro ⟨graph,present,resolved,rfl,follows⟩
    exact ⟨present,resolved,follows⟩
  · rintro ⟨present,resolved,follows⟩
    exact ⟨invokeGraph rag,present,resolved,rfl,follows⟩

-- The module as it stands never gives a graph that agrees, whatever the
-- callbacks and the question are.
theorem graph_never_agrees (installed : Bool) (rag : CorrectiveRAG Document) (question : String) :
    ¬ Agrees installed moduleNames rag question := by
  rw [agrees_iff]
  rintro ⟨_,resolved,_⟩
  revert resolved
  decide

-- The workflow of the test, with a retriever that finds nothing.
def refusing : CorrectiveRAG String where
  retriever _ := []
  grader _ _ := true
  rewriter question attempt := question ++ " rewrite-" ++ toString attempt
  generator _ _ := "Grounded"
  maximumAttempts := 1
  bounded := by decide

theorem refusing_unresolved : compileLanggraph true moduleNames refusing = .error (.nameError "State") ∧
    (invoke refusing "Unknown").1.status = "insufficient_evidence" ∧
    ¬ Agrees true moduleNames refusing "Unknown" := by
  have failed : compileLanggraph true moduleNames refusing = .error (.nameError "State") := rfl
  refine ⟨failed,rfl,?_⟩
  rintro ⟨graph,compiled,_⟩
  rw [failed] at compiled
  cases compiled

end OpenModelOps.RagWorkflow
