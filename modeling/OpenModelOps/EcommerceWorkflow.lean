import Mathlib.Algebra.Field.Rat
import Mathlib.Algebra.Order.Ring.Rat
import OpenModelOps.EcommerceRetrieval
import OpenModelOps.PythonText

namespace OpenModelOps.EcommerceWorkflow
open EcommerceRetrieval PythonText
variable {K : Type} [Field K] [LinearOrder K]

-- float() of the decimal that the question names.
structure Reading (K : Type) extends Settings K where
  float : ℚ → K

def stripped (leads : List String) (cs : List Char) : Option (List Char) :=
  leads.findSome? fun lead => if lead.toList.isPrefixOf cs then some (cs.drop lead.length) else none

def digits (cs : List Char) : ℚ := cs.foldl (fun value c => value * 10 + (c.toNat - '0'.toNat : Nat)) 0

-- [0-9]+(?:\.[0-9]+)?
def decimal (cs : List Char) : Option ℚ :=
  let whole := cs.takeWhile Char.isDigit
  if whole = [] then none
  else match cs.dropWhile Char.isDigit with
    | '.' :: more =>
      let fraction := more.takeWhile Char.isDigit
      some (digits whole + digits fraction / 10 ^ fraction.length)
    | _ => some (digits whole)

-- The pattern at one place. What follows each of its parts cannot belong to the
-- part, so that there is one way to match.
def priceAt (cs : List Char) : Option ℚ := do
  let rest ← stripped ["under","below","less than"] cs
  let amount := rest.dropWhile isSpace
  decimal (((stripped ["cad","$"] amount).getD amount).dropWhile isSpace)

def maximum (reading : Reading K) (question : String) : Option K :=
  ((reading.casefold question).toList.tails.findSome? priceAt).map reading.float

def applyConstraints (reading : Reading K) (question : String) (hits : List (ProductHit K)) : List (ProductHit K) :=
  match maximum reading question with
  | none => hits
  | some limit => hits.filter fun hit => decide (hit.product.priceCad < limit)

def ignored : List String := ["recommend","please","show","find","best","product","products","for","me"]

def rewrite (reading : Reading K) (question : String) : String :=
  String.intercalate " " (((findTokens [] (reading.casefold question).toList).map String.ofList).filter fun token =>
    !ignored.contains token)

structure Citation (K : Type) where
  productId : String
  source : String
  score : K

structure ProductAnswer (K : Type) where
  answer : String
  citations : List (Citation K)
  attempts : Int
  status : String

-- The generator is the default one or that of the deployment.
structure ProductAssistant (K : Type) [Field K] [LinearOrder K] where
  catalog : ProductCatalog K
  minimumScore : K
  maximumAttempts : Int := 2
  generator : String → List (ProductHit K) → String

variable {reading : Reading K} {assistant : ProductAssistant K} {question query : String} {maximumResults : Int}
  {hit : ProductHit K} {product : Product K}

def relevant (reading : Reading K) (assistant : ProductAssistant K) (question query : String) (maximumResults : Int) :
    List (ProductHit K) :=
  (applyConstraints reading question (search reading.toSettings assistant.catalog query maximumResults)).filter fun hit =>
    decide (assistant.minimumScore ≤ hit.score ∧ 0 < hit.lexicalScore)

def cite (hit : ProductHit K) : Citation K := ⟨hit.product.productId,hit.product.source,hit.score⟩

def tries (reading : Reading K) (assistant : ProductAssistant K) (question : String) (maximumResults : Int) :
    Nat → Int → String → ProductAnswer K
  | 0,_,_ => ⟨"I do not have sufficient evidence in the approved product catalog to answer that question.",[],
      assistant.maximumAttempts,"insufficient_evidence"⟩
  | remaining + 1,attempt,query =>
    let hits := relevant reading assistant question query maximumResults
    if hits = [] then tries reading assistant question maximumResults remaining (attempt + 1) (rewrite reading question)
    else ⟨assistant.generator question hits,hits.map cite,attempt,"grounded"⟩

def ask (reading : Reading K) (assistant : ProductAssistant K) (question : String) (maximumResults : Int := 5) :
    ProductAnswer K :=
  tries reading assistant question maximumResults assistant.maximumAttempts.toNat 1 question

def Affordable (reading : Reading K) (question : String) (product : Product K) : Prop :=
  ∀ limit, maximum reading question = some limit → product.priceCad < limit

def Answers (reading : Reading K) (assistant : ProductAssistant K) (question : String) (hit : ProductHit K) : Prop :=
  Affordable reading question hit.product ∧ assistant.minimumScore ≤ hit.score ∧ 0 < hit.lexicalScore

def Answerable (reading : Reading K) (assistant : ProductAssistant K) (question : String) : Prop :=
  ∃ product ∈ assistant.catalog.products, ∃ hit, hitOf reading.toSettings question product = some hit ∧
    Answers reading assistant question hit

structure Respects (reading : Reading K) (assistant : ProductAssistant K) (question : String) (answer : ProductAnswer K) :
    Prop where
  complete : answer.status = "insufficient_evidence" → ¬ Answerable reading assistant question
  cited : ∀ citation ∈ answer.citations, ∀ product ∈ assistant.catalog.products,
    product.productId = citation.productId → Affordable reading question product

-- All products with a positive score, in the order in which they are retrieved.
def ranking (reading : Reading K) (catalog : ProductCatalog K) (query : String) : List (ProductHit K) :=
  search reading.toSettings catalog query catalog.products.length

def queries (reading : Reading K) (question : String) : Nat → List String
  | 0 => []
  | more + 1 => question :: List.replicate more (rewrite reading question)

def Surfaces (reading : Reading K) (assistant : ProductAssistant K) (question : String) (maximumResults : Int) : Prop :=
  ∃ query ∈ queries reading question assistant.maximumAttempts.toNat, ∃ place : Nat, (place : Int) < maximumResults ∧
    ∃ hit, (ranking reading assistant.catalog query)[place]? = some hit ∧ Answers reading assistant question hit

theorem search_ranking (reading : Reading K) (catalog : ProductCatalog K) (query : String) (limit : Int) :
    search reading.toSettings catalog query limit = (ranking reading catalog query).take limit.toNat := by
  have whole : search reading.toSettings catalog query limit = search reading.toSettings catalog query limit.toNat := by
    rw [search,search,Int.toNat_natCast]
  have ranks := (search_ranks reading.toSettings catalog query limit.toNat).length
  have few := List.length_filter_le (fun product => decide (0 < score reading.toSettings query product)) catalog.products
  rw [whole,ranking]
  rcases Nat.le_total limit.toNat catalog.products.length with within | beyond
  · obtain ⟨more,same⟩ := Nat.exists_eq_add_of_le within
    rw [same]
    exact search_take reading.toSettings catalog query limit.toNat more
  · obtain ⟨more,same⟩ := Nat.exists_eq_add_of_le beyond
    have cut := search_take reading.toSettings catalog query catalog.products.length more
    rw [← same,List.take_of_length_le (by omega)] at cut
    rw [cut,List.take_of_length_le (by omega)]

theorem mem_applyConstraints {hits : List (ProductHit K)} : hit ∈ applyConstraints reading question hits ↔
    hit ∈ hits ∧ Affordable reading question hit.product := by
  unfold applyConstraints Affordable
  cases maximum reading question with
  | none => simp
  | some limit => simp

theorem mem_relevant : hit ∈ relevant reading assistant question query maximumResults ↔
    hit ∈ search reading.toSettings assistant.catalog query maximumResults ∧ Answers reading assistant question hit := by
  rw [relevant,List.mem_filter,mem_applyConstraints,decide_eq_true_eq,and_assoc]
  rfl

theorem relevant_nil : relevant reading assistant question query maximumResults = [] ↔
    ∀ place : Nat, (place : Int) < maximumResults → ∀ hit,
      (ranking reading assistant.catalog query)[place]? = some hit → ¬ Answers reading assistant question hit := by
  rw [List.eq_nil_iff_forall_not_mem]
  constructor
  · intro none place within hit ranked answers
    apply none hit
    refine mem_relevant.mpr ⟨?_,answers⟩
    rw [search_ranking]
    apply List.mem_of_getElem? (i := place)
    rw [List.getElem?_take_of_lt (by omega)]
    exact ranked
  · intro none hit member
    obtain ⟨listed,answers⟩ := mem_relevant.mp member
    rw [search_ranking] at listed
    obtain ⟨place,ranked⟩ := List.mem_iff_getElem?.mp listed
    have within : place < maximumResults.toNat := by
      by_contra beyond
      rw [List.getElem?_take,if_neg beyond] at ranked
      cases ranked
    rw [List.getElem?_take_of_lt within] at ranked
    exact none place (by omega) hit ranked answers

theorem tries_insufficient (remaining : Nat) (attempt : Int) (query : String) :
    (tries reading assistant question maximumResults remaining attempt query).status = "insufficient_evidence" ↔
      ∀ other ∈ (query :: List.replicate (remaining - 1) (rewrite reading question)).take remaining,
        relevant reading assistant question other maximumResults = [] := by
  induction remaining generalizing attempt query with
  | zero => simp [tries]
  | succ remaining ih =>
    unfold tries
    dsimp only
    split
    · rename_i none
      rw [ih]
      cases remaining with
      | zero => simp [none]
      | succ remaining =>
        simp only [Nat.add_sub_cancel,List.take_succ_cons,List.mem_cons,forall_eq_or_imp,none,true_and,List.take_replicate,
          Nat.min_self,List.replicate_succ]
    · rename_i some
      refine iff_of_false (by simp) fun all => some (all query ?_)
      simp

theorem ask_insufficient : (ask reading assistant question maximumResults).status = "insufficient_evidence" ↔
    ¬ Surfaces reading assistant question maximumResults := by
  have listed : (question :: List.replicate (assistant.maximumAttempts.toNat - 1) (rewrite reading question)).take
      assistant.maximumAttempts.toNat = queries reading question assistant.maximumAttempts.toNat := by
    cases assistant.maximumAttempts.toNat with
    | zero => rfl
    | succ more => simp [queries]
  rw [ask,tries_insufficient,listed]
  simp only [relevant_nil,Surfaces,not_exists,not_and]

theorem tries_cited {citation : Citation K} (remaining : Nat) (attempt : Int) (query : String)
    (member : citation ∈ (tries reading assistant question maximumResults remaining attempt query).citations) :
    ∃ other, ∃ hit ∈ relevant reading assistant question other maximumResults, citation = cite hit := by
  induction remaining generalizing attempt query with
  | zero => cases member
  | succ remaining ih =>
    unfold tries at member
    dsimp only at member
    split at member
    · exact ih _ _ member
    · obtain ⟨hit,inside,same⟩ := List.mem_map.mp member
      exact ⟨query,hit,inside,same.symm⟩

theorem ask_affordable {citation : Citation K} (member : citation ∈ (ask reading assistant question maximumResults).citations)
    (listed : product ∈ assistant.catalog.products) (named : product.productId = citation.productId) :
    Affordable reading question product := by
  obtain ⟨query,hit,inside,rfl⟩ := tries_cited _ _ _ member
  obtain ⟨found,affordable,_⟩ := mem_relevant.mp inside
  rw [search_picks] at found
  obtain ⟨also,_⟩ := mem_candidates.mp (GreedySelection.picks_subset found)
  have same := List.inj_on_of_nodup_map assistant.catalog.unique listed also named
  rw [same]
  exact affordable

-- A question that can be answered is answered exactly when a hit that answers it
-- stands among the first places of a ranking; no answer cites another price.
theorem ask_respects_iff (reading : Reading K) (assistant : ProductAssistant K) (question : String) (maximumResults : Int) :
    Respects reading assistant question (ask reading assistant question maximumResults) ↔
      (Answerable reading assistant question → Surfaces reading assistant question maximumResults) := by
  constructor
  · intro respects answerable
    by_contra hidden
    exact respects.complete (ask_insufficient.mpr hidden) answerable
  · intro surfaces
    refine ⟨?_,fun citation member product listed named => ask_affordable member listed named⟩
    intro refused answerable
    exact ask_insufficient.mp refused (surfaces answerable)

section HiddenLaptop

def digests (token : List UInt8) : List UInt8 :=
  if token = "cheap".toUTF8.toList then [198,245,86,4,110,12,0,70,159,226,130,74,165,251,159,208,44,102,209,84,170,252,128,
    253,192,243,101,132,28,39,30,18]
  else if token = "laptop".toUTF8.toList then [94,236,13,196,25,170,131,55,191,114,95,2,111,218,156,120,193,203,28,100,46,
    234,255,157,110,17,18,243,119,131,233,66]
  else if token = "under".toUTF8.toList then [215,103,116,138,96,55,153,200,83,25,219,160,42,88,59,63,219,226,138,229,248,
    43,46,135,45,107,182,108,241,4,230,44]
  else [6,4,205,49,56,254,237,32,46,242,147,224,98,218,47,71,32,247,122,5,210,94,224,54,167,160,28,156,252,221,31,10]

-- No number of this question needs rounding.
def shopReading : Reading ℚ where
  casefold := id
  sha256 := digests
  sqrt := fun square => if square = 4 then 2 else square
  round6 := id
  float := id

def laptop (productId : String) (priceCad rating : ℚ) (identified : identifier productId = true)
    (priced : 0 < priceCad ∧ priceCad ≤ 100000) (rated : 0 ≤ rating ∧ rating ≤ 5) : Product ℚ :=
  { productId,name := "laptop",category := "laptop",description := "laptop laptop",priceCad,rating,reviewCount := 10
    features := ["laptop"],identified,sized := by decide,priced,rated }

def dearLaptop : Product ℚ := laptop "prod-001" 900 5 (by decide) (by decide) (by decide)

def fairLaptop : Product ℚ := laptop "prod-002" 400 4 (by decide) (by decide) (by decide)

def shopAssistant : ProductAssistant ℚ where
  catalog := ⟨[dearLaptop,fairLaptop],by decide,by decide⟩
  minimumScore := 3 / 25
  generator := fun _ _ => "Based only on the approved catalog:"

-- The better rated laptop takes the only place and is then too dear.
theorem dear_hides_fair : ¬ ∀ (reading : Reading ℚ) (assistant : ProductAssistant ℚ) (question : String)
    (maximumResults : Int), 1 ≤ maximumResults →
      Respects reading assistant question (ask reading assistant question maximumResults) := by
  intro all
  have respects := all shopReading shopAssistant "cheap laptop under 500" 1 (by decide)
  apply respects.complete (by decide +kernel)
  have named : maximum shopReading "cheap laptop under 500" = some 500 := by decide +kernel
  have found : hitOf shopReading.toSettings "cheap laptop under 500" fairLaptop =
      some ⟨fairLaptop,7 / 20,1 / 4,1 / 2⟩ := by decide +kernel
  refine ⟨fairLaptop,by decide +kernel,_,found,?_,by decide +kernel,by decide +kernel⟩
  intro limit same
  rw [named] at same
  obtain rfl := Option.some.inj same
  decide +kernel

end HiddenLaptop

end OpenModelOps.EcommerceWorkflow
