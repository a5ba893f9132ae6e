import Mathlib.Algebra.Order.Field.Basic
import Mathlib.Algebra.BigOperators.Group.List.Basic
import Mathlib.Data.List.Dedup
import Mathlib.Data.List.Sort
import OpenModelOps.GreedySelection

namespace OpenModelOps.EcommerceRetrieval
open GreedySelection PythonChoice

-- ^prod-[0-9]{3}$
def identifier (s : String) : Bool := match s.toList with
  | ['p','r','o','d','-',a,b,c] => a.isDigit && b.isDigit && c.isDigit
  | _ => false

-- A product that passed its validation; its numbers are exact.
structure Product (K : Type) [Field K] [LinearOrder K] where
  productId : String
  name : String
  category : String
  description : String
  priceCad : K
  rating : K
  reviewCount : Nat
  features : List String
  source : String := "synthetic-catalog-v1"
  identified : identifier productId = true
  sized : (2 ≤ name.length ∧ name.length ≤ 160) ∧ (2 ≤ category.length ∧ category.length ≤ 80) ∧
    (10 ≤ description.length ∧ description.length ≤ 2000) ∧ 1 ≤ features.length ∧ features.length ≤ 30
  priced : 0 < priceCad ∧ priceCad ≤ 100000
  rated : 0 ≤ rating ∧ rating ≤ 5
  deriving DecidableEq

variable {K : Type} [Field K] [LinearOrder K]

def Product.searchableText (product : Product K) : String :=
  String.intercalate " " ([product.name,product.category,product.description] ++ product.features)

structure ProductCatalog (K : Type) [Field K] [LinearOrder K] where
  products : List (Product K)
  nonempty : products ≠ []
  unique : (products.map Product.productId).Nodup

def ProductCatalog.byId (catalog : ProductCatalog K) (productId : String) : Option (Product K) :=
  catalog.products.find? fun product => decide (product.productId = productId)

-- What the retriever takes from outside: str.casefold, the digest of SHA-256,
-- math.sqrt, and round to six places.
structure Settings (K : Type) where
  casefold : String → String
  sha256 : List UInt8 → List UInt8
  sqrt : K → K
  round6 : K → K

def tokenChar (c : Char) : Bool := decide ('a' ≤ c ∧ c ≤ 'z' ∨ '0' ≤ c ∧ c ≤ '9')

-- re.findall of [a-z0-9]+, with the token that is being read.
def findTokens (current : List Char) : List Char → List (List Char)
  | [] => if current = [] then [] else [current]
  | c :: rest =>
    if tokenChar c then findTokens (current ++ [c]) rest
    else if current = [] then findTokens [] rest else current :: findTokens [] rest

-- A set.
def tokens (settings : Settings K) (value : String) : List (List Char) :=
  (findTokens [] (settings.casefold value).toList).dedup

def stopwords : List (List Char) :=
  ["a","an","and","are","for","has","i","is","it","me","of","or","the","to","what","which","with"].map String.toList

def dimensions : Nat := 64

def tokenDigest (settings : Settings K) (token : List Char) : List UInt8 :=
  settings.sha256 (token.map fun c => UInt8.ofNat c.toNat)

def addToken (settings : Settings K) (vector : List K) (token : List Char) : List K :=
  let digest := tokenDigest settings token
  let index := ((digest.getD 0 0).toNat * 256 + (digest.getD 1 0).toNat) % dimensions
  vector.modify index (· + if (digest.getD 2 0).toNat % 2 = 1 then -1 else 1)

def embedding (settings : Settings K) (value : String) : List K :=
  let vector := (tokens settings value).foldl (addToken settings) (List.replicate dimensions 0)
  let root := settings.sqrt (vector.map fun item => item * item).sum
  let magnitude := if root = 0 then 1 else root
  vector.map (· / magnitude)

def cosine (first second : List K) : K := (List.zipWith (· * ·) first second).sum

structure ProductHit (K : Type) [Field K] [LinearOrder K] where
  product : Product K
  score : K
  lexicalScore : K
  semanticScore : K
  deriving DecidableEq

def lexical (settings : Settings K) (query : String) (product : Product K) : K :=
  let queryTokens := (tokens settings query).filter fun token => !stopwords.contains token
  let productTokens := tokens settings product.searchableText
  (queryTokens.filter productTokens.contains).length / (max 1 queryTokens.length : Nat)

def semantic (settings : Settings K) (query : String) (product : Product K) : K :=
  max 0 (cosine (embedding settings query) (embedding settings product.searchableText))

def score (settings : Settings K) (query : String) (product : Product K) : K :=
  3 / 5 * lexical settings query product + 2 / 5 * semantic settings query product

def hitOf (settings : Settings K) (query : String) (product : Product K) : Option (ProductHit K) :=
  if 0 < score settings query product then
    some ⟨product,settings.round6 (score settings query product),settings.round6 (lexical settings query product),
      settings.round6 (semantic settings query product)⟩
  else none

def Before (first second : ProductHit K) : Prop :=
  second.score < first.score ∨ second.score = first.score ∧ (second.product.rating < first.product.rating ∨
    second.product.rating = first.product.rating ∧ second.product.reviewCount ≤ first.product.reviewCount)

instance (first second : ProductHit K) : Decidable (Before first second) := inferInstanceAs (Decidable (_ ∨ _))

-- A stable sort with reverse=True.
def candidates (settings : Settings K) (catalog : ProductCatalog K) (query : String) : List (ProductHit K) :=
  (catalog.products.filterMap (hitOf settings query)).insertionSort Before

def closest (settings : Settings K) (selected : List (ProductHit K)) (item : ProductHit K) : K :=
  (greatest id (selected.map fun other =>
    cosine (embedding settings item.product.searchableText) (embedding settings other.product.searchableText))).getD 0

def gain (settings : Settings K) (selected : List (ProductHit K)) (item : ProductHit K) : K :=
  item.score - 1 / 5 * closest settings selected item

-- HybridProductRetriever.search; no hit is selected for a negative limit.
def search (settings : Settings K) (catalog : ProductCatalog K) (query : String) (limit : Int) : List (ProductHit K) :=
  select (gain settings) limit.toNat [] (candidates settings catalog query)

variable {settings : Settings K} {catalog : ProductCatalog K} {query : String} {product : Product K} {hit : ProductHit K}

theorem hitOf_product (found : hitOf settings query product = some hit) : hit.product = product := by
  unfold hitOf at found
  split at found
  · cases Option.some.inj found
    rfl
  · cases found

theorem hitOf_isSome : (hitOf settings query product).isSome = true ↔ 0 < score settings query product := by
  unfold hitOf
  split
  · rename_i positive
    exact ⟨fun _ => positive,fun _ => rfl⟩
  · rename_i none
    exact ⟨nofun,fun positive => absurd positive none⟩

theorem mem_candidates : hit ∈ candidates settings catalog query ↔
    hit.product ∈ catalog.products ∧ hitOf settings query hit.product = some hit := by
  rw [candidates,List.mem_insertionSort,List.mem_filterMap]
  constructor
  · intro listed
    obtain ⟨product,member,found⟩ := listed
    rw [hitOf_product found]
    exact ⟨member,found⟩
  · exact fun listed => ⟨_,listed⟩

theorem candidates_products (settings : Settings K) (catalog : ProductCatalog K) (query : String) :
    ((candidates settings catalog query).map ProductHit.product).Nodup := by
  have distinct : catalog.products.Nodup := catalog.unique.of_map _
  rw [candidates,((List.perm_insertionSort _ _).map _).nodup_iff,List.map_filterMap]
  apply distinct.filterMap
  intro first second product left right
  obtain ⟨hit,found,same⟩ := Option.map_eq_some_iff.mp left
  obtain ⟨other,also,alike⟩ := Option.map_eq_some_iff.mp right
  rw [← hitOf_product found,← hitOf_product also,same,alike]

theorem candidates_length (settings : Settings K) (catalog : ProductCatalog K) (query : String) :
    (candidates settings catalog query).length =
      (catalog.products.filter fun product => decide (0 < score settings query product)).length := by
  rw [candidates,List.length_insertionSort,List.length_filterMap_eq_countP,List.countP_eq_length_filter]
  congr 1
  apply List.filter_congr
  intro product _
  rw [Bool.eq_iff_iff,hitOf_isSome,decide_eq_true_eq]

theorem search_picks (settings : Settings K) (catalog : ProductCatalog K) (query : String) (limit : Int) :
    search settings catalog query limit = picks (gain settings) limit.toNat [] (candidates settings catalog query) := by
  rw [search,select_picks,List.nil_append]

structure Ranks (settings : Settings K) (catalog : ProductCatalog K) (query : String) (n : Nat)
    (hits : List (ProductHit K)) : Prop where
  distinct : (hits.map ProductHit.product).Nodup
  scored : ∀ hit ∈ hits, hit.product ∈ catalog.products ∧ hitOf settings query hit.product = some hit
  length : hits.length = min n (catalog.products.filter fun product => decide (0 < score settings query product)).length
  first : ∀ top rest, hits = top :: rest → ∀ product ∈ catalog.products, ∀ hit,
    hitOf settings query product = some hit → hit.score ≤ top.score
  greedy : ∀ earlier choice later, hits = earlier ++ choice :: later → earlier ≠ [] → ∀ product ∈ catalog.products,
    product ∉ earlier.map ProductHit.product → ∀ hit, hitOf settings query product = some hit →
      hit.score - 1 / 5 * closest settings earlier hit ≤ choice.score - 1 / 5 * closest settings earlier choice

theorem gain_first (item : ProductHit K) : gain settings [] item = item.score := by
  have none : closest settings [] item = 0 := rfl
  rw [gain,none,mul_zero,sub_zero]

theorem search_gains {earlier later : List (ProductHit K)} {choice : ProductHit K} {limit : Int}
    (split : search settings catalog query limit = earlier ++ choice :: later) (member : product ∈ catalog.products)
    (unchosen : product ∉ earlier.map ProductHit.product) (found : hitOf settings query product = some hit) :
    gain settings earlier hit ≤ gain settings earlier choice := by
  rw [search_picks] at split
  have same := hitOf_product found
  rw [← same] at member unchosen found
  exact picks_greedy split (mem_candidates.mpr ⟨member,found⟩) fun inside => unchosen (List.mem_map_of_mem inside)

theorem search_ranks (settings : Settings K) (catalog : ProductCatalog K) (query : String) (n : Nat) :
    Ranks settings catalog query n (search settings catalog query n) := by
  refine ⟨?_,?_,?_,?_,?_⟩
  · obtain ⟨left,together⟩ := picks_perm (gain settings) n [] (candidates settings catalog query)
    have all := ((together.map ProductHit.product).nodup_iff).mpr (candidates_products settings catalog query)
    rw [List.map_append] at all
    rw [search_picks]
    exact (List.nodup_append.mp all).1
  · intro hit member
    rw [search_picks] at member
    exact mem_candidates.mp (picks_subset member)
  · rw [search_picks,picks_length,candidates_length]
    rfl
  · intro top rest split product member hit found
    have most : gain settings [] hit ≤ gain settings [] top := search_gains split member List.not_mem_nil found
    rwa [gain_first,gain_first] at most
  · intro earlier choice later split _ product member unchosen hit found
    exact search_gains split member unchosen found

theorem search_take (settings : Settings K) (catalog : ProductCatalog K) (query : String) (n more : Nat) :
    search settings catalog query n = (search settings catalog query (n + more : Nat)).take n := by
  rw [search_picks,search_picks]
  exact (picks_take (gain settings) n more [] _).symm

-- The selection is greedy, and a smaller limit cuts it off.
theorem search_diversifies (settings : Settings K) (catalog : ProductCatalog K) (query : String) (n more : Nat) :
    Ranks settings catalog query n (search settings catalog query n) ∧
      search settings catalog query n = (search settings catalog query (n + more : Nat)).take n :=
  ⟨search_ranks settings catalog query n,search_take settings catalog query n more⟩

end OpenModelOps.EcommerceRetrieval
