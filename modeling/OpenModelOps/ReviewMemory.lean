import Mathlib.Data.List.Find
import OpenModelOps.ReviewLatch

namespace OpenModelOps.ReviewMemory
open KeyedTable PythonText PythonDatetime
open ReviewService (Pull PullRequestReview ReviewStore get_save)
open ReviewStorage (Database Storable Readable serialize serialize_exact written encode get save get_encode save_encode
  pullNumber_short)
open ReviewLatch (Plain key_injective)

-- The time of a review is one that a datetime can have.
abbrev Review := {review : PullRequestReview // ∀ t, review.fetchedAt = some t → Representable t}

def pullOf (review : Review) : Pull := ⟨review.val.owner,review.val.repository,review.val.pullNumber⟩

-- A save that raises leaves the database as it was.
def saveNext (db : Database) (review : Review) : Database := (save db review.val).getD db

def saveAll (reviews : List Review) : Database := reviews.foldl saveNext Table.empty

def saves (review : Review) : Bool := (serialize review.val).isSome

def lastSaved (reviews : List Review) (pull : Pull) : Option PullRequestReview :=
  (reviews.reverse.find? fun review => saves review && decide (pullOf review = pull)).map Subtype.val

-- get gives the last saved review of a pull request, and a save changes no other
-- pull request. A number without a text raises.
structure Remembers (reviews : List Review) : Prop where
  recalls : ∀ pull, get (saveAll reviews) pull =
    if pull.pullNumber.natAbs < 10 ^ maxStrDigits then some (lastSaved reviews pull) else none
  separate : ∀ earlier review later, reviews = earlier ++ review :: later → ∀ pull, pull ≠ pullOf review →
    get (saveAll (earlier ++ [review])) pull = get (saveAll earlier) pull

def lastKeyed (reviews : List Review) (pull : Pull) : Option PullRequestReview :=
  (reviews.reverse.find? fun review => saves review && decide (pull.key = review.val.key)).map Subtype.val

theorem saves_storable {review : Review} : saves review = true ↔ Storable review.val := by
  rw [saves,Option.isSome_iff_exists]
  constructor
  · intro done
    obtain ⟨cs,done⟩ := done
    exact ((serialize_exact review.property).mp done).1
  · exact fun storable => ⟨_,(serialize_exact review.property).mpr ⟨storable,rfl⟩⟩

theorem saveNext_encode {store : ReviewStore} (review : Review) : saveNext (encode store) review =
    encode (if saves review then ReviewService.save store review.val else store) := by
  unfold saveNext
  by_cases saved : saves review = true
  · rw [if_pos saved,(save_encode review.property).mpr ⟨saves_storable.mp saved,rfl⟩]
    rfl
  · rw [if_neg saved]
    cases done : save (encode store) review.val with
    | none => rfl
    | some db => exact absurd (saves_storable.mpr ((save_encode review.property).mp done).1) saved

theorem saveAll_encode (reviews : List Review) : ∃ store, saveAll reviews = encode store ∧ Readable store ∧
    ∀ pull, ReviewService.get store pull = lastKeyed reviews pull := by
  induction reviews using List.reverseRecOn with
  | nil => exact ⟨Table.empty,rfl,nofun,fun _ => rfl⟩
  | append_singleton reviews review ih =>
    obtain ⟨store,coded,readable,found⟩ := ih
    refine ⟨if saves review then ReviewService.save store review.val else store,?_,?_,?_⟩
    · rw [saveAll,List.foldl_append,List.foldl_cons,List.foldl_nil,← saveNext_encode,← coded]
      rfl
    · split
      · rename_i saved
        exact readable.saved (saves_storable.mp saved)
      · exact readable
    · intro pull
      rw [lastKeyed,List.reverse_append,List.reverse_singleton,List.singleton_append,List.find?_cons]
      cases saved : saves review with
      | false => exact found pull
      | true =>
        rw [if_pos rfl,get_save,Bool.true_and]
        by_cases same : pull.key = review.val.key
        · rw [if_pos same,decide_eq_true same]
          rfl
        · rw [if_neg same,decide_eq_false same]
          exact found pull

theorem get_saveAll (reviews : List Review) (pull : Pull) : get (saveAll reviews) pull =
    if pull.pullNumber.natAbs < 10 ^ maxStrDigits then some (lastKeyed reviews pull) else none := by
  obtain ⟨store,coded,readable,found⟩ := saveAll_encode reviews
  rw [coded,get_encode readable,found]

theorem lastKeyed_plain {reviews : List Review}
    (plain : ∀ review ∈ reviews, saves review = true → Plain (pullOf review)) (pull : Pull) :
    lastKeyed reviews pull = lastSaved reviews pull := by
  unfold lastKeyed lastSaved
  congr 1
  apply List.find?_congr
  intro review member
  cases saved : saves review with
  | false => rfl
  | true =>
    rw [Bool.true_and,Bool.true_and,decide_eq_decide]
    constructor
    · intro same
      exact (key_injective (plain review (List.mem_reverse.mp member) saved) same).symm
    · intro same
      rw [← same]
      rfl

theorem plain_remembers {reviews : List Review}
    (plain : ∀ review ∈ reviews, saves review = true → Plain (pullOf review)) : Remembers reviews := by
  refine ⟨?_,?_⟩
  · intro pull
    rw [get_saveAll,lastKeyed_plain plain]
  · intro earlier review later split pull differ
    subst split
    have before : ∀ other ∈ earlier, saves other = true → Plain (pullOf other) := fun other member =>
      plain other (List.mem_append_left _ member)
    have now : ∀ other ∈ earlier ++ [review], saves other = true → Plain (pullOf other) := by
      intro other member
      apply plain other
      rcases List.mem_append.mp member with inside | last
      · exact List.mem_append_left _ inside
      · rw [List.mem_singleton.mp last]
        exact List.mem_append_right _ List.mem_cons_self
    have last : lastSaved (earlier ++ [review]) pull = lastSaved earlier pull := by
      unfold lastSaved
      rw [List.reverse_append,List.reverse_singleton,List.singleton_append,List.find?_cons_of_neg (by simp [differ.symm])]
    rw [get_saveAll,get_saveAll,lastKeyed_plain before,lastKeyed_plain now,last]

theorem slash_twin {pull : Pull} (slashed : ¬ Plain pull) :
    ∃ twin : Pull, twin ≠ pull ∧ twin.key = pull.key ∧ twin.pullNumber = pull.pullNumber := by
  obtain ⟨owner,repository,number⟩ := pull
  have marked : '/' ∈ owner.toList ∨ '/' ∈ repository.toList := by
    simpa only [Plain,not_and_or,not_not] using slashed
  rcases marked with inside | inside
  · obtain ⟨lead,rest,split⟩ := List.append_of_mem inside
    refine ⟨⟨String.ofList lead,String.ofList rest ++ "/" ++ repository,number⟩,?_,?_,rfl⟩
    · intro same
      have owners := congrArg (fun pull => pull.owner.toList.length) same
      simp [split] at owners
    · apply String.toList_injective
      simp [Pull.key,split]
  · obtain ⟨lead,rest,split⟩ := List.append_of_mem inside
    refine ⟨⟨owner ++ "/" ++ String.ofList lead,String.ofList rest,number⟩,?_,?_,rfl⟩
    · intro same
      have owners := congrArg (fun pull => pull.owner.toList.length) same
      simp at owners
    · apply String.toList_injective
      simp [Pull.key,split]

theorem lastSaved_pull {reviews : List Review} {pull : Pull} {review : PullRequestReview}
    (found : lastSaved reviews pull = some review) : ⟨review.owner,review.repository,review.pullNumber⟩ = pull := by
  obtain ⟨last,search,rfl⟩ := Option.map_eq_some_iff.mp found
  have chosen := List.find?_some search
  rw [Bool.and_eq_true,decide_eq_true_eq] at chosen
  exact chosen.2

theorem lastSaved_own {reviews : List Review} {review : Review} (member : review ∈ reviews)
    (saved : saves review = true) : ∃ last, lastSaved reviews (pullOf review) = some last := by
  apply Option.isSome_iff_exists.mp
  rw [lastSaved,Option.isSome_map,List.find?_isSome]
  exact ⟨review,List.mem_reverse.mpr member,by simp [saved]⟩

theorem remembers_plain {reviews : List Review} (remembers : Remembers reviews) {review : Review}
    (member : review ∈ reviews) (saved : saves review = true) : Plain (pullOf review) := by
  by_contra slashed
  obtain ⟨twin,differ,keys,numbers⟩ := slash_twin slashed
  have short : (pullOf review).pullNumber.natAbs < 10 ^ maxStrDigits :=
    pullNumber_short maxStrDigits (saves_storable.mp saved).short
  have own := remembers.recalls (pullOf review)
  have other := remembers.recalls twin
  rw [get_saveAll,if_pos short] at own
  rw [get_saveAll,numbers,if_pos short] at other
  have alike : lastKeyed reviews twin = lastKeyed reviews (pullOf review) := by rw [lastKeyed,keys,lastKeyed]
  obtain ⟨last,found⟩ := lastSaved_own member saved
  rw [if_pos short,found] at own
  rw [if_pos short,alike,Option.some.inj own] at other
  apply differ
  rw [← lastSaved_pull (Option.some.inj other).symm]
  exact lastSaved_pull found

-- The store remembers exactly where no name of a saved review has a slash.
theorem saveAll_remembers_iff (reviews : List Review) :
    Remembers reviews ↔ ∀ review ∈ reviews, saves review = true → Plain (pullOf review) :=
  ⟨fun remembers _ => remembers_plain remembers,plain_remembers⟩

def nestedOwner : Review := ⟨⟨"org/team","repo",7,"abcdef1","main",false,true,[],[],[],[],none,Table.empty⟩,nofun⟩

theorem slash_confuses : ¬ ∀ reviews : List Review, Remembers reviews := by
  intro all
  have plain := remembers_plain (all [nestedOwner]) List.mem_cons_self (by decide +kernel)
  exact plain.1 (by decide)

end OpenModelOps.ReviewMemory
