import Mathlib.Data.List.Infix

namespace PatternSearch
variable {α : Type}

-- Regular expressions over the characters α. word tells the word characters of
-- a boundary.
inductive Pattern (α : Type) where
  | char (accepts : α → Bool)
  | boundary (word : α → Bool)
  | empty
  | seq (first second : Pattern α)
  | alt (left right : Pattern α)
  | star (body : Pattern α)

namespace Pattern

def opt (body : Pattern α) : Pattern α := .alt body .empty

def plus (body : Pattern α) : Pattern α := .seq body (.star body)

def sequence : List (Pattern α) → Pattern α
  | [] => .empty
  | first :: rest => .seq first (sequence rest)

def repeated (body : Pattern α) (n : Nat) : Pattern α := sequence (List.replicate n body)

end Pattern

abbrev Place (α : Type) := Option α × List α

def atBoundary (word : α → Bool) (place : Place α) : Bool := (place.1.any word) != (place.2.head?.any word)

inductive Matches : Pattern α → Place α → Place α → Prop where
  | char : accepts c = true → Matches (.char accepts) (before,c :: rest) (some c,rest)
  | boundary : atBoundary word place = true → Matches (.boundary word) place place
  | empty : Matches .empty place place
  | seq : Matches first start middle → Matches second middle stop → Matches (.seq first second) start stop
  | left : Matches left start stop → Matches (.alt left right) start stop
  | right : Matches right start stop → Matches (.alt left right) start stop
  | done : Matches (.star body) place place
  | again : Matches body start middle → Matches (.star body) middle stop → Matches (.star body) start stop

-- The ends of the rounds of a star; a round that reads nothing adds no end.
def rounds (ends : Place α → List (Place α)) : Nat → Place α → List (Place α)
  | 0,place => [place]
  | fuel + 1,place =>
    place :: ((ends place).filter fun next => decide (next.2.length < place.2.length)).flatMap (rounds ends fuel)

def ends : Pattern α → Place α → List (Place α)
  | .char accepts,place => match place.2 with
    | [] => []
    | c :: rest => if accepts c then [(some c,rest)] else []
  | .boundary word,place => if atBoundary word place then [place] else []
  | .empty,place => [place]
  | .seq first second,place => (ends first place).flatMap (ends second)
  | .alt left right,place => ends left place ++ ends right place
  | .star body,place => rounds (ends body) place.2.length place

-- pattern.search(text) finds something.
def places : Option α → List α → List (Place α)
  | before,[] => [(before,[])]
  | before,c :: rest => (before,c :: rest) :: places (some c) rest

def search (pattern : Pattern α) (text : List α) : Bool :=
  (places none text).any fun place => !(ends pattern place).isEmpty

theorem Matches.forward {pattern : Pattern α} {start stop : Place α} (found : Matches pattern start stop) :
    stop = start ∨ stop.2.length < start.2.length ∧ stop.2 <:+ start.2 := by
  induction found with
  | char _ => exact .inr ⟨Nat.lt_succ_self _,List.suffix_cons _ _⟩
  | boundary _ => exact .inl rfl
  | empty => exact .inl rfl
  | left _ ih => exact ih
  | right _ ih => exact ih
  | done => exact .inl rfl
  | seq _ _ ihFirst ihSecond | again _ _ ihFirst ihSecond =>
    rcases ihSecond with rfl | ⟨shorter,suffix⟩
    · exact ihFirst
    · rcases ihFirst with rfl | ⟨also,within⟩
      · exact .inr ⟨shorter,suffix⟩
      · exact .inr ⟨Nat.lt_trans shorter also,suffix.trans within⟩

theorem Matches.suffix {pattern : Pattern α} {start stop : Place α} (found : Matches pattern start stop) :
    stop.2 <:+ start.2 := by
  rcases found.forward with rfl | ⟨_,within⟩
  · exact List.suffix_refl _
  · exact within

theorem rounds_self (ends : Place α → List (Place α)) (fuel : Nat) (place : Place α) : place ∈ rounds ends fuel place := by
  cases fuel with
  | zero => exact List.mem_cons_self
  | succ fuel => exact List.mem_cons_self

theorem rounds_sound {body : Pattern α} {stop : Place α}
    (sound : ∀ place next, next ∈ ends body place → Matches body place next) (fuel : Nat) (start : Place α)
    (member : stop ∈ rounds (ends body) fuel start) : Matches (.star body) start stop := by
  induction fuel generalizing start with
  | zero =>
    cases List.mem_singleton.mp member
    exact .done
  | succ fuel ih =>
    rcases List.mem_cons.mp member with rfl | later
    · exact .done
    · obtain ⟨next,inside,further⟩ := List.mem_flatMap.mp later
      exact .again (sound start next (List.mem_filter.mp inside).1) (ih next further)

-- Rounds that read nothing are left out; every other one uses up a character, so
-- that the length of the text is fuel enough.
theorem rounds_complete {body : Pattern α} {start stop : Place α}
    (complete : ∀ place next, Matches body place next → next ∈ ends body place)
    (found : Matches (.star body) start stop) (fuel : Nat) (enough : start.2.length ≤ fuel) :
    stop ∈ rounds (ends body) fuel start := by
  generalize same : Pattern.star body = pattern at found
  induction found generalizing fuel with
  | char _ => cases same
  | boundary _ => cases same
  | empty => cases same
  | seq _ _ _ _ => cases same
  | left _ _ => cases same
  | right _ _ => cases same
  | done => exact rounds_self _ _ _
  | @again _ start middle stop round _ _ ih =>
    cases same
    rcases round.forward with rfl | ⟨shorter,_⟩
    · exact ih fuel enough rfl
    · cases fuel with
      | zero => omega
      | succ fuel =>
        have later := ih fuel (by omega) rfl
        refine List.mem_cons_of_mem _ (List.mem_flatMap.mpr ⟨middle,?_,later⟩)
        exact List.mem_filter.mpr ⟨complete start middle round,decide_eq_true shorter⟩

theorem matches_char {accepts : α → Bool} {start stop : Place α} : Matches (.char accepts) start stop ↔
    ∃ c rest, start.2 = c :: rest ∧ accepts c = true ∧ stop = (some c,rest) := by
  constructor
  · intro found
    cases found with
    | char accepted => exact ⟨_,_,rfl,accepted,rfl⟩
  · intro read
    obtain ⟨before,text⟩ := start
    obtain ⟨c,rest,same,accepted,rfl⟩ := read
    cases same
    exact .char accepted

theorem matches_boundary {word : α → Bool} {start stop : Place α} : Matches (.boundary word) start stop ↔
    atBoundary word start = true ∧ stop = start := by
  constructor
  · intro found
    cases found with
    | boundary bounded => exact ⟨bounded,rfl⟩
  · intro here
    obtain ⟨bounded,rfl⟩ := here
    exact .boundary bounded

theorem matches_empty {start stop : Place α} : Matches .empty start stop ↔ stop = start := by
  constructor
  · intro found
    cases found
    rfl
  · intro same
    subst same
    exact .empty

theorem matches_seq {first second : Pattern α} {start stop : Place α} : Matches (.seq first second) start stop ↔
    ∃ middle, Matches first start middle ∧ Matches second middle stop := by
  constructor
  · intro found
    cases found with
    | seq one two => exact ⟨_,one,two⟩
  · intro both
    obtain ⟨middle,one,two⟩ := both
    exact .seq one two

theorem matches_alt {left right : Pattern α} {start stop : Place α} : Matches (.alt left right) start stop ↔
    Matches left start stop ∨ Matches right start stop := by
  constructor
  · intro found
    cases found with
    | left one => exact .inl one
    | right other => exact .inr other
  · intro either
    cases either with
    | inl one => exact .left one
    | inr other => exact .right other

theorem ends_iff {pattern : Pattern α} {start stop : Place α} : stop ∈ ends pattern start ↔ Matches pattern start stop := by
  induction pattern generalizing start stop with
  | char accepts =>
    obtain ⟨before,text⟩ := start
    rw [matches_char]
    cases text with
    | nil => simp [ends]
    | cons c rest =>
      by_cases accepted : accepts c = true
      · simp [ends,accepted]
      · simp [ends,accepted]
  | boundary word =>
    rw [matches_boundary]
    by_cases bounded : atBoundary word start = true
    · simp [ends,bounded]
    · simp [ends,bounded]
  | empty => simp [ends,matches_empty]
  | seq first second ihFirst ihSecond => simp only [ends,List.mem_flatMap,matches_seq,ihFirst,ihSecond]
  | alt left right ihLeft ihRight => simp only [ends,List.mem_append,matches_alt,ihLeft,ihRight]
  | star body ih =>
    constructor
    · exact rounds_sound (fun _ _ => ih.mp) _ _
    · intro found
      exact rounds_complete (fun _ _ => ih.mpr) found _ (Nat.le_refl _)

theorem places_suffix {before : Option α} {text : List α} {place : Place α} (member : place ∈ places before text) :
    place.2 <:+ text := by
  induction text generalizing before with
  | nil =>
    cases List.mem_singleton.mp member
    exact List.suffix_refl _
  | cons c rest ih =>
    rcases List.mem_cons.mp member with rfl | later
    · exact List.suffix_refl _
    · exact (ih later).trans (List.suffix_cons _ _)

theorem search_iff {pattern : Pattern α} {text : List α} :
    search pattern text = true ↔ ∃ start ∈ places none text, ∃ stop, Matches pattern start stop := by
  simp only [search,List.any_eq_true,Bool.not_eq_true',List.isEmpty_eq_false_iff_exists_mem,ends_iff]

def Needs (pattern : Pattern α) (P : α → Prop) : Prop :=
  ∀ start stop, Matches pattern start stop → ∃ c ∈ start.2, P c

theorem Needs.char {accepts : α → Bool} : Needs (.char accepts) fun c => accepts c = true := by
  intro start stop found
  obtain ⟨c,rest,here,accepted,_⟩ := matches_char.mp found
  exact ⟨c,by simp [here],accepted⟩

theorem Needs.first {first second : Pattern α} {P : α → Prop} (needs : Needs first P) : Needs (.seq first second) P := by
  intro start stop found
  obtain ⟨middle,one,_⟩ := matches_seq.mp found
  exact needs start middle one

theorem Needs.second {first second : Pattern α} {P : α → Prop} (needs : Needs second P) : Needs (.seq first second) P := by
  intro start stop found
  obtain ⟨middle,one,two⟩ := matches_seq.mp found
  obtain ⟨c,member,holds⟩ := needs middle stop two
  exact ⟨c,one.suffix.subset member,holds⟩

theorem Needs.search {pattern : Pattern α} {P : α → Prop} {text : List α} (needs : Needs pattern P)
    (found : search pattern text = true) : ∃ c ∈ text, P c := by
  obtain ⟨start,member,stop,matched⟩ := search_iff.mp found
  obtain ⟨c,inside,holds⟩ := needs start stop matched
  exact ⟨c,(places_suffix member).subset inside,holds⟩

end PatternSearch
