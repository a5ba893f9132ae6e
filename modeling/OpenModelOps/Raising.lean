import Mathlib.Data.List.Forall2

namespace Raising
variable {ε α β γ : Type}

theorem bind_ok {result : Except ε α} {next : α → Except ε β} (passed : (result >>= next) = .ok value) :
    ∃ middle, result = .ok middle ∧ next middle = .ok value := by
  cases result with
  | error message => cases passed
  | ok middle => exact ⟨middle,rfl,passed⟩

inductive Alike (same : α → β → Prop) : Except ε α → Except ε β → Prop where
  | error (failure : ε) : Alike same (.error failure) (.error failure)
  | ok {a : α} {b : β} (values : same a b) : Alike same (.ok a) (.ok b)

theorem Alike.mapError {same : α → β → Prop} {δ : Type} {left : Except ε α} {right : Except ε β} (alike : Alike same left right)
    (f : ε → δ) : Alike same (left.mapError f) (right.mapError f) := by
  cases alike with
  | error failure => exact .error (f failure)
  | ok values => exact .ok values

theorem Alike.bind {same : α → β → Prop} {first : Except ε γ} {left : γ → Except ε α} {right : γ → Except ε β}
    (alike : ∀ c, Alike same (left c) (right c)) : Alike same (first >>= left) (first >>= right) := by
  cases first with
  | error failure => exact .error failure
  | ok c => exact alike c

theorem Alike.guard {same : α → β → Prop} {refused also : Prop} [Decidable refused] [Decidable also] {left : Except ε α}
    {right : Except ε β} (guards : refused ↔ also) (failure : ε) (alike : Alike same left right) :
    Alike same (if refused then .error failure else left) (if also then .error failure else right) := by
  by_cases here : refused
  · rw [if_pos here,if_pos (guards.mp here)]
    exact .error failure
  · rw [if_neg here,if_neg (mt guards.mpr here)]
    exact alike

theorem isOk_iff {result : Except ε α} : result.isOk = true ↔ ∃ value, result = .ok value := by
  cases result with
  | error failure => simp [Except.isOk,Except.toBool]
  | ok value => simp [Except.isOk,Except.toBool]

theorem toOption_ok {result : Except ε α} : result.toOption = some value ↔ result = .ok value := by
  cases result <;> simp [Except.toOption]

theorem mapM_ok {f : α → Except ε β} {xs : List α} {ys : List β} :
    xs.mapM f = .ok ys ↔ List.Forall₂ (fun x y => f x = .ok y) xs ys := by
  induction xs generalizing ys with
  | nil =>
    rw [List.mapM_nil]
    constructor
    · intro made; cases made; exact .nil
    · intro related; cases related; rfl
  | cons x xs ih =>
    rw [List.mapM_cons]
    constructor
    · intro made
      obtain ⟨y,head,made⟩ := bind_ok made
      obtain ⟨rest,tail,made⟩ := bind_ok made
      cases Except.ok.inj made
      exact .cons head (ih.mp tail)
    · intro related
      cases related with
      | cons head tail => rw [head,ih.mpr tail]; rfl

theorem related_left {R : α → β → Prop} {xs : List α} {ys : List β} (related : List.Forall₂ R xs ys) {x : α}
    (member : x ∈ xs) : ∃ y ∈ ys, R x y := by
  induction related with
  | nil => cases member
  | cons first _ ih =>
    rcases List.mem_cons.mp member with rfl | later
    · exact ⟨_,List.mem_cons_self,first⟩
    · obtain ⟨y,inside,here⟩ := ih later
      exact ⟨y,List.mem_cons_of_mem _ inside,here⟩

theorem related_right {R : α → β → Prop} {xs : List α} {ys : List β} (related : List.Forall₂ R xs ys) {y : β}
    (member : y ∈ ys) : ∃ x ∈ xs, R x y :=
  related_left related.flip member

theorem mapM_mem {f : α → Except ε β} {xs : List α} {ys : List β} (made : xs.mapM f = .ok ys) :
    (∀ x ∈ xs, ∃ y ∈ ys, f x = .ok y) ∧ ∀ y ∈ ys, ∃ x ∈ xs, f x = .ok y :=
  ⟨fun _ => related_left (mapM_ok.mp made),fun _ => related_right (mapM_ok.mp made)⟩

theorem mapM_total {f : α → Except ε β} {xs : List α} (each : ∀ x ∈ xs, ∃ y, f x = .ok y) : ∃ ys, xs.mapM f = .ok ys := by
  induction xs with
  | nil => exact ⟨[],rfl⟩
  | cons x rest ih =>
    obtain ⟨⟨y,here⟩,later⟩ := List.forall_mem_cons.mp each
    obtain ⟨ys,made⟩ := ih later
    exact ⟨y :: ys,by rw [List.mapM_cons,here,made]; rfl⟩

theorem mapM_zipWith (f : α → Except ε β) (g : α → β → γ) (xs : List α) :
    (xs.mapM fun x => do let y ← f x; return g x y) = (xs.mapM f).map (List.zipWith g xs) := by
  induction xs with
  | nil => rfl
  | cons x rest ih =>
    rw [List.mapM_cons,List.mapM_cons,ih]
    cases f x with
    | error failure => rfl
    | ok y =>
      cases rest.mapM f with
      | error failure => rfl
      | ok ys => rfl

theorem mapM_some {f : α → Option β} {xs : List α} {ys : List β} (mapped : xs.mapM f = some ys) :
    List.Forall₂ (fun x y => f x = some y) xs ys := by
  induction xs generalizing ys with
  | nil => cases mapped; exact .nil
  | cons x rest ih =>
    simp only [List.mapM_cons,Option.bind_eq_bind,Option.bind_eq_some_iff] at mapped
    obtain ⟨y,here,later,deeper,same⟩ := mapped
    cases Option.some.inj same
    exact .cons here (ih deeper)

theorem mapM_map {f : α → Option β} {items : List α} (g : α → β) (each : ∀ a ∈ items, f a = some (g a)) :
    items.mapM f = some (items.map g) := by
  induction items with
  | nil => rfl
  | cons a rest ih =>
    have later := ih fun c member => each c (List.mem_cons_of_mem _ member)
    simp [List.mapM_cons,each a List.mem_cons_self,later]

theorem mapM_filterMap {f : α → Option β} {items : List α} (each : ∀ a ∈ items, ∃ b, f a = some b) :
    items.mapM f = some (items.filterMap f) := by
  induction items with
  | nil => rfl
  | cons a rest ih =>
    obtain ⟨b,found⟩ := each a List.mem_cons_self
    have later := ih fun c member => each c (List.mem_cons_of_mem _ member)
    simp [List.mapM_cons,found,later]

theorem mapM_isSome {f : α → Option β} {items : List α} :
    (∃ found, items.mapM f = some found) ↔ ∀ a ∈ items, (f a).isSome := by
  induction items with
  | nil => simp
  | cons a rest ih =>
    rw [List.forall_mem_cons,← ih,List.mapM_cons]
    cases f a with
    | none => simp
    | some b => cases rest.mapM f <;> simp

theorem forM_error {f : α → Except ε Unit} {xs : List α} {failure : ε} : xs.forM f = .error failure ↔
    ∃ before x after, xs = before ++ x :: after ∧ (∀ y ∈ before, f y = .ok ()) ∧ f x = .error failure := by
  induction xs with
  | nil =>
    constructor
    · exact nofun
    · intro split
      obtain ⟨before,x,after,split,_⟩ := split
      cases before with
      | nil => cases split
      | cons => cases split
  | cons head rest ih =>
    have step : (head :: rest).forM f = (f head >>= fun _ => rest.forM f) := rfl
    rw [step]
    constructor
    · intro failed
      cases here : f head with
      | error early =>
        rw [here] at failed
        cases failed
        exact ⟨[],head,rest,rfl,nofun,here⟩
      | ok _ =>
        rw [here] at failed
        obtain ⟨before,x,after,rfl,passed,raised⟩ := ih.mp failed
        exact ⟨head :: before,x,after,rfl,List.forall_mem_cons.mpr ⟨here,passed⟩,raised⟩
    · intro split
      obtain ⟨before,x,after,split,passed,raised⟩ := split
      cases before with
      | nil =>
        cases split
        rw [raised]
        rfl
      | cons first before =>
        cases split
        obtain ⟨here,passed⟩ := List.forall_mem_cons.mp passed
        rw [here]
        exact ih.mpr ⟨before,x,after,rfl,passed,raised⟩

theorem forM_ok {f : α → Except ε Unit} {xs : List α} : xs.forM f = .ok () ↔ ∀ x ∈ xs, f x = .ok () := by
  induction xs with
  | nil => exact ⟨fun _ => nofun,fun _ => rfl⟩
  | cons head rest ih =>
    have step : (head :: rest).forM f = (f head >>= fun _ => rest.forM f) := rfl
    rw [step,List.forall_mem_cons,← ih]
    cases here : f head with
    | error early => exact ⟨nofun,fun both => nomatch both.1⟩
    | ok _ => exact ⟨fun passed => ⟨rfl,passed⟩,fun both => both.2⟩

end Raising
