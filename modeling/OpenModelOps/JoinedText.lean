import Mathlib.Data.List.Basic

namespace JoinedText
variable {α : Type*} {mark : α} {left right first second : List α}

section Marks
variable [DecidableEq α]

theorem before_mark (unmarked : mark ∉ left) (absent : mark ∉ first)
    (same : left ++ mark :: right = first ++ mark :: second) : left = first ∧ right = second := by
  have taken : ∀ before after : List α, mark ∉ before →
      (before ++ mark :: after).takeWhile (fun c => decide (c ≠ mark)) = before := by
    intro before after absent
    have passes : ∀ c ∈ before, decide (c ≠ mark) = true := by
      intro c member
      rw [decide_eq_true_eq]
      intro same
      exact absent (same ▸ member)
    rw [List.takeWhile_append_of_pos passes,List.takeWhile_cons_of_neg (by simp),List.append_nil]
  have lefts := (taken left right unmarked).symm.trans (same ▸ taken first second absent)
  subst lefts
  exact ⟨rfl,(List.cons.inj (List.append_cancel_left same)).2⟩

theorem after_mark (unmarked : mark ∉ right) (absent : mark ∉ second)
    (same : left ++ mark :: right = first ++ mark :: second) : left = first ∧ right = second := by
  have turned : right.reverse ++ mark :: left.reverse = second.reverse ++ mark :: first.reverse := by
    have both := congrArg List.reverse same
    simpa only [List.reverse_append,List.reverse_cons,List.append_assoc,List.singleton_append] using both
  obtain ⟨rights,lefts⟩ := before_mark (fun member => unmarked (List.mem_reverse.mp member))
    (fun member => absent (List.mem_reverse.mp member)) turned
  exact ⟨List.reverse_injective lefts,List.reverse_injective rights⟩

end Marks

structure Headers (mark : α) (Header : List α → Prop) : Prop where
  nonempty : ¬ Header []
  unmarked : ∀ {header}, Header header → mark ∉ header
  ends : ∀ {header other rest more}, Header header → Header other → header ++ rest = other ++ more → header = other

def Plain (mark : α) (Header : List α → Prop) (body : List α) : Prop :=
  ∀ header, Header header → ¬ mark :: header <:+: body

def render (mark : α) (turns : List (List α × List α)) : List α :=
  [mark].intercalate (turns.map fun turn => turn.1 ++ turn.2)

variable {Header : List α → Prop} {header other body rest more : List α} {turn : List α × List α}
  {turns others : List (List α × List α)}

theorem render_single : render mark [turn] = turn.1 ++ turn.2 := by simp [render]

theorem render_cons (turn : List α × List α) (more : turns ≠ []) :
    render mark (turn :: turns) = turn.1 ++ (turn.2 ++ mark :: render mark turns) := by
  cases turns with
  | nil => exact absurd rfl more
  | cons next turns => simp [render,List.intercalate]

theorem render_head (turn : List α × List α) (turns : List (List α × List α)) :
    ∃ rest, render mark (turn :: turns) = turn.1 ++ rest := by
  cases turns with
  | nil => exact ⟨turn.2,render_single⟩
  | cons next turns => exact ⟨_,render_cons turn (by simp)⟩

-- A header that begins in a body cannot end outside of it: the next mark comes
-- only after the body.
theorem body_starts (headers : Headers mark Header) (plain : Plain mark Header (body ++ first)) (headed : Header header)
    (same : mark :: (header ++ rest) = first ++ mark :: more) : first = [] := by
  cases first with
  | nil => rfl
  | cons start first =>
    obtain ⟨rfl,tails⟩ := List.cons.inj same
    exfalso
    rcases List.append_eq_append_iff.mp tails with ⟨inside,rfl,_⟩ | ⟨outside,rfl,beyond⟩
    · exact plain header headed ⟨body,inside,by simp⟩
    · cases outside with
      | nil => exact plain first (by simpa using headed) ⟨body,[],by simp⟩
      | cons next outside =>
        obtain ⟨rfl,_⟩ := List.cons.inj beyond
        exact headers.unmarked headed (by simp)

theorem body_ends (headers : Headers mark Header) (leftPlain : Plain mark Header left) (rightPlain : Plain mark Header right)
    (headed : Header header) (others : Header other)
    (same : left ++ mark :: (header ++ rest) = right ++ mark :: (other ++ more)) : left = right := by
  rcases List.append_eq_append_iff.mp same with ⟨middle,rfl,tails⟩ | ⟨middle,rfl,tails⟩
  · rw [body_starts headers rightPlain headed tails,List.append_nil]
  · rw [body_starts headers leftPlain others tails,List.append_nil]

theorem body_last (plain : Plain mark Header (left ++ mark :: (header ++ rest))) (headed : Header header) : False :=
  plain header headed ⟨left,rest,by simp⟩

structure Readable (mark : α) (Header : List α → Prop) (turn : List α × List α) : Prop where
  header : Header turn.1
  plain : Plain mark Header turn.2

theorem render_nonempty (headers : Headers mark Header) (headed : Header turn.1) : render mark (turn :: turns) ≠ [] := by
  intro empty
  obtain ⟨rest,shown⟩ := @render_head _ mark turn turns
  rw [empty] at shown
  have none := (List.append_eq_nil_iff.mp shown.symm).1
  exact headers.nonempty (none ▸ headed)

theorem tails_injective (headers : Headers mark Header) (leftPlain : Plain mark Header left)
    (rightPlain : Plain mark Header right) (leftTurns : ∀ turn ∈ turns, Readable mark Header turn)
    (rightTurns : ∀ turn ∈ others, Readable mark Header turn)
    (same : render mark (([],left) :: turns) = render mark (([],right) :: others)) :
    left = right ∧ render mark turns = render mark others := by
  cases turns with
  | nil =>
    cases others with
    | nil => simpa [render_single] using same
    | cons next others =>
      rw [render_single,render_cons _ (by simp)] at same
      obtain ⟨rest,shown⟩ := @render_head _ mark next others
      rw [shown] at same
      simp only [List.nil_append] at same
      subst same
      exact (body_last leftPlain (rightTurns _ List.mem_cons_self).header).elim
  | cons turn turns =>
    obtain ⟨rest,shown⟩ := @render_head _ mark turn turns
    have headed := (leftTurns _ List.mem_cons_self).header
    rw [render_cons ([],left) (by simp)] at same
    cases others with
    | nil =>
      rw [render_single,shown] at same
      simp only [List.nil_append] at same
      subst same
      exact (body_last rightPlain headed).elim
    | cons next others =>
      obtain ⟨more,display⟩ := @render_head _ mark next others
      rw [render_cons ([],right) (by simp)] at same
      simp only [List.nil_append] at same
      have bodies : left = right := by
        rw [shown,display] at same
        exact body_ends headers leftPlain rightPlain headed (rightTurns _ List.mem_cons_self).header same
      subst bodies
      exact ⟨rfl,(List.cons.inj (List.append_cancel_left same)).2⟩

theorem render_behead (turn : List α × List α) (turns : List (List α × List α)) :
    render mark (turn :: turns) = turn.1 ++ render mark (([],turn.2) :: turns) := by
  cases turns with
  | nil => simp [render_single]
  | cons next turns => simp [render_cons]

theorem render_injective (headers : Headers mark Header) (leftTurns : ∀ turn ∈ turns, Readable mark Header turn)
    (rightTurns : ∀ turn ∈ others, Readable mark Header turn) (same : render mark turns = render mark others) :
    turns = others := by
  induction turns generalizing others with
  | nil =>
    cases others with
    | nil => rfl
    | cons next others => exact absurd same.symm (render_nonempty headers (rightTurns _ List.mem_cons_self).header)
  | cons turn turns ih =>
    have readable := leftTurns _ List.mem_cons_self
    cases others with
    | nil => exact absurd same (render_nonempty headers readable.header)
    | cons next others =>
      have other := rightTurns _ List.mem_cons_self
      rw [render_behead turn,render_behead next] at same
      have starts := headers.ends readable.header other.header same
      rw [starts] at same
      have laterLeft : ∀ turn ∈ turns, Readable mark Header turn := fun _ member => leftTurns _ (List.mem_cons_of_mem _ member)
      have laterRight : ∀ turn ∈ others, Readable mark Header turn := fun _ member => rightTurns _ (List.mem_cons_of_mem _ member)
      obtain ⟨bodies,rests⟩ := tails_injective headers readable.plain other.plain laterLeft laterRight
        (List.append_cancel_left same)
      rw [Prod.ext starts bodies,ih laterLeft laterRight rests]

end JoinedText
