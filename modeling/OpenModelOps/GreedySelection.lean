import Mathlib.Data.List.Infix
import Mathlib.Data.List.Perm.Basic
import OpenModelOps.PythonChoice

namespace GreedySelection
open PythonChoice
variable {α κ : Type} [DecidableEq α] [LinearOrder κ] {gain : List α → α → κ} {candidates taken : List α} {steps : Nat}

-- A loop that moves one candidate at a time to those that are taken, the first
-- that gains most beside them, until there is none left or enough are taken.
def select (gain : List α → α → κ) : Nat → List α → List α → List α
  | 0,taken,_ => taken
  | steps + 1,taken,candidates => match greatest (gain taken) candidates with
    | none => taken
    | some choice => select gain steps (taken ++ [choice]) (candidates.erase choice)

-- The candidates that the loop adds, in the order in which it takes them.
def picks (gain : List α → α → κ) : Nat → List α → List α → List α
  | 0,_,_ => []
  | steps + 1,taken,candidates => match greatest (gain taken) candidates with
    | none => []
    | some choice => choice :: picks gain steps (taken ++ [choice]) (candidates.erase choice)

theorem select_picks (gain : List α → α → κ) (steps : Nat) (taken candidates : List α) :
    select gain steps taken candidates = taken ++ picks gain steps taken candidates := by
  induction steps generalizing taken candidates with
  | zero => simp [select,picks]
  | succ steps ih =>
    cases found : greatest (gain taken) candidates with
    | none => simp [select,picks,found]
    | some choice => simp [select,picks,found,ih]

theorem picks_perm (gain : List α → α → κ) (steps : Nat) (taken candidates : List α) :
    ∃ left, (picks gain steps taken candidates ++ left).Perm candidates := by
  induction steps generalizing taken candidates with
  | zero => exact ⟨candidates,.refl _⟩
  | succ steps ih =>
    unfold picks
    cases found : greatest (gain taken) candidates with
    | none => exact ⟨candidates,.refl _⟩
    | some choice =>
      obtain ⟨member,_⟩ := greatest_above found
      obtain ⟨left,together⟩ := ih (taken ++ [choice]) (candidates.erase choice)
      exact ⟨left,(together.cons choice).trans (List.perm_cons_erase member).symm⟩

theorem picks_subset (member : choice ∈ picks gain steps taken candidates) : choice ∈ candidates := by
  obtain ⟨left,together⟩ := picks_perm gain steps taken candidates
  exact together.subset (List.mem_append_left left member)

theorem picks_length (gain : List α → α → κ) (steps : Nat) (taken candidates : List α) :
    (picks gain steps taken candidates).length = min steps candidates.length := by
  induction steps generalizing taken candidates with
  | zero => simp [picks]
  | succ steps ih =>
    unfold picks
    cases found : greatest (gain taken) candidates with
    | none => simp [greatest_none.mp found]
    | some choice =>
      obtain ⟨member,_⟩ := greatest_above found
      have some := List.length_pos_of_mem member
      simp only [List.length_cons,ih,List.length_erase_of_mem member]
      omega

theorem picks_take (gain : List α → α → κ) (steps more : Nat) (taken candidates : List α) :
    (picks gain (steps + more) taken candidates).take steps = picks gain steps taken candidates := by
  induction steps generalizing taken candidates with
  | zero => simp [picks]
  | succ steps ih =>
    rw [Nat.add_right_comm]
    unfold picks
    cases greatest (gain taken) candidates with
    | none => rfl
    | some choice => simp [ih]

theorem picks_greedy (split : picks gain steps taken candidates = earlier ++ choice :: later)
    (member : other ∈ candidates) (unpicked : other ∉ earlier) :
    gain (taken ++ earlier) other ≤ gain (taken ++ earlier) choice := by
  induction steps generalizing taken candidates earlier with
  | zero => simp [picks] at split
  | succ steps ih =>
    unfold picks at split
    cases found : greatest (gain taken) candidates with
    | none => simp [found] at split
    | some best =>
      obtain ⟨_,above⟩ := greatest_above found
      rw [found] at split
      cases earlier with
      | nil =>
        cases (List.cons.inj split).1
        simpa using above other member
      | cons first earlier =>
        obtain ⟨same,rest⟩ := List.cons.inj split
        subst same
        obtain ⟨away,apart⟩ := not_or.mp (mt List.mem_cons.mpr unpicked)
        have step := ih rest ((List.mem_erase_of_ne away).mpr member) apart
        simpa using step

end GreedySelection
