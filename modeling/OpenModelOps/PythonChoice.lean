import Mathlib.Data.List.Basic
import Mathlib.Data.Nat.Basic
import Mathlib.Order.Lattice

namespace PythonChoice
variable {α β : Type}

-- max() and min() keep the first of several best items.
def pick (better : α → α → Bool) : List α → Option α
  | [] => none
  | first :: rest => some (rest.foldl (fun best item => if better item best then item else best) first)

-- max(items, key=key).
def maxBy (key : α → Nat) (items : List α) : Option α := pick (fun item best => decide (key best < key item)) items

theorem maxBy_none {key : α → Nat} {items : List α} : maxBy key items = none ↔ items = [] := by
  cases items with
  | nil => exact ⟨fun _ => rfl,fun _ => rfl⟩
  | cons first rest => exact ⟨nofun,nofun⟩

section Keys
variable {κ : Type} [LinearOrder κ]

-- max(items, key=key) for keys of any order.
def greatest (key : α → κ) (items : List α) : Option α := pick (fun item best => decide (key best < key item)) items

theorem fold_greatest (key : α → κ) (first : α) (rest : List α) :
    let best := rest.foldl (fun best item => if decide (key best < key item) then item else best) first
    (best = first ∨ best ∈ rest) ∧ key first ≤ key best ∧ ∀ item ∈ rest, key item ≤ key best := by
  induction rest generalizing first with
  | nil => exact ⟨.inl rfl,le_refl _,nofun⟩
  | cons item rest ih =>
    by_cases better : key first < key item
    · obtain ⟨origin,above,others⟩ := ih item
      simp only [List.foldl_cons,decide_eq_true better,if_true]
      refine ⟨.inr ?_,le_trans (le_of_lt better) above,?_⟩
      · rcases origin with same | inside
        · rw [same]; exact List.mem_cons_self
        · exact List.mem_cons_of_mem _ inside
      · exact List.forall_mem_cons.mpr ⟨above,others⟩
    · obtain ⟨origin,above,others⟩ := ih first
      simp only [List.foldl_cons,decide_eq_false better,Bool.false_eq_true,if_false]
      refine ⟨?_,above,?_⟩
      · rcases origin with same | inside
        · exact .inl same
        · exact .inr (List.mem_cons_of_mem _ inside)
      · exact List.forall_mem_cons.mpr ⟨le_trans (not_lt.mp better) above,others⟩

theorem greatest_none {key : α → κ} {items : List α} : greatest key items = none ↔ items = [] := by
  cases items with
  | nil => exact ⟨fun _ => rfl,fun _ => rfl⟩
  | cons first rest => exact ⟨nofun,nofun⟩

theorem greatest_above {key : α → κ} {items : List α} (found : greatest key items = some best) :
    best ∈ items ∧ ∀ item ∈ items, key item ≤ key best := by
  cases items with
  | nil => cases found
  | cons first rest =>
    obtain ⟨origin,above,others⟩ := fold_greatest key first rest
    have same := Option.some.inj found
    rw [same] at origin above others
    refine ⟨?_,List.forall_mem_cons.mpr ⟨above,others⟩⟩
    rcases origin with rfl | inside
    · exact List.mem_cons_self
    · exact List.mem_cons_of_mem _ inside

end Keys

theorem maxBy_greatest {key : α → Nat} {items : List α} (found : maxBy key items = some best) :
    best ∈ items ∧ ∀ item ∈ items, key item ≤ key best := by
  have same : greatest key items = some best := found
  exact greatest_above same

end PythonChoice
