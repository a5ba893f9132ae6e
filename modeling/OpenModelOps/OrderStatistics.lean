import Mathlib.Algebra.BigOperators.Group.List.Basic
import Mathlib.Algebra.BigOperators.Ring.List
import Mathlib.Algebra.Order.BigOperators.Group.List
import Mathlib.Algebra.Order.Field.Basic
import Mathlib.Data.List.GetD
import Mathlib.Data.List.Sort
import Mathlib.Order.Lattice
import Mathlib.Tactic.Linarith

namespace OrderStatistics

section Order
variable {α : Type} [LinearOrder α] {xs ys : List α}

theorem insertionSort_perm (reordered : xs.Perm ys) : xs.insertionSort (· ≤ ·) = ys.insertionSort (· ≤ ·) :=
  (((List.perm_insertionSort (· ≤ ·) xs).trans reordered).trans (List.perm_insertionSort (· ≤ ·) ys).symm).eq_of_pairwise'
    (List.pairwise_insertionSort (· ≤ ·) xs) (List.pairwise_insertionSort (· ≤ ·) ys)

-- sorted(items, key=key): a stable sort by a key.
def sortBy (key : β → α) (items : List β) : List β := items.insertionSort fun a b => key a ≤ key b

theorem sortBy_perm (key : β → α) (items : List β) : (sortBy key items).Perm items := List.perm_insertionSort _ items

theorem sortBy_pairwise (key : β → α) (items : List β) : (sortBy key items).Pairwise fun a b => key a ≤ key b := by
  have : Std.Total fun (a b : β) => key a ≤ key b := ⟨fun a b => le_total (key a) (key b)⟩
  have : IsTrans β fun a b => key a ≤ key b := ⟨fun _ _ _ left right => le_trans left right⟩
  exact List.pairwise_insertionSort _ items

theorem sortBy_eq {key : β → α} {items others : List β} (moved : items.Perm others)
    (apart : ∀ a ∈ items, ∀ b ∈ items, key a = key b → a = b) : sortBy key items = sortBy key others := by
  have same : (sortBy key items).Perm (sortBy key others) :=
    (sortBy_perm key items).trans (moved.trans (sortBy_perm key others).symm)
  refine same.eq_of_pairwise ?_ (sortBy_pairwise key items) (sortBy_pairwise key others)
  intro a b left right below above
  have here := (sortBy_perm key items).mem_iff.mp left
  have there := moved.mem_iff.mpr ((sortBy_perm key others).mem_iff.mp right)
  exact apart a here b there (le_antisymm below above)

theorem max?_iff : xs.max? = some a ↔ a ∈ xs ∧ ∀ b ∈ xs, b ≤ a := List.max?_eq_some_iff

theorem min?_iff : xs.min? = some a ↔ a ∈ xs ∧ ∀ b ∈ xs, a ≤ b := List.min?_eq_some_iff

theorem max?_perm (reordered : xs.Perm ys) : xs.max? = ys.max? := by
  refine Option.ext fun a => ?_
  rw [max?_iff,max?_iff]
  simp only [reordered.mem_iff]

theorem min?_perm (reordered : xs.Perm ys) : xs.min? = ys.min? := by
  refine Option.ext fun a => ?_
  rw [min?_iff,min?_iff]
  simp only [reordered.mem_iff]

theorem extremes (inhabited : xs ≠ []) : ∃ low high, xs.min? = some low ∧ xs.max? = some high := by
  cases lowest : xs.min? with
  | none => exact absurd (List.min?_eq_none_iff.mp lowest) inhabited
  | some low =>
    cases highest : xs.max? with
    | none => exact absurd (List.max?_eq_none_iff.mp highest) inhabited
    | some high => exact ⟨low,high,rfl,rfl⟩

theorem sorted_getD_mem {i : Nat} (within : i < xs.length) (default : α) :
    (xs.insertionSort (· ≤ ·)).getD i default ∈ xs := by
  have inside : i < (xs.insertionSort (· ≤ ·)).length := by rwa [List.length_insertionSort]
  rw [List.getD_eq_getElem _ _ inside]
  exact (List.mem_insertionSort (· ≤ ·)).mp (List.getElem_mem inside)

end Order

section Weighted
variable {ι : Type} {items : List ι} {weight : ι → ℚ}

theorem weights_positive (inhabited : items ≠ []) (weighty : ∀ i ∈ items, 0 < weight i) : 0 < (items.map weight).sum := by
  have more := List.sum_lt_sum_of_ne_nil inhabited (fun _ => 0) weight weighty
  simpa using more

theorem weighted_reached (value : ι → ℚ) (inhabited : items ≠ []) (weighty : ∀ i ∈ items, 0 < weight i) :
    ∃ i ∈ items, value i ≤ (items.map fun i => value i * weight i).sum / (items.map weight).sum := by
  have total := weights_positive inhabited weighty
  by_contra above
  push Not at above
  have more := List.sum_lt_sum_of_ne_nil inhabited
    (fun i => (items.map fun i => value i * weight i).sum / (items.map weight).sum * weight i)
    (fun i => value i * weight i) fun i member => mul_lt_mul_of_pos_right (above i member) (weighty i member)
  rw [List.sum_map_mul_left,div_mul_cancel₀ _ total.ne'] at more
  exact lt_irrefl _ more

theorem weighted_bounded (value : ι → ℚ) (inhabited : items ≠ []) (weighty : ∀ i ∈ items, 0 < weight i) :
    ∃ i ∈ items, (items.map fun i => value i * weight i).sum / (items.map weight).sum ≤ value i := by
  have total := weights_positive inhabited weighty
  by_contra below
  push Not at below
  have less := List.sum_lt_sum_of_ne_nil inhabited (fun i => value i * weight i)
    (fun i => (items.map fun i => value i * weight i).sum / (items.map weight).sum * weight i)
    fun i member => mul_lt_mul_of_pos_right (below i member) (weighty i member)
  rw [List.sum_map_mul_left,div_mul_cancel₀ _ total.ne'] at less
  exact lt_irrefl _ less

end Weighted

end OrderStatistics
