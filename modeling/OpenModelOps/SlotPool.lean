import Mathlib.Algebra.BigOperators.Ring.Finset
import Mathlib.Algebra.Order.BigOperators.Group.Finset
import Mathlib.Algebra.Order.Field.Basic

namespace SlotPool
variable {κ α R : Type*} [Fintype κ] [DecidableEq κ] {slots : κ → Option α} {slot : κ} {item : α}

def busy (slots : κ → Option α) : Finset κ := Finset.univ.filter fun slot => (slots slot).isSome

omit [DecidableEq κ] in
theorem mem_busy : slot ∈ busy slots ↔ ∃ item, slots slot = some item := by
  simp [busy,Option.isSome_iff_exists]

theorem busy_fill (slots : κ → Option α) (slot : κ) (item : α) :
    busy (Function.update slots slot (some item)) = insert slot (busy slots) := by
  ext other
  by_cases here : other = slot
  · subst here; simp [busy]
  · simp [busy,here]

theorem busy_clear (slots : κ → Option α) (slot : κ) :
    busy (Function.update slots slot none) = (busy slots).erase slot := by
  ext other
  by_cases here : other = slot
  · subst here; simp [busy]
  · simp [busy,here]

theorem card_fill (vacant : slots slot = none) (item : α) :
    (busy (Function.update slots slot (some item))).card = (busy slots).card + 1 := by
  rw [busy_fill,Finset.card_insert_of_notMem]
  simp [mem_busy,vacant]

theorem card_clear (working : slots slot = some item) :
    (busy (Function.update slots slot none)).card = (busy slots).card - 1 := by
  rw [busy_clear,Finset.card_erase_of_mem (mem_busy.mpr ⟨item,working⟩)]

section Load
variable [Field R] [LinearOrder R] [IsStrictOrderedRing R] {weight : α → R} {budget : R}

def load (weight : α → R) (slots : κ → Option α) : R := ∑ slot, (slots slot).elim 0 weight

omit [DecidableEq κ] [LinearOrder R] [IsStrictOrderedRing R] in
theorem load_busy (weight : α → R) (slots : κ → Option α) :
    load weight slots = ∑ slot ∈ busy slots, (slots slot).elim 0 weight := by
  refine (Finset.sum_subset (Finset.subset_univ _) ?_).symm
  intro slot _ absent
  have vacant : slots slot = none := by simpa [busy] using absent
  rw [vacant]; rfl

omit [DecidableEq κ] in
theorem load_shared (room : 0 ≤ budget)
    (shares : ∀ slot item, slots slot = some item → weight item * (busy slots).card ≤ budget) :
    load weight slots ≤ budget := by
  rw [load_busy]
  rcases Finset.eq_empty_or_nonempty (busy slots) with empty | occupied
  · rw [empty,Finset.sum_empty]; exact room
  have positive : (0 : R) < (busy slots).card := by exact_mod_cast occupied.card_pos
  have each : ∀ slot ∈ busy slots, (slots slot).elim 0 weight ≤ budget / (busy slots).card := by
    intro slot member
    obtain ⟨item,working⟩ := mem_busy.mp member
    rw [working,le_div_iff₀ positive]
    exact shares slot item working
  calc ∑ slot ∈ busy slots, (slots slot).elim 0 weight
      ≤ (busy slots).card • (budget / (busy slots).card) := Finset.sum_le_card_nsmul _ _ _ each
    _ = budget := by rw [nsmul_eq_mul,mul_div_cancel₀ _ positive.ne']

theorem load_clear (light : ∀ slot item, slots slot = some item → 0 ≤ weight item) (slot : κ) :
    load weight (Function.update slots slot none) ≤ load weight slots := by
  refine Finset.sum_le_sum fun other _ => ?_
  by_cases here : other = slot
  · subst here
    rw [Function.update_self]
    cases working : slots other with
    | none => exact le_refl _
    | some item => exact light other item working
  · rw [Function.update_of_ne here]

end Load

end SlotPool
