import Mathlib.Data.Set.Lattice
import Mathlib.Order.CompletePartialOrder

namespace OpenModelOps.Footprints

section Confined
variable {State Slot : Type} {Held : Slot → Type} {read : State → (slot : Slot) → Held slot}

-- An operation on a state of slots that writes no slot outside its footprint,
-- and whose writes depend on no other.
structure Confined (read : State → (slot : Slot) → Held slot) (operation : State → State) (footprint : Set Slot) :
    Prop where
  writes : ∀ state slot, slot ∉ footprint → read (operation state) slot = read state slot
  reads : ∀ first second, (∀ slot ∈ footprint, read first slot = read second slot) →
    ∀ slot ∈ footprint, read (operation first) slot = read (operation second) slot

theorem Confined.after (left : Confined read first footprint) (right : Confined read second other)
    (disjoint : Disjoint footprint other) (state : State) (slot : Slot) (inside : slot ∈ footprint) :
    read (first (second state)) slot = read (second (first state)) slot := by
  have untouched : ∀ held ∈ footprint, read (second state) held = read state held := by
    intro held member
    exact right.writes state held fun also => Set.disjoint_left.mp disjoint member also
  have outside : slot ∉ other := fun also => Set.disjoint_left.mp disjoint inside also
  exact (left.reads _ _ untouched slot inside).trans (right.writes (first state) slot outside).symm

end Confined

section Settling
variable {State Label : Type} {act : Label → State → State} {Valid : State → Prop}

-- Actions that commute and that a second time do nothing, on the states that an
-- invariant describes.
structure Settling (act : Label → State → State) (Valid : State → Prop) : Prop where
  keeps : ∀ label state, Valid state → Valid (act label state)
  again : ∀ label state, Valid state → act label (act label state) = act label state
  swaps : ∀ first second state, Valid state → act first (act second state) = act second (act first state)

def run (act : Label → State → State) (state : State) (labels : List Label) : State :=
  labels.foldl (fun reached label => act label reached) state

theorem Settling.valid (settling : Settling act Valid) (labels : List Label) (valid : Valid state) :
    Valid (run act state labels) := by
  induction labels generalizing state with
  | nil => exact valid
  | cons label rest ih => exact ih (settling.keeps label state valid)

end Settling

end OpenModelOps.Footprints
