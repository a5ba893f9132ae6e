import Mathlib.Data.List.Nodup

namespace KeyedEffects
variable {ρ κ α : Type} [DecidableEq κ]

-- A receiver that keeps its word about idempotency keys: what it is told under
-- a key that it knows has no effect any more.
structure Receiver (ρ κ α : Type) [DecidableEq κ] where
  start : ρ
  receive : ρ → κ → α → ρ
  effects : ρ → List (κ × α)
  untold : effects start = []
  remembers : ∀ r key value, effects (receive r key value) =
    if key ∈ (effects r).map Prod.fst then effects r else effects r ++ [(key,value)]

def Receiver.told (receiver : Receiver ρ κ α) (r : ρ) (key : κ) (value : α) : Nat → ρ
  | 0 => r
  | times + 1 => receiver.receive (receiver.told r key value times) key value

variable {receiver : Receiver ρ κ α} {r : ρ} {key : κ} {value : α} {entry : κ × α}

theorem known_receive : key ∈ (receiver.effects (receiver.receive r key value)).map Prod.fst := by
  rw [receiver.remembers]
  split
  · assumption
  · simp

theorem effects_told (receiver : Receiver ρ κ α) (r : ρ) (key : κ) (value : α) (times : Nat) :
    receiver.effects (receiver.told r key value times) = receiver.effects r ∨
      (key ∉ (receiver.effects r).map Prod.fst ∧
        receiver.effects (receiver.told r key value times) = receiver.effects r ++ [(key,value)]) := by
  induction times with
  | zero => exact .inl rfl
  | succ times ih =>
    rw [Receiver.told,receiver.remembers]
    split
    · exact ih
    · rename_i unknown
      rcases ih with same | ⟨fresh,extended⟩
      · rw [same] at unknown ⊢
        exact .inr ⟨unknown,rfl⟩
      · rw [extended] at unknown
        simp at unknown

theorem told_kept (times : Nat) (member : entry ∈ receiver.effects r) :
    entry ∈ receiver.effects (receiver.told r key value times) := by
  rcases effects_told receiver r key value times with same | ⟨_,extended⟩
  · rw [same]
    exact member
  · rw [extended]
    exact List.mem_append_left _ member

theorem told_parts (times : Nat) (member : entry ∈ receiver.effects (receiver.told r key value times)) :
    entry ∈ receiver.effects r ∨ entry = (key,value) := by
  rcases effects_told receiver r key value times with same | ⟨_,extended⟩
  · rw [same] at member
    exact .inl member
  · rw [extended] at member
    rcases List.mem_append.mp member with before | last
    · exact .inl before
    · exact .inr (List.mem_singleton.mp last)

theorem told_known (arrived : 0 < times) : ∃ first, (key,first) ∈ receiver.effects (receiver.told r key value times) := by
  cases times with
  | zero => exact absurd arrived (Nat.lt_irrefl 0)
  | succ times =>
    obtain ⟨entry,member,same⟩ := List.mem_map.mp (@known_receive ρ κ α _ receiver (receiver.told r key value times) key value)
    obtain ⟨known,first⟩ := entry
    cases same
    exact ⟨first,member⟩

theorem told_nodup (times : Nat) (single : ((receiver.effects r).map Prod.fst).Nodup) :
    ((receiver.effects (receiver.told r key value times)).map Prod.fst).Nodup := by
  rcases effects_told receiver r key value times with same | ⟨fresh,extended⟩
  · rw [same]
    exact single
  · rw [extended,List.map_append,List.map_singleton]
    refine List.nodup_append.mpr ⟨single,List.nodup_singleton _,fun other listed last only same => ?_⟩
    obtain rfl := List.mem_singleton.mp only
    subst same
    exact fresh listed

end KeyedEffects
