import OpenModelOps.JsonNumbers

namespace PythonText
open JsonText

theorem digit_value {c : Char} (decimal : digit c.toNat) : digitValue c = some (c.toNat - 0x30) := by
  have bounds : (decide (0x30 ≤ c.toNat ∧ c.toNat < 0x30 + 10)) = true := by
    rw [decide_eq_true_eq]
    exact ⟨decimal.1,Nat.lt_succ_of_le decimal.2⟩
  have found : digitZeros.find? (fun base => decide (base ≤ c.toNat ∧ c.toNat < base + 10)) = some 0x30 :=
    List.find?_cons_of_pos bounds
  rw [digitValue,found]
  rfl

theorem intDigits_plain {cs : List Char} (nonempty : cs ≠ []) (decimal : ∀ c ∈ cs, digit c.toNat) :
    intDigits cs = some (cs.map fun c => c.toNat - 0x30) := by
  induction cs with
  | nil => exact absurd rfl nonempty
  | cons c rest ih =>
    have value := digit_value (decimal c List.mem_cons_self)
    cases rest with
    | nil => simp only [intDigits,value,List.map_cons,List.map_nil]
    | cons u more =>
      have later : ∀ d ∈ u :: more, digit d.toNat := fun d member => decimal d (List.mem_cons_of_mem _ member)
      have plain : u ≠ '_' := by
        rintro rfl
        exact absurd (later _ List.mem_cons_self).2 (by decide)
      simp only [intDigits,value,plain,if_false,ih (List.cons_ne_nil _ _) later,Option.map_some,List.map_cons]

theorem repr_decimal (n : Nat) : ∀ c ∈ n.repr.toList, digit c.toNat := fun _ member =>
  reprText_digits n _ (List.mem_map_of_mem member)

theorem intMagnitude_repr (short : n < 10 ^ maxStrDigits) : intMagnitude n.repr.toList = some n := by
  have nonempty : n.repr.toList ≠ [] := fun empty => reprText_nonempty n (congrArg (List.map Char.toNat) empty)
  have length : (n.repr.toList.map fun c => c.toNat - 0x30).length ≤ maxStrDigits := by
    have fits := (repr_length_le (show 0 < maxStrDigits by decide)).mpr short
    rw [text,List.length_map] at fits
    rw [List.length_map]
    exact fits
  have value : (n.repr.toList.map fun c => c.toNat - 0x30).foldl (10 * · + ·) 0 = n := by
    have read := digitsValue_repr n
    rw [digitsValue,text,List.foldl_map] at read
    rw [List.foldl_map]
    exact read
  rw [intMagnitude,intDigits_plain nonempty (repr_decimal n)]
  dsimp only
  rw [if_pos length,value]

theorem decimal_unspaced {c : Char} (decimal : digit c.toNat) : intSpace c = false := by
  obtain ⟨lower,upper⟩ := decimal
  have ascii : c.toNat < 127 := by omega
  simp only [intSpace,ascii,if_true,Bool.or_eq_false_iff,beq_eq_false_iff_ne,Bool.and_eq_false_iff,decide_eq_false_iff_not]
  omega

theorem trimmed_solid {cs : List Char} (solid : ∀ c ∈ cs, intSpace c = false) : trimmed cs = cs := by
  have kept : ∀ ds : List Char, (∀ c ∈ ds, intSpace c = false) → ds.dropWhile intSpace = ds := by
    intro ds each
    cases ds with
    | nil => rfl
    | cons d ds => rw [List.dropWhile_cons_of_neg (by simp [each d List.mem_cons_self])]
  rw [trimmed,kept cs solid,kept _ fun c member => solid c (List.mem_reverse.mp member),List.reverse_reverse]

theorem parseInt_toString {n : Int} (short : n.natAbs < 10 ^ maxStrDigits) : parseInt (toString n) = some n := by
  cases n with
  | ofNat m =>
    have chars : (toString (Int.ofNat m)).toList = m.repr.toList := rfl
    have decimal := repr_decimal m
    have magnitude : intMagnitude m.repr.toList = some m := intMagnitude_repr short
    have nonempty : m.repr.toList ≠ [] := fun empty => reprText_nonempty m (congrArg (List.map Char.toNat) empty)
    rw [parseInt,chars,trimmed_solid fun c member => decimal_unspaced (decimal c member)]
    cases shape : m.repr.toList with
    | nil => exact absurd shape nonempty
    | cons c rest =>
      rw [shape] at magnitude decimal
      have lead := decimal c List.mem_cons_self
      have positive : c ≠ '-' := by
        rintro rfl
        exact absurd lead.1 (by decide)
      have unsigned : c ≠ '+' := by
        rintro rfl
        exact absurd lead.1 (by decide)
      dsimp only
      rw [if_neg positive,if_neg unsigned,magnitude]
      rfl
  | negSucc m =>
    have chars : (toString (Int.negSucc m)).toList = '-' :: (m + 1).repr.toList := String.toList_append
    have solid : ∀ c ∈ '-' :: (m + 1).repr.toList, intSpace c = false := by
      intro c member
      rcases List.mem_cons.mp member with rfl | member
      · decide
      · exact decimal_unspaced (repr_decimal (m + 1) c member)
    have magnitude : intMagnitude (m + 1).repr.toList = some (m + 1) := intMagnitude_repr short
    rw [parseInt,chars,trimmed_solid solid]
    dsimp only
    rw [if_pos rfl,magnitude]
    rfl

end PythonText
