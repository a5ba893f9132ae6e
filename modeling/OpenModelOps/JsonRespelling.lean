import OpenModelOps.JsonReading
import OpenModelOps.JsonRoundtrip

namespace JsonText
variable {ν : Type}

def Coded (t : Text) : Prop := ∀ c ∈ t, c < 0x110000

theorem text_coded (s : String) : Coded (text s) := (text_whole s).code

theorem unitsOf_legible (code : c < 0x110000) : ∀ unit ∈ unitsOf c, Legible unit := by
  intro unit member
  unfold unitsOf at member
  split at member
  · rename_i letter short
    cases List.mem_singleton.mp member
    exact .inr ⟨rfl,.inl (Nat.lt_trans (shortEscape_small short) (by decide))⟩
  · split at member
    · rename_i printable
      cases List.mem_singleton.mp member
      exact .inr ⟨rfl,.inl (Nat.lt_of_le_of_lt printable.2 (by decide))⟩
    · split at member
      · rename_i small
        cases List.mem_singleton.mp member
        exact .inl ⟨rfl,small⟩
      · simp only [List.mem_cons,List.not_mem_nil,or_false] at member
        rcases member with rfl | rfl
        · exact .inl ⟨rfl,by dsimp only; omega⟩
        · exact .inl ⟨rfl,by dsimp only; omega⟩

theorem readUnits_legible {t : Text} (coded : Coded t) : ∀ unit ∈ t.flatMap readUnits, Legible unit := by
  intro unit member
  obtain ⟨c,inside,found⟩ := List.mem_flatMap.mp member
  rw [readUnits_code (coded c inside)] at found
  exact unitsOf_legible (coded c inside) unit found

theorem high_bounds : high c = true ↔ 0xd800 ≤ c ∧ c ≤ 0xdbff := by
  simp only [high,Bool.and_eq_true,decide_eq_true_eq]

theorem low_bounds : low c = true ↔ 0xdc00 ≤ c ∧ c ≤ 0xdfff := by
  simp only [low,Bool.and_eq_true,decide_eq_true_eq]

theorem shortEscape_large (large : 0x80 ≤ c) : shortEscape c = none := by
  cases short : shortEscape c with
  | none => rfl
  | some letter =>
    have small := shortEscape_small short
    omega

theorem escape_large (large : 0x80 ≤ c) (small : c < 0x10000) : escape c = unicodeEscape c := by
  have unprintable : ¬ (0x20 ≤ c ∧ c ≤ 0x7e) := by omega
  simp only [escape,shortEscape_large large,if_neg unprintable,if_pos small]

theorem escape_astral (large : 0x10000 ≤ n) : escape n =
    unicodeEscape (0xd800 + (n - 0x10000) / 1024) ++ unicodeEscape (0xdc00 + (n - 0x10000) % 1024) := by
  have unprintable : ¬ (0x20 ≤ n ∧ n ≤ 0x7e) := by omega
  have short := @shortEscape_large n (by omega)
  simp only [escape,short,if_neg unprintable,if_neg (Nat.not_lt.mpr large)]

theorem escape_pair (isHigh : high c = true) (isLow : low d = true)
    (whole : n = 0x10000 + (c - 0xd800) * 1024 + (d - 0xdc00)) : escape n = escape c ++ escape d := by
  obtain ⟨lower,upper⟩ := high_bounds.mp isHigh
  obtain ⟨below,above⟩ := low_bounds.mp isLow
  have first : 0xd800 + (n - 0x10000) / 1024 = c := by omega
  have second : 0xdc00 + (n - 0x10000) % 1024 = d := by omega
  have left := @escape_large c (by omega) (by omega)
  have right := @escape_large d (by omega) (by omega)
  rw [@escape_astral n (by omega),first,second,left,right]

theorem escape_units (code : c < 0x110000) : (unitsOf c).flatMap (fun unit => escape unit.1) = escape c := by
  unfold unitsOf
  split
  · simp
  · split
    · simp
    · split
      · simp
      · rename_i large
        have first := escape_large (c := 0xd800 + (c - 0x10000) / 1024) (by omega) (by omega)
        have second := escape_large (c := 0xdc00 + (c - 0x10000) % 1024) (by omega) (by omega)
        simp only [List.flatMap_cons,List.flatMap_nil,List.append_nil,first,second]
        exact (escape_astral (by omega)).symm

theorem joined_escape (units : List (Nat × Bool)) :
    (joined units).flatMap escape = units.flatMap fun unit => escape unit.1 := by
  fun_induction joined units with
  | case1 => rfl
  | case2 c escaped => rfl
  | case3 c escaped d also more pair ih =>
    simp only [Bool.and_eq_true] at pair
    rw [List.flatMap_cons,ih,escape_pair pair.1.2 pair.2 rfl]
    simp
  | case4 c escaped d also more unpaired ih =>
    rw [List.flatMap_cons,ih]
    rfl

theorem quoted_respell {t : Text} (coded : Coded t) : quoted (respell t) = quoted t := by
  have same : (t.flatMap readUnits).flatMap (fun unit => escape unit.1) = t.flatMap escape := by
    rw [List.flatMap_assoc]
    refine List.flatMap_congr fun c member => ?_
    rw [readUnits_code (coded c member),escape_units (coded c member)]
  rw [quoted,quoted,respell,joined_escape,same]

theorem respell_isWhole {t : Text} (coded : Coded t) : Whole (respell t) := (joined_whole _ (readUnits_legible coded)).1

mutual
def EachText (P : Text → Prop) : Json ν → Prop
  | .str t => P t
  | .arr items => EachTextItem P items
  | .obj fields => EachTextField P fields
  | _ => True
def EachTextItem (P : Text → Prop) : List (Json ν) → Prop
  | [] => True
  | item :: rest => EachText P item ∧ EachTextItem P rest
def EachTextField (P : Text → Prop) : List (Text × Json ν) → Prop
  | [] => True
  | (key,value) :: rest => P key ∧ EachText P value ∧ EachTextField P rest
end

mutual
theorem respelled_isWhole (v : Json ν) (coded : EachText Coded v) : WholeTexts (respelled v) := by
  match v with
  | .null => trivial
  | .bool _ => trivial
  | .num _ => trivial
  | .str t => exact respell_isWhole coded
  | .arr items => exact respelledItems_isWhole items coded
  | .obj fields => exact respelledFields_isWhole fields coded
theorem respelledItems_isWhole (items : List (Json ν)) (coded : EachTextItem Coded items) :
    WholeItems (respelledItems items) := by
  match items with
  | [] => trivial
  | item :: rest => exact ⟨respelled_isWhole item coded.1,respelledItems_isWhole rest coded.2⟩
theorem respelledFields_isWhole (fields : List (Text × Json ν)) (coded : EachTextField Coded fields) :
    WholeFields (respelledFields fields) := by
  match fields with
  | [] => trivial
  | (key,value) :: rest =>
    exact ⟨respell_isWhole coded.1,respelled_isWhole value coded.2.1,respelledFields_isWhole rest coded.2.2⟩
end

theorem respelledItems_empty (items : List (Json ν)) : (respelledItems items).isEmpty = items.isEmpty := by
  cases items <;> rfl

theorem respelledFields_empty (fields : List (Text × Json ν)) :
    (respelledFields fields).isEmpty = fields.isEmpty := by
  cases fields <;> rfl

section Writing
variable {number : ν → Text} {comma colon : Text}

mutual
theorem write_respelled (v : Json ν) (coded : EachText Coded v) :
    write number comma colon (respelled v) = write number comma colon v := by
  match v with
  | .null => rfl
  | .bool _ => rfl
  | .num _ => rfl
  | .str t => rw [respelled,write,write,quoted_respell coded]
  | .arr items => rw [respelled,write,write,writeItems_respelled items coded]
  | .obj fields => rw [respelled,write,write,writeFields_respelled fields coded]
theorem writeItems_respelled (items : List (Json ν)) (coded : EachTextItem Coded items) :
    writeItems number comma colon (respelledItems items) = writeItems number comma colon items := by
  match items with
  | [] => rfl
  | item :: rest =>
    rw [respelledItems,writeItems,writeItems,write_respelled item coded.1,writeItems_respelled rest coded.2,
      respelledItems_empty]
theorem writeFields_respelled (fields : List (Text × Json ν)) (coded : EachTextField Coded fields) :
    writeFields number comma colon (respelledFields fields) = writeFields number comma colon fields := by
  match fields with
  | [] => rfl
  | (key,value) :: rest =>
    rw [respelledFields,writeFields,writeFields,quoted_respell coded.1,write_respelled value coded.2.1,
      writeFields_respelled rest coded.2.2,respelledFields_empty]
end

theorem write_exact (numbering : Numbering number) (separates : ∃ gap, comma = 0x2c :: gap) {v w : Json ν}
    (left : EachText Coded v) (right : EachText Coded w) :
    write number comma colon v = write number comma colon w ↔ respelled v = respelled w := by
  rw [← write_respelled v left,← write_respelled w right]
  constructor
  · exact write_injective numbering separates (respelled_isWhole v left) (respelled_isWhole w right)
  · exact fun same => by rw [same]

end Writing

end JsonText
