import OpenModelOps.JsonRoundtrip

namespace JsonText
variable {ν : Type}

structure Decimal where
  first : Nat
  tenth : Nat
  others : Text
  firstDigit : isDigit first = true
  tenthDigit : isDigit tenth = true
  digits : others.all isDigit = true

def Decimal.text (d : Decimal) : Text := d.first :: 0x2e :: d.tenth :: d.others

def Decimal.value (d : Decimal) : Number := numberValue false [d.first] (d.tenth :: d.others) none

theorem isDigit_mod (n : Nat) : isDigit (0x30 + n % 10) = true := by
  simp only [isDigit,Bool.and_eq_true,decide_eq_true_eq]
  omega

theorem all_isDigit_mod (ns : List Nat) : (ns.map fun n => 0x30 + n % 10).all isDigit = true := by
  refine List.all_eq_true.mpr fun c member => ?_
  obtain ⟨n,_,rfl⟩ := List.mem_map.mp member
  exact isDigit_mod n

def decimal (first tenth : Nat) (others : List Nat) : Decimal :=
  ⟨0x30 + first % 10,0x30 + tenth % 10,others.map fun n => 0x30 + n % 10,isDigit_mod _,isDigit_mod _,all_isDigit_mod _⟩

theorem digit_printable (digit : isDigit c = true) : Printable c := by
  simp only [isDigit,Bool.and_eq_true,decide_eq_true_eq] at digit
  exact ⟨Nat.le_trans (by decide) digit.1,Nat.le_trans digit.2 (by decide)⟩

theorem delimited_ends (delimited : Delimited rest) : rest.takeWhile isDigit = [] ∧ rest.dropWhile isDigit = rest ∧
    scanExponent rest = (none,rest) := by
  cases rest with
  | nil => exact ⟨rfl,rfl,rfl⟩
  | cons c more =>
    rcases delimited.mark with rfl | rfl | rfl <;> cases more <;> exact ⟨rfl,rfl,rfl⟩

theorem Decimal.scanned (d : Decimal) (delimited : Delimited rest) :
    scanNumber (d.text ++ rest) = some (d.value,rest) := by
  obtain ⟨none,all,unscaled⟩ := delimited_ends delimited
  have digits : ∀ c ∈ d.others, isDigit c = true := List.all_eq_true.mp d.digits
  have unsigned : d.first ≠ 0x2d := by
    intro sign
    have digit := d.firstDigit
    rw [sign] at digit
    cases digit
  have whole : scanWhole (d.first :: 0x2e :: d.tenth :: (d.others ++ rest)) =
      some ([d.first],0x2e :: d.tenth :: (d.others ++ rest)) := by
    rw [scanWhole]
    split
    · rfl
    · rw [if_pos d.firstDigit]
      rfl
  have fraction : scanFraction (0x2e :: d.tenth :: (d.others ++ rest)) = (d.tenth :: d.others,rest) := by
    rw [scanFraction,if_pos ⟨rfl,d.tenthDigit⟩,List.takeWhile_append_of_pos digits,List.dropWhile_append_of_pos digits,
      none,all,List.append_nil]
  have shape : d.text ++ rest = d.first :: 0x2e :: d.tenth :: (d.others ++ rest) := rfl
  rw [shape,scanNumber,if_neg unsigned,scanUnsigned,whole]
  simp only [fraction,unscaled]
  rfl

theorem decimal_reading (spell : ν → Decimal) : Reading (fun n => (spell n).text) (fun n => (spell n).value) where
  opens n := ⟨_,_,rfl,.inl (spell n).firstDigit⟩
  printable n := by
    intro c member
    simp only [Decimal.text,List.mem_cons] at member
    rcases member with rfl | rfl | rfl | inside
    · exact digit_printable (spell n).firstDigit
    · decide
    · exact digit_printable (spell n).tenthDigit
    · exact digit_printable (List.all_eq_true.mp (spell n).digits c inside)
  scanned n rest delimited := by
    have number := (spell n).scanned delimited
    obtain ⟨notQuote,_,_⟩ := digit_plain (spell n).firstDigit
    have notBrace : (spell n).first ≠ 0x7b := by
      intro mark
      have digit := (spell n).firstDigit
      rw [mark] at digit
      cases digit
    have notBracket : (spell n).first ≠ 0x5b := by
      intro mark
      have digit := (spell n).firstDigit
      rw [mark] at digit
      cases digit
    have shape : (spell n).text ++ rest = (spell n).first :: (0x2e :: (spell n).tenth :: ((spell n).others ++ rest)) := rfl
    rw [shape] at number ⊢
    simp only [scanValue,if_neg notQuote,if_neg notBrace,if_neg notBracket,scanLiteral_digit (spell n).firstDigit,number]
    rfl

end JsonText
