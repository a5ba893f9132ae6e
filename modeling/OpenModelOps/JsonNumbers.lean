import OpenModelOps.JsonDecimal
import Mathlib.Data.List.Induction
import Mathlib.Data.Nat.Prime.Basic
import Mathlib.Tactic.Ring
import Mathlib.Tactic.FieldSimp

namespace JsonText

theorem digitsValue_append (left right : Text) :
    digitsValue (left ++ right) = digitsValue left * 10 ^ right.length + digitsValue right := by
  induction right using List.reverseRecOn with
  | nil => simp [digitsValue]
  | append_singleton right c ih =>
    have last : ∀ cs : Text, digitsValue (cs ++ [c]) = 10 * digitsValue cs + (c - 0x30) := by
      intro cs
      rw [digitsValue,List.foldl_append]
      rfl
    rw [← List.append_assoc,last,last,ih,List.length_append,List.length_singleton]
    ring

theorem digitsValue_zeros (k : Nat) : digitsValue (List.replicate k 0x30) = 0 := by
  induction k with
  | zero => rfl
  | succ k ih =>
    rw [List.replicate_succ',digitsValue_append,ih]
    rfl

theorem digitsValue_repr (n : Nat) : digitsValue (text n.repr) = n := by
  rw [text,Nat.toList_repr,digitsValue,List.foldl_map]
  exact Nat.ofDigitChars_ten_toDigits

def Digits (cs : Text) : Prop := ∀ c ∈ cs, isDigit c = true

theorem digits_repr (n : Nat) : Digits (text n.repr) := by
  intro c member
  have bounds := reprText_digits n c member
  simp only [isDigit,Bool.and_eq_true,decide_eq_true_eq]
  exact bounds

theorem digits_zeros (k : Nat) : Digits (List.replicate k 0x30) := by
  intro c member
  rw [(List.mem_replicate.mp member).2]
  rfl

theorem Digits.append (left : Digits cs) (right : Digits ds) : Digits (cs ++ ds) := by
  intro c member
  rcases List.mem_append.mp member with inside | inside
  · exact left c inside
  · exact right c inside

theorem digitsValue_lt (digits : Digits cs) : digitsValue cs < 10 ^ cs.length := by
  induction cs using List.reverseRecOn with
  | nil => decide
  | append_singleton cs c ih =>
    have below := ih fun d member => digits d (List.mem_append_left _ member)
    have digit := digits c (List.mem_append_right _ List.mem_cons_self)
    simp only [isDigit,Bool.and_eq_true,decide_eq_true_eq] at digit
    have single : digitsValue [c] = c - 0x30 := by simp [digitsValue]
    rw [digitsValue_append,single,List.length_append,List.length_singleton,pow_one,pow_succ]
    omega

theorem repr_length_le (positive : 0 < width) : (text n.repr).length ≤ width ↔ n < 10 ^ width := by
  rw [text,List.length_map,Nat.toList_repr]
  exact Nat.length_toDigits_le_iff (by decide) positive

def zeroFilled (width n : Nat) : Text := List.replicate (width - (text n.repr).length) 0x30 ++ text n.repr

theorem zeroFilled_digits (width n : Nat) : Digits (zeroFilled width n) := (digits_zeros _).append (digits_repr n)

theorem zeroFilled_value (width n : Nat) : digitsValue (zeroFilled width n) = n := by
  rw [zeroFilled,digitsValue_append,digitsValue_zeros,digitsValue_repr,Nat.zero_mul,Nat.zero_add]

theorem zeroFilled_length (positive : 0 < width) (small : n < 10 ^ width) : (zeroFilled width n).length = width := by
  have fits := (repr_length_le positive).mpr small
  rw [zeroFilled,List.length_append,List.length_replicate]
  omega

theorem zeroFilled_nonempty (width n : Nat) : zeroFilled width n ≠ [] :=
  fun empty => reprText_nonempty n (List.append_eq_nil_iff.mp empty).2

def Undigited : Text → Prop
  | [] => True
  | c :: _ => isDigit c = false

theorem digits_span (digits : Digits cs) (ends : Undigited rest) :
    (cs ++ rest).takeWhile isDigit = cs ∧ (cs ++ rest).dropWhile isDigit = rest := by
  have stops : rest.takeWhile isDigit = [] ∧ rest.dropWhile isDigit = rest := by
    cases rest with
    | nil => exact ⟨rfl,rfl⟩
    | cons c more =>
      have stop : isDigit c = false := ends
      simp [stop]
  rw [List.takeWhile_append_of_pos digits,List.dropWhile_append_of_pos digits,stops.1,stops.2]
  exact ⟨List.append_nil _,rfl⟩

inductive Canonical : Text → Prop where
  | zero : Canonical [0x30]
  | digits : c ≠ 0x30 → isDigit c = true → Digits rest → Canonical (c :: rest)

theorem Canonical.first (canonical : Canonical whole) : ∃ c rest, whole = c :: rest ∧ isDigit c = true := by
  cases canonical with
  | zero => exact ⟨_,_,rfl,rfl⟩
  | digits _ digit _ => exact ⟨_,_,rfl,digit⟩

theorem Canonical.all (canonical : Canonical whole) : Digits whole := by
  cases canonical with
  | zero => exact digits_zeros 1
  | digits _ digit rest => exact List.forall_mem_cons.mpr ⟨digit,rest⟩

theorem scanWhole_canonical (canonical : Canonical whole) (ends : Undigited rest) :
    scanWhole (whole ++ rest) = some (whole,rest) := by
  cases canonical with
  | zero => rfl
  | digits nonzero digit others =>
    obtain ⟨taken,dropped⟩ := digits_span others ends
    rw [List.cons_append,scanWhole,if_neg nonzero,if_pos digit,taken,dropped]

-- A number of more than one digit does not start with a zero: without that
-- zero it would have the same value and fewer digits.
theorem repr_canonical (n : Nat) : Canonical (text n.repr) := by
  obtain ⟨c,rest,shape⟩ := List.exists_cons_of_ne_nil (reprText_nonempty n)
  have digits := digits_repr n
  have value := digitsValue_repr n
  rw [shape] at digits value ⊢
  obtain ⟨digit,others⟩ := List.forall_mem_cons.mp digits
  by_cases zero : c = 0x30
  · subst zero
    cases rest with
    | nil => exact .zero
    | cons d more =>
      have same : digitsValue (0x30 :: d :: more) = digitsValue (d :: more) :=
        (digitsValue_append [0x30] (d :: more)).trans (by simp [digitsValue])
      have shorter : n < 10 ^ (d :: more).length := by
        rw [← value,same]
        exact digitsValue_lt others
      have fits := (repr_length_le (Nat.succ_pos _)).mpr shorter
      rw [shape] at fits
      simp at fits
  · exact .digits zero digit others

structure Literal where
  whole : Text
  fraction : Text
  exponent : Option Int

def exponentText (e : Int) : Text := 0x65 :: (if e < 0 then 0x2d else 0x2b) :: zeroFilled 2 e.natAbs

def Literal.text (literal : Literal) : Text :=
  literal.whole ++ ((if literal.fraction = [] then [] else 0x2e :: literal.fraction) ++
    (literal.exponent.map exponentText).getD [])

structure Literal.Formed (literal : Literal) : Prop where
  whole : Canonical literal.whole
  fraction : Digits literal.fraction

theorem undelimited {rest : Text} (delimited : Delimited rest) : Undigited rest ∧ (∀ more, rest ≠ 0x2e :: more) ∧
    scanExponent rest = (none,rest) := by
  cases rest with
  | nil => exact ⟨trivial,fun _ same => (List.cons_ne_nil _ _ same.symm).elim,rfl⟩
  | cons c more =>
    refine ⟨?_,?_,(delimited_ends delimited).2.2⟩
    · rcases delimited.mark with rfl | rfl | rfl <;> rfl
    · rintro more same
      rw [(List.cons.inj same).1] at delimited
      cases delimited.mark with
      | inl dot => cases dot
      | inr other => rcases other with dot | dot <;> cases dot

theorem scanExponent_text (e : Int) (delimited : Delimited rest) :
    scanExponent (exponentText e ++ rest) = (some e,rest) := by
  obtain ⟨ends,_,_⟩ := undelimited delimited
  obtain ⟨c,more,shape⟩ := List.exists_cons_of_ne_nil (zeroFilled_nonempty 2 e.natAbs)
  have digits := zeroFilled_digits 2 e.natAbs
  have value := zeroFilled_value 2 e.natAbs
  rw [shape] at digits value
  obtain ⟨digit,others⟩ := List.forall_mem_cons.mp digits
  obtain ⟨taken,dropped⟩ := digits_span others ends
  rcases lt_or_ge e 0 with negative | positive
  · have spelled : exponentText e ++ rest = 0x65 :: 0x2d :: c :: (more ++ rest) := by
      rw [exponentText,if_pos negative,shape]
      rfl
    have sign : exponentSign 0x2d = some true := rfl
    rw [spelled]
    simp only [scanExponent,sign,if_true,true_or,digit,taken,dropped,value]
    rw [Int.ofNat_natAbs_of_nonpos (le_of_lt negative),neg_neg]
  · have spelled : exponentText e ++ rest = 0x65 :: 0x2b :: c :: (more ++ rest) := by
      rw [exponentText,if_neg (not_lt.mpr positive),shape]
      rfl
    have sign : exponentSign 0x2b = some false := rfl
    rw [spelled]
    simp only [scanExponent,sign,if_true,true_or,digit,taken,dropped,value]
    rw [Int.natAbs_of_nonneg positive]
    rfl

theorem scanFraction_text (digits : Digits fraction) (ends : Undigited rest) (unpointed : ∀ more, rest ≠ 0x2e :: more) :
    scanFraction ((if fraction = [] then [] else 0x2e :: fraction) ++ rest) = (fraction,rest) := by
  cases fraction with
  | nil =>
    rw [if_pos rfl,List.nil_append]
    match rest with
    | [] => rfl
    | [c] => rfl
    | dot :: d :: more =>
      rw [scanFraction,if_neg]
      rintro ⟨rfl,_⟩
      exact unpointed _ rfl
  | cons d more =>
    obtain ⟨digit,others⟩ := List.forall_mem_cons.mp digits
    obtain ⟨taken,dropped⟩ := digits_span others ends
    rw [if_neg (List.cons_ne_nil _ _),List.cons_append,List.cons_append,scanFraction,if_pos ⟨rfl,digit⟩,taken,dropped]

theorem Literal.Formed.scanned {literal : Literal} (formed : literal.Formed) (negative : Bool) (delimited : Delimited rest) :
    scanUnsigned negative (literal.text ++ rest) =
      some (numberValue negative literal.whole literal.fraction literal.exponent,rest) := by
  obtain ⟨ends,unpointed,unscaled⟩ := undelimited delimited
  have exponent : scanExponent ((literal.exponent.map exponentText).getD [] ++ rest) = (literal.exponent,rest) := by
    cases literal.exponent with
    | none => exact unscaled
    | some e => exact scanExponent_text e delimited
  have after : Undigited ((literal.exponent.map exponentText).getD [] ++ rest) ∧
      ∀ more, (literal.exponent.map exponentText).getD [] ++ rest ≠ 0x2e :: more := by
    cases literal.exponent with
    | none => exact ⟨ends,unpointed⟩
    | some e => exact ⟨rfl,fun more same => absurd (List.cons.inj same).1 (by decide)⟩
  have fraction := scanFraction_text formed.fraction after.1 after.2
  have pointed : Undigited ((if literal.fraction = [] then [] else 0x2e :: literal.fraction) ++
      ((literal.exponent.map exponentText).getD [] ++ rest)) := by
    split
    · exact after.1
    · rfl
  rw [Literal.text,List.append_assoc,List.append_assoc,scanUnsigned,scanWhole_canonical formed.whole pointed]
  simp only [fraction,exponent]

-- The magnitude that a literal with a point or an exponent stands for.
def Literal.value (literal : Literal) : ℚ :=
  (digitsValue (literal.whole ++ literal.fraction) : ℚ) / 10 ^ literal.fraction.length * (10 : ℚ) ^ literal.exponent.getD 0

-- repr of a float from its digits and the place of the point among them.
def layout (digits : Text) (point : Int) : Literal :=
  if -4 < point ∧ point ≤ 16 then
    if point ≤ 0 then ⟨[0x30],List.replicate (-point).toNat 0x30 ++ digits,none⟩
    else if (digits.length : Int) ≤ point then ⟨digits ++ List.replicate (point.toNat - digits.length) 0x30,[0x30],none⟩
    else ⟨digits.take point.toNat,digits.drop point.toNat,none⟩
  else ⟨digits.take 1,digits.drop 1,some (point - 1)⟩

structure Leading (digits : Text) : Prop where
  all : Digits digits
  first : ∃ c rest, digits = c :: rest ∧ c ≠ 0x30

theorem Leading.canonical (leading : Leading digits) (more : Digits zeros) : Canonical (digits ++ zeros) := by
  obtain ⟨all,c,rest,rfl,nonzero⟩ := leading
  obtain ⟨digit,others⟩ := List.forall_mem_cons.mp all
  exact .digits nonzero digit (Digits.append others more)

theorem Leading.take (leading : Leading digits) (positive : 0 < k) : Canonical (digits.take k) := by
  obtain ⟨all,c,rest,rfl,nonzero⟩ := leading
  obtain ⟨digit,others⟩ := List.forall_mem_cons.mp all
  obtain ⟨j,rfl⟩ := Nat.exists_eq_succ_of_ne_zero (Nat.ne_of_gt positive)
  exact .digits nonzero digit fun d member => others d (List.mem_of_mem_take member)

theorem Leading.drop (leading : Leading digits) (k : Nat) : Digits (digits.drop k) :=
  fun c member => leading.all c (List.mem_of_mem_drop member)

theorem layout_formed (leading : Leading digits) (point : Int) : (layout digits point).Formed := by
  unfold layout
  split
  · split
    · exact ⟨.zero,(digits_zeros _).append leading.all⟩
    · split
      · exact ⟨leading.canonical (digits_zeros _),digits_zeros 1⟩
      · exact ⟨leading.take (by omega),leading.drop _⟩
  · exact ⟨leading.take Nat.one_pos,leading.drop 1⟩

theorem layout_pointed (leading : Leading digits) (point : Int) :
    ¬ ((layout digits point).fraction.isEmpty ∧ (layout digits point).exponent.isNone) := by
  obtain ⟨_,c,rest,rfl,_⟩ := leading
  unfold layout
  split
  · split
    · simp
    · split
      · simp
      · rename_i before after
        simp only [List.isEmpty_iff,List.drop_eq_nil_iff,not_and]
        intro short
        omega
  · simp

theorem layout_value (nonempty : digits ≠ []) (point : Int) :
    (layout digits point).value = digitsValue digits * (10 : ℚ) ^ (point - digits.length) := by
  unfold layout
  split
  · split
    · rename_i before
      have zero : digitsValue [0x30] = 0 := rfl
      have exponent : point - digits.length = -((-point).toNat + digits.length : Nat) := by omega
      simp only [Literal.value,Option.getD_none,zpow_zero,mul_one,digitsValue_append,digitsValue_zeros,zero,Nat.zero_mul,
        Nat.zero_add,List.length_append,List.length_replicate,exponent,zpow_neg,zpow_natCast]
      rfl
    · split
      · rename_i after
        have zero : digitsValue [0x30] = 0 := rfl
        have exponent : point - digits.length = (point.toNat - digits.length : Nat) := by omega
        simp only [Literal.value,Option.getD_none,zpow_zero,mul_one,digitsValue_append,digitsValue_zeros,zero,
          Nat.add_zero,List.length_singleton,List.length_replicate,exponent,zpow_natCast,pow_one]
        push_cast
        ring
      · rename_i inside
        have exponent : point - digits.length = -((digits.length - point.toNat : Nat) : Int) := by omega
        simp only [Literal.value,Option.getD_none,zpow_zero,mul_one,List.take_append_drop,List.length_drop,exponent,zpow_neg,
          zpow_natCast]
        rfl
  · have positive := List.length_pos_of_ne_nil nonempty
    have exponent : point - digits.length = point - 1 - (digits.length - 1 : Nat) := by omega
    have ten : (10 : ℚ) ≠ 0 := by norm_num
    simp only [Literal.value,Option.getD_some,List.take_append_drop,List.length_drop,exponent,zpow_sub₀ ten (point - 1),
      zpow_natCast]
    ring

def signed (negative : Bool) (t : Text) : Text := if negative then 0x2d :: t else t

theorem scanLiteral_sign (digit : isDigit c = true) : scanLiteral (0x2d :: c :: rest) = none := by
  have other : (0x49 == c) = false := by
    simp only [isDigit,Bool.and_eq_true,decide_eq_true_eq] at digit
    simp only [beq_eq_false_iff_ne]
    omega
  simp [scanLiteral,literals,text,List.isPrefixOf,other]

theorem Literal.Formed.value {literal : Literal} (formed : literal.Formed) (negative : Bool) (delimited : Delimited rest) :
    scanValue 1 (signed negative literal.text ++ rest) =
      some (.num (numberValue negative literal.whole literal.fraction literal.exponent),rest) := by
  obtain ⟨c,more,shape,digit⟩ := formed.whole.first
  obtain ⟨tail,spelled⟩ : ∃ tail, literal.text ++ rest = c :: tail := by
    rw [Literal.text,shape]
    exact ⟨_,rfl⟩
  have scanned := formed.scanned negative delimited
  rw [spelled] at scanned
  have bounds := digit
  simp only [isDigit,Bool.and_eq_true,decide_eq_true_eq] at bounds
  cases negative with
  | true =>
    have text : signed true literal.text ++ rest = 0x2d :: c :: tail := congrArg (0x2d :: ·) spelled
    rw [text]
    simp only [scanValue,if_neg (by decide : ¬ (0x2d : Nat) = 0x22),if_neg (by decide : ¬ (0x2d : Nat) = 0x7b),
      if_neg (by decide : ¬ (0x2d : Nat) = 0x5b),scanLiteral_sign digit,scanNumber,if_true,scanned]
    rfl
  | false =>
    have text : signed false literal.text ++ rest = c :: tail := spelled
    have quote : c ≠ 0x22 := by omega
    have brace : c ≠ 0x7b := by omega
    have bracket : c ≠ 0x5b := by omega
    have sign : c ≠ 0x2d := by omega
    rw [text]
    simp only [scanValue,if_neg quote,if_neg brace,if_neg bracket,scanLiteral_digit digit,scanNumber,if_neg sign,scanned]
    rfl

theorem exponentText_printable (e : Int) : ∀ c ∈ exponentText e, Printable c := by
  intro c member
  simp only [exponentText,List.mem_cons] at member
  rcases member with rfl | rfl | inside
  · decide
  · split <;> decide
  · exact digit_printable (zeroFilled_digits _ _ c inside)

theorem Literal.Formed.printable {literal : Literal} (formed : literal.Formed) (negative : Bool) :
    ∀ c ∈ signed negative literal.text, Printable c := by
  have unsigned : ∀ c ∈ literal.text, Printable c := by
    intro c member
    simp only [Literal.text,List.mem_append] at member
    rcases member with whole | fraction | exponent
    · exact digit_printable (formed.whole.all c whole)
    · split at fraction
      · cases fraction
      · rcases List.mem_cons.mp fraction with rfl | inside
        · decide
        · exact digit_printable (formed.fraction c inside)
    · cases shape : literal.exponent with
      | none => rw [shape] at exponent; cases exponent
      | some e => rw [shape] at exponent; exact exponentText_printable e c exponent
  cases negative with
  | false => exact unsigned
  | true => exact List.forall_mem_cons.mpr ⟨by decide,unsigned⟩

theorem Literal.Formed.opens {literal : Literal} (formed : literal.Formed) (negative : Bool) :
    ∃ c rest, signed negative literal.text = c :: rest ∧ (isDigit c = true ∨ c ∈ [0x2d,0x49,0x4e]) := by
  obtain ⟨c,more,shape,digit⟩ := formed.whole.first
  cases negative with
  | true => exact ⟨0x2d,_,rfl,.inr List.mem_cons_self⟩
  | false =>
    rw [signed,if_neg Bool.false_ne_true,Literal.text,shape]
    exact ⟨c,_,rfl,.inl digit⟩

def wholeLiteral (n : Nat) : Literal := ⟨JsonText.text n.repr,[],none⟩

theorem intText_literal (n : Int) : intText n = signed (decide (n < 0)) (wholeLiteral n.natAbs).text := by
  cases n with
  | ofNat n => simp [signed,wholeLiteral,Literal.text,intText]; rfl
  | negSucc n =>
    rw [intText_negative]
    simp [signed,wholeLiteral,Literal.text]

def Terminating (q : ℚ) : Prop := ∃ j : Nat, q.den ∣ 10 ^ j

def decimals (q : ℚ) : Nat := ((List.range (q.den.log2 + 1)).find? fun j => decide (q.den ∣ 10 ^ j)).getD 0

def stripZeros : Nat → Nat → Int → Nat × Int
  | 0,m,k => (m,k)
  | fuel + 1,m,k => if m % 10 = 0 then stripZeros fuel (m / 10) (k + 1) else (m,k)

def significand (q : ℚ) : Nat × Int :=
  let m := q.num.natAbs * 10 ^ decimals q / q.den
  stripZeros m.log2 m (-(decimals q : Int))

def magnitude (q : ℚ) : Literal :=
  let (m,k) := significand q
  if m = 0 then ⟨[0x30],[0x30],none⟩ else layout (text m.repr) ((text m.repr).length + k)

def realText (q : ℚ) : Text := signed (decide (q < 0)) (magnitude q).text

example : realText (99/100) = text "0.99" ∧ realText (-1/80000) = text "-1.25e-05" ∧ realText 250 = text "250.0" ∧
    realText (10 ^ 16) = text "1e+16" ∧ realText 0 = text "0.0" := by decide +kernel

-- The factors of a power of ten are twos and fives, of which there are no more
-- than the logarithm.
theorem divides_log2 (divides : d ∣ 10 ^ j) : d ∣ 10 ^ d.log2 := by
  induction d using Nat.strong_induction_on with
  | _ d ih =>
    by_cases one : d = 1
    · rw [one]
      exact Nat.one_dvd _
    · obtain ⟨p,prime,factor⟩ := Nat.exists_prime_and_dvd one
      obtain ⟨e,rfl⟩ := factor
      have positive : 0 < p * e := Nat.pos_of_dvd_of_pos divides (Nat.pow_pos (by decide))
      have left : 0 < e := Nat.pos_of_mul_pos_left positive
      have ten : p ∣ 10 := prime.dvd_of_dvd_pow (Nat.dvd_trans (Nat.dvd_mul_right p e) divides)
      have smaller : e < p * e := (Nat.lt_mul_iff_one_lt_left left).mpr prime.one_lt
      have rest := ih e smaller (Nat.dvd_trans (Nat.dvd_mul_left e p) divides)
      have further : e.log2 + 1 ≤ (p * e).log2 := by
        rw [← Nat.log2_two_mul (by omega),Nat.le_log2 (by omega)]
        exact Nat.le_trans (Nat.log2_self_le (by omega)) (Nat.mul_le_mul_right e prime.two_le)
      refine Nat.dvd_trans (Nat.mul_dvd_mul ten rest) (Nat.dvd_trans ?_ (Nat.pow_dvd_pow 10 further))
      rw [Nat.pow_succ,Nat.mul_comm]

theorem decimals_enough (terminating : Terminating q) : q.den ∣ 10 ^ decimals q := by
  obtain ⟨j,divides⟩ := terminating
  unfold decimals
  cases found : (List.range (q.den.log2 + 1)).find? fun j => decide (q.den ∣ 10 ^ j) with
  | some k => simpa using List.find?_some found
  | none =>
    have last := List.find?_eq_none.mp found q.den.log2 (List.mem_range.mpr (Nat.lt_succ_self _))
    exact absurd (decide_eq_true (divides_log2 divides)) last

theorem stripZeros_value (fuel m : Nat) (k : Int) :
    ((stripZeros fuel m k).1 : ℚ) * (10 : ℚ) ^ (stripZeros fuel m k).2 = m * (10 : ℚ) ^ k := by
  induction fuel generalizing m k with
  | zero => rfl
  | succ fuel ih =>
    unfold stripZeros
    split
    · rename_i zero
      have split : m = 10 * (m / 10) := by omega
      rw [ih,zpow_add₀ (by norm_num)]
      conv_rhs => rw [split]
      push_cast
      ring
    · rfl

def written (q : ℚ) : ℚ :=
  let m : ℚ := (significand q).1 * (10 : ℚ) ^ (significand q).2
  if q < 0 then -m else m

theorem written_exact (terminating : Terminating q) : written q = q := by
  obtain ⟨c,split⟩ := decimals_enough terminating
  have ten : (10 : ℚ) ^ decimals q ≠ 0 := pow_ne_zero _ (by norm_num)
  have den : (q.den : ℚ) ≠ 0 := Nat.cast_ne_zero.mpr q.den_nz
  have cast : (10 : ℚ) ^ decimals q = q.den * c := by exact_mod_cast congrArg (Nat.cast : Nat → ℚ) split
  have digits : q.num.natAbs * 10 ^ decimals q / q.den = q.num.natAbs * c := by
    rw [split,Nat.mul_left_comm,Nat.mul_div_cancel_left _ q.den_pos]
  have absolute : ((significand q).1 : ℚ) * (10 : ℚ) ^ (significand q).2 = (q.num.natAbs : ℚ) / q.den := by
    rw [significand]
    simp only [stripZeros_value,digits,zpow_neg,zpow_natCast]
    rw [cast,Nat.cast_mul]
    have factor : (c : ℚ) ≠ 0 := by
      intro zero
      rw [zero,mul_zero] at cast
      exact ten cast
    field_simp
  have value := Rat.num_div_den q
  rw [written]
  simp only [absolute]
  by_cases negative : q < 0
  · have sign : ((q.num.natAbs : Int) : ℚ) = -(q.num : ℚ) := by
      rw [Int.ofNat_natAbs_of_nonpos (le_of_lt (Rat.num_neg.mpr negative))]
      push_cast
      rfl
    rw [if_pos negative,← Int.cast_natCast,sign,neg_div,neg_neg,value]
  · have sign : ((q.num.natAbs : Int) : ℚ) = (q.num : ℚ) := by
      rw [Int.natAbs_of_nonneg (Rat.num_nonneg.mpr (not_lt.mp negative))]
    rw [if_neg negative,← Int.cast_natCast,sign,value]

theorem repr_leading (nonzero : n ≠ 0) : Leading (text n.repr) := by
  refine ⟨digits_repr n,?_⟩
  have value := digitsValue_repr n
  cases shape : text n.repr with
  | nil => exact absurd shape (reprText_nonempty n)
  | cons c rest =>
    refine ⟨c,rest,rfl,?_⟩
    rintro rfl
    have canonical := repr_canonical n
    rw [shape] at canonical value
    cases canonical with
    | zero => exact nonzero value.symm
    | digits other _ _ => exact other rfl

theorem magnitude_facts (q : ℚ) : (magnitude q).Formed ∧
    ¬ ((magnitude q).fraction.isEmpty ∧ (magnitude q).exponent.isNone) ∧
      (magnitude q).value = (significand q).1 * (10 : ℚ) ^ (significand q).2 := by
  unfold magnitude
  dsimp only
  split
  · rename_i zero
    refine ⟨⟨.zero,digits_zeros 1⟩,by simp,?_⟩
    rw [zero]
    simp [Literal.value,digitsValue]
  · rename_i nonzero
    have leading := repr_leading nonzero
    refine ⟨layout_formed leading _,layout_pointed leading _,?_⟩
    rw [layout_value (reprText_nonempty _),digitsValue_repr]
    congr 2
    omega

theorem numberValue_real {literal : Literal} (negative : Bool)
    (pointed : ¬ (literal.fraction.isEmpty ∧ literal.exponent.isNone)) :
    numberValue negative literal.whole literal.fraction literal.exponent =
      .real (if negative then -literal.value else literal.value) := by
  rw [numberValue]
  simp only [if_neg pointed]
  rfl

-- The numbers as json.dumps writes them.
def Number.text : Number → Text
  | .int n => intText n
  | .real q => realText q
  | .nan => JsonText.text "NaN"
  | .infinity => JsonText.text "Infinity"
  | .negInfinity => JsonText.text "-Infinity"

def Number.reread : Number → Number
  | .real q => .real (written q)
  | n => n

theorem reread_exact (terminating : Terminating q) : Number.reread (.real q) = .real q :=
  congrArg Number.real (written_exact terminating)

theorem wholeLiteral_formed (n : Nat) : (wholeLiteral n).Formed := ⟨repr_canonical n,fun _ member => (nomatch member)⟩

theorem wholeLiteral_value (n : Int) :
    numberValue (decide (n < 0)) (wholeLiteral n.natAbs).whole (wholeLiteral n.natAbs).fraction
      (wholeLiteral n.natAbs).exponent = .int n := by
  simp only [numberValue,wholeLiteral,List.isEmpty_nil,Option.isNone_none,and_self,if_true,digitsValue_repr]
  by_cases negative : n < 0
  · simp only [negative,decide_true,if_true,Int.ofNat_natAbs_of_nonpos (le_of_lt negative),neg_neg]
  · simp only [negative,decide_false,Bool.false_eq_true,if_false,Int.natAbs_of_nonneg (not_lt.mp negative)]

theorem number_reading : Reading Number.text Number.reread where
  opens n := by
    match n with
    | .int n =>
      rw [Number.text,intText_literal]
      exact (wholeLiteral_formed _).opens _
    | .real q => exact (magnitude_facts q).1.opens _
    | .nan => exact ⟨_,_,rfl,.inr (by decide)⟩
    | .infinity => exact ⟨_,_,rfl,.inr (by decide)⟩
    | .negInfinity => exact ⟨_,_,rfl,.inr (by decide)⟩
  printable n := by
    match n with
    | .int n =>
      rw [Number.text,intText_literal]
      exact (wholeLiteral_formed _).printable _
    | .real q => exact (magnitude_facts q).1.printable _
    | .nan => decide
    | .infinity => decide
    | .negInfinity => decide
  scanned n rest delimited := by
    match n with
    | .int n =>
      rw [Number.text,intText_literal,(wholeLiteral_formed _).value _ delimited,wholeLiteral_value]
      rfl
    | .real q =>
      obtain ⟨formed,pointed,value⟩ := magnitude_facts q
      rw [Number.text,realText,formed.value _ delimited,numberValue_real _ pointed,value]
      simp only [decide_eq_true_eq]
      rfl
    | .nan => simp [Number.text,text,scanValue,scanLiteral,literals,List.isPrefixOf,Number.reread]
    | .infinity => simp [Number.text,text,scanValue,scanLiteral,literals,List.isPrefixOf,Number.reread]
    | .negInfinity => simp [Number.text,text,scanValue,scanLiteral,literals,List.isPrefixOf,Number.reread]

end JsonText
