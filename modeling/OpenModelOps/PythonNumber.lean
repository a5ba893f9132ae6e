import OpenModelOps.JsonWriting
import OpenModelOps.PythonFloat

namespace PythonNumber
open JsonText PythonFloat

inductive PyNumber where
  | int (n : Int)
  | float (x : PyFloat)
  deriving DecidableEq

-- The numbers as json.dumps writes them where a float has an integral value
-- below 1e16; another finite float has some other text of its own.
def numberText : PyNumber → Text
  | .int n => intText n
  | .float (.finite q) => intText q.num ++ 0x2e :: intText ((q.den : Int) - 1)
  | .float .negZero => text "-0.0"
  | .float .infinity => text "Infinity"
  | .float .negInfinity => text "-Infinity"
  | .float .nan => text "NaN"

theorem undotted (n : Int) : 0x2e ∉ intText n := by
  intro member
  rcases intText_chars n _ member with sign | digit
  · exact absurd sign (by decide)
  · exact absurd digit.1 (by decide)

theorem negZero_unwritten (n : Int) : intText n ≠ text "-0" := by
  intro same
  cases n with
  | ofNat n => exact reprText_unsigned n same
  | negSucc n =>
    rw [intText_negative] at same
    have zero : n + 1 = 0 := reprText_injective (List.cons.inj same).2
    cases zero

theorem finite_parts {q r : ℚ} (same : numberText (.float (.finite q)) = numberText (.float (.finite r))) : q = r := by
  obtain ⟨nums,_,dens⟩ := (List.append_cons_inj_of_notMem (undotted _) (undotted _)).mp same
  have den := intText_injective dens
  exact Rat.ext (intText_injective nums) (by omega)

theorem finite_not_negZero (q : ℚ) : numberText (.float (.finite q)) ≠ text "-0.0" := by
  intro same
  have split : intText q.num ++ 0x2e :: intText ((q.den : Int) - 1) = text "-0" ++ 0x2e :: text "0" := same
  exact negZero_unwritten _ ((List.append_cons_inj_of_notMem (undotted _) (undotted _)).mp split).1

def numeric (c : Nat) : Prop := c = 0x2d ∨ c = 0x2e ∨ digit c

theorem int_numeric (n : Int) : ∀ c ∈ intText n, numeric c := by
  intro c member
  rcases intText_chars n c member with sign | digit
  · exact .inl sign
  · exact .inr (.inr digit)

theorem finite_numeric (q : ℚ) : ∀ c ∈ numberText (.float (.finite q)), numeric c := by
  intro c member
  rcases List.mem_append.mp member with whole | point
  · exact int_numeric _ c whole
  · rcases List.mem_cons.mp point with dot | fraction
    · exact .inr (.inl dot)
    · exact int_numeric _ c fraction

theorem numeric_plain (numeric : numeric c) : c < 0x80 ∧ c ∉ [0x6e,0x74,0x66,0x22,0x5b,0x7b,0x2c,0x5d,0x7d,0x49,0x4e] := by
  rcases numeric with rfl | rfl | ⟨lower,upper⟩
  · decide
  · decide
  · simp only [List.mem_cons,List.not_mem_nil,or_false,not_or]
    omega

def kindOf (t : Text) : Nat :=
  if 0x49 ∈ t then (if 0x2d ∈ t then 4 else 3) else if 0x4e ∈ t then 5 else if 0x2e ∉ t then 0
  else if t = text "-0.0" then 2 else 1

def numberKind : PyNumber → Nat
  | .int _ => 0
  | .float (.finite _) => 1
  | .float .negZero => 2
  | .float .infinity => 3
  | .float .negInfinity => 4
  | .float .nan => 5

theorem kindOf_numberText (n : PyNumber) : kindOf (numberText n) = numberKind n := by
  match n with
  | .int n =>
    have plain := fun c member => (numeric_plain (int_numeric n c member)).2
    have noI : 0x49 ∉ intText n := fun member => plain _ member (by decide)
    have noN : 0x4e ∉ intText n := fun member => plain _ member (by decide)
    simp only [kindOf,numberText,noI,noN,undotted n,if_false,not_false_eq_true,if_true,numberKind]
  | .float (.finite q) =>
    have plain := fun c member => (numeric_plain (finite_numeric q c member)).2
    have noI : 0x49 ∉ numberText (.float (.finite q)) := fun member => plain _ member (by decide)
    have noN : 0x4e ∉ numberText (.float (.finite q)) := fun member => plain _ member (by decide)
    have dotted : 0x2e ∈ numberText (.float (.finite q)) := List.mem_append_right _ List.mem_cons_self
    simp only [kindOf,noI,noN,dotted,finite_not_negZero q,if_false,not_true_eq_false,numberKind]
  | .float .negZero => decide
  | .float .infinity => decide
  | .float .negInfinity => decide
  | .float .nan => decide

theorem numberText_injective : Function.Injective numberText := by
  intro n m same
  have kinds : numberKind n = numberKind m := by
    rw [← kindOf_numberText,← kindOf_numberText,same]
  rcases n with n | x
  · rcases m with m | y
    · exact congrArg PyNumber.int (intText_injective same)
    · cases y <;> cases kinds
  · rcases m with m | y
    · cases x <;> cases kinds
    · cases x with
      | finite q =>
        cases y with
        | finite r => rw [finite_parts same]
        | _ => cases kinds
      | _ => cases y <;> first | rfl | cases kinds

theorem opens_of_numeric {t : Text} (nonempty : t ≠ []) (numeric : ∀ c ∈ t, numeric c) :
    ∃ c rest, t = c :: rest ∧ c ≠ 0x6e ∧ c ≠ 0x74 ∧ c ≠ 0x66 := by
  obtain ⟨c,rest,shape⟩ := List.exists_cons_of_ne_nil nonempty
  have plain := (numeric_plain (numeric c (by rw [shape]; exact List.mem_cons_self))).2
  simp only [List.mem_cons,not_or] at plain
  exact ⟨c,rest,shape,plain.1,plain.2.1,plain.2.2.1⟩

theorem unmarked_of_numeric (numeric : numeric c) : c ∉ [0x22,0x5b,0x7b,0x2c,0x5d,0x7d] := by
  have plain := (numeric_plain numeric).2
  simp only [List.mem_cons,List.not_mem_nil,or_false,not_or] at plain ⊢
  exact ⟨plain.2.2.2.1,plain.2.2.2.2.1,plain.2.2.2.2.2.1,plain.2.2.2.2.2.2.1,plain.2.2.2.2.2.2.2.1,plain.2.2.2.2.2.2.2.2.1⟩

theorem intText_numbering : Numbering intText where
  injective := intText_injective
  opens n := opens_of_numeric (intText_nonempty n) (int_numeric n)
  unmarked n c member := unmarked_of_numeric (int_numeric n c member)
  ascii n c member := (numeric_plain (int_numeric n c member)).1

theorem numberText_numbering : Numbering numberText where
  injective := numberText_injective
  opens n := by
    match n with
    | .int n => exact opens_of_numeric (intText_nonempty n) (int_numeric n)
    | .float (.finite q) => exact opens_of_numeric (by simp [numberText]) (finite_numeric q)
    | .float .negZero => exact ⟨_,_,rfl,by decide⟩
    | .float .infinity => exact ⟨_,_,rfl,by decide⟩
    | .float .negInfinity => exact ⟨_,_,rfl,by decide⟩
    | .float .nan => exact ⟨_,_,rfl,by decide⟩
  unmarked n := by
    match n with
    | .int n => exact fun c member => unmarked_of_numeric (int_numeric n c member)
    | .float (.finite q) => exact fun c member => unmarked_of_numeric (finite_numeric q c member)
    | .float .negZero => decide
    | .float .infinity => decide
    | .float .negInfinity => decide
    | .float .nan => decide
  ascii n := by
    match n with
    | .int n => exact fun c member => (numeric_plain (int_numeric n c member)).1
    | .float (.finite q) => exact fun c member => (numeric_plain (finite_numeric q c member)).1
    | .float .negZero => decide
    | .float .infinity => decide
    | .float .negInfinity => decide
    | .float .nan => decide

end PythonNumber
