import Mathlib.Algebra.Order.Ring.Rat

namespace PythonFloat

-- The values of a Python float: a finite double is a rational number, and the
-- two zeros differ only in their text.
inductive PyFloat where
  | finite (value : ℚ)
  | negZero
  | infinity
  | negInfinity
  | nan
  deriving DecidableEq

def PyFloat.rank : PyFloat → Option (Int × ℚ)
  | .finite value => some (0,value)
  | .negZero => some (0,0)
  | .infinity => some (1,0)
  | .negInfinity => some (-1,0)
  | .nan => none

-- x < y; every comparison with nan is false.
def PyFloat.lt (x y : PyFloat) : Bool :=
  match x.rank,y.rank with
  | some a,some b => decide (a.1 < b.1 ∨ a.1 = b.1 ∧ a.2 < b.2)
  | _,_ => false

-- x <= y.
def PyFloat.le (x y : PyFloat) : Bool :=
  match x.rank,y.rank with
  | some a,some b => decide (a.1 < b.1 ∨ a.1 = b.1 ∧ a.2 ≤ b.2)
  | _,_ => false

def PyFloat.abs : PyFloat → PyFloat
  | .finite value => .finite |value|
  | .negZero => .finite 0
  | .negInfinity => .infinity
  | x => x

-- The exact sum of a finite number and a float.
def PyFloat.later (start : ℚ) : PyFloat → PyFloat
  | .finite value => .finite (start + value)
  | .negZero => .finite start
  | x => x

theorem PyFloat.le_trans {x y z : PyFloat} (first : x.le y = true) (second : y.le z = true) : x.le z = true := by
  unfold PyFloat.le at *
  cases left : x.rank with
  | none => simp [left] at first
  | some a =>
    cases middle : y.rank with
    | none => simp [left,middle] at first
    | some b =>
      cases right : z.rank with
      | none => simp [middle,right] at second
      | some c =>
        simp only [left,middle,decide_eq_true_eq] at first
        simp only [middle,right,decide_eq_true_eq] at second
        apply decide_eq_true
        rcases first with less | ⟨same,below⟩
        · rcases second with further | ⟨again,_⟩
          · exact .inl (less.trans further)
          · exact .inl (again ▸ less)
        · rcases second with further | ⟨again,above⟩
          · exact .inl (same ▸ further)
          · exact .inr ⟨same.trans again,below.trans above⟩

theorem lt_finite {x : PyFloat} : x.lt (.finite a) = true ↔
    ∃ position, x.rank = some position ∧ (position.1 < 0 ∨ position.1 = 0 ∧ position.2 < a) := by
  unfold PyFloat.lt
  cases x.rank <;> simp [PyFloat.rank]

theorem lt_finite_mono {x : PyFloat} (below : x.lt (.finite a) = true) (ordered : a ≤ b) :
    x.lt (.finite b) = true := by
  obtain ⟨position,rank,lower | ⟨level,less⟩⟩ := lt_finite.mp below
  · exact lt_finite.mpr ⟨position,rank,.inl lower⟩
  · exact lt_finite.mpr ⟨position,rank,.inr ⟨level,lt_of_lt_of_le less ordered⟩⟩

theorem rank_none {x : PyFloat} : x.rank = none ↔ x = .nan := by
  cases x <;> simp [PyFloat.rank]

theorem le_iff_not_lt {x y : PyFloat} : y.le x = true ↔ x.lt y = false ∧ x ≠ .nan ∧ y ≠ .nan := by
  unfold PyFloat.le PyFloat.lt
  cases left : x.rank with
  | none =>
    have nan := rank_none.mp left
    cases y.rank <;> simp [nan]
  | some a =>
    have ordered : x ≠ .nan := fun nan => by simp [rank_none.mpr nan] at left
    cases right : y.rank with
    | none => simp [rank_none.mp right]
    | some b =>
      have alsoOrdered : y ≠ .nan := fun nan => by simp [rank_none.mpr nan] at right
      simp only [decide_eq_true_eq,decide_eq_false_iff_not,ne_eq,ordered,alsoOrdered,not_false_eq_true,and_true,not_or,
        not_and,not_lt]
      constructor
      · intro above
        rcases above with above | ⟨level,above⟩
        · exact ⟨le_of_lt above,fun same => absurd same (ne_of_gt above)⟩
        · exact ⟨le_of_eq level,fun _ => above⟩
      · intro above
        rcases lt_or_eq_of_le above.1 with less | level
        · exact .inl less
        · exact .inr ⟨level,above.2 level.symm⟩

-- The arithmetic of finite floats, with whatever rounding it has. Nothing is
-- assumed of it.
structure Arithmetic where
  add : ℚ → ℚ → ℚ
  sub : ℚ → ℚ → ℚ
  mul : ℚ → ℚ → ℚ
  div : ℚ → ℚ → ℚ
  sum : List ℚ → ℚ
  round6 : ℚ → ℚ

-- The integer nearest to x; a tie goes to the even one.
def roundHalfEven (x : ℚ) : Int :=
  let below := x.floor
  let rest := x - below
  if rest < 1/2 then below else if 1/2 < rest then below + 1 else if below % 2 = 0 then below else below + 1

def Arithmetic.exact : Arithmetic :=
  ⟨(· + ·),(· - ·),(· * ·),(· / ·),List.sum,fun x => (roundHalfEven (x * 1000000) : ℚ) / 1000000⟩

-- Exact results with another rounding at the end, or with none.
def Arithmetic.rounded (round6 : ℚ → ℚ) : Arithmetic := {Arithmetic.exact with round6 := round6}
def Arithmetic.unrounded : Arithmetic := .rounded id

end PythonFloat
