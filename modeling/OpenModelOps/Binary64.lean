import OpenModelOps.PythonFloat
import Mathlib.Data.Int.Log
import Mathlib.Data.Rat.Floor
import Mathlib.Tactic.Linarith
import Mathlib.Tactic.Positivity

namespace Binary64
open PythonFloat

-- What neighbouring doubles differ by at x: 53 bits, and no less than 2^-1074.
def ulp (x : ℚ) : ℚ := 2 ^ max (Int.log 2 |x| - 52) (-1074)

-- The double nearest to x, of two the even one. No result overflows here.
def nearest (x : ℚ) : ℚ := roundHalfEven (x / ulp x) * ulp x

theorem ulp_positive (x : ℚ) : 0 < ulp x := zpow_pos two_pos _

theorem roundHalfEven_near (x : ℚ) : x - 1/2 ≤ roundHalfEven x ∧ (roundHalfEven x : ℚ) ≤ x + 1/2 := by
  have low : (x.floor : ℚ) ≤ x := Int.floor_le x
  have high : x < x.floor + 1 := Int.lt_floor_add_one x
  unfold roundHalfEven
  dsimp only
  split_ifs <;> push_cast <;> constructor <;> linarith

theorem roundHalfEven_mono (ordered : x ≤ y) : roundHalfEven x ≤ roundHalfEven y := by
  rcases eq_or_lt_of_le ordered with rfl | less
  · exact le_refl _
  · have above := (roundHalfEven_near x).2
    have below := (roundHalfEven_near y).1
    have close : (roundHalfEven x : ℚ) < roundHalfEven y + 1 := by linarith
    exact Int.lt_add_one_iff.mp (by exact_mod_cast close)

theorem roundHalfEven_int (n : Int) : roundHalfEven n = n := by
  obtain ⟨low,high⟩ := roundHalfEven_near n
  have least : (n : ℚ) < roundHalfEven n + 1 := by linarith
  have most : (roundHalfEven n : ℚ) < n + 1 := by linarith
  have least : n < roundHalfEven n + 1 := by exact_mod_cast least
  have most : roundHalfEven n < n + 1 := by exact_mod_cast most
  omega

theorem nearest_le {bound : ℚ} {n : Int} (whole : bound = n * ulp x) (ordered : x ≤ bound) : nearest x ≤ bound := by
  have scaled : x / ulp x ≤ n := by rwa [div_le_iff₀ (ulp_positive x),← whole]
  have rounded := roundHalfEven_mono scaled
  rw [roundHalfEven_int] at rounded
  rw [nearest,whole]
  exact mul_le_mul_of_nonneg_right (by exact_mod_cast rounded) (ulp_positive x).le

theorem le_nearest {bound : ℚ} {n : Int} (whole : bound = n * ulp x) (ordered : bound ≤ x) : bound ≤ nearest x := by
  have scaled : (n : ℚ) ≤ x / ulp x := by rwa [le_div_iff₀ (ulp_positive x),← whole]
  have rounded := roundHalfEven_mono scaled
  rw [roundHalfEven_int] at rounded
  rw [nearest,whole]
  exact mul_le_mul_of_nonneg_right (by exact_mod_cast rounded) (ulp_positive x).le

theorem nearest_mono_unit (same : ulp x = ulp y) (ordered : x ≤ y) : nearest x ≤ nearest y := by
  have scaled : x / ulp y ≤ y / ulp y := by
    rw [div_le_div_iff_of_pos_right (ulp_positive y)]
    exact ordered
  rw [nearest,nearest,same]
  exact mul_le_mul_of_nonneg_right (by exact_mod_cast roundHalfEven_mono scaled) (ulp_positive y).le

theorem power_whole {e : Int} (fine : max (Int.log 2 |x| - 52) (-1074) ≤ e) :
    ∃ n : Int, (2 : ℚ) ^ e = n * ulp x := by
  obtain ⟨k,rfl⟩ := Int.le.dest fine
  refine ⟨2 ^ k,?_⟩
  rw [ulp,zpow_add₀ two_ne_zero,zpow_natCast,mul_comm]
  norm_cast

theorem ulp_log (units : ulp x ≠ ulp y) (logs : Int.log 2 |x| ≤ Int.log 2 |y|) :
    Int.log 2 |x| < Int.log 2 |y| ∧ -1022 < Int.log 2 |y| := by
  have differ : max (Int.log 2 |x| - 52) (-1074) ≠ max (Int.log 2 |y| - 52) (-1074) :=
    fun same => units (by rw [ulp,ulp,same])
  omega

-- Between numbers whose units differ lies a power of two.
theorem power_between (small : 0 < |x|) (units : ulp x ≠ ulp y) (ordered : |x| ≤ |y|) :
    ∃ (bound : ℚ) (m n : Int), |x| ≤ bound ∧ bound ≤ |y| ∧ bound = m * ulp x ∧ bound = n * ulp y := by
  have large : 0 < |y| := lt_of_lt_of_le small ordered
  obtain ⟨less,normal⟩ := ulp_log units (Int.log_mono_right small ordered)
  obtain ⟨m,first⟩ := power_whole (show max (Int.log 2 |x| - 52) (-1074) ≤ Int.log 2 |y| by omega)
  obtain ⟨n,second⟩ := power_whole (show max (Int.log 2 |y| - 52) (-1074) ≤ Int.log 2 |y| by omega)
  refine ⟨2 ^ Int.log 2 |y|,m,n,?_,?_,first,second⟩
  · have above := (Int.lt_zpow_succ_log_self (b := 2) one_lt_two |x|).le
    exact above.trans (zpow_le_zpow_right₀ one_le_two (by omega))
  · exact Int.zpow_log_le_self one_lt_two large

theorem nearest_nonneg (nonneg : 0 ≤ x) : 0 ≤ nearest x :=
  le_nearest (n := 0) (by simp) nonneg

theorem nearest_nonpos (nonpos : x ≤ 0) : nearest x ≤ 0 :=
  nearest_le (n := 0) (by simp) nonpos

theorem nearest_mono (ordered : x ≤ y) : nearest x ≤ nearest y := by
  by_cases same : ulp x = ulp y
  · exact nearest_mono_unit same ordered
  · rcases lt_trichotomy x 0 with negative | rfl | positive
    · rcases le_or_gt 0 y with nonneg | below
      · exact (nearest_nonpos negative.le).trans (nearest_nonneg nonneg)
      · have sizes : |y| ≤ |x| := by
          rw [abs_of_neg negative,abs_of_neg below]
          exact neg_le_neg ordered
        obtain ⟨bound,m,n,low,high,first,second⟩ := power_between (abs_pos.mpr below.ne) (Ne.symm same) sizes
        rw [abs_of_neg below] at low
        rw [abs_of_neg negative] at high
        have left : nearest x ≤ -bound := nearest_le (n := -n) (by push_cast; linarith) (by linarith)
        have right : -bound ≤ nearest y := le_nearest (n := -m) (by push_cast; linarith) (by linarith)
        exact left.trans right
    · exact (nearest_nonpos le_rfl).trans (nearest_nonneg ordered)
    · have sizes : |x| ≤ |y| := by
        rw [abs_of_pos positive,abs_of_pos (lt_of_lt_of_le positive ordered)]
        exact ordered
      obtain ⟨bound,m,n,low,high,first,second⟩ := power_between (abs_pos.mpr positive.ne') same sizes
      rw [abs_of_pos positive] at low
      rw [abs_of_pos (lt_of_lt_of_le positive ordered)] at high
      exact (nearest_le first low).trans (le_nearest second high)

end Binary64
