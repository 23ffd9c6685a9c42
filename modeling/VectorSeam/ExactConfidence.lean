import VectorSeam.Posterior
import VectorSeam.Magnitudes
import VectorSeam.Response
import VectorSeam.Startup

/-!
Floating-point confidences that are the exact ones, correctly rounded. Rounding keeps
their order and their bounds, so they do not fall when successes are added and they stay
in the unit interval.
-/

namespace VectorSeam.ExactConfidence
open VectorSeam.Rounding VectorSeam.Magnitudes VectorSeam.Estimators VectorSeam.BernsteinTails

/-- Confidences of at most `samples` samples are the exact ones, correctly rounded. -/
def Exact (beta_reg : Float → Float → Float → Float) (percentile : Float) (samples : Nat) : Prop :=
  ∀ (p q : ℚ) (n m : ℕ), Represents percentile p → n ≤ samples → m ≤ n → (q : ℝ) = Posterior.posterior n m p →
    Represents (posterior beta_reg n m percentile) (rounded q)

variable {beta_reg : Float → Float → Float → Float} {percentile : Float} {samples : Nat}

/-- The exact confidence of a rational percentile is rational. -/
theorem rational_posterior {n m : ℕ} (possible : m ≤ n) (p : ℚ) : ∃ q : ℚ, (q : ℝ) = Posterior.posterior n m p := by
  refine ⟨(tail ℚ (n + 1) m).eval p, ?_⟩
  rw [Posterior.posterior_eq_tail possible, eval_tail, eval_tail]
  push_cast
  rfl

/-- A percentile in the open unit interval is a number in that interval. -/
theorem percentile_represented (bounds : 0.0 < percentile ∧ percentile < 1.0) :
    ∃ p : ℚ, Represents percentile p ∧ 0 < p ∧ p < 1 := by
  obtain ⟨p, positive, represents⟩ := represents_of_positive bounds.1 (Startup.finite_of_open bounds)
  refine ⟨p, represents, positive, ?_⟩
  by_contra large
  exact Binary64.not_lt_of_le ((represents_one.le_iff represents).mpr (not_lt.mp large)) bounds.2

theorem Exact.represents (exact : Exact beta_reg percentile samples) (bounds : 0.0 < percentile ∧ percentile < 1.0) :
    ∃ p : ℚ, 0 < p ∧ p < 1 ∧ ∀ n m, n ≤ samples → m ≤ n → ∃ q : ℚ, 0 < q ∧ q < 1 ∧ (q : ℝ) = Posterior.posterior n m p ∧
      Represents (posterior beta_reg n m percentile) (rounded q) := by
  obtain ⟨p, represents, positive, below⟩ := percentile_represented bounds
  refine ⟨p, positive, below, fun n m small possible => ?_⟩
  obtain ⟨q, value⟩ := rational_posterior possible p
  have tailed := Posterior.confidence_exact n m p possible (by exact_mod_cast positive) (by exact_mod_cast below)
  have bottom := tailed.positive
  have top := tailed.below_one
  rw [← value] at bottom top
  exact ⟨q, by exact_mod_cast bottom, by exact_mod_cast top, value, exact p q n m represents small possible value⟩

theorem Exact.in_unit (exact : Exact beta_reg percentile samples) (bounds : 0.0 < percentile ∧ percentile < 1.0) {n m : ℕ}
    (small : n ≤ samples) (possible : m ≤ n) : InUnit (posterior beta_reg n m percentile) := by
  obtain ⟨p, _, _, values⟩ := exact.represents bounds
  obtain ⟨q, positive, below, _, represents⟩ := values n m small possible
  exact represents.in_unit (rounded_le_one positive.le below.le)

theorem Exact.steady (exact : Exact beta_reg percentile samples) (bounds : 0.0 < percentile ∧ percentile < 1.0) :
    Response.Steady beta_reg percentile samples := by
  obtain ⟨p, positive, below, values⟩ := exact.represents bounds
  intro n fewer more small le within
  obtain ⟨q, qPositive, _, value, represents⟩ := values n fewer small (le.trans within)
  obtain ⟨r, _, _, value', represents'⟩ := values n more small within
  refine (represents.le_iff represents').mpr (rounded_mono qPositive ?_)
  rcases le.eq_or_lt with rfl | less
  · exact_mod_cast (value.trans value'.symm).le
  · have tailed := Posterior.confidence_exact n fewer p (le.trans within) (by exact_mod_cast positive)
      (by exact_mod_cast below)
    have rises := tailed.increasing more less within
    rw [← value, ← value'] at rises
    exact_mod_cast rises.le

/-! ### The cast of the split minimum -/

/-- No float lies between `1 - 2 ^ (-53)` and one. -/
theorem represents_below_one {a : Float} {x : ℚ} (represents : Represents a x) (below : x < 1) : x ≤ 1 - 2 ^ (-53 : ℤ) := by
  by_contra close
  have canonical : Canonical (2 ^ 53 - 1) (-53) := by
    unfold Canonical
    decide
  have less : ((2 ^ 53 - 1 : ℕ) : ℚ) * 2 ^ (-53 : ℤ) < x := by
    refine lt_of_eq_of_lt ?_ (not_le.mp close)
    norm_num
  have next := next_le represents canonical (by norm_num) less
  norm_num at next
  exact absurd next (not_le.mpr below)

/-- The quotient that `split_minimum` rounds up is far below the bound of `u64` for all floats in the open interval. -/
theorem split_minimum_fits {confidence percentile : Float} {x y : ℚ} (represents : Represents confidence x)
    (represents' : Represents percentile y) (below : x < 1) (positive' : 0 < y) (below' : y < 1) :
    ⌈Real.log (1 - x) / Real.log y⌉ < 2 ^ 64 := by
  have gap : ∀ {a : Float} {z : ℚ}, Represents a z → z < 1 → (2 : ℝ) ^ (-53 : ℤ) ≤ 1 - z := by
    intro a z found small
    have bound : ((z : ℚ) : ℝ) ≤ (1 - 2 ^ (-53 : ℤ) : ℚ) := Rat.cast_le.mpr (represents_below_one found small)
    push_cast at bound
    linarith
  have falling : Real.log y ≤ -2 ^ (-53 : ℤ) := by
    have slope := Real.log_le_sub_one_of_pos (show (0 : ℝ) < y by exact_mod_cast positive')
    have rest := gap represents' below'
    linarith
  have deep : -53 ≤ Real.log (1 - x) := by
    have rises := Real.log_le_log (by positivity) (gap represents below)
    rw [Real.log_zpow] at rises
    have two := Real.log_two_lt_d9
    have two' : Real.log 2 ≤ 1 := by linarith
    push_cast at rises
    linarith
  have bound : Real.log (1 - x) / Real.log y ≤ 53 * 2 ^ 53 := by
    have steep : (2 : ℝ) ^ (-53 : ℤ) ≤ -Real.log y := by linarith
    rw [← neg_div_neg_eq, div_le_iff₀ (lt_of_lt_of_le (by positivity) steep)]
    have scaled : (53 : ℝ) = 53 * 2 ^ 53 * 2 ^ (-53 : ℤ) := by norm_num
    calc -Real.log (1 - x) ≤ 53 := by linarith
      _ = 53 * 2 ^ 53 * 2 ^ (-53 : ℤ) := scaled
      _ ≤ 53 * 2 ^ 53 * -Real.log y := by gcongr
  calc ⌈Real.log (1 - x) / Real.log y⌉ ≤ 53 * 2 ^ 53 := Int.ceil_le.mpr (by exact_mod_cast bound)
    _ < 2 ^ 64 := by norm_num

end VectorSeam.ExactConfidence
