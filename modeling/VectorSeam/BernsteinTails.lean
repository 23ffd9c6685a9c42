import Mathlib.RingTheory.Polynomial.Bernstein
import Mathlib.Analysis.Calculus.Deriv.Polynomial
import Mathlib.Analysis.Calculus.Deriv.MeanValue
import Mathlib.Analysis.SpecialFunctions.Pow.Real
import Mathlib.MeasureTheory.Integral.IntervalIntegral.FundThmCalculus
import Mathlib.Topology.Algebra.Polynomial

/-!
Binomial tails and the regularised incomplete beta function at whole shapes. The
chance of at most `most` successes in `trials` trials is a polynomial in the chance of
one success, a sum of Bernstein polynomials whose derivative telescopes to one of them.
Integrating that derivative gives the incomplete beta function.
-/

namespace VectorSeam.BernsteinTails
open Finset Polynomial

/-! ### The tail as a polynomial -/

section Ring
variable (R : Type) [CommRing R]

/-- At most `most` successes in `trials` trials. -/
noncomputable def tail (trials most : ℕ) : R[X] := ∑ successes ∈ range (most + 1), bernsteinPolynomial R trials successes

theorem tail_succ (trials most : ℕ) :
    tail R trials (most + 1) = tail R trials most + bernsteinPolynomial R trials (most + 1) :=
  sum_range_succ _ _

theorem tail_all (trials : ℕ) : tail R trials trials = 1 := bernsteinPolynomial.sum R trials

theorem eval_bernstein (trials successes : ℕ) (chance : R) : (bernsteinPolynomial R trials successes).eval chance =
    trials.choose successes * chance ^ successes * (1 - chance) ^ (trials - successes) := by
  simp [bernsteinPolynomial]

theorem eval_tail (trials most : ℕ) (chance : R) : (tail R trials most).eval chance =
    ∑ successes ∈ range (most + 1),
      trials.choose successes * chance ^ successes * (1 - chance) ^ (trials - successes) := by
  rw [tail, eval_finsetSum]
  exact sum_congr rfl fun successes _ => eval_bernstein R trials successes chance

/-- All but the outcome of successes only. -/
theorem eval_tail_last (trials : ℕ) (chance : R) : (tail R (trials + 1) trials).eval chance = 1 - chance ^ (trials + 1) := by
  have whole := congrArg (eval chance) (tail_all R (trials + 1))
  rw [tail_succ, eval_add, eval_bernstein, eval_one, Nat.choose_self, Nat.cast_one, one_mul, Nat.sub_self, pow_zero,
    mul_one] at whole
  exact eq_sub_of_add_eq whole

/-- At most `most` successes, or at most `rest` failures. -/
theorem tail_flip (most rest : ℕ) :
    (tail R (rest + 1 + most) most).comp (1 - X) + tail R (rest + 1 + most) rest = 1 := by
  have flipped : (tail R (rest + 1 + most) most).comp (1 - X) =
      ∑ failures ∈ range (most + 1), bernsteinPolynomial R (rest + 1 + most) (rest + 1 + failures) := by
    rw [tail, Polynomial.sum_comp, ← sum_range_reflect]
    refine sum_congr rfl fun successes inside => ?_
    have few := mem_range.mp inside
    rw [bernsteinPolynomial.flip R _ _ (by omega), show rest + 1 + most - (most + 1 - 1 - successes) =
      rest + 1 + successes by omega]
  rw [flipped, tail, add_comm, ← sum_range_add, ← add_assoc (rest + 1)]
  exact bernsteinPolynomial.sum R _

/-- The derivatives of the summands cancel except for the last. -/
theorem derivative_tail (trials most : ℕ) : derivative (tail R (trials + 1) most) =
    -((trials + 1 : ℕ) : R[X]) * bernsteinPolynomial R trials most := by
  induction most with
  | zero => rw [tail, sum_range_one, bernsteinPolynomial.derivative_zero, Nat.add_sub_cancel]
  | succ most ih =>
    rw [tail_succ, derivative_add, ih, bernsteinPolynomial.derivative_succ, Nat.add_sub_cancel]
    ring

end Ring

/-! ### Values over an ordered field -/

section Ordered
variable {K : Type} [Field K] [LinearOrder K] [IsStrictOrderedRing K] {chance : K}

theorem bernstein_pos {trials successes : ℕ} (possible : successes ≤ trials) (positive : 0 < chance) (below : chance < 1) :
    0 < (bernsteinPolynomial K trials successes).eval chance := by
  rw [eval_bernstein]
  have choices : (0 : K) < trials.choose successes := by exact_mod_cast Nat.choose_pos possible
  have failure := sub_pos.mpr below
  positivity

theorem eval_tail_lt_succ {trials most : ℕ} (possible : most < trials) (positive : 0 < chance) (below : chance < 1) :
    (tail K trials most).eval chance < (tail K trials (most + 1)).eval chance := by
  rw [tail_succ, eval_add]
  exact lt_add_of_pos_right _ (bernstein_pos possible positive below)

theorem eval_tail_lt {trials fewer more : ℕ} (less : fewer < more) (possible : more ≤ trials) (positive : 0 < chance)
    (below : chance < 1) : (tail K trials fewer).eval chance < (tail K trials more).eval chance := by
  induction more, less using Nat.le_induction with
  | base => exact eval_tail_lt_succ possible positive below
  | succ more _ ih => exact (ih (by omega)).trans (eval_tail_lt_succ possible positive below)

theorem eval_tail_pos {trials most : ℕ} (possible : most ≤ trials) (positive : 0 < chance) (below : chance < 1) :
    0 < (tail K trials most).eval chance := by
  rw [tail, eval_finsetSum]
  refine sum_pos (fun successes inside => bernstein_pos ?_ positive below) (nonempty_range_add_one)
  exact (Nat.lt_succ_iff.mp (mem_range.mp inside)).trans possible

theorem eval_tail_lt_one {trials most : ℕ} (possible : most < trials) (positive : 0 < chance) (below : chance < 1) :
    (tail K trials most).eval chance < 1 := by
  have whole := congrArg (eval chance) (tail_all K trials)
  rw [eval_one] at whole
  exact (eval_tail_lt possible le_rfl positive below).trans_eq whole

end Ordered

/-! ### The tail as an integral -/

theorem hasDerivAt_tail (trials most : ℕ) (chance : ℝ) : HasDerivAt (fun x => (tail ℝ (trials + 1) most).eval x)
    (-(trials + 1 : ℕ) * (bernsteinPolynomial ℝ trials most).eval chance) chance := by
  have derived := (tail ℝ (trials + 1) most).hasDerivAt chance
  rwa [derivative_tail, eval_mul, eval_neg, eval_natCast] at derived

theorem eval_tail_anti {trials most : ℕ} (possible : most ≤ trials) {smaller larger : ℝ} (positive : 0 < smaller)
    (less : smaller < larger) (below : larger < 1) :
    (tail ℝ (trials + 1) most).eval larger < (tail ℝ (trials + 1) most).eval smaller := by
  have falling : StrictAntiOn (fun x => (tail ℝ (trials + 1) most).eval x) (Set.Ioo 0 1) := by
    refine strictAntiOn_of_deriv_neg (convex_Ioo 0 1) (tail ℝ (trials + 1) most).continuous.continuousOn ?_
    intro chance inside
    rw [interior_Ioo] at inside
    rw [(hasDerivAt_tail trials most chance).deriv, neg_mul, neg_lt_zero]
    exact mul_pos (by positivity) (bernstein_pos possible inside.1 inside.2)
  exact falling ⟨positive, less.trans below⟩ ⟨positive.trans less, below⟩ less

theorem eval_tail_at_zero (trials most : ℕ) : (tail ℝ trials most).eval 0 = 1 := by
  rw [tail, eval_finsetSum]
  simp [bernsteinPolynomial.eval_at_0]

theorem eval_tail_at_one {trials most : ℕ} (possible : most < trials) : (tail ℝ trials most).eval 1 = 0 := by
  rw [tail, eval_finsetSum]
  refine sum_eq_zero fun successes inside => ?_
  have few := mem_range.mp inside
  rw [bernsteinPolynomial.eval_at_1, if_neg (by omega)]

/-- The incomplete beta function. -/
noncomputable def incomplete_beta (a b x : ℝ) : ℝ := ∫ t in (0 : ℝ)..x, t ^ (a - 1) * (1 - t) ^ (b - 1)
/-- The regularised incomplete beta function. -/
noncomputable def beta_reg (a b x : ℝ) : ℝ := incomplete_beta a b x / incomplete_beta a b 1

/-- At whole shapes the integrand is a Bernstein polynomial, the derivative of a tail. -/
theorem incomplete_beta_whole (successes failures : ℕ) (x : ℝ) :
    ((successes + failures + 1 : ℕ) * ((successes + failures).choose successes : ℝ)) *
      incomplete_beta (successes + 1) (failures + 1) x = 1 - (tail ℝ (successes + failures + 1) successes).eval x := by
  have integrand : ∀ t : ℝ, ((successes + failures + 1 : ℕ) * ((successes + failures).choose successes : ℝ)) *
      (t ^ ((successes + 1 : ℝ) - 1) * (1 - t) ^ ((failures + 1 : ℝ) - 1)) =
      (successes + failures + 1 : ℕ) * (bernsteinPolynomial ℝ (successes + failures) successes).eval t := by
    intro t
    rw [add_sub_cancel_right, add_sub_cancel_right, Real.rpow_natCast, Real.rpow_natCast, eval_bernstein,
      Nat.add_sub_cancel_left]
    ring
  have integral : ∫ t in (0 : ℝ)..x, ((successes + failures + 1 : ℕ) : ℝ) *
      (bernsteinPolynomial ℝ (successes + failures) successes).eval t =
      -(tail ℝ (successes + failures + 1) successes).eval x - -(tail ℝ (successes + failures + 1) successes).eval 0 := by
    refine intervalIntegral.integral_eq_sub_of_hasDerivAt (f := fun t => -(tail ℝ _ successes).eval t) (fun t _ => ?_) ?_
    · have derived := (hasDerivAt_tail (successes + failures) successes t).neg
      rwa [neg_mul, neg_neg] at derived
    · exact (continuous_const.mul (bernsteinPolynomial ℝ _ _).continuous).intervalIntegrable 0 x
  rw [incomplete_beta, ← intervalIntegral.integral_const_mul]
  simp only [integrand]
  rw [integral, eval_tail_at_zero]
  ring

theorem beta_reg_whole (successes failures : ℕ) (x : ℝ) : beta_reg (successes + 1) (failures + 1) x =
    1 - (tail ℝ (successes + failures + 1) successes).eval x := by
  have scaled := incomplete_beta_whole successes failures
  have whole := scaled 1
  rw [eval_tail_at_one (by omega), sub_zero] at whole
  have nonzero : incomplete_beta (successes + 1) (failures + 1) 1 ≠ 0 := right_ne_zero_of_mul (whole.trans_ne one_ne_zero)
  rw [beta_reg, div_eq_iff nonzero, ← scaled x, mul_right_comm, whole, one_mul]

end VectorSeam.BernsteinTails
