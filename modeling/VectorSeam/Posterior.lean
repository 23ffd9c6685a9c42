import VectorSeam.BernsteinTails
import VectorSeam.Estimators
import Mathlib.Analysis.SpecialFunctions.Gamma.Basic

/-!
The confidence over the reals. The mirrored integral that the tuner evaluates and the
sum over logarithms that the Python anchor evaluates are the same binomial tail.
-/

namespace VectorSeam.Posterior
open VectorSeam.Estimators VectorSeam.BernsteinTails Finset

/-- The formula of `math::compliance_confidence` over the reals. -/
noncomputable def compliance_confidence (n m : ℕ) (percentile : ℝ) : Except MathError ℝ :=
  if n < m ∨ percentile ≤ 0 ∨ 1 ≤ percentile then .error .InvalidConfidenceInput
  else
    let successes : ℝ := m + 1
    let failures : ℝ := (n - m : ℕ) + 1
    .ok (beta_reg failures successes (1 - percentile))

/-- The value `compliance_confidence` computes on valid input. -/
noncomputable def posterior (n m : ℕ) (percentile : ℝ) : ℝ := beta_reg ((n - m : ℕ) + 1) (m + 1) (1 - percentile)

/-! ### The Python anchor -/

noncomputable def lgamma (x : ℝ) : ℝ := Real.log |Real.Gamma x|
noncomputable def log1p (x : ℝ) : ℝ := Real.log (1 + x)

noncomputable def log_term (percentile : ℝ) (n successes : ℕ) : ℝ :=
  lgamma (n + 2) - lgamma (successes + 1) - lgamma (n + 2 - successes) + successes * Real.log percentile +
    (n + 1 - successes) * log1p (-percentile)

/-- `_compliance_confidence` of the anchor, at its `_PERCENTILE`. -/
noncomputable def anchor_compliance_confidence (percentile : ℝ) (n m : ℕ) : ℝ :=
  let log_terms := (List.range (m + 1)).map (log_term percentile n)
  let maximum := log_terms.max?.getD 0 -- the list is never empty
  Real.exp maximum * (log_terms.map fun term => Real.exp (term - maximum)).sum

theorem lgamma_factorial (n : ℕ) : lgamma (n + 1) = Real.log n.factorial := by
  rw [lgamma, Real.Gamma_nat_eq_factorial, abs_of_pos (by exact_mod_cast n.factorial_pos)]

variable {n m : ℕ} {percentile : ℝ}

theorem exp_log_term {successes : ℕ} (possible : successes ≤ n + 1) (positive : 0 < percentile) (below : percentile < 1) :
    Real.exp (log_term percentile n successes) =
      (n + 1).choose successes * percentile ^ successes * (1 - percentile) ^ (n + 1 - successes) := by
  have failures : (n + 1 - successes : ℝ) = ((n + 1 - successes : ℕ) : ℝ) := by
    rw [Nat.cast_sub possible, Nat.cast_add, Nat.cast_one]
  have trials : lgamma (n + 2) = Real.log (n + 1).factorial := by
    rw [← lgamma_factorial]
    exact congrArg lgamma (by push_cast; ring)
  have rest : lgamma (n + 2 - successes) = Real.log (n + 1 - successes).factorial := by
    rw [← lgamma_factorial, ← failures]
    exact congrArg lgamma (by ring)
  have exp_log_factorial : ∀ k : ℕ, Real.exp (Real.log k.factorial) = k.factorial := fun k =>
    Real.exp_log (by exact_mod_cast k.factorial_pos)
  rw [log_term, log1p, trials, rest, lgamma_factorial, failures, ← sub_eq_add_neg, Real.exp_add, Real.exp_add,
    Real.exp_sub, Real.exp_sub, Real.exp_nat_mul, Real.exp_nat_mul, Real.exp_log positive, Real.exp_log (sub_pos.mpr below),
    exp_log_factorial, exp_log_factorial, exp_log_factorial, Nat.cast_choose ℝ possible, div_div]

/-- Shifting the exponents by their maximum changes nothing. -/
theorem exp_shifted (terms : List ℝ) (shift : ℝ) :
    Real.exp shift * (terms.map fun term => Real.exp (term - shift)).sum = (terms.map Real.exp).sum := by
  induction terms with
  | nil => simp
  | cons term rest ih =>
    rw [List.map_cons, List.sum_cons, mul_add, ih, ← Real.exp_add, add_sub_cancel, List.map_cons, List.sum_cons]

theorem anchor_eq_tail (possible : m ≤ n) (positive : 0 < percentile) (below : percentile < 1) :
    anchor_compliance_confidence percentile n m = (tail ℝ (n + 1) m).eval percentile := by
  have summed : anchor_compliance_confidence percentile n m =
      ∑ successes ∈ range (m + 1), Real.exp (log_term percentile n successes) := by
    rw [anchor_compliance_confidence, exp_shifted, List.map_map]
    rfl
  rw [summed, eval_tail]
  refine sum_congr rfl fun successes inside => exp_log_term ?_ positive below
  have few := mem_range.mp inside
  omega

/-! ### The exact tail -/

theorem posterior_eq_tail (possible : m ≤ n) : posterior n m percentile = (tail ℝ (n + 1) m).eval percentile := by
  have flipped := congrArg (Polynomial.eval (1 - percentile)) (tail_flip ℝ m (n - m))
  rw [show n - m + 1 + m = n + 1 by omega, Polynomial.eval_add, Polynomial.eval_comp, Polynomial.eval_sub,
    Polynomial.eval_one, Polynomial.eval_X, sub_sub_cancel] at flipped
  rw [posterior, beta_reg_whole, show n - m + m + 1 = n + 1 by omega]
  exact sub_eq_of_eq_add flipped.symm

/-- The confidence of `m` successes in `n` samples as a posterior tail. -/
structure ExactTail (n m : ℕ) (percentile : ℝ) : Prop where
  computed : compliance_confidence n m percentile = .ok (posterior n m percentile)
  complement : posterior n m percentile = 1 - beta_reg (m + 1) ((n - m : ℕ) + 1) percentile
  anchored : posterior n m percentile = anchor_compliance_confidence percentile n m
  summed : posterior n m percentile = ∑ successes ∈ range (m + 1),
    (n + 1).choose successes * percentile ^ successes * (1 - percentile) ^ (n + 1 - successes)
  positive : 0 < posterior n m percentile
  below_one : posterior n m percentile < 1
  increasing : ∀ more, m < more → more ≤ n → posterior n m percentile < posterior n more percentile
  decreasing : ∀ larger, percentile < larger → larger < 1 → posterior n m larger < posterior n m percentile
  all_successes : posterior n n percentile = 1 - percentile ^ (n + 1)
  more_samples : ∀ longer, n < longer → posterior n n percentile < posterior longer longer percentile

theorem posterior_all : posterior n n percentile = 1 - percentile ^ (n + 1) := by
  rw [posterior_eq_tail le_rfl, eval_tail_last]

theorem posterior_all_lt {longer : ℕ} (more : n < longer) (positive : 0 < percentile) (below : percentile < 1) :
    posterior n n percentile < posterior longer longer percentile := by
  rw [posterior_all, posterior_all]
  exact sub_lt_sub_left (pow_lt_pow_right_of_lt_one₀ positive below (by omega)) 1

theorem confidence_exact (n m : ℕ) (percentile : ℝ) (possible : m ≤ n) (positive : 0 < percentile)
    (below : percentile < 1) : ExactTail n m percentile where
  computed := if_neg (by simp [not_lt.mpr possible, not_le.mpr positive, not_le.mpr below])
  complement := by
    rw [posterior_eq_tail possible, beta_reg_whole, show m + (n - m) + 1 = n + 1 by omega, sub_sub_cancel]
  anchored := (posterior_eq_tail possible).trans (anchor_eq_tail possible positive below).symm
  summed := (posterior_eq_tail possible).trans (eval_tail ℝ (n + 1) m percentile)
  positive := by
    rw [posterior_eq_tail possible]
    exact eval_tail_pos (by omega) positive below
  below_one := by
    rw [posterior_eq_tail possible]
    exact eval_tail_lt_one (by omega) positive below
  increasing := by
    intro more less within
    rw [posterior_eq_tail possible, posterior_eq_tail within]
    exact eval_tail_lt less (by omega) positive below
  decreasing := by
    intro larger less bounded
    rw [posterior_eq_tail possible, posterior_eq_tail possible]
    exact eval_tail_anti possible positive less bounded
  all_successes := posterior_all
  more_samples := fun longer more => posterior_all_lt more positive below

theorem nineteen_of_twenty_exact : ExactTail 20 19 (9 / 10) :=
  confidence_exact 20 19 (9 / 10) (by norm_num) (by norm_num) (by norm_num)

/-! ### The split minimum -/

/-- The formula of `config::split_minimum` over the reals. The cast to `u64` is the ceiling: it is never negative, and
    `split_minimum_fits` says that no pair of floats takes it out of range. -/
noncomputable def split_minimum (confidence percentile : ℝ) : ℕ :=
  let exact := Real.log (1 - confidence) / Real.log percentile
  ⌈exact⌉.toNat - 1

/-- The size inverts the confidence of a split without failures. -/
theorem split_minimum_le_iff {confidence percentile : ℝ} (reachable : confidence < 1) (positive : 0 < percentile)
    (below : percentile < 1) (n : ℕ) :
    split_minimum confidence percentile ≤ n ↔ confidence ≤ 1 - percentile ^ (n + 1) := by
  have rest : 0 < 1 - confidence := sub_pos.mpr reachable
  have falling : Real.log percentile < 0 := Real.log_neg positive below
  calc split_minimum confidence percentile ≤ n
      ↔ ⌈Real.log (1 - confidence) / Real.log percentile⌉ ≤ (n + 1 : ℕ) := by
        unfold split_minimum
        dsimp only
        omega
    _ ↔ Real.log (1 - confidence) / Real.log percentile ≤ (n + 1 : ℕ) := by rw [Int.ceil_le, Int.cast_natCast]
    _ ↔ (n + 1 : ℕ) * Real.log percentile ≤ Real.log (1 - confidence) := div_le_iff_of_neg falling
    _ ↔ percentile ^ (n + 1) ≤ 1 - confidence := by
        rw [← Real.log_pow, Real.log_le_log_iff (pow_pos positive _) rest]
    _ ↔ confidence ≤ 1 - percentile ^ (n + 1) := by rw [le_sub_comm]

/-- The least split size that could reach a confidence, and the sizes that fall short of it. -/
structure LeastSplit (confidence percentile : ℝ) : Prop where
  least : IsLeast { n | confidence ≤ 1 - percentile ^ (n + 1) } (split_minimum confidence percentile)
  short : ∀ n, posterior n n percentile < confidence ↔ n < split_minimum confidence percentile

theorem least_split {confidence percentile : ℝ} (reachable : confidence < 1) (positive : 0 < percentile)
    (below : percentile < 1) : LeastSplit confidence percentile := by
  have inverts := split_minimum_le_iff reachable positive below
  refine ⟨⟨(inverts _).mp le_rfl, fun n reaches => (inverts n).mpr reaches⟩, fun n => ?_⟩
  rw [posterior_all, ← not_le, ← not_le, inverts]

end VectorSeam.Posterior
