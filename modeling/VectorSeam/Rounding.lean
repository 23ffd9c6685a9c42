import VectorSeam.Binary64

/-!
Rounding of binary64 values as exact rational arithmetic. The logical model of floats
keeps a mantissa with two residual bits; here that is the value it stands for, and
rounding a nonnegative value is one monotone function of it, exact on powers of two.
Sums of this are that fractions of naturals, and what they leave of one, lie between
zero and one.
-/

namespace VectorSeam.Rounding
open Float.Model Float.Model.UnpackedFloat

/-! ### Nearest naturals -/

/-- The natural number nearest to a nonnegative rational, the even one of two. -/
def nearest (x : ℚ) : ℕ :=
  if x - ⌊x⌋₊ < 1 / 2 then ⌊x⌋₊ else if x - ⌊x⌋₊ = 1 / 2 then ⌊x⌋₊ + ⌊x⌋₊ % 2 else ⌊x⌋₊ + 1

theorem nearest_natCast (n : ℕ) : nearest n = n := by
  rw [nearest, Nat.floor_natCast, if_pos (by norm_num)]

theorem nearest_bounds (x : ℚ) : ⌊x⌋₊ ≤ nearest x ∧ nearest x ≤ ⌊x⌋₊ + 1 := by
  unfold nearest
  split
  · omega
  · split
    · omega
    · omega

theorem nearest_mono {x y : ℚ} (le : x ≤ y) : nearest x ≤ nearest y := by
  have floors : ⌊x⌋₊ ≤ ⌊y⌋₊ := Nat.floor_mono le
  obtain ⟨_, above⟩ := nearest_bounds x
  obtain ⟨below, _⟩ := nearest_bounds y
  by_cases same : ⌊x⌋₊ = ⌊y⌋₊
  · rw [nearest, nearest, same]
    by_cases smallY : y - ⌊y⌋₊ < 1 / 2
    · rw [if_pos smallY, if_pos (by linarith)]
    rw [if_neg smallY]
    by_cases halfY : y - ⌊y⌋₊ = 1 / 2
    · rw [if_pos halfY]
      by_cases smallX : x - ⌊y⌋₊ < 1 / 2
      · rw [if_pos smallX]
        omega
      · rw [if_neg smallX, if_pos (by linarith)]
    · rw [if_neg halfY]
      by_cases smallX : x - ⌊y⌋₊ < 1 / 2
      · rw [if_pos smallX]
        omega
      rw [if_neg smallX]
      by_cases halfX : x - ⌊y⌋₊ = 1 / 2
      · rw [if_pos halfX]
        omega
      · rw [if_neg halfX]
  · omega

/-! ### Mantissas with residual bits -/

/-- The precise mantissa that an approximate one and its accuracy stand for. -/
def Located (mantissa : ℕ) (precise : ℚ) : Accuracy → Prop
  | .exact => precise = mantissa
  | .inexact .lt => (mantissa : ℚ) < precise ∧ precise < mantissa + 1 / 2
  | .inexact .eq => precise = mantissa + 1 / 2
  | .inexact .gt => (mantissa : ℚ) + 1 / 2 < precise ∧ precise < mantissa + 1

theorem Located.bounds {mantissa : ℕ} {precise : ℚ} {accuracy : Accuracy} (located : Located mantissa precise accuracy) :
    (mantissa : ℚ) ≤ precise ∧ precise < mantissa + 1 := by
  cases accuracy with
  | exact =>
    change precise = _ at located
    constructor <;> linarith
  | inexact half =>
    cases half with
    | lt =>
      obtain ⟨below, above⟩ := located
      constructor <;> linarith
    | eq =>
      change precise = _ at located
      constructor <;> linarith
    | gt =>
      obtain ⟨below, above⟩ := located
      constructor <;> linarith

theorem Located.floor {mantissa : ℕ} {precise : ℚ} {accuracy : Accuracy} (located : Located mantissa precise accuracy) :
    ⌊precise⌋₊ = mantissa := by
  obtain ⟨below, above⟩ := located.bounds
  exact (Nat.floor_eq_iff ((Nat.cast_nonneg _).trans below)).mpr ⟨below, above⟩

/-- Rounding the mantissa is going to the nearest one. -/
theorem Located.nearest {mantissa : ℕ} {precise : ℚ} {accuracy : Accuracy} (located : Located mantissa precise accuracy) :
    accuracy.roundToNearestEven mantissa = nearest precise := by
  have floor := located.floor
  unfold Rounding.nearest
  rw [floor]
  cases accuracy with
  | exact =>
    change precise = _ at located
    rw [if_pos (by rw [located]; norm_num)]
    rfl
  | inexact half =>
    cases half with
    | lt =>
      rw [if_pos (by linarith [located.2])]
      rfl
    | eq =>
      change precise = _ at located
      rw [if_neg (by rw [located]; norm_num), if_pos (by rw [located]; ring)]
      rfl
    | gt =>
      have large := located.1
      rw [if_neg (by linarith), if_neg (fun same => by linarith)]
      rfl

/-- Dropping the last bit of the mantissa halves what it stands for. -/
theorem located_shift_one {em : ExtendedMantissa} {precise : ℚ} (located : Located em.mantissa precise em.accuracy) :
    Located em.shiftRightOne.mantissa (precise / 2) em.shiftRightOne.accuracy := by
  obtain ⟨mantissa, round, sticky⟩ := em
  obtain ⟨half, even | odd⟩ : ∃ half, mantissa = 2 * half ∨ mantissa = 2 * half + 1 := ⟨mantissa / 2, by omega⟩
  · subst even
    have quotient : 2 * half / 2 = half := by omega
    have bit : (2 * half % 2 != 0) = false := by simp
    simp only [ExtendedMantissa.shiftRightOne, quotient, bit]
    obtain ⟨below, above⟩ := located.bounds
    push_cast at below above
    cases round <;> cases sticky
    · change precise = _ at located
      push_cast at located
      change precise / 2 = half
      linarith
    all_goals
      change (half : ℚ) < precise / 2 ∧ precise / 2 < half + 1 / 2
      refine ⟨?_, by linarith⟩
    · have strict := located.1
      push_cast at strict
      linarith
    · change precise = _ at located
      push_cast at located
      linarith
    · have strict := located.1
      push_cast at strict
      linarith
  · subst odd
    have quotient : (2 * half + 1) / 2 = half := by omega
    have bit : ((2 * half + 1) % 2 != 0) = true := by simp
    simp only [ExtendedMantissa.shiftRightOne, quotient, bit]
    obtain ⟨below, above⟩ := located.bounds
    push_cast at below above
    cases round <;> cases sticky
    · change precise = _ at located
      push_cast at located
      change precise / 2 = half + 1 / 2
      linarith
    all_goals
      change (half : ℚ) + 1 / 2 < precise / 2 ∧ precise / 2 < half + 1
      refine ⟨?_, by linarith⟩
    · have strict := located.1
      push_cast at strict
      linarith
    · change precise = _ at located
      push_cast at located
      linarith
    · have strict := located.1
      push_cast at strict
      linarith

theorem located_shift {em : ExtendedMantissa} {precise : ℚ} (located : Located em.mantissa precise em.accuracy) (count : ℕ) :
    Located (em >>> count).mantissa (precise / 2 ^ count) (em >>> count).accuracy := by
  induction count with
  | zero =>
    change Located em.mantissa (precise / 2 ^ 0) em.accuracy
    rwa [pow_zero, div_one]
  | succ count ih =>
    change Located (em >>> count).shiftRightOne.mantissa _ (em >>> count).shiftRightOne.accuracy
    rw [pow_succ, ← div_div]
    exact located_shift_one ih

theorem accuracy_of_mantissa (mantissa : ℕ) (accuracy : Accuracy) :
    (ExtendedMantissa.ofMantissaAndAccuracy mantissa accuracy).mantissa = mantissa ∧
      (ExtendedMantissa.ofMantissaAndAccuracy mantissa accuracy).accuracy = accuracy := by
  cases accuracy with
  | exact => exact ⟨rfl, rfl⟩
  | inexact half => cases half <;> exact ⟨rfl, rfl⟩

/-! ### Rounding a value -/

/-- The exponent that binary64 gives a positive value. -/
def grade (x : ℚ) : ℤ := max (Int.log 2 x - 52) (-1074)
/-- A nonnegative value rounded to binary64, as if its exponents had no upper bound. -/
def rounded (x : ℚ) : ℚ := nearest (x / 2 ^ grade x) * 2 ^ grade x

theorem target_exponent (total : ℤ) : Format.binary64.targetExponent total = max (total - 53) (-1074) := by
  simp [Format.targetExponent, Format.mantissaBits, Format.minExponent]

theorem two_zpow_pos (k : ℤ) : (0 : ℚ) < 2 ^ k := zpow_pos (by norm_num) k

private theorem two_pow_mul (count : ℕ) (k : ℤ) : ((2 ^ count : ℕ) : ℚ) * 2 ^ k = 2 ^ (k + count) := by
  rw [Nat.cast_pow, Nat.cast_ofNat, ← zpow_natCast, ← zpow_add₀ (by norm_num), add_comm]

@[simp] theorem rounded_zero : rounded 0 = 0 := by
  rw [rounded, zero_div]
  norm_num [nearest]

theorem rounded_nonneg (x : ℚ) : 0 ≤ rounded x := mul_nonneg (Nat.cast_nonneg _) (two_zpow_pos _).le

/-- Values that are whole at their own grade are not changed. -/
theorem rounded_of_whole {x : ℚ} {n : ℕ} (whole : x = n * 2 ^ grade x) : rounded x = x := by
  have quotient : x / 2 ^ grade x = n := by
    rw [div_eq_iff (two_zpow_pos _).ne', ← whole]
  rw [rounded, quotient, nearest_natCast, ← whole]

theorem log_two_zpow (k : ℤ) : Int.log 2 ((2 : ℚ) ^ k) = k := by
  have base : ((2 : ℕ) : ℚ) ^ k = 2 ^ k := by norm_num
  rw [← base]
  exact Int.log_zpow (by norm_num) k

theorem rounded_two_zpow {k : ℤ} (large : -1074 ≤ k) : rounded (2 ^ k) = 2 ^ k := by
  have exponent : grade (2 ^ k) ≤ k := by
    rw [grade, log_two_zpow]
    omega
  obtain ⟨count, same⟩ := Int.eq_ofNat_of_zero_le (sub_nonneg.mpr exponent)
  have whole : (2 : ℚ) ^ k = ((2 ^ count : ℕ) : ℚ) * 2 ^ grade (2 ^ k) := by
    rw [two_pow_mul, ← same, add_sub_cancel]
  exact rounded_of_whole whole

private theorem log_bounds {x : ℚ} (positive : 0 < x) : (2 : ℚ) ^ Int.log 2 x ≤ x ∧ x < 2 ^ (Int.log 2 x + 1) := by
  have below := Int.zpow_log_le_self (b := 2) (by norm_num) positive
  have above := Int.lt_zpow_succ_log_self (b := 2) (by norm_num) x
  push_cast at below above
  exact ⟨below, above⟩

/-- Rounding keeps the order. -/
theorem rounded_mono {x y : ℚ} (positive : 0 < x) (le : x ≤ y) : rounded x ≤ rounded y := by
  have logs : Int.log 2 x ≤ Int.log 2 y := Int.log_mono_right positive le
  have grades : grade x ≤ grade y := max_le_max (by omega) le_rfl
  by_cases same : grade x = grade y
  · rw [rounded, rounded, same]
    have quotients : x / 2 ^ grade y ≤ y / 2 ^ grade y := div_le_div_of_nonneg_right le (two_zpow_pos _).le
    exact mul_le_mul_of_nonneg_right (by exact_mod_cast nearest_mono quotients) (two_zpow_pos _).le
  · -- A power of two lies between the two values, and both roundings stay on their side of it.
    obtain ⟨_, aboveX⟩ := log_bounds positive
    obtain ⟨belowY, _⟩ := log_bounds (positive.trans_le le)
    have gap : grade x < grade y := lt_of_le_of_ne grades same
    have logGap : Int.log 2 x < Int.log 2 y := by
      unfold grade at gap
      omega
    have gradeY : grade y = Int.log 2 y - 52 := by
      unfold grade at gap ⊢
      omega
    have logY : -1022 < Int.log 2 y := by
      unfold grade at gap
      omega
    obtain ⟨middle, middleSame⟩ : ∃ middle, middle = max (Int.log 2 x + 1) (-1074) := ⟨_, rfl⟩
    have gradeX : grade x ≤ middle := by
      unfold grade
      omega
    have aboveMiddle : x ≤ 2 ^ middle := aboveX.le.trans (zpow_le_zpow_right₀ (by norm_num) (by omega))
    calc rounded x ≤ 2 ^ middle := by
          obtain ⟨count, whole⟩ := Int.eq_ofNat_of_zero_le (sub_nonneg.mpr gradeX)
          have power : ((2 ^ count : ℕ) : ℚ) * 2 ^ grade x = 2 ^ middle := by
            rw [two_pow_mul, ← whole, add_sub_cancel]
          have bound : x / 2 ^ grade x ≤ ((2 ^ count : ℕ) : ℚ) := by
            rw [div_le_iff₀ (two_zpow_pos _), power]
            exact aboveMiddle
          have nearestBound := nearest_mono bound
          rw [nearest_natCast] at nearestBound
          rw [← power]
          exact mul_le_mul_of_nonneg_right (by exact_mod_cast nearestBound) (two_zpow_pos _).le
      _ ≤ 2 ^ Int.log 2 y := zpow_le_zpow_right₀ (by norm_num) (by omega)
      _ ≤ rounded y := by
          have power : ((2 ^ 52 : ℕ) : ℚ) * 2 ^ grade y = 2 ^ Int.log 2 y := by
            rw [two_pow_mul, gradeY]
            congr 1
            omega
          have bound : ((2 ^ 52 : ℕ) : ℚ) ≤ y / 2 ^ grade y := by
            rw [le_div_iff₀ (two_zpow_pos _), power]
            exact belowY
          have nearestBound := nearest_mono bound
          rw [nearest_natCast] at nearestBound
          rw [← power]
          exact mul_le_mul_of_nonneg_right (by exact_mod_cast nearestBound) (two_zpow_pos _).le

/-! ### Rounding a mantissa -/

/-- The exponent is the one that binary64 gives the mantissa. -/
def Canonical (mantissa : ℕ) (exponent : ℤ) : Prop := exponent = max ((mantissa.log2 : ℤ) + exponent - 52) (-1074)

theorem log_unique {x : ℚ} {k : ℤ} (below : (2 : ℚ) ^ k ≤ x) (above : x < 2 ^ (k + 1)) : Int.log 2 x = k := by
  have positive : 0 < x := (two_zpow_pos k).trans_le below
  have least : k ≤ Int.log 2 x := (Int.zpow_le_iff_le_log (b := 2) (by norm_num) positive).mp (by exact_mod_cast below)
  have most : Int.log 2 x < k + 1 := (Int.lt_zpow_iff_log_lt (b := 2) (by norm_num) positive).mp (by exact_mod_cast above)
  omega

theorem log_located {mantissa : ℕ} {exponent : ℤ} {precise : ℚ} {accuracy : Accuracy}
    (positive : 0 < mantissa) (located : Located mantissa precise accuracy) :
    Int.log 2 (precise * 2 ^ exponent) = mantissa.log2 + exponent := by
  obtain ⟨below, above⟩ := located.bounds
  have least : ((2 ^ mantissa.log2 : ℕ) : ℚ) ≤ mantissa := by exact_mod_cast Nat.log2_self_le positive.ne'
  have most : (mantissa : ℚ) + 1 ≤ ((2 ^ (mantissa.log2 + 1) : ℕ) : ℚ) := by
    exact_mod_cast Nat.lt_log2_self (n := mantissa)
  push_cast at least most
  refine log_unique ?_ ?_
  · rw [zpow_add₀ (by norm_num), zpow_natCast]
    exact mul_le_mul_of_nonneg_right (least.trans below) (two_zpow_pos exponent).le
  · rw [show (mantissa.log2 : ℤ) + exponent + 1 = ((mantissa.log2 + 1 : ℕ) : ℤ) + exponent by push_cast; ring,
      zpow_add₀ (by norm_num), zpow_natCast]
    exact mul_lt_mul_of_pos_right (above.trans_le most) (two_zpow_pos exponent)

theorem shift_to_target {mantissa : ℕ} {exponent target : ℤ} {precise : ℚ} {accuracy : Accuracy}
    (located : Located mantissa precise accuracy) (fits : exponent ≤ target)
    (same : target = max ((mantissa.log2 : ℤ) + exponent - 52) (-1074)) :
    ∃ em, shiftToTargetExponent Format.binary64 mantissa exponent accuracy = (em, target) ∧
      Located em.mantissa (precise * 2 ^ exponent / 2 ^ target) em.accuracy := by
  obtain ⟨count, gap⟩ := Int.eq_ofNat_of_zero_le (sub_nonneg.mpr fits)
  have amount : (Format.binary64.targetExponent (totalExponent mantissa exponent) - exponent).toNat = count := by
    rw [target_exponent, totalExponent]
    omega
  refine ⟨ExtendedMantissa.ofMantissaAndAccuracy mantissa accuracy >>> count, ?_, ?_⟩
  · unfold shiftToTargetExponent shiftToExponent
    simp only [amount]
    congr 1
    omega
  · obtain ⟨first, second⟩ := accuracy_of_mantissa mantissa accuracy
    have begun : Located (ExtendedMantissa.ofMantissaAndAccuracy mantissa accuracy).mantissa precise
        (ExtendedMantissa.ofMantissaAndAccuracy mantissa accuracy).accuracy := by
      rw [first, second]
      exact located
    have shifted := located_shift begun count
    have quotient : precise * 2 ^ exponent / 2 ^ target = precise / 2 ^ count := by
      rw [show target = exponent + count by omega, zpow_add₀ (by norm_num), zpow_natCast, ← div_div,
        mul_div_cancel_right₀ _ (two_zpow_pos exponent).ne']
    rw [quotient]
    exact shifted

/-- Nothing is shifted when the exponent is large enough. -/
theorem shift_to_target_none {mantissa : ℕ} {exponent : ℤ} (enough : max ((mantissa.log2 : ℤ) + exponent - 52) (-1074) ≤ exponent) :
    shiftToTargetExponent Format.binary64 mantissa exponent .exact = (⟨mantissa, false, false⟩, exponent) := by
  have amount : (Format.binary64.targetExponent (totalExponent mantissa exponent) - exponent).toNat = 0 := by
    rw [target_exponent, totalExponent]
    omega
  unfold shiftToTargetExponent shiftToExponent
  simp only [amount]
  simp [ExtendedMantissa.ofMantissaAndAccuracy, HShiftRight.hShiftRight, Nat.repeat]

/-- The mantissa that rounding has carried up to a new bit is shifted once. -/
theorem shift_to_target_carry {exponent : ℤ} (least : -1074 ≤ exponent) :
    shiftToTargetExponent Format.binary64 (2 ^ 53) exponent .exact = (⟨2 ^ 52, false, false⟩, exponent + 1) := by
  have amount : (Format.binary64.targetExponent (totalExponent (2 ^ 53) exponent) - exponent).toNat = 1 := by
    rw [target_exponent, totalExponent, Nat.log2_two_pow]
    omega
  unfold shiftToTargetExponent shiftToExponent
  simp only [amount]
  rfl

/-- Rounding gives the rounded value, as zero or in canonical form. -/
theorem roundWithAccuracy_value (sign : Sign) {mantissa : ℕ} {exponent : ℤ} {precise : ℚ} {accuracy : Accuracy}
    (positive : 0 < mantissa) (located : Located mantissa precise accuracy)
    (fits : exponent ≤ grade (precise * 2 ^ exponent)) :
    (rounded (precise * 2 ^ exponent) = 0 ∧
      roundWithAccuracy Format.binary64 sign mantissa exponent accuracy = .zero sign) ∨
    ∃ m e h, roundWithAccuracy Format.binary64 sign mantissa exponent accuracy = .finite sign m e h ∧ Canonical m e ∧
      rounded (precise * 2 ^ exponent) = m * 2 ^ e := by
  obtain ⟨target, targetSame⟩ : ∃ target, target = grade (precise * 2 ^ exponent) := ⟨_, rfl⟩
  obtain ⟨value, valueSame⟩ : ∃ value, value = precise * 2 ^ exponent := ⟨_, rfl⟩
  have log : Int.log 2 value = mantissa.log2 + exponent := valueSame ▸ log_located positive located
  have targetLog : target = max ((mantissa.log2 : ℤ) + exponent - 52) (-1074) := by
    rw [targetSame, grade, ← valueSame, log]
  rw [← targetSame] at fits
  obtain ⟨em, first, here⟩ := shift_to_target located fits targetLog
  have mantissaSame : em.roundedMantissa = nearest (value / 2 ^ target) := by
    rw [valueSame]
    exact here.nearest
  have roundedSame : rounded value = em.roundedMantissa * 2 ^ target := by
    rw [rounded, ← show target = grade value by rw [targetSame, valueSame], mantissaSame]
  have valuePositive : 0 < value := by
    have large : (0 : ℚ) < precise := lt_of_lt_of_le (by exact_mod_cast positive) located.bounds.1
    rw [valueSame]
    exact mul_pos large (two_zpow_pos exponent)
  have least : (2 : ℚ) ^ Int.log 2 value ≤ value := by
    exact_mod_cast Int.zpow_log_le_self (b := 2) (by norm_num) valuePositive
  have most : value < (2 : ℚ) ^ (Int.log 2 value + 1) := by
    exact_mod_cast Int.lt_zpow_succ_log_self (b := 2) (by norm_num) value
  have small : em.roundedMantissa ≤ 2 ^ 53 := by
    have bound : value / 2 ^ target ≤ ((2 ^ 53 : ℕ) : ℚ) := by
      rw [div_le_iff₀ (two_zpow_pos _)]
      refine most.le.trans ?_
      rw [Nat.cast_pow, Nat.cast_ofNat, ← zpow_natCast, ← zpow_add₀ (by norm_num)]
      exact zpow_le_zpow_right₀ (by norm_num) (by push_cast; omega)
    rw [mantissaSame, ← nearest_natCast (2 ^ 53)]
    exact nearest_mono bound
  have normal : -1074 < target → 2 ^ 52 ≤ em.roundedMantissa := by
    intro above
    have bound : ((2 ^ 52 : ℕ) : ℚ) ≤ value / 2 ^ target := by
      rw [le_div_iff₀ (two_zpow_pos _)]
      refine le_trans ?_ least
      rw [Nat.cast_pow, Nat.cast_ofNat, ← zpow_natCast, ← zpow_add₀ (by norm_num)]
      exact zpow_le_zpow_right₀ (by norm_num) (by push_cast; omega)
    rw [mantissaSame, ← nearest_natCast (2 ^ 52)]
    exact nearest_mono bound
  have floorLow : -1074 ≤ target := by omega
  rw [← valueSame, roundedSame]
  have unfolded : ∀ last e, shiftToTargetExponent Format.binary64 em.roundedMantissa target .exact = (last, e) →
      roundWithAccuracy Format.binary64 sign mantissa exponent accuracy =
        if h : last.mantissa = 0 then .zero sign else .finite sign last.mantissa e (Nat.pos_of_ne_zero h) := by
    intro last e second
    unfold roundWithAccuracy
    simp only [first, second]
  by_cases zero : em.roundedMantissa = 0
  · refine .inl ⟨by simp [zero], ?_⟩
    rw [unfolded _ _ (shift_to_target_none (by rw [zero, Nat.log2_zero]; omega)), dif_pos zero]
  by_cases full : em.roundedMantissa = 2 ^ 53
  · refine .inr ⟨2 ^ 52, target + 1, by positivity, ?_, ?_, ?_⟩
    · have carried : shiftToTargetExponent Format.binary64 em.roundedMantissa target .exact =
          (⟨2 ^ 52, false, false⟩, target + 1) := by
        rw [full]
        exact shift_to_target_carry floorLow
      rw [unfolded _ _ carried]
      exact dif_neg (by norm_num)
    · rw [Canonical, Nat.log2_two_pow]
      omega
    · rw [full, zpow_add₀ (by norm_num)]
      norm_num
      ring
  · have bits : em.roundedMantissa.log2 ≤ 52 := by
      have := (Nat.log2_lt zero).mpr (show em.roundedMantissa < 2 ^ 53 by omega)
      omega
    refine .inr ⟨em.roundedMantissa, target, Nat.pos_of_ne_zero zero, ?_, ?_, rfl⟩
    · rw [unfolded _ _ (shift_to_target_none (by omega)), dif_neg zero]
    · unfold Canonical
      by_cases above : -1074 < target
      · have := (Nat.le_log2 zero).mpr (normal above)
        omega
      · omega

/-! ### Packed values -/

theorem Canonical.bits {mantissa : ℕ} {exponent : ℤ} (canonical : Canonical mantissa exponent) : mantissa.log2 ≤ 52 := by
  unfold Canonical at canonical
  omega

theorem unpackSign_packComponents {spec : Format} {sign : Sign} {exponent : BitVec spec.exponentBits}
    {mantissa : BitVec spec.mantissaBitsWithoutImplicit} :
    unpackSign (packComponents spec sign exponent mantissa) = sign.toBitVec := by
  ext i hi
  have zero : i = 0 := by omega
  subst zero
  simp [unpackSign, packComponents, BitVec.getLsbD_append, BitVec.getElem_append]

theorem ofBitVec_toBitVec (sign : Sign) : Sign.ofBitVec sign.toBitVec = sign := by
  cases sign <;> rfl

/-- A canonical value below the largest exponent is unpacked as it was packed. -/
theorem unpack_pack_finite {sign : Sign} {mantissa : ℕ} {exponent : ℤ} {positive : 0 < mantissa}
    (canonical : Canonical mantissa exponent) (bounded : exponent ≤ 971) :
    (Float.Model.pack (.finite sign mantissa exponent positive)).unpack = .finite sign mantissa exponent positive := by
  have bits := canonical.bits
  unfold Canonical at canonical
  have small : mantissa < 2 ^ 53 := (Nat.log2_lt positive.ne').mp (by omega)
  have biased : (exponent + Format.binary64.exponentBias + Format.binary64.mantissaBitsWithoutImplicit).toNat =
      (exponent + 1075).toNat := by
    simp [Format.exponentBias]
    omega
  unfold Float.Model.unpack Float.Model.pack
  simp only [UnpackedFloat.pack, biased]
  rw [if_neg (by simp; omega)]
  by_cases full : mantissa.log2 = 52
  · rw [if_pos (by rw [full]; rfl)]
    have low : 2 ^ 52 ≤ mantissa := full ▸ Nat.log2_self_le positive.ne'
    have field : (BitVec.ofNat 11 (exponent + 1075).toNat).toNat = (exponent + 1075).toNat := by
      rw [BitVec.toNat_ofNat]
      omega
    have notAll : BitVec.ofNat 11 (exponent + 1075).toNat ≠ -1#11 := by
      intro same
      have numbers := congrArg BitVec.toNat same
      rw [field] at numbers
      change _ = 2047 at numbers
      omega
    have notNone : BitVec.ofNat 11 (exponent + 1075).toNat ≠ 0#11 := by
      intro same
      have numbers := congrArg BitVec.toNat same
      rw [field] at numbers
      change _ = 0 at numbers
      omega
    change UnpackedFloat.unpack Format.binary64 (packComponents Format.binary64 sign _ _) = _
    unfold UnpackedFloat.unpack
    simp only [unpackExponent_packComponents, unpackMantissa_packComponents, unpackSign_packComponents, ofBitVec_toBitVec]
    rw [if_neg notAll, if_neg notNone]
    have digits : (1#1 ++ BitVec.ofNat 52 mantissa).toNat = mantissa := by
      rw [Binary64.toNat_one_append, BitVec.toNat_ofNat]
      omega
    simp only [digits, field]
    congr 1
    simp [Format.exponentBias]
    omega
  · rw [if_neg (by simp [Format.mantissaBits]; omega)]
    have below : mantissa < 2 ^ 52 := (Nat.log2_lt positive.ne').mp (by omega)
    have least : exponent = -1074 := by omega
    subst least
    have digits : (BitVec.ofNat 52 mantissa).toNat = mantissa := by
      rw [BitVec.toNat_ofNat]
      omega
    have notNone : BitVec.ofNat 52 mantissa ≠ 0#52 := by
      intro same
      have numbers := congrArg BitVec.toNat same
      rw [digits] at numbers
      change _ = 0 at numbers
      omega
    change UnpackedFloat.unpack Format.binary64 (packComponents Format.binary64 sign _ _) = _
    unfold UnpackedFloat.unpack
    simp only [unpackExponent_packComponents, unpackMantissa_packComponents, unpackSign_packComponents, ofBitVec_toBitVec]
    rw [if_neg (by decide), if_pos trivial, dif_neg notNone]
    simp only [digits]
    congr 1

/-! ### Nonnegative floats -/

/-- The float is the nonnegative rational, exactly. -/
def Represents (a : Float) (x : ℚ) : Prop :=
  (x = 0 ∧ ∃ sign, a.toModel.unpack = .zero sign) ∨
    ∃ m e h, a.toModel.unpack = .finite .positive m e h ∧ Canonical m e ∧ x = m * 2 ^ e

theorem Represents.nonneg {a : Float} {x : ℚ} (represents : Represents a x) : 0 ≤ x := by
  rcases represents with ⟨rfl, _⟩ | ⟨m, e, h, _, _, rfl⟩
  · exact le_rfl
  · exact mul_nonneg (Nat.cast_nonneg _) (two_zpow_pos e).le

theorem Canonical.grade {m : ℕ} {e : ℤ} (canonical : Canonical m e) (positive : 0 < m) : grade (m * 2 ^ e) = e := by
  have log : Int.log 2 ((m : ℚ) * 2 ^ e) = m.log2 + e :=
    log_located positive (show Located m (m : ℚ) .exact from rfl)
  rw [Rounding.grade, log, ← canonical]

/-- A float is its own rounded value. -/
theorem Represents.rounded {a : Float} {x : ℚ} (represents : Represents a x) : rounded x = x := by
  rcases represents with ⟨rfl, _⟩ | ⟨m, e, h, _, canonical, rfl⟩
  · exact rounded_zero
  · have whole : (m : ℚ) * 2 ^ e = (m : ℚ) * 2 ^ Rounding.grade (m * 2 ^ e) := by rw [canonical.grade h]
    exact rounded_of_whole whole

theorem canonical_lt {m n : ℕ} {e f : ℤ} (left : Canonical m e) (right : Canonical n f) (positive : 0 < m)
    (positive' : 0 < n) (less : e < f) : (m : ℚ) * 2 ^ e < n * 2 ^ f := by
  have small : m < 2 ^ 53 := (Nat.log2_lt positive.ne').mp (by have := left.bits; omega)
  have large : 2 ^ 52 ≤ n := by
    refine (Nat.le_log2 positive'.ne').mp ?_
    unfold Canonical at left right
    omega
  calc (m : ℚ) * 2 ^ e < (2 ^ 53 : ℕ) * 2 ^ e := mul_lt_mul_of_pos_right (by exact_mod_cast small) (two_zpow_pos e)
    _ = (2 ^ 52 : ℕ) * 2 ^ (e + 1) := by
        rw [zpow_add₀ (by norm_num)]
        push_cast
        ring
    _ ≤ (2 ^ 52 : ℕ) * 2 ^ f :=
        mul_le_mul_of_nonneg_left (zpow_le_zpow_right₀ (by norm_num) (by omega)) (Nat.cast_nonneg _)
    _ ≤ n * 2 ^ f := mul_le_mul_of_nonneg_right (by exact_mod_cast large) (two_zpow_pos f).le

/-- Floats compare as the values they are. -/
theorem Represents.le_iff {a b : Float} {x y : ℚ} (left : Represents a x) (right : Represents b y) : a ≤ b ↔ x ≤ y := by
  rw [Binary64.le_iff]
  unfold Binary64.ordering
  rcases left with ⟨rfl, sign, same⟩ | ⟨m, e, h, same, canonical, rfl⟩ <;>
    rcases right with ⟨rfl, sign', same'⟩ | ⟨n, f, h', same', canonical', rfl⟩ <;>
    rw [same, same']
  · simp [UnpackedFloat.compare]
  · have positive : (0 : ℚ) < n * 2 ^ f := mul_pos (by exact_mod_cast h') (two_zpow_pos f)
    simp [UnpackedFloat.compare, positive.le]
  · have positive : (0 : ℚ) < m * 2 ^ e := mul_pos (by exact_mod_cast h) (two_zpow_pos e)
    simp [UnpackedFloat.compare, positive]
  · rcases lt_trichotomy e f with less | rfl | more
    · simp [UnpackedFloat.compare, Int.compare_eq_lt.mpr less, (canonical_lt canonical canonical' h h' less).le]
    · have power := two_zpow_pos e
      have order : (m : ℚ) * 2 ^ e ≤ n * 2 ^ e ↔ m ≤ n := by
        rw [mul_le_mul_iff_left₀ power]
        exact Nat.cast_le
      rw [order]
      rcases lt_trichotomy m n with less | rfl | more
      · simp [UnpackedFloat.compare, Nat.compare_eq_lt.mpr less, less.le]
      · simp [UnpackedFloat.compare]
      · simp [UnpackedFloat.compare, Nat.compare_eq_gt.mpr more, more]
    · have greater := canonical_lt canonical' canonical h' h more
      simp [UnpackedFloat.compare, Int.compare_eq_gt.mpr more, greater]

/-- The largest value considered here; far below the largest float. -/
def BOUND : ℚ := 2 ^ (900 : ℤ)

/-- A larger exponent would put the value above the bound. -/
theorem moderate_exponent {m : ℕ} {e : ℤ} (positive : 0 < m) (moderate : (m : ℚ) * 2 ^ e ≤ BOUND) : e ≤ 971 := by
  by_contra above
  have power : (2 : ℚ) ^ (900 : ℤ) < 2 ^ e := zpow_lt_zpow_right₀ (by norm_num) (by omega)
  have one : (1 : ℚ) ≤ m := by exact_mod_cast positive
  have whole : (2 : ℚ) ^ e ≤ m * 2 ^ e := le_mul_of_one_le_left (two_zpow_pos e).le one
  rw [BOUND] at moderate
  linarith

/-- Packing a rounded value of moderate size represents it. -/
theorem represents_roundWithAccuracy {mantissa : ℕ} {exponent : ℤ} {precise : ℚ} {accuracy : Accuracy}
    (positive : 0 < mantissa) (located : Located mantissa precise accuracy)
    (fits : exponent ≤ grade (precise * 2 ^ exponent)) (moderate : precise * 2 ^ exponent ≤ BOUND) :
    Represents (.ofModel (.pack (roundWithAccuracy Format.binary64 .positive mantissa exponent accuracy)))
      (rounded (precise * 2 ^ exponent)) := by
  have large : (0 : ℚ) < precise := lt_of_lt_of_le (by exact_mod_cast positive) located.bounds.1
  have top : rounded (precise * 2 ^ exponent) ≤ BOUND := by
    have mono := rounded_mono (mul_pos large (two_zpow_pos exponent)) moderate
    rwa [BOUND, rounded_two_zpow (by norm_num)] at mono
  rcases roundWithAccuracy_value .positive positive located fits with
    ⟨zero, same⟩ | ⟨m, e, h, same, canonical, value⟩
  · exact .inl ⟨zero, .positive, by rw [same]; rfl⟩
  · refine .inr ⟨m, e, h, ?_, canonical, value⟩
    rw [same]
    exact unpack_pack_finite canonical (moderate_exponent h (value ▸ top))

theorem unpack_pack_zero (sign : Sign) : (Float.Model.pack (.zero sign)).unpack = .zero sign := by
  cases sign <;> rfl

theorem represents_zero : Represents (.ofModel (.pack (.zero .positive))) 0 := .inl ⟨rfl, .positive, unpack_pack_zero .positive⟩

/-- Rounding a whole mantissa, whatever its exponent. -/
theorem represents_round {mantissa : ℕ} {exponent : ℤ} (positive : 0 < mantissa)
    (moderate : (mantissa : ℚ) * 2 ^ exponent ≤ BOUND) :
    Represents (.ofModel (.pack (UnpackedFloat.round Format.binary64 .positive mantissa exponent)))
      (rounded (mantissa * 2 ^ exponent)) := by
  obtain ⟨count, countSame⟩ : ∃ count, count =
      (exponent - Format.binary64.targetExponent (totalExponent mantissa exponent)).toNat := ⟨_, rfl⟩
  have value : ((mantissa <<< count : ℕ) : ℚ) * 2 ^ (exponent - count) = mantissa * 2 ^ exponent := by
    rw [Nat.shiftLeft_eq, Nat.cast_mul, Nat.cast_pow, Nat.cast_ofNat, zpow_sub₀ (by norm_num), zpow_natCast]
    field_simp
  have log : Int.log 2 ((mantissa : ℚ) * 2 ^ exponent) = mantissa.log2 + exponent :=
    log_located positive (show Located mantissa (mantissa : ℚ) .exact from rfl)
  have fits : exponent - count ≤ grade (((mantissa <<< count : ℕ) : ℚ) * 2 ^ (exponent - count)) := by
    rw [value, grade, log, countSame, target_exponent, totalExponent]
    omega
  have shifted := represents_roundWithAccuracy (Nat.shiftLeft_pos_iff.mpr positive)
    (show Located (mantissa <<< count) _ .exact from rfl) fits (value ▸ moderate)
  rw [value] at shifted
  unfold UnpackedFloat.round decreaseExponent
  simp only [← countSame]
  exact shifted

theorem one_represented {one : Float} {h : 0 < 2 ^ 52} (same : one.toModel.unpack = .finite .positive (2 ^ 52) (-52) h) :
    Represents one 1 := by
  refine .inr ⟨2 ^ 52, -52, h, same, ?_, ?_⟩
  · rw [Canonical, Nat.log2_two_pow]
    norm_num
  · norm_num

/-- Multiplying by one changes nothing. -/
theorem represents_mul_one {a one : Float} {x : ℚ} {h : 0 < 2 ^ 52} (represents : Represents a x) (moderate : x ≤ BOUND)
    (same : one.toModel.unpack = .finite .positive (2 ^ 52) (-52) h) : Represents (a * one) x := by
  change Represents (.ofModel (.pack (UnpackedFloat.mul Format.binary64 a.toModel.unpack one.toModel.unpack))) x
  have itself := represents.rounded
  rw [same]
  rcases represents with ⟨rfl, sign, zero⟩ | ⟨m, e, pos, finite, canonical, value⟩
  · rw [zero]
    exact .inl ⟨rfl, _, unpack_pack_zero _⟩
  · rw [finite]
    have product : ((m * 2 ^ 52 : ℕ) : ℚ) * 2 ^ (e + -52) = x := by
      rw [value, Nat.cast_mul, Nat.cast_pow, Nat.cast_ofNat, zpow_add₀ (by norm_num)]
      norm_num
      ring
    have fits : e + -52 ≤ grade (((m * 2 ^ 52 : ℕ) : ℚ) * 2 ^ (e + -52)) := by
      rw [product, value, canonical.grade pos]
      omega
    have located : Located (m * 2 ^ 52) ((m * 2 ^ 52 : ℕ) : ℚ) .exact := rfl
    have shown := represents_roundWithAccuracy (Nat.mul_pos pos h) located fits (product.symm ▸ moderate)
    rw [product, itself] at shown
    exact shown

private theorem one_bits : (Float.ofBits 0x3FF0000000000000).toModel.unpack = .finite .positive (2 ^ 52) (-52) (by norm_num) := rfl

theorem natCast_moderate {n : ℕ} (small : n ≤ 2 ^ 128) : (n : ℚ) ≤ BOUND := by
  have bound : (n : ℚ) ≤ 2 ^ 128 := by exact_mod_cast small
  rw [BOUND]
  calc (n : ℚ) ≤ 2 ^ (128 : ℤ) := by exact_mod_cast bound
    _ ≤ 2 ^ (900 : ℤ) := zpow_le_zpow_right₀ (by norm_num) (by norm_num)

/-- A natural number becomes the nearest float. -/
theorem represents_ofNat {n : ℕ} (small : n ≤ 2 ^ 128) : Represents (Float.ofNat n) (rounded n) := by
  have moderate := natCast_moderate small
  by_cases zero : n = 0
  · subst zero
    exact .inl ⟨by rw [Nat.cast_zero, rounded_zero], .positive, rfl⟩
  have positive : 0 < n := Nat.pos_of_ne_zero zero
  by_cases exact : n < 2 ^ 53
  · have converted : Represents (n.toUInt64.toFloat) (rounded n) := by
      have number : n.toUInt64.toNat = n := by
        simp
        omega
      have bounded : (n : ℚ) * 2 ^ (0 : ℤ) ≤ BOUND := by simpa using moderate
      have value := represents_round positive bounded
      rw [zpow_zero, mul_one] at value
      change Represents (.ofModel (.pack (UnpackedFloat.normalize Format.binary64 (n.toUInt64.toNat : ℤ) 0 .positive))) _
      rw [number, UnpackedFloat.normalize, Int.compare_eq_gt.mpr (by omega)]
      exact value
    have top : rounded n ≤ BOUND := by
      have mono := rounded_mono (x := n) (by exact_mod_cast positive) moderate
      rwa [BOUND, rounded_two_zpow (by norm_num)] at mono
    have fast : Float.ofNat n = n.toUInt64.toFloat * Float.ofBits 0x3FF0000000000000 := by
      change Float.ofScientific n false 0 = _
      rw [Float.ofScientific, dif_pos ⟨exact, by norm_num⟩]
      rfl
    rw [fast]
    exact represents_mul_one converted top one_bits
  · have slow : Float.ofNat n = .ofModel (Float.Model.ofScientific n 0) := by
      change Float.ofScientific n false 0 = _
      rw [Float.ofScientific, dif_neg (fun both => exact both.1)]
      rfl
    have product : ((n <<< 53 * 10 ^ 0 : ℕ) : ℚ) * 2 ^ (-53 + 0 : ℤ) = n := by
      rw [pow_zero, mul_one, Nat.shiftLeft_eq, Nat.cast_mul, Nat.cast_pow, Nat.cast_ofNat]
      norm_num
      ring
    have fits : (-53 + 0 : ℤ) ≤ grade (((n <<< 53 * 10 ^ 0 : ℕ) : ℚ) * 2 ^ (-53 + 0 : ℤ)) := by
      have one : (0 : ℤ) ≤ Int.log 2 (n : ℚ) := by
        rw [Int.log_natCast]
        exact Int.natCast_nonneg _
      rw [product, grade]
      omega
    have some : 0 < n <<< 53 * 10 ^ 0 := by
      rw [pow_zero, mul_one]
      exact Nat.shiftLeft_pos_iff.mpr positive
    have located : Located (n <<< 53 * 10 ^ 0) ((n <<< 53 * 10 ^ 0 : ℕ) : ℚ) .exact := rfl
    have shown := represents_roundWithAccuracy some located fits (product.symm ▸ moderate)
    rw [product] at shown
    have model : Float.Model.ofScientific n 0 =
        .pack (roundWithAccuracy Format.binary64 .positive (n <<< 53 * 10 ^ 0) (-53 + 0) .exact) := by
      unfold Float.Model.ofScientific UnpackedFloat.ofScientific
      rw [dif_neg zero, if_neg (by norm_num), if_neg (by norm_num), if_pos le_rfl]
      rfl
    rw [slow, model]
    exact shown

/-! ### Quotients and differences -/

theorem located_quotient {num den : ℕ} (positive : 0 < den) :
    Located (num / den) ((num : ℚ) / den) (accuracyOfFraction (num % den) den) := by
  have den' : (0 : ℚ) < den := by exact_mod_cast positive
  have whole : ((num / den : ℕ) : ℚ) * den + ((num % den : ℕ) : ℚ) = num := by exact_mod_cast Nat.div_add_mod' num den
  have split : (num : ℚ) / den = (num / den : ℕ) + ((num % den : ℕ) : ℚ) / den := by
    rw [← whole, add_div, mul_div_cancel_right₀ _ den'.ne']
  have small : ((num % den : ℕ) : ℚ) < den := by exact_mod_cast Nat.mod_lt num positive
  unfold accuracyOfFraction
  by_cases none : num % den = 0
  · rw [if_pos none]
    change _ = _
    rw [split, none]
    simp
  rw [if_neg none]
  have some : (0 : ℚ) < ((num % den : ℕ) : ℚ) := by exact_mod_cast Nat.pos_of_ne_zero none
  have least : 0 < ((num % den : ℕ) : ℚ) / den := div_pos some den'
  rcases lt_trichotomy (2 * (num % den)) den with less | half | more
  · rw [Nat.compare_eq_lt.mpr less]
    have bound : ((num % den : ℕ) : ℚ) / den < 1 / 2 := by
      rw [div_lt_div_iff₀ den' (by norm_num)]
      have : (2 : ℚ) * ((num % den : ℕ) : ℚ) < den := by exact_mod_cast less
      linarith
    exact ⟨by linarith, by linarith⟩
  · rw [Nat.compare_eq_eq.mpr half]
    have bound : ((num % den : ℕ) : ℚ) / den = 1 / 2 := by
      rw [div_eq_div_iff den'.ne' (by norm_num)]
      have : (2 : ℚ) * ((num % den : ℕ) : ℚ) = den := by exact_mod_cast half
      linarith
    change _ = _
    linarith
  · rw [Nat.compare_eq_gt.mpr more]
    have bound : 1 / 2 < ((num % den : ℕ) : ℚ) / den := by
      rw [div_lt_div_iff₀ (by norm_num) den']
      have : (den : ℚ) < 2 * ((num % den : ℕ) : ℚ) := by exact_mod_cast more
      linarith
    have top : ((num % den : ℕ) : ℚ) / den < 1 := (div_lt_one den').mpr small
    exact ⟨by linarith, by linarith⟩

private theorem log_quotient {x y : ℚ} (positiveX : 0 < x) (positiveY : 0 < y) :
    Int.log 2 x - Int.log 2 y - 1 ≤ Int.log 2 (x / y) := by
  have belowX : (2 : ℚ) ^ Int.log 2 x ≤ x := by exact_mod_cast Int.zpow_log_le_self (b := 2) (by norm_num) positiveX
  have aboveY : y < (2 : ℚ) ^ (Int.log 2 y + 1) := by exact_mod_cast Int.lt_zpow_succ_log_self (b := 2) (by norm_num) y
  refine (Int.zpow_le_iff_le_log (b := 2) (by norm_num) (div_pos positiveX positiveY)).mp ?_
  rw [le_div_iff₀ positiveY]
  calc ((2 : ℕ) : ℚ) ^ (Int.log 2 x - Int.log 2 y - 1) * y
      ≤ 2 ^ (Int.log 2 x - Int.log 2 y - 1) * 2 ^ (Int.log 2 y + 1) := by
        rw [Nat.cast_ofNat]
        exact mul_le_mul_of_nonneg_left aboveY.le (two_zpow_pos _).le
    _ = 2 ^ Int.log 2 x := by
        rw [← zpow_add₀ (by norm_num)]
        congr 1
        ring
    _ ≤ x := belowX

/-- The division of two mantissas rounds their quotient, located well below its last bit. -/
theorem quotient_shape {m n : ℕ} {e f : ℤ} (h : 0 < m) (h' : 0 < n)
    (least : (2 : ℚ) ^ (-900 : ℤ) ≤ m * 2 ^ e / (n * 2 ^ f)) :
    ∃ mantissa exponent accuracy precise, UnpackedFloat.div Format.binary64 (.finite .positive m e h) (.finite .positive n f h') =
        roundWithAccuracy Format.binary64 .positive mantissa exponent accuracy ∧ 0 < mantissa ∧
      Located mantissa precise accuracy ∧ precise * 2 ^ exponent = m * 2 ^ e / (n * 2 ^ f) ∧
      exponent ≤ grade (precise * 2 ^ exponent) := by
  obtain ⟨x, valueX⟩ : ∃ x : ℚ, x = m * 2 ^ e := ⟨_, rfl⟩
  obtain ⟨y, valueY⟩ : ∃ y : ℚ, y = n * 2 ^ f := ⟨_, rfl⟩
  rw [← valueX, ← valueY] at least ⊢
  have positiveX : 0 < x := by
    rw [valueX]
    exact mul_pos (by exact_mod_cast h) (two_zpow_pos e)
  have positive : 0 < y := by
    rw [valueY]
    exact mul_pos (by exact_mod_cast h') (two_zpow_pos f)
  have logX : Int.log 2 x = m.log2 + e := valueX ▸ log_located h (show Located m (m : ℚ) .exact from rfl)
  have logY : Int.log 2 y = n.log2 + f := valueY ▸ log_located h' (show Located n (n : ℚ) .exact from rfl)
  have logs := log_quotient positiveX positive
  have logLeast : -900 ≤ Int.log 2 (x / y) :=
    (Int.zpow_le_iff_le_log (b := 2) (by norm_num) (div_pos positiveX positive)).mp (by exact_mod_cast least)
  obtain ⟨target, targetSame⟩ : ∃ target, target = min (e - f)
      (Format.binary64.targetExponent (totalExponent m e - totalExponent n f)) := ⟨_, rfl⟩
  have targetLe : target ≤ max (m.log2 + e - (n.log2 + f) - 53) (-1074) := by
    rw [targetSame, target_exponent, totalExponent, totalExponent]
    omega
  obtain ⟨count, countSame⟩ : ∃ count, count = (e - f - target).toNat := ⟨_, rfl⟩
  have exponents : (count : ℤ) = e - f - target := by omega
  have num : ((m <<< count : ℕ) : ℚ) / n * 2 ^ target = x / y := by
    rw [valueX, valueY, Nat.shiftLeft_eq, Nat.cast_mul, Nat.cast_pow, Nat.cast_ofNat, ← zpow_natCast, exponents,
      zpow_sub₀ (by norm_num), zpow_sub₀ (by norm_num)]
    field_simp
  refine ⟨m <<< count / n, target, accuracyOfFraction (m <<< count % n) n, ((m <<< count : ℕ) : ℚ) / n, ?_, ?_,
    located_quotient h', num, ?_⟩
  · simp only [UnpackedFloat.div, divCore, ← targetSame, ← countSame]
    rfl
  · have bound : (1 : ℚ) ≤ ((m <<< count : ℕ) : ℚ) / n := by
      have whole : ((m <<< count : ℕ) : ℚ) / n = x / y / 2 ^ target := by
        rw [eq_div_iff (two_zpow_pos _).ne', num]
      rw [whole, le_div_iff₀ (two_zpow_pos _), one_mul]
      have below : (2 : ℚ) ^ Int.log 2 (x / y) ≤ x / y := by
        exact_mod_cast Int.zpow_log_le_self (b := 2) (by norm_num) (div_pos positiveX positive)
      exact (zpow_le_zpow_right₀ (by norm_num) (by omega)).trans below
    rw [le_div_iff₀ (by exact_mod_cast h'), one_mul] at bound
    exact Nat.div_pos (by exact_mod_cast bound) h'
  · rw [num, grade]
    omega

/-- The quotient of moderate floats is the rounded quotient. -/
theorem represents_div {a b : Float} {x y : ℚ} (left : Represents a x) (right : Represents b y) (positive : 0 < y)
    (least : x = 0 ∨ 2 ^ (-900 : ℤ) ≤ x / y) (moderate : x / y ≤ BOUND) : Represents (a / b) (rounded (x / y)) := by
  change Represents (.ofModel (.pack (UnpackedFloat.div Format.binary64 a.toModel.unpack b.toModel.unpack))) _
  rcases right with ⟨zero, _⟩ | ⟨n, f, h', same', canonical', rfl⟩
  · exact absurd zero positive.ne'
  rcases left with ⟨rfl, sign, same⟩ | ⟨m, e, h, same, canonical, rfl⟩
  · rw [same, same']
    exact .inl ⟨by rw [zero_div, rounded_zero], _, unpack_pack_zero _⟩
  have positiveX : (0 : ℚ) < m * 2 ^ e := mul_pos (by exact_mod_cast h) (two_zpow_pos e)
  obtain ⟨mantissa, exponent, accuracy, precise, shape, some, located, value, fits⟩ :=
    quotient_shape h h' (least.resolve_left positiveX.ne')
  rw [same, same', shape, ← value]
  exact represents_roundWithAccuracy some located fits (value.symm ▸ moderate)

theorem one_literal : (1.0 : Float).toModel.unpack = .finite .positive (2 ^ 52) (-52) (by norm_num) := rfl

theorem represents_one : Represents 1.0 1 := one_represented one_literal

theorem represents_zero_literal : Represents 0.0 0 := .inl ⟨rfl, .positive, rfl⟩

/-- What a float up to one leaves of one, rounded. -/
theorem represents_one_sub {a : Float} {x : ℚ} (represents : Represents a x) (le : x ≤ 1) :
    Represents (1.0 - a) (rounded (1 - x)) := by
  change Represents (.ofModel (.pack (UnpackedFloat.sub Format.binary64 (1.0 : Float).toModel.unpack a.toModel.unpack))) _
  rw [one_literal]
  rcases represents with ⟨rfl, sign, same⟩ | ⟨m, e, h, same, canonical, value⟩
  · rw [same, sub_zero, represents_one.rounded]
    exact one_represented (unpack_pack_finite (by rw [Canonical, Nat.log2_two_pow]; norm_num) (by norm_num))
  rw [same]
  obtain ⟨smaller, smallerSame⟩ : ∃ smaller, smaller = min (-52) e := ⟨_, rfl⟩
  obtain ⟨count, countSame⟩ : ∃ count, count = (-52 - smaller).toNat := ⟨_, rfl⟩
  obtain ⟨count', countSame'⟩ : ∃ count', count' = (e - smaller).toNat := ⟨_, rfl⟩
  have exponents : (count : ℤ) = -52 - smaller := by omega
  have exponents' : (count' : ℤ) = e - smaller := by omega
  have first : ((2 ^ 52 <<< count : ℕ) : ℚ) * 2 ^ smaller = 1 := by
    rw [Nat.shiftLeft_eq, ← pow_add, Nat.cast_pow, Nat.cast_ofNat, ← zpow_natCast, ← zpow_add₀ (by norm_num)]
    rw [show ((52 + count : ℕ) : ℤ) + smaller = 0 by push_cast; omega, zpow_zero]
  have second : ((m <<< count' : ℕ) : ℚ) * 2 ^ smaller = x := by
    rw [value, Nat.shiftLeft_eq, Nat.cast_mul, Nat.cast_pow, Nat.cast_ofNat, ← zpow_natCast, mul_assoc,
      ← zpow_add₀ (by norm_num), exponents', sub_add_cancel]
  have order : m <<< count' ≤ 2 ^ 52 <<< count := by
    rw [← first, ← second, mul_le_mul_iff_left₀ (two_zpow_pos smaller)] at le
    exact_mod_cast le
  obtain ⟨rest, restSame⟩ : ∃ rest, rest = 2 ^ 52 <<< count - m <<< count' := ⟨_, rfl⟩
  have difference : (rest : ℚ) * 2 ^ smaller = 1 - x := by
    rw [restSame, Nat.cast_sub order, sub_mul, first, second]
  have mantissa : ((2 ^ 52 <<< count : ℕ) : ℤ) - ((m <<< count' : ℕ) : ℤ) = rest := by omega
  have sub : UnpackedFloat.sub Format.binary64 (.finite .positive (2 ^ 52) (-52) (by norm_num)) (.finite .positive m e h) =
      UnpackedFloat.normalize Format.binary64 rest smaller .positive := by
    simp only [UnpackedFloat.sub, decreaseExponent, Sign.apply, ← smallerSame, ← countSame, ← countSame', mantissa]
  rw [sub, UnpackedFloat.normalize]
  by_cases none : rest = 0
  · rw [none, Nat.cast_zero, zero_mul] at difference
    rw [← difference, none, rounded_zero]
    exact represents_zero
  · rw [Int.compare_eq_gt.mpr (by omega)]
    have xNonneg : 0 ≤ x := by
      rw [value]
      exact mul_nonneg (Nat.cast_nonneg _) (two_zpow_pos e).le
    have moderate : (rest : ℚ) * 2 ^ smaller ≤ BOUND := by
      rw [difference]
      have one := natCast_moderate (n := 1) (by norm_num)
      push_cast at one
      linarith
    have shown := represents_round (Nat.pos_of_ne_zero none) moderate
    rw [difference] at shown
    exact shown

/-! ### Fractions -/

/-- The float is between zero and one. -/
def InUnit (a : Float) : Prop := 0.0 ≤ a ∧ a ≤ 1.0

theorem Represents.in_unit {a : Float} {x : ℚ} (represents : Represents a x) (le : x ≤ 1) : InUnit a :=
  ⟨(represents_zero_literal.le_iff represents).mpr represents.nonneg, (represents.le_iff represents_one).mpr le⟩

theorem rounded_le_one {x : ℚ} (nonneg : 0 ≤ x) (le : x ≤ 1) : rounded x ≤ 1 := by
  rcases nonneg.eq_or_lt with zero | positive
  · rw [← zero, rounded_zero]
    exact zero_le_one
  · have mono := rounded_mono positive le
    rwa [represents_one.rounded] at mono

/-- The quotient of two counts, of which the second is not smaller, represents a value up to one. -/
theorem represents_fraction {part whole : ℕ} (le : part ≤ whole) (positive : 0 < whole) (small : whole ≤ 2 ^ 128) :
    ∃ x, x ≤ 1 ∧ Represents (Float.ofNat part / Float.ofNat whole) x := by
  have wholeCast : (1 : ℚ) ≤ whole := by exact_mod_cast positive
  have one : 1 ≤ rounded whole := by
    have mono := rounded_mono (by norm_num) wholeCast
    rwa [represents_one.rounded] at mono
  have order : rounded part ≤ rounded whole := by
    rcases Nat.eq_zero_or_pos part with rfl | some
    · rw [Nat.cast_zero, rounded_zero]
      exact rounded_nonneg _
    · exact rounded_mono (by exact_mod_cast some) (by exact_mod_cast le)
  have quotient : rounded part / rounded whole ≤ 1 := (div_le_one (by linarith)).mpr order
  have least : rounded part = 0 ∨ (2 : ℚ) ^ (-900 : ℤ) ≤ rounded part / rounded whole := by
    rcases Nat.eq_zero_or_pos part with rfl | some
    · exact .inl (by rw [Nat.cast_zero, rounded_zero])
    · have partOne : 1 ≤ rounded part := by
        have mono := rounded_mono (x := 1) (y := part) (by norm_num) (by exact_mod_cast some)
        rwa [represents_one.rounded] at mono
      have wholeTop : rounded whole ≤ 2 ^ (128 : ℤ) := by
        have mono := rounded_mono (x := whole) (y := 2 ^ (128 : ℤ)) (by linarith) (by exact_mod_cast small)
        rwa [rounded_two_zpow (by norm_num)] at mono
      refine .inr ?_
      rw [le_div_iff₀ (by linarith)]
      calc (2 : ℚ) ^ (-900 : ℤ) * rounded whole ≤ 2 ^ (-900 : ℤ) * 2 ^ (128 : ℤ) :=
            mul_le_mul_of_nonneg_left wholeTop (two_zpow_pos _).le
        _ ≤ 1 := by
            rw [← zpow_add₀ (by norm_num)]
            exact zpow_le_one_of_nonpos₀ (by norm_num) (by norm_num)
        _ ≤ rounded part := partOne
  have moderate : rounded part / rounded whole ≤ BOUND := by
    have bound := natCast_moderate (n := 1) (by norm_num)
    push_cast at bound
    exact quotient.trans bound
  refine ⟨_, rounded_le_one (div_nonneg (rounded_nonneg _) (rounded_nonneg _)) quotient, ?_⟩
  exact represents_div (represents_ofNat (le.trans small)) (represents_ofNat small) (by linarith) least moderate

theorem fraction_in_unit {part whole : ℕ} (le : part ≤ whole) (positive : 0 < whole) (small : whole ≤ 2 ^ 128) :
    InUnit (Float.ofNat part / Float.ofNat whole) := by
  obtain ⟨x, bound, represents⟩ := represents_fraction le positive small
  exact represents.in_unit bound

/-- What a fraction of counts leaves of one is between zero and one. -/
theorem one_sub_fraction_in_unit {part whole : ℕ} (le : part ≤ whole) (positive : 0 < whole) (small : whole ≤ 2 ^ 128) :
    InUnit (1.0 - Float.ofNat part / Float.ofNat whole) := by
  obtain ⟨x, bound, represents⟩ := represents_fraction le positive small
  refine (represents_one_sub represents bound).in_unit (rounded_le_one (by linarith) ?_)
  linarith [represents.nonneg]

end VectorSeam.Rounding
