import VectorSeam.Rounding

/-!
Sums, products and quotients of nonnegative floats, also beyond the largest one: an
operation whose value is too large gives infinity, and otherwise rounds.
-/

namespace VectorSeam.Magnitudes
open Float.Model Float.Model.UnpackedFloat
open VectorSeam.Rounding

/-! ### Floats as values -/

private theorem canonical_of_bits {b : BitVec Format.binary64.numBits} {sign : Sign} {m : ℕ} {e : ℤ} {h : 0 < m}
    (found : UnpackedFloat.unpack .binary64 b = .finite sign m e h) : Canonical m e := by
  have small : (unpackMantissa b).toNat < 2 ^ 52 := BitVec.isLt _
  unfold UnpackedFloat.unpack at found
  simp only [] at found
  split at found
  · split at found <;> cases found
  · split at found
    · next zero =>
      split at found
      · cases found
      · obtain ⟨_, rfl, rfl⟩ := UnpackedFloat.finite.inj found
        have log := (Nat.log2_lt h.ne').mpr small
        unfold Canonical
        rw [zero]
        simp [Format.exponentBias]
        omega
    · next nonzero =>
      obtain ⟨_, rfl, rfl⟩ := UnpackedFloat.finite.inj found
      have log : (1#1 ++ unpackMantissa b).toNat.log2 = 52 := by
        have value : (1#1 ++ unpackMantissa b).toNat = 2 ^ 52 + (unpackMantissa b).toNat := Binary64.toNat_one_append _
        rw [value]
        exact (Nat.log2_eq_iff (by omega)).mpr ⟨by omega, by omega⟩
      have some : 0 < (unpackExponent b).toNat := Nat.pos_of_ne_zero fun none => nonzero (BitVec.eq_of_toNat_eq none)
      unfold Canonical
      rw [log]
      simp [Format.exponentBias]
      omega

/-- What a float is unpacked to is canonical. -/
theorem canonical_of_unpack {a : Float} {sign : Sign} {m : ℕ} {e : ℤ} {h : 0 < m}
    (same : a.toModel.unpack = .finite sign m e h) : Canonical m e := canonical_of_bits same

theorem represents_of_unpack {a : Float} {m : ℕ} {e : ℤ} {h : 0 < m} (same : a.toModel.unpack = .finite .positive m e h) :
    Represents a (m * 2 ^ e) := .inr ⟨m, e, h, same, canonical_of_unpack same, rfl⟩

/-- Every positive finite float is a rational. -/
theorem represents_of_positive {a : Float} (positive : 0.0 < a) (finite : a.isFinite = true) :
    ∃ x, 0 < x ∧ Represents a x := by
  have zero : (0.0 : Float).toModel.unpack = .zero .positive := rfl
  have less := Binary64.lt_iff.mp positive
  unfold Binary64.ordering at less
  rw [zero] at less
  cases same : a.toModel.unpack with
  | notANumber => rw [same] at less; cases less
  | infinity sign =>
    have infinite : a.isFinite = false := by
      change a.toModel.unpack.isFinite = false
      rw [same]
      rfl
    rw [finite] at infinite
    cases infinite
  | zero sign => rw [same] at less; cases less
  | finite sign m e h =>
    cases sign with
    | negative => rw [same] at less; cases less
    | positive => exact ⟨_, mul_pos (by exact_mod_cast h) (two_zpow_pos e), represents_of_unpack same⟩

theorem represents_unique {a : Float} {x y : ℚ} (left : Represents a x) (right : Represents a y) : x = y := by
  rcases left with ⟨rfl, sign, same⟩ | ⟨m, e, h, same, _, rfl⟩ <;>
    rcases right with ⟨rfl, sign', same'⟩ | ⟨n, f, h', same', _, rfl⟩ <;>
    rw [same] at same' <;> cases same'
  rfl

/-- A float above another is above it by at least one unit in its last place. -/
theorem next_le {a : Float} {x : ℚ} {m : ℕ} {e : ℤ} (represents : Represents a x) (canonical : Canonical m e) (positive : 0 < m)
    (less : (m : ℚ) * 2 ^ e < x) : ((m + 1 : ℕ) : ℚ) * 2 ^ e ≤ x := by
  rcases represents with ⟨rfl, _⟩ | ⟨n, f, h, _, canonical', rfl⟩
  · exact absurd less (not_lt.mpr (mul_nonneg (Nat.cast_nonneg _) (two_zpow_pos e).le))
  rcases lt_trichotomy e f with lower | rfl | higher
  · have small : m < 2 ^ 53 := (Nat.log2_lt positive.ne').mp (by have := canonical.bits; omega)
    have large : 2 ^ 52 ≤ n := by
      refine (Nat.le_log2 h.ne').mp ?_
      unfold Canonical at canonical canonical'
      omega
    calc ((m + 1 : ℕ) : ℚ) * 2 ^ e ≤ (2 ^ 53 : ℕ) * 2 ^ e :=
          mul_le_mul_of_nonneg_right (by exact_mod_cast small) (two_zpow_pos e).le
      _ = (2 ^ 52 : ℕ) * 2 ^ (e + 1) := by
          rw [zpow_add₀ (by norm_num)]
          push_cast
          ring
      _ ≤ (2 ^ 52 : ℕ) * 2 ^ f :=
          mul_le_mul_of_nonneg_left (zpow_le_zpow_right₀ (by norm_num) (by omega)) (Nat.cast_nonneg _)
      _ ≤ n * 2 ^ f := mul_le_mul_of_nonneg_right (by exact_mod_cast large) (two_zpow_pos f).le
  · have order : m < n := by
      rw [mul_lt_mul_iff_left₀ (two_zpow_pos e)] at less
      exact_mod_cast less
    exact mul_le_mul_of_nonneg_right (by exact_mod_cast order) (two_zpow_pos e).le
  · exact absurd less (not_lt.mpr (canonical_lt canonical' canonical h positive higher).le)

/-! ### Overflow -/

/-- The float is infinite or at least the rational. -/
def Exceeds (a : Float) (x : ℚ) : Prop := a.toModel.unpack = .infinity .positive ∨ ∃ y, x ≤ y ∧ Represents a y

theorem Exceeds.mono {a : Float} {x y : ℚ} (exceeds : Exceeds a y) (le : x ≤ y) : Exceeds a x := by
  rcases exceeds with infinite | ⟨z, above, represents⟩
  · exact .inl infinite
  · exact .inr ⟨z, le.trans above, represents⟩

theorem Exceeds.le {a : Float} {x y : ℚ} (exceeds : Exceeds a x) (represents : Represents a y) : x ≤ y := by
  rcases exceeds with infinite | ⟨z, above, represents'⟩
  · rcases represents with ⟨_, sign, same⟩ | ⟨m, e, h, same, _⟩ <;> rw [same] at infinite <;> cases infinite
  · rwa [represents_unique represents represents']

theorem unpack_pack_infinity : (Float.Model.pack (.infinity .positive)).unpack = .infinity .positive := rfl

/-- Values whose exponent is too large are packed as infinity. -/
theorem unpack_pack_overflow {m : ℕ} {e : ℤ} {h : 0 < m} (large : 971 < e) :
    (Float.Model.pack (.finite .positive m e h)).unpack = .infinity .positive := by
  have biased : 2 ^ Format.binary64.exponentBits ≤
      (e + Format.binary64.exponentBias + Format.binary64.mantissaBitsWithoutImplicit).toNat + 1 := by
    simp [Format.exponentBias]
    omega
  have packed : UnpackedFloat.pack Format.binary64 (.finite .positive m e h) =
      UnpackedFloat.pack Format.binary64 (.infinity .positive) := by
    simp only [UnpackedFloat.pack]
    rw [if_pos biased]
  change UnpackedFloat.unpack _ (UnpackedFloat.pack _ _) = _
  rw [packed]
  rfl

theorem rounded_mono_nonneg {x y : ℚ} (nonneg : 0 ≤ x) (le : x ≤ y) : rounded x ≤ rounded y := by
  rcases nonneg.eq_or_lt with rfl | positive
  · rw [rounded_zero]
    exact rounded_nonneg y
  · exact rounded_mono positive le

/-- Rounding a value gives at least what rounding a smaller one would. -/
theorem exceeds_roundWithAccuracy {mantissa : ℕ} {exponent : ℤ} {precise x : ℚ} {accuracy : Accuracy}
    (positive : 0 < mantissa) (located : Located mantissa precise accuracy)
    (fits : exponent ≤ Rounding.grade (precise * 2 ^ exponent)) (nonneg : 0 ≤ x) (le : x ≤ precise * 2 ^ exponent) :
    Exceeds (.ofModel (.pack (roundWithAccuracy Format.binary64 .positive mantissa exponent accuracy))) (rounded x) := by
  have mono := rounded_mono_nonneg nonneg le
  rcases roundWithAccuracy_value .positive positive located fits with ⟨zero, same⟩ | ⟨m, e, h, same, canonical, value⟩
  · refine .inr ⟨0, mono.trans zero.le, ?_⟩
    rw [same]
    exact represents_zero
  · rw [same]
    by_cases large : 971 < e
    · exact .inl (unpack_pack_overflow large)
    · exact .inr ⟨m * 2 ^ e, mono.trans value.le, .inr ⟨m, e, h, unpack_pack_finite canonical (by omega), canonical, rfl⟩⟩

/-- A quotient, however large, is at least what a smaller one rounds to. -/
theorem exceeds_div {a b : Float} {x y z : ℚ} (left : Represents a x) (right : Represents b y) (positive : 0 < y)
    (nonneg : 0 ≤ z) (le : z ≤ x / y) (least : (2 : ℚ) ^ (-900 : ℤ) ≤ x / y) : Exceeds (a / b) (rounded z) := by
  change Exceeds (.ofModel (.pack (UnpackedFloat.div Format.binary64 a.toModel.unpack b.toModel.unpack))) _
  rcases right with ⟨zero, _⟩ | ⟨n, f, h', same', canonical', rfl⟩
  · exact absurd zero positive.ne'
  rcases left with ⟨rfl, sign, same⟩ | ⟨m, e, h, same, canonical, rfl⟩
  · rw [zero_div] at least
    exact absurd least (not_le.mpr (two_zpow_pos _))
  obtain ⟨mantissa, exponent, accuracy, precise, shape, some, located, value, fits⟩ := quotient_shape h h' least
  rw [same, same', shape]
  exact exceeds_roundWithAccuracy some located fits nonneg (value.symm ▸ le)

/-! ### Products -/

/-- The exponent of a product is small enough for it to be rounded. -/
theorem product_fits {m n : ℕ} {e f : ℤ} (h : 0 < m) (h' : 0 < n) (left : Canonical m e) (right : Canonical n f) :
    e + f ≤ Rounding.grade (((m * n : ℕ) : ℚ) * 2 ^ (e + f)) := by
  have log : Int.log 2 (((m * n : ℕ) : ℚ) * 2 ^ (e + f)) = (m * n).log2 + (e + f) :=
    log_located (Nat.mul_pos h h') (show Located (m * n) ((m * n : ℕ) : ℚ) .exact from rfl)
  have bits : m.log2 + n.log2 ≤ (m * n).log2 := by
    refine (Nat.le_log2 (Nat.mul_pos h h').ne').mpr ?_
    rw [pow_add]
    exact Nat.mul_le_mul (Nat.log2_self_le h.ne') (Nat.log2_self_le h'.ne')
  unfold Canonical at left right
  rw [Rounding.grade, log]
  omega

/-- The product of moderate floats is the rounded product. -/
theorem represents_mul {a b : Float} {x y : ℚ} (left : Represents a x) (right : Represents b y) (moderate : x * y ≤ BOUND) :
    Represents (a * b) (rounded (x * y)) := by
  change Represents (.ofModel (.pack (UnpackedFloat.mul Format.binary64 a.toModel.unpack b.toModel.unpack))) _
  rcases left with ⟨rfl, sign, same⟩ | ⟨m, e, h, same, canonical, rfl⟩
  · rw [zero_mul, rounded_zero]
    rcases right with ⟨_, sign', same'⟩ | ⟨n, f, h', same', _⟩ <;>
    · rw [same, same']
      exact .inl ⟨rfl, _, unpack_pack_zero _⟩
  rcases right with ⟨rfl, sign', same'⟩ | ⟨n, f, h', same', canonical', rfl⟩
  · rw [mul_zero, rounded_zero, same, same']
    exact .inl ⟨rfl, _, unpack_pack_zero _⟩
  have product : ((m * n : ℕ) : ℚ) * 2 ^ (e + f) = m * 2 ^ e * (n * 2 ^ f) := by
    rw [Nat.cast_mul, zpow_add₀ (by norm_num)]
    ring
  have shown := represents_roundWithAccuracy (Nat.mul_pos h h') (show Located (m * n) ((m * n : ℕ) : ℚ) .exact from rfl)
    (product_fits h h' canonical canonical') (product ▸ moderate)
  rw [product] at shown
  rw [same, same']
  exact shown

/-- A product with a positive float, however large, is at least what a smaller one rounds to. -/
theorem exceeds_mul {a b : Float} {x y : ℚ} (left : Exceeds a x) (right : Represents b y) (nonneg : 0 ≤ x) (positive : 0 < y) :
    Exceeds (a * b) (rounded (x * y)) := by
  change Exceeds (.ofModel (.pack (UnpackedFloat.mul Format.binary64 a.toModel.unpack b.toModel.unpack))) _
  rcases right with ⟨zero, _⟩ | ⟨n, f, h', same', canonical', rfl⟩
  · exact absurd zero positive.ne'
  rcases left with infinite | ⟨z, above, ⟨rfl, sign, same⟩ | ⟨m, e, h, same, canonical, rfl⟩⟩
  · rw [infinite, same']
    exact .inl unpack_pack_infinity
  · rw [le_antisymm above nonneg, zero_mul, rounded_zero, same, same']
    exact .inr ⟨0, le_rfl, .inl ⟨rfl, _, unpack_pack_zero _⟩⟩
  · have product : ((m * n : ℕ) : ℚ) * 2 ^ (e + f) = m * 2 ^ e * (n * 2 ^ f) := by
      rw [Nat.cast_mul, zpow_add₀ (by norm_num)]
      ring
    have shown := exceeds_roundWithAccuracy (Nat.mul_pos h h') (show Located (m * n) ((m * n : ℕ) : ℚ) .exact from rfl)
      (product_fits h h' canonical canonical') (mul_nonneg nonneg positive.le)
      (product ▸ mul_le_mul_of_nonneg_right above positive.le)
    rw [same, same']
    exact shown

/-! ### Sums -/

/-- A mantissa does not change its value when its exponent is decreased. -/
theorem decreaseExponent_value (m : ℕ) {e target : ℤ} (le : target ≤ e) :
    ((decreaseExponent m e target).1 : ℚ) * 2 ^ target = m * 2 ^ e := by
  have exponents : ((e - target).toNat : ℤ) = e - target := by omega
  simp only [decreaseExponent]
  rw [Nat.shiftLeft_eq, Nat.cast_mul, Nat.cast_pow, Nat.cast_ofNat, ← zpow_natCast, mul_assoc, ← zpow_add₀ (by norm_num),
    exponents, sub_add_cancel]

/-- The sum of moderate floats is the rounded sum. -/
theorem represents_add {a b : Float} {x y : ℚ} (left : Represents a x) (right : Represents b y) (moderate : x + y ≤ BOUND) :
    Represents (a + b) (rounded (x + y)) := by
  have itself := left.rounded
  have itself' := right.rounded
  change Represents (.ofModel (.pack (UnpackedFloat.add Format.binary64 a.toModel.unpack b.toModel.unpack))) _
  rcases left with ⟨rfl, sign, same⟩ | ⟨m, e, h, same, canonical, rfl⟩ <;>
    rcases right with ⟨rfl, sign', same'⟩ | ⟨n, f, h', same', canonical', rfl⟩
  · rw [add_zero, rounded_zero, same, same']
    refine .inl ⟨rfl, ?_⟩
    by_cases signs : sign == sign'
    · exact ⟨sign, by simp only [UnpackedFloat.add, if_pos signs]; exact unpack_pack_zero _⟩
    · exact ⟨.positive, by simp only [UnpackedFloat.add, if_neg signs]; exact unpack_pack_zero _⟩
  · rw [zero_add] at moderate ⊢
    rw [itself', same, same']
    exact .inr ⟨n, f, h', unpack_pack_finite canonical' (moderate_exponent h' moderate), canonical', rfl⟩
  · rw [add_zero] at moderate ⊢
    rw [itself, same, same']
    exact .inr ⟨m, e, h, unpack_pack_finite canonical (moderate_exponent h moderate), canonical, rfl⟩
  · obtain ⟨smaller, smallerSame⟩ : ∃ smaller, smaller = min e f := ⟨_, rfl⟩
    have first := decreaseExponent_value m (show smaller ≤ e by omega)
    have second := decreaseExponent_value n (show smaller ≤ f by omega)
    obtain ⟨total, totalSame⟩ : ∃ total, total = (decreaseExponent m e smaller).1 + (decreaseExponent n f smaller).1 := ⟨_, rfl⟩
    have sum : (total : ℚ) * 2 ^ smaller = m * 2 ^ e + n * 2 ^ f := by
      rw [totalSame, Nat.cast_add, add_mul, first, second]
    have some : 0 < total := by
      have value : (0 : ℚ) < total * 2 ^ smaller := by
        rw [sum]
        exact add_pos (mul_pos (by exact_mod_cast h) (two_zpow_pos e)) (mul_pos (by exact_mod_cast h') (two_zpow_pos f))
      exact_mod_cast pos_of_mul_pos_left value (two_zpow_pos smaller).le
    have add : UnpackedFloat.add Format.binary64 (.finite .positive m e h) (.finite .positive n f h') =
        UnpackedFloat.normalize Format.binary64 total smaller .positive := by
      simp only [UnpackedFloat.add, Sign.apply, ← smallerSame, totalSame, Nat.cast_add]
    have shown := represents_round some (sum ▸ moderate)
    rw [sum] at shown
    rw [same, same', add, UnpackedFloat.normalize, Int.compare_eq_gt.mpr (by omega)]
    exact shown

/-- Numbers of at most 53 bits are floats. -/
theorem rounded_natCast {n : ℕ} (small : n < 2 ^ 53) : rounded n = n := by
  rcases Nat.eq_zero_or_pos n with rfl | positive
  · rw [Nat.cast_zero, rounded_zero]
  have log : Int.log 2 (n : ℚ) ≤ 52 := by
    rw [Int.log_natCast]
    have := Nat.log_lt_of_lt_pow positive.ne' small
    omega
  have low : Rounding.grade n ≤ 0 := by
    unfold Rounding.grade
    omega
  obtain ⟨count, same⟩ := Int.eq_ofNat_of_zero_le (neg_nonneg.mpr low)
  have whole : (n : ℚ) = ((n * 2 ^ count : ℕ) : ℚ) * 2 ^ Rounding.grade n := by
    rw [Nat.cast_mul, Nat.cast_pow, Nat.cast_ofNat, ← zpow_natCast, ← same, mul_assoc, ← zpow_add₀ (by norm_num),
      neg_add_cancel, zpow_zero, mul_one]
  exact rounded_of_whole whole

end VectorSeam.Magnitudes
