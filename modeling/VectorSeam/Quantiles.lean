import VectorSeam.OrderStatistics
import VectorSeam.Panics
import VectorSeam.Estimators

/-!
The type-7 quantile in exact arithmetic: the steps of the frozen primitive on rationals,
with indexing that panics outside the list. It interpolates between neighbouring order
statistics, and so keeps their order.
-/

namespace VectorSeam.Quantiles
open VectorSeam.OrderStatistics VectorSeam.Panics VectorSeam.Estimators

/-- An element, which must be inside the list. -/
def index {α : Type} (items : List α) (position : Nat) : Panicking MathError α :=
  match items[position]? with
  | none => panicked
  | some item => pure item

/-- `quantile_type7` on rationals. -/
def quantile_type7 (values : List ℚ) (q : ℚ) : Panicking MathError ℚ :=
  if values = [] then throw .EmptyQuantile
  else if ¬(0 ≤ q ∧ q ≤ 1) then throw .InvalidQuantileProbability
  else
    let sorted := ascending values
    if sorted.length = 1 then index sorted 0
    else
      let h := ((sorted.length - 1 : Nat) : ℚ) * q
      let lower := ⌊h⌋.toNat
      let fraction := h - lower
      if fraction = 0 then index sorted lower
      else do
        let least ← index sorted lower
        let next ← index sorted (lower + 1)
        return least + fraction * (next - least)

/-- The order statistic of a rank that counts from one; beyond the last one it stays the largest. -/
def order_statistic (values : List ℚ) (rank : Nat) : ℚ := (ascending values).getD (min (rank - 1) (values.length - 1)) 0

/-- The seventh definition of Hyndman and Fan: `j = ⌊n p + m⌋` with `m = 1 - p`. -/
def hyndman_fan_type7 (values : List ℚ) (p : ℚ) : ℚ :=
  let m := 1 - p
  let j := ⌊values.length * p + m⌋.toNat
  let gamma := values.length * p + m - j
  (1 - gamma) * order_statistic values j + gamma * order_statistic values (j + 1)

variable {values values' : List ℚ} {q q' t t' value bound : ℚ} {rank : Nat}

/-! ### Order statistics -/

theorem order_statistic_here (values : List ℚ) (positive : 0 < rank) (inside : rank ≤ values.length) :
    (ascending values)[rank - 1]? = some (order_statistic values rank) := by
  have short : rank - 1 < (ascending values).length := by rw [ascending_length]; omega
  have same : min (rank - 1) (values.length - 1) = rank - 1 := Nat.min_eq_left (by omega)
  rw [order_statistic, same, List.getD_eq_getElem _ _ short, List.getElem?_eq_getElem short]

/-- A rank beyond the last one counts as the last. -/
theorem order_statistic_beyond (beyond : values.length ≤ rank) :
    order_statistic values rank = order_statistic values values.length := by
  unfold order_statistic
  rw [Nat.min_eq_right (by omega), Nat.min_self]

theorem order_statistic_mono {later : Nat} (nonempty : values ≠ []) (positive : 0 < rank) (le : rank ≤ later) :
    order_statistic values rank ≤ order_statistic values later := by
  have some_ : 0 < values.length := List.length_pos_iff.mpr nonempty
  by_cases beyond : values.length ≤ rank
  · rw [order_statistic_beyond beyond, order_statistic_beyond (beyond.trans le)]
  have here := order_statistic_here values positive (Nat.le_of_lt (Nat.not_le.mp beyond))
  by_cases last : values.length ≤ later
  · rw [order_statistic_beyond last]
    exact ascending_le here (order_statistic_here values some_ le_rfl) (by omega)
  · exact ascending_le here (order_statistic_here values (by omega) (by omega)) (by omega)

theorem order_statistic_raise (rank : Nat) (nonempty : values ≠ []) (positive : 0 < rank)
    (larger : List.Forall₂ (· ≤ ·) values values') : order_statistic values rank ≤ order_statistic values' rank := by
  have some_ : 0 < values.length := List.length_pos_iff.mpr nonempty
  have same := larger.length_eq
  by_cases beyond : values.length ≤ rank
  · rw [order_statistic_beyond beyond, order_statistic_beyond (same.symm.trans_le beyond), ← same]
    exact ascending_mono larger (order_statistic_here values some_ le_rfl) (order_statistic_here values' some_ same.le)
  · exact ascending_mono larger (order_statistic_here values positive (by omega)) (order_statistic_here values' positive (by omega))

theorem order_statistic_mem (rank : Nat) (nonempty : values ≠ []) (positive : 0 < rank) : order_statistic values rank ∈ values := by
  have some_ : 0 < values.length := List.length_pos_iff.mpr nonempty
  by_cases beyond : values.length ≤ rank
  · rw [order_statistic_beyond beyond]
    exact ascending_mem (order_statistic_here values some_ le_rfl)
  · exact ascending_mem (order_statistic_here values positive (by omega))

/-- At most so many elements are below a bound that an order statistic reaches. -/
theorem below_le (positive : 0 < rank) (reached : bound ≤ order_statistic values rank) : below bound values ≤ rank - 1 ∨
    values.length < rank := by
  by_cases inside : rank ≤ values.length
  · refine .inl (Nat.not_lt.mp fun more => ?_)
    exact not_lt.mpr reached ((ascending_lt_iff (order_statistic_here values positive inside)).mpr more)
  · exact .inr (Nat.not_le.mp inside)

/-! ### Interpolation -/

/-- The order statistics, joined by straight lines. -/
def interpolated (values : List ℚ) (t : ℚ) : ℚ :=
  order_statistic values (⌊t⌋₊ + 1) +
    (t - ⌊t⌋₊) * (order_statistic values (⌊t⌋₊ + 2) - order_statistic values (⌊t⌋₊ + 1))

theorem interpolated_between (nonempty : values ≠ []) (nonneg : 0 ≤ t) :
    order_statistic values (⌊t⌋₊ + 1) ≤ interpolated values t ∧
      interpolated values t ≤ order_statistic values (⌊t⌋₊ + 2) := by
  have rise : order_statistic values (⌊t⌋₊ + 1) ≤ order_statistic values (⌊t⌋₊ + 2) :=
    order_statistic_mono nonempty (Nat.succ_pos _) (Nat.le_succ _)
  have least : (0 : ℚ) ≤ t - ⌊t⌋₊ := sub_nonneg.mpr (Nat.floor_le nonneg)
  have most : t - ⌊t⌋₊ ≤ 1 := by linarith only [Nat.lt_floor_add_one t]
  have gap : 0 ≤ order_statistic values (⌊t⌋₊ + 2) - order_statistic values (⌊t⌋₊ + 1) := sub_nonneg.mpr rise
  unfold interpolated
  constructor
  · exact le_add_of_nonneg_right (mul_nonneg least gap)
  · have part := mul_le_mul_of_nonneg_right most gap
    linarith only [part]

theorem interpolated_mono (nonempty : values ≠ []) (nonneg : 0 ≤ t) (le : t ≤ t') :
    interpolated values t ≤ interpolated values t' := by
  rcases (Nat.floor_le_floor le).eq_or_lt with same | further
  · -- On one line.
    have gap : 0 ≤ order_statistic values (⌊t⌋₊ + 2) - order_statistic values (⌊t⌋₊ + 1) :=
      sub_nonneg.mpr (order_statistic_mono nonempty (Nat.succ_pos _) (Nat.le_succ _))
    unfold interpolated
    rw [← same]
    have part := mul_le_mul_of_nonneg_right (sub_le_sub_right le (⌊t⌋₊ : ℚ)) gap
    linarith only [part]
  · -- Past at least one order statistic.
    calc interpolated values t ≤ order_statistic values (⌊t⌋₊ + 2) := (interpolated_between nonempty nonneg).2
      _ ≤ order_statistic values (⌊t'⌋₊ + 1) := order_statistic_mono nonempty (Nat.succ_pos _) (by omega)
      _ ≤ interpolated values t' := (interpolated_between nonempty (nonneg.trans le)).1

theorem interpolated_raise (nonempty : values ≠ []) (nonneg : 0 ≤ t) (larger : List.Forall₂ (· ≤ ·) values values') :
    interpolated values t ≤ interpolated values' t := by
  have lower := order_statistic_raise (⌊t⌋₊ + 1) nonempty (Nat.succ_pos _) larger
  have upper := order_statistic_raise (⌊t⌋₊ + 2) nonempty (Nat.succ_pos _) larger
  have least : (0 : ℚ) ≤ t - ⌊t⌋₊ := sub_nonneg.mpr (Nat.floor_le nonneg)
  have most : (0 : ℚ) ≤ 1 - (t - ⌊t⌋₊) := by linarith only [Nat.lt_floor_add_one t]
  have first := mul_le_mul_of_nonneg_left lower most
  have second := mul_le_mul_of_nonneg_left upper least
  unfold interpolated
  linarith only [first, second]

theorem interpolated_congr (perm : values.Perm values') : interpolated values t = interpolated values' t := by
  simp only [interpolated, order_statistic, ascending_congr perm, perm.length_eq]

/-- A whole number is the position of an order statistic. -/
theorem interpolated_whole (whole : t = ⌊t⌋₊) : interpolated values t = order_statistic values (⌊t⌋₊ + 1) := by
  unfold interpolated
  rw [sub_eq_zero.mpr whole, zero_mul, add_zero]

/-- The position of a quantile among the order statistics, counted from zero. -/
def position (values : List ℚ) (q : ℚ) : ℚ := ((values.length - 1 : Nat) : ℚ) * q

theorem position_nonneg (values : List ℚ) (least : 0 ≤ q) : 0 ≤ position values q := mul_nonneg (Nat.cast_nonneg _) least

theorem position_le (values : List ℚ) (most : q ≤ 1) : position values q ≤ (values.length - 1 : Nat) :=
  mul_le_of_le_one_right (Nat.cast_nonneg _) most

theorem floor_position_le (values : List ℚ) (most : q ≤ 1) : ⌊position values q⌋₊ ≤ values.length - 1 := by
  have le := Nat.floor_le_floor (position_le values most)
  rwa [Nat.floor_natCast] at le

/-- Between two order statistics there is a later one. -/
theorem floor_position_lt (least : 0 ≤ q) (most : q ≤ 1) (between : position values q ≠ ⌊position values q⌋₊) :
    ⌊position values q⌋₊ < values.length - 1 := by
  refine lt_of_le_of_ne (floor_position_le values most) fun last => between (le_antisymm ?_ (Nat.floor_le (position_nonneg values least)))
  rw [last]
  exact position_le values most

theorem quantile_type7_eq (nonempty : values ≠ []) (least : 0 ≤ q) (most : q ≤ 1) :
    quantile_type7 values q = pure (interpolated values (position values q)) := by
  have some_ : 0 < values.length := List.length_pos_iff.mpr nonempty
  have read : ∀ place, place < values.length → index (ascending values) place = pure (order_statistic values (place + 1)) := by
    intro place inside
    have here : (ascending values)[place]? = some (order_statistic values (place + 1)) :=
      order_statistic_here values (Nat.succ_pos place) inside
    simp only [index, here]
  unfold quantile_type7
  rw [if_neg nonempty, if_neg (not_not.mpr ⟨least, most⟩)]
  simp only [ascending_length]
  by_cases single : values.length = 1
  · have start : position values q = 0 := by simp [position, single]
    rw [if_pos single, read 0 some_, start, interpolated_whole (by simp)]
    simp
  have floor : ⌊((values.length - 1 : Nat) : ℚ) * q⌋.toNat = ⌊position values q⌋₊ := Int.floor_toNat _
  rw [if_neg single, floor]
  have inside := floor_position_le values most
  by_cases whole : position values q = ⌊position values q⌋₊
  · have zero : ((values.length - 1 : Nat) : ℚ) * q - ⌊position values q⌋₊ = 0 := sub_eq_zero.mpr whole
    rw [if_pos zero, read _ (by omega), interpolated_whole whole]
  · have rest : ((values.length - 1 : Nat) : ℚ) * q - ⌊position values q⌋₊ ≠ 0 := fun zero => whole (sub_eq_zero.mp zero)
    have later := floor_position_lt least most whole
    rw [if_neg rest, read _ (by omega), read _ (by omega)]
    rfl

/-- The definition in the literature is the same line. -/
theorem hyndman_fan_eq (nonempty : values ≠ []) (least : 0 ≤ q) :
    hyndman_fan_type7 values q = interpolated values (position values q) := by
  have some_ : 1 ≤ values.length := List.length_pos_iff.mpr nonempty
  have shifted : (values.length : ℚ) * q + (1 - q) = position values q + 1 := by
    rw [position, Nat.cast_sub some_, Nat.cast_one]
    ring
  have floor : ⌊position values q + 1⌋.toNat = ⌊position values q⌋₊ + 1 := by
    rw [Int.floor_toNat, Nat.floor_add_one (position_nonneg values least)]
  unfold hyndman_fan_type7 interpolated
  simp only [shifted, floor]
  push_cast
  ring

/-! ### The quantile -/

/-- The type-7 quantile never panics, depends on the values only, lies between the least and the greatest,
    grows with its argument and with each value, is the textbook's quantile, and bounds from above how many
    values are below what it reaches. -/
theorem quantile_well_behaved (values : List ℚ) (q : ℚ) (nonempty : values ≠ []) (least : 0 ≤ q) (most : q ≤ 1) :
    ∃ quantile, quantile_type7 values q = pure quantile ∧ quantile = hyndman_fan_type7 values q ∧
      (∀ values' : List ℚ, values.Perm values' → quantile_type7 values' q = pure quantile) ∧
      values.minimum ≤ (quantile : WithTop ℚ) ∧ (quantile : WithBot ℚ) ≤ values.maximum ∧
      (∀ q' quantile', q ≤ q' → q' ≤ 1 → quantile_type7 values q' = pure quantile' → quantile ≤ quantile') ∧
      (∀ place value quantile', (∃ old, values[place]? = some old ∧ old ≤ value) →
        quantile_type7 (values.set place value) q = pure quantile' → quantile ≤ quantile') ∧
      ∀ value ≤ quantile, (below value values : ℤ) ≤ ⌊((values.length : ℚ) - 1) * q⌋ + 1 ∧
        (((values.length : ℚ) - 1) * q = ⌊((values.length : ℚ) - 1) * q⌋ →
          (below value values : ℤ) ≤ ⌊((values.length : ℚ) - 1) * q⌋) := by
  have some_ : 1 ≤ values.length := List.length_pos_iff.mpr nonempty
  have nonneg := position_nonneg values least
  have returned : ∀ {left right : ℚ}, (pure left : Panicking MathError ℚ) = pure right → left = right := by
    intro left right same
    exact Except.ok.inj (Option.some.inj same)
  have between := interpolated_between nonempty nonneg
  refine ⟨interpolated values (position values q), quantile_type7_eq nonempty least most,
    (hyndman_fan_eq nonempty least).symm, ?_, ?_, ?_, ?_, ?_, ?_⟩
  · intro values' perm
    have nonempty' : values' ≠ [] := fun empty => nonempty (by rw [empty] at perm; exact perm.eq_nil)
    rw [quantile_type7_eq nonempty' least most, interpolated_congr perm, position, position, perm.length_eq]
  · have lowest := List.minimum_le_of_mem' (order_statistic_mem (⌊position values q⌋₊ + 1) nonempty (Nat.succ_pos _))
    exact lowest.trans (WithTop.coe_le_coe.mpr between.1)
  · have highest := List.le_maximum_of_mem' (order_statistic_mem (⌊position values q⌋₊ + 2) nonempty (Nat.succ_pos _))
    exact (WithBot.coe_le_coe.mpr between.2).trans highest
  · intro q' quantile' le most' found
    rw [quantile_type7_eq nonempty (least.trans le) most'] at found
    rw [← returned found]
    exact interpolated_mono nonempty nonneg (mul_le_mul_of_nonneg_left le (Nat.cast_nonneg _))
  · rintro place value quantile' ⟨old, here, le⟩ found
    have larger : List.Forall₂ (· ≤ ·) values (values.set place value) := by
      refine List.forall₂_iff_get.mpr ⟨(List.length_set ..).symm, fun other inside inside' => ?_⟩
      rw [List.get_eq_getElem, List.get_eq_getElem, List.getElem_set]
      by_cases same : place = other
      · subst same
        rw [List.getElem?_eq_getElem inside] at here
        rw [if_pos rfl, Option.some.inj here]
        exact le
      · rw [if_neg same]
    have nonempty' : values.set place value ≠ [] := fun empty => nonempty (by simpa using empty)
    rw [quantile_type7_eq nonempty' least most, position, List.length_set] at found
    rw [← returned found]
    exact interpolated_raise nonempty nonneg larger
  · intro value le
    have cast : ((values.length : ℚ) - 1) * q = position values q := by
      rw [position, Nat.cast_sub some_, Nat.cast_one]
    have floor : ⌊position values q⌋ = (⌊position values q⌋₊ : ℤ) := (Int.natCast_floor_eq_floor nonneg).symm
    rw [cast, floor]
    constructor
    · rcases below_le (Nat.succ_pos _) (le.trans between.2) with few | beyond
      · exact_mod_cast few
      · have all : below value values ≤ values.length := List.countP_le_length
        exact_mod_cast all.trans (Nat.le_of_lt_succ beyond)
    · intro whole
      rw [interpolated_whole (by exact_mod_cast whole)] at le
      rcases below_le (Nat.succ_pos _) le with few | beyond
      · exact_mod_cast few
      · have inside := floor_position_le values most
        omega

/-- The median of three. -/
theorem median_of_three : ∃ quantile, quantile_type7 [3, 1, 2] (1 / 2) = pure quantile ∧
    quantile = hyndman_fan_type7 [3, 1, 2] (1 / 2) := by
  obtain ⟨quantile, found, same, _⟩ := quantile_well_behaved [3, 1, 2] (1 / 2) (by decide) (by norm_num) (by norm_num)
  exact ⟨quantile, found, same⟩

end VectorSeam.Quantiles
