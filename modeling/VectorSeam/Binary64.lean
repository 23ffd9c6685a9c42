import Mathlib

/-!
Order and equality facts about IEEE binary64 numbers, proved from the logical
model of `Float`. Comparisons never repack a number, so every fact below is read
off the IEEE ordering of two unpacked values; only the passage from `==` to
identity has to look at the stored bits.
-/

namespace VectorSeam.Binary64
open Float.Model Float.Model.UnpackedFloat

/-! ### The IEEE ordering -/

/-- The IEEE comparison of two numbers, absent exactly when one of them is NaN. -/
def ordering (a b : Float) : Option Ordering := a.toModel.unpack.compare b.toModel.unpack

theorem lt_iff {a b : Float} : a < b ↔ ordering a b = some .lt := by
  change decide (Float.Model.lt a.toModel b.toModel = true) = true ↔ _
  simp only [Float.Model.lt, UnpackedFloat.lt, ordering, decide_eq_true_eq, beq_iff_eq]

theorem le_iff {a b : Float} : a ≤ b ↔ ordering a b = some .lt ∨ ordering a b = some .eq := by
  change decide (Float.Model.le a.toModel b.toModel = true) = true ↔ _
  simp only [Float.Model.le, UnpackedFloat.le, decide_eq_true_eq, Option.any_eq_true]
  constructor
  · rintro ⟨order, found, holds⟩
    cases order with
    | lt => exact .inl found
    | eq => exact .inr found
    | gt => exact absurd holds (by decide)
  · rintro (found | found)
    · exact ⟨_, found, rfl⟩
    · exact ⟨_, found, rfl⟩

theorem beq_iff {a b : Float} : (a == b) = true ↔ ordering a b = some .eq := by
  change Float.Model.beq a.toModel b.toModel = true ↔ _
  simp only [Float.Model.beq, UnpackedFloat.beq, ordering, beq_iff_eq]

private theorem compare_isSome {u v : UnpackedFloat} (left : u.isNaN = false) (right : v.isNaN = false) :
    (u.compare v).isSome := by
  cases u with
  | notANumber => exact absurd left (by simp [UnpackedFloat.isNaN])
  | infinity s => cases v <;> cases s <;> simp_all [UnpackedFloat.compare, UnpackedFloat.isNaN]
  | zero s =>
    cases v with
    | notANumber => exact absurd right (by simp [UnpackedFloat.isNaN])
    | infinity t => cases t <;> simp [UnpackedFloat.compare]
    | zero t => simp [UnpackedFloat.compare]
    | finite t => cases t <;> simp [UnpackedFloat.compare]
  | finite s =>
    cases v with
    | notANumber => exact absurd right (by simp [UnpackedFloat.isNaN])
    | infinity t => cases t <;> simp [UnpackedFloat.compare]
    | zero t => cases s <;> simp [UnpackedFloat.compare]
    | finite t => cases s <;> cases t <;> simp [UnpackedFloat.compare]

/-- Two numbers that are not NaN are ordered. -/
theorem ordering_isSome {a b : Float} (left : a.isNaN = false) (right : b.isNaN = false) :
    ∃ order, ordering a b = some order :=
  Option.isSome_iff_exists.mp (compare_isSome left right)

private theorem compare_swap (u v : UnpackedFloat) : v.compare u = (u.compare v).map Ordering.swap := by
  cases u with
  | notANumber => cases v <;> simp [UnpackedFloat.compare]
  | infinity s =>
    cases v with
    | infinity t => cases s <;> cases t <;> rfl
    | _ => cases s <;> simp [UnpackedFloat.compare]
  | zero s =>
    cases v with
    | notANumber => simp [UnpackedFloat.compare]
    | infinity t => cases t <;> simp [UnpackedFloat.compare]
    | zero t => simp [UnpackedFloat.compare]
    | finite t => cases t <;> simp [UnpackedFloat.compare]
  | finite s m e =>
    cases v with
    | notANumber => simp [UnpackedFloat.compare]
    | infinity t => cases t <;> simp [UnpackedFloat.compare]
    | zero t => cases s <;> simp [UnpackedFloat.compare]
    | finite t n f =>
      have exponents : compare f e = (compare e f).swap := Std.OrientedCmp.eq_swap
      have mantissas : compare n m = (compare m n).swap := Std.OrientedCmp.eq_swap
      cases s <;> cases t <;>
        simp [UnpackedFloat.compare, exponents, mantissas, Ordering.swap_then]

theorem ordering_swap (a b : Float) : ordering b a = (ordering a b).map Ordering.swap :=
  compare_swap _ _

/-! ### Comparisons away from NaN -/

theorem isNaN_of_isFinite {a : Float} (finite : a.isFinite = true) : a.isNaN = false := by
  change a.toModel.unpack.isFinite = true at finite
  change a.toModel.unpack.isNaN = false
  cases shape : a.toModel.unpack with
  | notANumber => rw [shape] at finite; exact absurd finite (by simp [UnpackedFloat.isFinite])
  | _ => simp [UnpackedFloat.isNaN]

private theorem ordering_notANumber {a b : Float} (left : a.isNaN = true ∨ b.isNaN = true) : ordering a b = none := by
  have shape : ∀ f : Float, f.isNaN = true → f.toModel.unpack = .notANumber := by
    intro f isNaN
    change f.toModel.unpack.isNaN = true at isNaN
    cases found : f.toModel.unpack with
    | notANumber => rfl
    | _ => rw [found] at isNaN; simp [UnpackedFloat.isNaN] at isNaN
  rcases left with left | right
  · simp [ordering, shape a left, UnpackedFloat.compare]
  · rw [ordering, shape b right]
    cases a.toModel.unpack <;> simp [UnpackedFloat.compare]

theorem isNaN_of_lt {a b : Float} (less : a < b) : a.isNaN = false ∧ b.isNaN = false := by
  have found := lt_iff.mp less
  refine ⟨Bool.eq_false_iff.mpr fun isNaN => ?_, Bool.eq_false_iff.mpr fun isNaN => ?_⟩
  · simp [ordering_notANumber (.inl isNaN)] at found
  · simp [ordering_notANumber (.inr isNaN)] at found

theorem le_of_lt {a b : Float} (less : a < b) : a ≤ b := le_iff.mpr (.inl (lt_iff.mp less))

theorem le_of_not_lt {a b : Float} (left : a.isNaN = false) (right : b.isNaN = false) (least : ¬a < b) : b ≤ a := by
  obtain ⟨order, found⟩ := ordering_isSome left right
  rw [le_iff, ordering_swap a b, found]
  cases order with
  | lt => exact absurd (lt_iff.mpr found) least
  | eq => exact .inr rfl
  | gt => exact .inl rfl

theorem not_lt_of_le {a b : Float} (least : b ≤ a) : ¬a < b := by
  intro less
  rw [le_iff, ordering_swap a b, lt_iff.mp less] at least
  simp at least

/-- What lies between two finite numbers is finite. -/
theorem isFinite_of_between {low a high : Float} (above : low ≤ a) (below : a ≤ high) (lowFinite : low.isFinite = true)
    (highFinite : high.isFinite = true) : a.isFinite = true := by
  rw [le_iff, ordering] at above below
  change low.toModel.unpack.isFinite = true at lowFinite
  change high.toModel.unpack.isFinite = true at highFinite
  change a.toModel.unpack.isFinite = true
  cases shape : a.toModel.unpack with
  | notANumber => rw [shape] at below; simp [UnpackedFloat.compare] at below
  | infinity sign =>
    rw [shape] at above below
    cases sign with
    | positive => cases other : high.toModel.unpack <;> simp_all [UnpackedFloat.compare, UnpackedFloat.isFinite]
    | negative => cases other : low.toModel.unpack <;> simp_all [UnpackedFloat.compare, UnpackedFloat.isFinite]
  | zero sign => rfl
  | finite sign => rfl

/-! ### Identity of equal numbers -/

private theorem ofBitVec_inj {v w : BitVec 1} (same : Sign.ofBitVec v = Sign.ofBitVec w) : v = w := by
  have inverse : ∀ u : BitVec 1, (Sign.ofBitVec u).toBitVec = u := by decide
  rw [← inverse v, same, inverse w]

/-- A stored word is determined by its sign, exponent and mantissa fields. -/
private theorem eq_of_fields {b c : BitVec Format.binary64.numBits} (sign : unpackSign b = unpackSign c)
    (exponent : unpackExponent b = unpackExponent c) (mantissa : unpackMantissa b = unpackMantissa c) : b = c := by
  have split : ∀ w : BitVec Format.binary64.numBits,
      w = (unpackSign w ++ unpackExponent w ++ unpackMantissa w : BitVec Format.binary64.numBits) := by
    intro w
    simp only [unpackSign, unpackExponent, unpackMantissa, BitVec.extractLsb]
    ext i bound
    grind
  rw [split b, split c, sign, exponent, mantissa]

private theorem unpack_infinity {b : BitVec Format.binary64.numBits} {s : Sign}
    (found : unpack .binary64 b = .infinity s) :
    s = Sign.ofBitVec (unpackSign b) ∧ unpackExponent b = -1#_ ∧ unpackMantissa b = 0#_ := by
  rw [UnpackedFloat.unpack] at found
  split at found
  case isTrue exponent =>
    split at found
    case isTrue mantissa => exact ⟨(UnpackedFloat.infinity.inj found).symm, exponent, mantissa⟩
    case isFalse => cases found
  case isFalse =>
    split at found
    · split at found <;> cases found
    · cases found

theorem toNat_one_append (v : BitVec 52) : (1#1 ++ v).toNat = 2 ^ 52 + v.toNat := by
  rw [BitVec.toNat_append, ← Nat.shiftLeft_add_eq_or_of_lt v.isLt]
  simp

/-- A finite value names its fields: the implicit bit separates normal from subnormal words. -/
private theorem unpack_finite {b : BitVec Format.binary64.numBits} {s : Sign} {m : Nat} {e : Int} {pos : 0 < m}
    (found : unpack .binary64 b = .finite s m e pos) :
    s = Sign.ofBitVec (unpackSign b) ∧
      ((unpackExponent b).toNat = 0 ∧ m = (unpackMantissa b).toNat ∨
        m = 2 ^ 52 + (unpackMantissa b).toNat ∧
          e = ((unpackExponent b).toNat : Int) - (Format.binary64.exponentBias + 52 : Nat)) := by
  rw [UnpackedFloat.unpack] at found
  split at found
  · split at found <;> cases found
  · split at found
    case isTrue exponent =>
      split at found
      · cases found
      · injection found with sign mantissa
        exact ⟨sign.symm, .inl ⟨by rw [exponent]; rfl, mantissa.symm⟩⟩
    case isFalse =>
      injection found with sign mantissa exponent
      exact ⟨sign.symm, .inr ⟨by rw [← mantissa]; exact toNat_one_append _, by rw [← exponent]; rfl⟩⟩

private theorem toModel_inj {a b : Float} (same : a.toModel.toBits.toBitVec = b.toModel.toBits.toBitVec) : a = b := by
  obtain ⟨⟨left, _⟩⟩ := a
  obtain ⟨⟨right, _⟩⟩ := b
  have bits : left = right := UInt64.toBitVec_inj.mp same
  subst bits
  rfl

private theorem eq_of_unpack_infinity {a b : Float} {s : Sign} (left : a.toModel.unpack = .infinity s)
    (right : b.toModel.unpack = .infinity s) : a = b := by
  obtain ⟨signA, exponentA, mantissaA⟩ := unpack_infinity left
  obtain ⟨signB, exponentB, mantissaB⟩ := unpack_infinity right
  exact toModel_inj (eq_of_fields (ofBitVec_inj (signA.symm.trans signB)) (exponentA.trans exponentB.symm)
    (mantissaA.trans mantissaB.symm))

private theorem eq_of_unpack_finite {a b : Float} {s : Sign} {m : Nat} {e : Int} {pos : 0 < m}
    (left : a.toModel.unpack = .finite s m e pos) (right : b.toModel.unpack = .finite s m e pos) : a = b := by
  obtain ⟨signA, fieldsA⟩ := unpack_finite left
  obtain ⟨signB, fieldsB⟩ := unpack_finite right
  have boundA := (unpackMantissa a.toModel.toBits.toBitVec : BitVec Format.binary64.mantissaBitsWithoutImplicit).isLt
  have boundB := (unpackMantissa b.toModel.toBits.toBitVec : BitVec Format.binary64.mantissaBitsWithoutImplicit).isLt
  refine toModel_inj (eq_of_fields (ofBitVec_inj (signA.symm.trans signB)) (BitVec.eq_of_toNat_eq ?_)
    (BitVec.eq_of_toNat_eq ?_))
  · rcases fieldsA with ⟨exponentA, mantissaA⟩ | ⟨mantissaA, exponentA⟩ <;>
      rcases fieldsB with ⟨exponentB, mantissaB⟩ | ⟨mantissaB, exponentB⟩ <;> simp only [] at boundA boundB <;> omega
  · rcases fieldsA with ⟨exponentA, mantissaA⟩ | ⟨mantissaA, exponentA⟩ <;>
      rcases fieldsB with ⟨exponentB, mantissaB⟩ | ⟨mantissaB, exponentB⟩ <;> simp only [] at boundA boundB <;> omega

private theorem then_eq_eq {o p : Ordering} (both : o.then p = .eq) : o = .eq ∧ p = .eq := by
  cases o <;> cases p <;> simp_all [Ordering.then]

/-- Equality under `==` is identity away from the two zeros. -/
theorem eq_of_beq {a b : Float} (same : (a == b) = true) (nonzero : ∀ s, a.toModel.unpack ≠ .zero s) : a = b := by
  have found := beq_iff.mp same
  unfold ordering at found
  cases left : a.toModel.unpack with
  | notANumber => simp [left, UnpackedFloat.compare] at found
  | zero s => exact absurd left (nonzero s)
  | infinity s =>
    cases right : b.toModel.unpack with
    | infinity t =>
      have signs : s = t := by
        rw [left, right] at found
        cases s <;> cases t <;> first | rfl | (simp [UnpackedFloat.compare, compare] at found)
      exact eq_of_unpack_infinity left (signs ▸ right)
    | _ => cases s <;> simp [left, right, UnpackedFloat.compare] at found
  | finite s m e pos =>
    cases right : b.toModel.unpack with
    | notANumber => simp [left, right, UnpackedFloat.compare] at found
    | infinity t => cases t <;> simp [left, right, UnpackedFloat.compare] at found
    | zero t => cases s <;> simp [left, right, UnpackedFloat.compare] at found
    | finite t n f pos' =>
      have fields : s = t ∧ e = f ∧ m = n := by
        rw [left, right] at found
        cases s <;> cases t <;> simp only [UnpackedFloat.compare, Option.some.injEq, reduceCtorEq,
          Ordering.swap_eq_eq] at found
        all_goals
          obtain ⟨exponents, mantissas⟩ := then_eq_eq found
          exact ⟨rfl, Std.LawfulEqCmp.eq_of_compare exponents, Std.LawfulEqCmp.eq_of_compare mantissas⟩
      obtain ⟨rfl, rfl, rfl⟩ := fields
      exact eq_of_unpack_finite left right

private theorem unpack_zero_literal : (0 : Float).toModel.unpack = .zero .positive := rfl

/-- Equal numbers are identical when one of them is positive. -/
theorem eq_of_beq_of_pos {a b : Float} (same : (a == b) = true) (positive : 0 < a) : a = b := by
  refine eq_of_beq same fun s zero => ?_
  have found := lt_iff.mp positive
  rw [ordering, zero, unpack_zero_literal] at found
  simp [UnpackedFloat.compare] at found

/-- A number that is not NaN equals itself. -/
theorem beq_self {a : Float} (isNaN : a.isNaN = false) : (a == a) = true := by
  obtain ⟨order, found⟩ := ordering_isSome isNaN isNaN
  have mirrored := ordering_swap a a
  rw [found] at mirrored
  cases order with
  | eq => exact beq_iff.mpr found
  | lt => simp at mirrored
  | gt => simp at mirrored

theorem beq_symm {a b : Float} (same : (a == b) = true) : (b == a) = true := by
  rw [beq_iff, ordering_swap, beq_iff.mp same]
  rfl

/-- Comparing with a positive number is comparing the numbers themselves. -/
theorem beq_iff_eq_of_pos {a b : Float} (positive : 0 < b) : (a == b) = true ↔ a = b := by
  constructor
  · intro same
    exact (eq_of_beq_of_pos (beq_symm same) positive).symm
  · rintro rfl
    exact beq_self (isNaN_of_lt positive).2

/-! ### Transitivity -/

/-- The place of a number on the extended line: its class, and within the class the exponent before the mantissa. -/
def place : UnpackedFloat → ℤ ×ₗ ℤ ×ₗ ℤ
  | .notANumber => toLex (0, toLex (0, 0))
  | .infinity .negative => toLex (-2, toLex (0, 0))
  | .finite .negative m e _ => toLex (-1, toLex (-e, -m))
  | .zero _ => toLex (0, toLex (0, 0))
  | .finite .positive m e _ => toLex (1, toLex (e, m))
  | .infinity .positive => toLex (2, toLex (0, 0))

private theorem then_eq_lt {o p : Ordering} : o.then p = .lt ↔ o = .lt ∨ o = .eq ∧ p = .lt := by
  cases o <;> simp

private theorem compare_lt_place {u v : UnpackedFloat} (left : u.isNaN = false) (right : v.isNaN = false) :
    u.compare v = some .lt ↔ place u < place v := by
  cases u with
  | notANumber => exact absurd left (by simp [UnpackedFloat.isNaN])
  | infinity s =>
    cases v with
    | notANumber => exact absurd right (by simp [UnpackedFloat.isNaN])
    | infinity t =>
      cases s <;> cases t <;> simp [UnpackedFloat.compare, place, Prod.Lex.toLex_lt_toLex]
      decide
    | zero t => cases s <;> simp [UnpackedFloat.compare, place, Prod.Lex.toLex_lt_toLex]
    | finite t => cases s <;> cases t <;> simp [UnpackedFloat.compare, place, Prod.Lex.toLex_lt_toLex]
  | zero s =>
    cases v with
    | notANumber => exact absurd right (by simp [UnpackedFloat.isNaN])
    | infinity t => cases t <;> simp [UnpackedFloat.compare, place, Prod.Lex.toLex_lt_toLex]
    | zero t => simp [UnpackedFloat.compare, place]
    | finite t => cases t <;> simp [UnpackedFloat.compare, place, Prod.Lex.toLex_lt_toLex]
  | finite s m e =>
    cases v with
    | notANumber => exact absurd right (by simp [UnpackedFloat.isNaN])
    | infinity t => cases s <;> cases t <;> simp [UnpackedFloat.compare, place, Prod.Lex.toLex_lt_toLex]
    | zero t => cases s <;> simp [UnpackedFloat.compare, place, Prod.Lex.toLex_lt_toLex]
    | finite t n f =>
      cases s <;> cases t <;> simp [UnpackedFloat.compare, place, Prod.Lex.toLex_lt_toLex, then_eq_lt,
        Ordering.then_eq_gt, compare_lt_iff_lt, compare_gt_iff_gt]

theorem lt_iff_place {a b : Float} (left : a.isNaN = false) (right : b.isNaN = false) :
    a < b ↔ place a.toModel.unpack < place b.toModel.unpack :=
  lt_iff.trans (compare_lt_place left right)

theorem isNaN_of_le {a b : Float} (least : a ≤ b) : a.isNaN = false ∧ b.isNaN = false := by
  have found := le_iff.mp least
  refine ⟨Bool.eq_false_iff.mpr fun isNaN => ?_, Bool.eq_false_iff.mpr fun isNaN => ?_⟩
  · simp [ordering_notANumber (.inl isNaN)] at found
  · simp [ordering_notANumber (.inr isNaN)] at found

theorem le_iff_place {a b : Float} (left : a.isNaN = false) (right : b.isNaN = false) :
    a ≤ b ↔ place a.toModel.unpack ≤ place b.toModel.unpack := by
  rw [← not_lt, ← lt_iff_place right left]
  exact ⟨not_lt_of_le, le_of_not_lt right left⟩

theorem le_trans {a b c : Float} (first : a ≤ b) (second : b ≤ c) : a ≤ c := by
  have left := isNaN_of_le first
  have right := isNaN_of_le second
  exact (le_iff_place left.1 right.2).mpr
    (((le_iff_place left.1 left.2).mp first).trans ((le_iff_place right.1 right.2).mp second))

theorem lt_of_lt_of_le {a b c : Float} (first : a < b) (second : b ≤ c) : a < c := by
  have left := isNaN_of_lt first
  have right := isNaN_of_le second
  exact (lt_iff_place left.1 right.2).mpr
    (((lt_iff_place left.1 left.2).mp first).trans_le ((le_iff_place right.1 right.2).mp second))

theorem lt_of_le_of_lt {a b c : Float} (first : a ≤ b) (second : b < c) : a < c := by
  have left := isNaN_of_le first
  have right := isNaN_of_lt second
  exact (lt_iff_place left.1 right.2).mpr
    (((le_iff_place left.1 left.2).mp first).trans_lt ((lt_iff_place right.1 right.2).mp second))

end VectorSeam.Binary64
