import VectorSeam.Model
import VectorSeam.LittleEndian
import VectorSeam.Binary64

/-!
The frozen numeric primitives: exact-byte hashing, the train/holdout split, the
type-7 quantile, ef selection and the Beta-posterior confidence. The regularised
incomplete beta function is the caller's parameter `beta_reg`.
-/

namespace VectorSeam.Estimators
open VectorSeam.Model VectorSeam.LittleEndian

def FNV_OFFSET_BASIS : UInt64 := 0xcbf29ce484222325
def FNV_PRIME : UInt64 := 0x00000100000001b3
def SPLIT_BUCKETS : Nat := 10000

inductive MathError where
  | ZeroK
  | EmptyQuantile
  | InvalidQuantileProbability
  | NonFiniteQuantileValue
  | EmptyEfGrid
  | InvalidSelectionInput
  | InvalidConfidenceInput
  | InvalidTrainFraction
deriving DecidableEq, Repr

/-- A selected ef; insufficiency is decided before selection. -/
structure EfSelection where
  recommended_ef : Int
  status : RoundStatus
deriving DecidableEq

/-- Hits of the returned keys among the ground truth, both read as sets, over `k`. -/
def recall_at_k (gt_keys returned_keys : List Int) (k : Nat) : Except MathError Float :=
  if k = 0 then .error .ZeroK
  else .ok (Float.ofNat (gt_keys.dedup.filter (· ∈ returned_keys.dedup)).length / Float.ofNat k)

/-- FNV-1a over bytes, with wrapping multiplication. -/
def fnv1a64 (bytes : List UInt8) : UInt64 :=
  bytes.foldl (fun hash byte => (hash ^^^ byte.toUInt64) * FNV_PRIME) FNV_OFFSET_BASIS

/-- Rounding to the nearest integer, halves away from zero. Numbers of at least
    `2 ^ 52` in absolute value are integers already. -/
def round (x : Float) : Float :=
  if x.isFinite && x.abs < 4503599627370496.0 then
    let whole := Float.ofNat x.abs.toUInt64.toNat
    let nearest := if 0.5 ≤ x.abs - whole then whole + 1.0 else whole
    if x < 0.0 then -nearest else nearest
  else x

def split_threshold (train_fraction : Float) : Except MathError Nat :=
  if ¬ train_fraction.isFinite then .error .InvalidTrainFraction
  else
    let rounded := round (train_fraction * Float.ofNat SPLIT_BUCKETS)
    if 1.0 ≤ rounded ∧ rounded ≤ 9999.0 then .ok rounded.toUInt64.toNat else .error .InvalidTrainFraction

/-- Whether a vector hash belongs to the train split. -/
def is_train_member (vector_hash : UInt64) (split_seed : Nat) (train_fraction : Float) : Except MathError Bool := do
  let threshold ← split_threshold train_fraction
  let split_key := "s:" ++ toString split_seed ++ ":" ++ toString vector_hash.toNat
  return (fnv1a64 (utf8 split_key)).toNat % SPLIT_BUCKETS < threshold

/-- The integer whose order is the IEEE total order of the sort. -/
def total_order_key (x : Float) : Int :=
  let bits := x.toBits.toNat
  if bits < 2 ^ 63 then (bits : Int) else -((bits - 2 ^ 63 : Nat) : Int) - 1

/-- Hyndman and Fan's type-7 linear quantile. -/
def quantile_type7 (values : List Float) (q : Float) : Except MathError Float :=
  if values = [] then .error .EmptyQuantile
  else if ¬ q.isFinite ∨ ¬ (0.0 ≤ q ∧ q ≤ 1.0) then .error .InvalidQuantileProbability
  else if values.any (! ·.isFinite) then .error .NonFiniteQuantileValue
  else
    let sorted := values.insertionSort fun left right => total_order_key left ≤ total_order_key right
    if sorted.length = 1 then .ok sorted[0]!
    else
      let h := Float.ofNat (sorted.length - 1) * q
      let lower := h.toUInt64.toNat
      let fraction := h - Float.ofNat lower
      if fraction == 0.0 then .ok sorted[lower]!
      else .ok (sorted[lower]! + fraction * (sorted[lower + 1]! - sorted[lower]!))

/-- The smallest ef whose score clears the threshold, or the maximum when that one fails. -/
def select_ef (scores : BTreeMap Int Float) (threshold : Float) : Except MathError EfSelection :=
  if ¬ threshold.isFinite ∨ ¬ (0.0 ≤ threshold ∧ threshold ≤ 1.0) ∨ threshold == 0.0 ∨
      scores.toList.any fun entry => ! entry.2.isFinite || ! (0.0 ≤ entry.2 && entry.2 ≤ 1.0) then
    .error .InvalidSelectionInput
  else
    match scores.toList.getLast? with
    | none => .error .EmptyEfGrid
    | some (maximum, score) =>
      if score < threshold then .ok ⟨maximum, .TargetUnmet⟩
      else
        match scores.toList.find? fun entry => threshold ≤ entry.2 with
        | some (recommended_ef, _) => .ok ⟨recommended_ef, .Ok⟩
        | none => .ok ⟨maximum, .Ok⟩ -- unreachable: the maximum itself clears

section Confidence
variable (beta_reg : Float → Float → Float → Float)

/-- The Beta-posterior probability that at least `percentile` of the population complies,
    after `m` successes in `n` samples. -/
def compliance_confidence (n m : Nat) (percentile : Float) : Except MathError Float :=
  if n < m ∨ ¬ percentile.isFinite ∨ percentile ≤ 0.0 ∨ 1.0 ≤ percentile then .error .InvalidConfidenceInput
  else
    let successes := Float.ofNat m + 1.0
    let failures := Float.ofNat (n - m) + 1.0
    .ok (beta_reg failures successes (1.0 - percentile))

/-- The value `compliance_confidence` computes on valid input. -/
def posterior (n m : Nat) (percentile : Float) : Float :=
  beta_reg (Float.ofNat (n - m) + 1.0) (Float.ofNat m + 1.0) (1.0 - percentile)

end Confidence

/-! ### What a successful selection says -/

/-- A successful selection had a maximum score, and split on it. -/
theorem select_ef_ok {scores : BTreeMap Int Float} {threshold : Float} {selected : EfSelection}
    (found : select_ef scores threshold = .ok selected) :
    ∃ maximum score, scores.toList.getLast? = some (maximum, score) ∧
      (score < threshold ∧ selected = ⟨maximum, .TargetUnmet⟩ ∨
        threshold ≤ score ∧ selected.status = .Ok ∧
          ∃ clearing, scores.toList.find? (fun entry => decide (threshold ≤ entry.2)) =
            some (selected.recommended_ef, clearing)) := by
  unfold select_ef at found
  by_cases invalid : ¬ threshold.isFinite ∨ ¬ (0.0 ≤ threshold ∧ threshold ≤ 1.0) ∨ threshold == 0.0 ∨
      scores.toList.any fun entry => ! entry.2.isFinite || ! (0.0 ≤ entry.2 && entry.2 ≤ 1.0)
  · rw [if_pos invalid] at found; cases found
  · rw [if_neg invalid] at found
    simp only [not_or, not_not] at invalid
    obtain ⟨finite, -, -, scored⟩ := invalid
    cases last : scores.toList.getLast? with
    | none => rw [last] at found; cases found
    | some entry =>
      obtain ⟨maximum, score⟩ := entry
      rw [last] at found
      refine ⟨maximum, score, rfl, ?_⟩
      by_cases below : score < threshold
      · simp only [below, ↓reduceIte] at found
        exact .inl ⟨below, (Except.ok.inj found).symm⟩
      · -- Both numbers are finite here, so failing `<` means clearing the threshold.
        have member := List.mem_of_getLast? last
        have scoreFinite : score.isFinite = true := by
          by_contra infinite
          exact scored (List.any_eq_true.mpr ⟨_, member, by simp [Bool.eq_false_iff.mpr infinite]⟩)
        have clears : threshold ≤ score :=
          Binary64.le_of_not_lt (Binary64.isNaN_of_isFinite scoreFinite) (Binary64.isNaN_of_isFinite finite) below
        simp only [below, ↓reduceIte] at found
        cases search : scores.toList.find? (fun entry => decide (threshold ≤ entry.2)) with
        | none => exact absurd clears (by simpa using List.find?_eq_none.mp search _ member)
        | some entry =>
          obtain ⟨ef, clearing⟩ := entry
          rw [search] at found
          obtain rfl := Except.ok.inj found
          exact .inr ⟨clears, rfl, clearing, rfl⟩

theorem compliance_confidence_ok {beta_reg : Float → Float → Float → Float} {n m : Nat} {percentile confidence : Float}
    (found : compliance_confidence beta_reg n m percentile = .ok confidence) :
    confidence = posterior beta_reg n m percentile := by
  unfold compliance_confidence at found
  by_cases invalid : n < m ∨ ¬ percentile.isFinite ∨ percentile ≤ 0.0 ∨ 1.0 ≤ percentile
  · rw [if_pos invalid] at found; cases found
  · rw [if_neg invalid] at found
    exact (Except.ok.inj found).symm

/-- Whether the confidence is defined depends on the percentile only, for possible counts. -/
theorem compliance_confidence_defined {beta_reg : Float → Float → Float → Float} {n m n' m' : Nat}
    {percentile confidence : Float} (found : compliance_confidence beta_reg n m percentile = .ok confidence)
    (possible : m' ≤ n') :
    compliance_confidence beta_reg n' m' percentile = .ok (posterior beta_reg n' m' percentile) := by
  unfold compliance_confidence at found ⊢
  by_cases invalid : n < m ∨ ¬ percentile.isFinite ∨ percentile ≤ 0.0 ∨ 1.0 ≤ percentile
  · rw [if_pos invalid] at found; cases found
  · simp only [not_or] at invalid
    rw [if_neg (by simp only [not_or]; exact ⟨by omega, invalid.2⟩)]
    rfl

example : fnv1a64 (utf8 "foobar") = 0x85944171f73967e8 := by decide
example : split_threshold 0.5 = .ok 5000 := by decide
example : quantile_type7 [3.0, 1.0, 2.0] 0.5 = .ok 2.0 := by decide

end VectorSeam.Estimators
