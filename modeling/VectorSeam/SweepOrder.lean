import VectorSeam.Estimators
import VectorSeam.LittleEndian

/-!
The order in which a sample's grid is swept: a Fisher-Yates shuffle, drawn from a
generator that is seeded with the hash of the query vector and never reaches zero.
-/

namespace VectorSeam.SweepOrder
open VectorSeam.LittleEndian VectorSeam.Estimators

/-! ### The generator -/

def xor_shift_right (distance word : UInt64) : UInt64 := word ^^^ (word >>> distance)
def xor_shift_left (distance word : UInt64) : UInt64 := word ^^^ (word <<< distance)
/-- The next word of the generator. -/
def advance (state : UInt64) : UInt64 := xor_shift_right 27 (xor_shift_left 25 (xor_shift_right 12 state))
def draw (state : UInt64) : Nat := ((state * 0x2545F4914F6CDD1D) >>> 33).toNat

/-! ### The shuffle -/

/-- Both indices must be in range. -/
def swap (order : List Int) (left right : Nat) : List Int := (order.set left order[right]!).set right order[left]!

structure Shuffle where
  state : UInt64
  order : List Int

def seed (vector : List UInt32) : UInt64 := fnv1a64 (vector.flatMap fun value => to_le_bytes 4 value.toNat) ||| 1
def start (vector : List UInt32) (grid : List Int) : Shuffle := { state := seed vector, order := grid }

/-- The index that the element at an index is swapped with. -/
def partner (shuffle : Shuffle) (index : Nat) : Nat := draw (advance shuffle.state) % (index + 1)

/-- One turn of the loop. -/
def turn (shuffle : Shuffle) (index : Nat) : Shuffle :=
  { state := advance shuffle.state, order := swap shuffle.order index (partner shuffle index) }

/-- `(1..len).rev()`. -/
def indices (len : Nat) : List Nat := (List.range' 1 (len - 1)).reverse

def sweep_order (vector : List UInt32) (grid : List Int) : List Int :=
  ((indices grid.length).foldl turn (start vector grid)).order

/-! ### The generator does not degenerate -/

theorem xor_eq_zero {left right : UInt64} (same : left ^^^ right = 0) : left = right := UInt64.xor_eq_zero_iff.mp same

theorem xor_shift_right_ne_zero {word distance : UInt64} (nonzero : word ≠ 0) (moves : 0 < distance.toNat % 64) :
    xor_shift_right distance word ≠ 0 := by
  intro zero
  have fixed := congrArg UInt64.toNat (xor_eq_zero zero)
  rw [UInt64.toNat_shiftRight, Nat.shiftRight_eq_div_pow] at fixed
  have positive : 0 < word.toNat := Nat.pos_of_ne_zero fun none => nonzero (UInt64.toNat_inj.mp none)
  have smaller := Nat.div_lt_self positive (Nat.one_lt_two_pow moves.ne')
  omega

theorem xor_shift_left_ne_zero {word : UInt64} (nonzero : word ≠ 0) : xor_shift_left 25 word ≠ 0 := by
  intro zero
  have fixed : word.toNat = word.toNat * 2 ^ 25 % 2 ^ 64 := by
    have same := congrArg UInt64.toNat (xor_eq_zero zero)
    rwa [UInt64.toNat_shiftLeft, Nat.shiftLeft_eq] at same
  have positive : 0 < word.toNat := Nat.pos_of_ne_zero fun none => nonzero (UInt64.toNat_inj.mp none)
  -- A multiple of an odd number that has 64 factors of two.
  have multiple : 2 ^ 64 ∣ word.toNat * (2 ^ 25 - 1) := by
    have divides := Nat.dvd_sub_mod (word.toNat * 2 ^ 25) (n := 2 ^ 64)
    rwa [← fixed, ← Nat.mul_sub_one] at divides
  have odd : Nat.Coprime (2 ^ 64) (2 ^ 25 - 1) := by norm_num
  exact absurd (Nat.le_of_dvd positive (odd.dvd_of_dvd_mul_right multiple)) (Nat.not_le.mpr word.toNat_lt)

theorem advance_ne_zero {state : UInt64} (nonzero : state ≠ 0) : advance state ≠ 0 :=
  xor_shift_right_ne_zero (xor_shift_left_ne_zero (xor_shift_right_ne_zero nonzero (by decide))) (by decide)

theorem seed_ne_zero (vector : List UInt32) : seed vector ≠ 0 := by
  intro zero
  have bit := congrArg (fun word : UInt64 => word.toNat.testBit 0) zero
  simp [seed] at bit

/-! ### The shuffle permutes the grid -/

theorem swap_perm {order : List Int} {left right : Nat} (left_inside : left < order.length)
    (right_inside : right < order.length) : (swap order left right).Perm order := by
  rw [swap, getElem!_pos order left left_inside, getElem!_pos order right right_inside]
  exact List.set_set_perm left_inside right_inside

theorem partner_le (shuffle : Shuffle) (index : Nat) : partner shuffle index ≤ index :=
  Nat.le_of_lt_succ (Nat.mod_lt _ (Nat.succ_pos _))

/-- What holds before every turn. -/
structure Sound (grid : List Int) (shuffle : Shuffle) : Prop where
  nonzero : shuffle.state ≠ 0
  permuted : shuffle.order.Perm grid

variable {vector : List UInt32} {grid : List Int} {shuffle : Shuffle} {index : Nat}

theorem start_sound (vector : List UInt32) (grid : List Int) : Sound grid (start vector grid) :=
  ⟨seed_ne_zero vector, List.Perm.refl grid⟩

/-- Both indices of a turn are in range. -/
theorem Sound.in_range (sound : Sound grid shuffle) (inside : index < grid.length) :
    index < shuffle.order.length ∧ partner shuffle index < shuffle.order.length := by
  rw [sound.permuted.length_eq]
  exact ⟨inside, (partner_le shuffle index).trans_lt inside⟩

theorem Sound.turn (sound : Sound grid shuffle) (inside : index < grid.length) : Sound grid (turn shuffle index) :=
  ⟨advance_ne_zero sound.nonzero,
    (swap_perm (sound.in_range inside).1 (sound.in_range inside).2).trans sound.permuted⟩

theorem mem_indices {len : Nat} (member : index ∈ indices len) : index < len := by
  rw [indices, List.mem_reverse, List.mem_range'] at member
  omega

theorem Sound.turns (sound : Sound grid shuffle) {turns : List Nat} (inside : ∀ index ∈ turns, index < grid.length) :
    Sound grid (turns.foldl SweepOrder.turn shuffle) := by
  induction turns generalizing shuffle with
  | nil => exact sound
  | cons index turns ih =>
    exact ih (sound.turn (inside index List.mem_cons_self)) fun other member => inside other (List.mem_cons_of_mem _ member)

/-- The shuffle before a turn of the loop. -/
def shuffled (vector : List UInt32) (grid : List Int) (turns : Nat) : Shuffle :=
  ((indices grid.length).take turns).foldl turn (start vector grid)

theorem shuffled_sound (vector : List UInt32) (grid : List Int) (turns : Nat) : Sound grid (shuffled vector grid turns) :=
  (start_sound vector grid).turns fun _ member => mem_indices (List.mem_of_mem_take member)

theorem sweep_order_perm (vector : List UInt32) (grid : List Int) : (sweep_order vector grid).Perm grid :=
  ((start_sound vector grid).turns fun _ member => mem_indices member).permuted

example : sweep_order [0x3f800000, 0] [10, 20, 40, 80] = [20, 10, 80, 40] := by decide

end VectorSeam.SweepOrder
