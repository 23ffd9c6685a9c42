import Mathlib

/-!
Byte buffers: little-endian integers of a fixed byte width, reading them at an offset of a
buffer, and the bytes of a text.
-/

namespace VectorSeam.LittleEndian

abbrev Bytes := List UInt8

/-- The UTF-8 bytes of a text. -/
def utf8 (text : String) : Bytes := text.toUTF8.data.toList

/-- The low `width` bytes of a value, least significant first. -/
def to_le_bytes : Nat → Nat → Bytes
  | 0, _ => []
  | width + 1, value => UInt8.ofNat (value % 256) :: to_le_bytes width (value / 256)
def from_le_bytes : Bytes → Nat
  | [] => 0
  | byte :: rest => byte.toNat + 256 * from_le_bytes rest

@[simp] theorem length_to_le_bytes (width value : Nat) : (to_le_bytes width value).length = width := by
  induction width generalizing value with
  | zero => rfl
  | succ width ih => simp [to_le_bytes, ih]

theorem from_to_le_bytes {width value : Nat} (fits : value < 256 ^ width) :
    from_le_bytes (to_le_bytes width value) = value := by
  induction width generalizing value with
  | zero => simp at fits; simp [to_le_bytes, from_le_bytes, fits]
  | succ width ih =>
    have rest : value / 256 < 256 ^ width := by
      rw [Nat.pow_succ] at fits
      exact Nat.div_lt_of_lt_mul (by rwa [Nat.mul_comm] at fits)
    have digit : (UInt8.ofNat (value % 256)).toNat = value % 256 := by simp
    rw [to_le_bytes, from_le_bytes, ih rest, digit]
    omega

theorem from_le_bytes_lt (bytes : Bytes) : from_le_bytes bytes < 256 ^ bytes.length := by
  induction bytes with
  | nil => simp [from_le_bytes]
  | cons byte rest ih =>
    have small := byte.toNat_lt
    rw [from_le_bytes, List.length_cons, Nat.pow_succ]
    omega

theorem to_from_le_bytes (bytes : Bytes) : to_le_bytes bytes.length (from_le_bytes bytes) = bytes := by
  induction bytes with
  | nil => rfl
  | cons byte rest ih =>
    have small := byte.toNat_lt
    have low : (byte.toNat + 256 * from_le_bytes rest) % 256 = byte.toNat := by omega
    have high : (byte.toNat + 256 * from_le_bytes rest) / 256 = from_le_bytes rest := by omega
    rw [List.length_cons, to_le_bytes, from_le_bytes, low, high, ih, UInt8.ofNat_toNat]

/-! ### Reading at an offset -/

/-- The `width` bytes at an offset, when the buffer holds them. -/
def read_exact (buffer : Bytes) (offset width : Nat) : Option Bytes :=
  if offset + width ≤ buffer.length then some ((buffer.drop offset).take width) else none
/-- The integer of `width` bytes at an offset. -/
def read_le (width : Nat) (buffer : Bytes) (offset : Nat) : Option Nat :=
  (read_exact buffer offset width).map from_le_bytes

theorem read_exact_append {before field after : Bytes} {offset width : Nat} (start : before.length = offset)
    (size : field.length = width) : read_exact (before ++ (field ++ after)) offset width = some field := by
  subst start size
  simp [read_exact]

theorem read_le_append {before after : Bytes} {offset width value : Nat} (start : before.length = offset)
    (fits : value < 256 ^ width) : read_le width (before ++ (to_le_bytes width value ++ after)) offset = some value := by
  rw [read_le, read_exact_append start (length_to_le_bytes width value), Option.map_some, from_to_le_bytes fits]

/-- A field that was read stands at its offset, and what follows it starts `width` bytes later. -/
theorem read_le_drop {width offset value : Nat} {buffer : Bytes} (found : read_le width buffer offset = some value) :
    buffer.drop offset = to_le_bytes width value ++ buffer.drop (offset + width) := by
  obtain ⟨field, read, rfl⟩ := Option.map_eq_some_iff.mp found
  unfold read_exact at read
  by_cases fits : offset + width ≤ buffer.length
  · rw [if_pos fits] at read
    obtain rfl := Option.some.inj read
    have size : ((buffer.drop offset).take width).length = width := by
      rw [List.length_take, List.length_drop, Nat.min_eq_left (by omega)]
    have field := to_from_le_bytes ((buffer.drop offset).take width)
    rw [size] at field
    rw [field, ← List.drop_drop, List.take_append_drop]
  · rw [if_neg fits] at read
    cases read

theorem read_le_of_drop {width offset value : Nat} {buffer after : Bytes} (some_bytes : 0 < width)
    (here : buffer.drop offset = to_le_bytes width value ++ after) (fits : value < 256 ^ width) :
    read_le width buffer offset = some value := by
  have size := congrArg List.length here
  rw [List.length_drop, List.length_append, length_to_le_bytes] at size
  have start : (buffer.take offset).length = offset := by
    rw [List.length_take, Nat.min_eq_left (by omega)]
  have split : buffer = buffer.take offset ++ (to_le_bytes width value ++ after) := by
    rw [← here, List.take_append_drop]
  rw [split]
  exact read_le_append start fits

theorem read_le_lt {width offset value : Nat} {buffer : Bytes} (found : read_le width buffer offset = some value) :
    value < 256 ^ width := by
  obtain ⟨field, read, rfl⟩ := Option.map_eq_some_iff.mp found
  unfold read_exact at read
  by_cases fits : offset + width ≤ buffer.length
  · rw [if_pos fits] at read
    obtain rfl := Option.some.inj read
    have bound := from_le_bytes_lt ((buffer.drop offset).take width)
    rwa [List.length_take, List.length_drop, Nat.min_eq_left (by omega)] at bound
  · rw [if_neg fits] at read
    cases read

end VectorSeam.LittleEndian
