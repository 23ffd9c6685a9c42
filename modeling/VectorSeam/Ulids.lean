import Mathlib

/-!
ULID identifiers: 128-bit values shown as 26 characters of Crockford's base 32.
Parsing takes either letter case and, like the shifts it is made of, keeps the low
128 bits; printing is canonical, so a printed identifier parses back to itself.
-/

namespace VectorSeam.Ulids

def ULID_LEN : Nat := 26
def ALPHABET : List Char := "0123456789ABCDEFGHJKMNPQRSTVWXYZ".toList

/-- A 128-bit identifier. -/
structure Ulid where
  value : Nat
  bounded : value < 2 ^ 128
deriving DecidableEq

/-- The last `count` base-32 digits of a value, most significant first. -/
def base32 : Nat → Nat → List Nat
  | 0, _ => []
  | count + 1, value => value / 32 ^ count % 32 :: base32 count value
def encode_char (digit : Nat) : Char := ALPHABET.getD digit '0'
/-- The value of one character, in upper or lower case. -/
def decode_char (char : Char) : Option Nat := ALPHABET.findIdx? (· == char.toUpper)
def decode_chars : List Char → Nat → Option Nat
  | [], value => some value
  | char :: rest, value =>
    match decode_char char with
    | none => none
    | some digit => decode_chars rest ((value * 32 + digit) % 2 ^ 128)

def Ulid.to_string (ulid : Ulid) : String := String.ofList ((base32 ULID_LEN ulid.value).map encode_char)
def Ulid.parse (text : String) : Option Ulid :=
  if text.toList.length ≠ ULID_LEN then none
  else
    match decode_chars text.toList 0 with
    | none => none
    | some value => some ⟨value % 2 ^ 128, Nat.mod_lt _ (by decide)⟩

theorem base32_length (count value : Nat) : (base32 count value).length = count := by
  induction count with
  | zero => rfl
  | succ count ih => simp [base32, ih]

theorem mem_base32 {count value digit : Nat} (member : digit ∈ base32 count value) : digit < 32 := by
  induction count with
  | zero => simp [base32] at member
  | succ count ih =>
    rcases List.mem_cons.mp member with rfl | later
    · exact Nat.mod_lt _ (by decide)
    · exact ih later

private theorem decode_encode : ∀ digit < 32, decode_char (encode_char digit) = some digit := by decide

/-- Reading printed digits shifts them in behind what was read before. -/
private theorem decode_base32 (count value before : Nat) (small : before < 2 ^ 128) :
    decode_chars ((base32 count value).map encode_char) before =
      some ((before * 32 ^ count + value % 32 ^ count) % 2 ^ 128) := by
  induction count generalizing before with
  | zero =>
    have kept : before % 2 ^ 128 = before := Nat.mod_eq_of_lt small
    simp only [base32, List.map_nil, decode_chars, Nat.pow_zero, Nat.mod_one, Nat.mul_one, Nat.add_zero, kept]
  | succ count ih =>
    simp only [base32, List.map_cons, decode_chars, decode_encode _ (Nat.mod_lt _ (by decide : 0 < 32))]
    rw [ih _ (Nat.mod_lt _ (by decide)), Option.some.injEq]
    have digit : value % 32 ^ (count + 1) = value / 32 ^ count % 32 * 32 ^ count + value % 32 ^ count := by
      rw [Nat.pow_succ, Nat.mod_mul]
      ring
    rw [digit, Nat.add_mod, Nat.mul_mod, Nat.mod_mod, ← Nat.mul_mod, ← Nat.add_mod]
    congr 1
    ring

/-- A printed identifier parses to itself. -/
theorem parse_to_string (ulid : Ulid) : Ulid.parse ulid.to_string = some ulid := by
  have decoded := decode_base32 ULID_LEN ulid.value 0 (by decide)
  have wide : ulid.value % 32 ^ ULID_LEN = ulid.value :=
    Nat.mod_eq_of_lt (lt_of_lt_of_le ulid.bounded (by decide))
  rw [wide, Nat.zero_mul, Nat.zero_add, Nat.mod_eq_of_lt ulid.bounded] at decoded
  unfold Ulid.parse Ulid.to_string
  rw [String.toList_ofList, if_neg (by simp [base32_length]), decoded]
  simp only [Nat.mod_eq_of_lt ulid.bounded]

theorem to_string_injective {left right : Ulid} (same : left.to_string = right.to_string) : left = right := by
  have parsed := parse_to_string left
  rw [same, parse_to_string right] at parsed
  exact (Option.some.inj parsed).symm

/-- Printed identifiers consist of letters and digits only. -/
theorem mem_to_string {ulid : Ulid} {char : Char} (member : char ∈ ulid.to_string.toList) : char ∈ ALPHABET := by
  unfold Ulid.to_string at member
  rw [String.toList_ofList] at member
  obtain ⟨digit, present, rfl⟩ := List.mem_map.mp member
  have all : ∀ digit < 32, encode_char digit ∈ ALPHABET := by decide
  exact all digit (mem_base32 present)

end VectorSeam.Ulids
