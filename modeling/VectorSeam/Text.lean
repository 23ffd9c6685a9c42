import Mathlib

/-!
Strings read as lists of characters: splitting at a separator, stripping a fixed
start or end, and decimal numerals. Printing is Lean's own `toString`; the readers
below follow the usual bounded integer grammar (an optional sign, then at least one
digit, then a range check) and read every printed number back.
-/

namespace VectorSeam.Text

/-- The pieces of a text between occurrences of one separator, empty pieces included. -/
def split_on (separator : Char) (text : String) : List String :=
  (text.toList.splitOn separator).map String.ofList
/-- The pieces joined by one separator. -/
def join (separator : Char) (pieces : List String) : String :=
  String.ofList ([separator].intercalate (pieces.map String.toList))
def starts_with (start text : String) : Bool := start.toList.isPrefixOf text.toList
/-- What follows the given start, when the text begins with it. -/
def strip_start (start text : String) : Option String :=
  if start.toList <+: text.toList then some (String.ofList (text.toList.drop start.toList.length)) else none
/-- What precedes the given end, when the text finishes with it. -/
def strip_end (finish text : String) : Option String :=
  if finish.toList <:+ text.toList then
    some (String.ofList (text.toList.take (text.toList.length - finish.toList.length))) else none

theorem split_on_join {separator : Char} {pieces : List String} (nonempty : pieces ≠ [])
    (absent : ∀ piece ∈ pieces, separator ∉ piece.toList) : split_on separator (join separator pieces) = pieces := by
  have clean : ∀ piece ∈ pieces.map String.toList, separator ∉ piece := by
    intro piece member
    obtain ⟨source, present, rfl⟩ := List.mem_map.mp member
    exact absent source present
  rw [split_on, join, String.toList_ofList, List.splitOn_intercalate separator clean (by simpa using nonempty),
    List.map_map]
  simp [Function.comp_def]

theorem join_split_on (separator : Char) (text : String) : join separator (split_on separator text) = text := by
  rw [join, split_on, List.map_map]
  simp [Function.comp_def, List.intercalate_splitOn]

theorem split_on_ne_nil (separator : Char) (text : String) : split_on separator text ≠ [] := by
  simp [split_on, List.splitOn_ne_nil]

theorem strip_start_append (start rest : String) : strip_start start (start ++ rest) = some rest := by
  simp [strip_start]

theorem strip_end_append (rest finish : String) : strip_end finish (rest ++ finish) = some rest := by
  simp [strip_end]

theorem strip_start_iff {start text rest : String} : strip_start start text = some rest ↔ text = start ++ rest := by
  refine ⟨fun found => ?_, fun whole => whole ▸ strip_start_append start rest⟩
  unfold strip_start at found
  by_cases begins : start.toList <+: text.toList
  · rw [if_pos begins] at found
    obtain ⟨tail, whole⟩ := begins
    rw [← whole, List.drop_left] at found
    refine String.toList_inj.mp ?_
    rw [← Option.some.inj found, String.toList_append, String.toList_ofList, whole]
  · rw [if_neg begins] at found
    cases found

theorem strip_end_iff {finish text rest : String} : strip_end finish text = some rest ↔ text = rest ++ finish := by
  refine ⟨fun found => ?_, fun whole => whole ▸ strip_end_append rest finish⟩
  unfold strip_end at found
  by_cases ends : finish.toList <:+ text.toList
  · rw [if_pos ends] at found
    obtain ⟨front, whole⟩ := ends
    rw [← whole, List.length_append, Nat.add_sub_cancel, List.take_left] at found
    refine String.toList_inj.mp ?_
    rw [← Option.some.inj found, String.toList_append, String.toList_ofList, whole]
  · rw [if_neg ends] at found
    cases found

/-! ### Decimal numerals -/

/-- The value of a nonempty list of decimal digits. -/
def parse_digits (digits : List Char) : Option Nat :=
  if digits ≠ [] ∧ digits.all Char.isDigit = true then some (Nat.ofDigitChars 10 digits 0) else none
/-- Reads an unsigned number below the bound; one leading plus sign is accepted. -/
def parse_unsigned (bound : Nat) (text : String) : Option Nat :=
  let digits := match text.toList with
    | '+' :: rest => rest
    | all => all
  (parse_digits digits).filter (· < bound)
/-- Reads a signed number of at least `-bound` and below `bound`. -/
def parse_signed (bound : Nat) (text : String) : Option Int :=
  match text.toList with
  | '-' :: rest => ((parse_digits rest).filter (· ≤ bound)).map fun value => -(value : Int)
  | '+' :: rest => ((parse_digits rest).filter (· < bound)).map fun value => (value : Int)
  | all => ((parse_digits all).filter (· < bound)).map fun value => (value : Int)

theorem parse_digits_toDigits (n : Nat) : parse_digits (Nat.toDigits 10 n) = some n := by
  have digits : (Nat.toDigits 10 n).all Char.isDigit = true :=
    List.all_eq_true.mpr fun digit member => Nat.isDigit_of_mem_toDigits (by decide) (by decide) member
  rw [parse_digits, if_pos ⟨Nat.toDigits_ne_nil, digits⟩, Nat.ofDigitChars_ten_toDigits]

private theorem toList_negSucc (value : Nat) :
    (toString (Int.negSucc value)).toList = '-' :: Nat.toDigits 10 (value + 1) := by
  change ("-" ++ Nat.repr (value + 1)).toList = _
  rw [String.toList_append, Nat.toList_repr]
  rfl

/-- A numeral starts with a digit, hence with neither sign. -/
private theorem toDigits_head (n : Nat) : ∃ digit rest, Nat.toDigits 10 n = digit :: rest ∧ digit.isDigit := by
  cases shape : Nat.toDigits 10 n with
  | nil => exact absurd shape Nat.toDigits_ne_nil
  | cons digit rest =>
    exact ⟨digit, rest, rfl, Nat.isDigit_of_mem_toDigits (by decide) (by decide) (shape ▸ List.mem_cons_self)⟩

theorem parse_unsigned_toString (bound n : Nat) : parse_unsigned bound (toString n) = if n < bound then some n else none := by
  obtain ⟨digit, rest, shape, isDigit⟩ := toDigits_head n
  have plus : digit ≠ '+' := by rintro rfl; simp at isDigit
  have printed : (toString n).toList = digit :: rest := by rw [← shape]; exact Nat.toList_repr
  rw [parse_unsigned, printed]
  split
  · rename_i head; exact absurd (List.cons.inj head).1 plus
  · rw [← shape, parse_digits_toDigits, Option.filter_some]
    simp

theorem parse_signed_toString (bound : Nat) (n : Int) :
    parse_signed bound (toString n) = if -(bound : Int) ≤ n ∧ n < bound then some n else none := by
  cases n with
  | ofNat value =>
    obtain ⟨digit, rest, shape, isDigit⟩ := toDigits_head value
    have plus : digit ≠ '+' := by rintro rfl; simp at isDigit
    have minus : digit ≠ '-' := by rintro rfl; simp at isDigit
    have printed : (toString (Int.ofNat value)).toList = digit :: rest := by rw [← shape]; exact Nat.toList_repr
    have range : -(bound : Int) ≤ Int.ofNat value ∧ Int.ofNat value < bound ↔ value < bound := by
      simp only [Int.ofNat_eq_natCast]
      omega
    rw [parse_signed, printed]
    split
    · rename_i head; exact absurd (List.cons.inj head).1 minus
    · rename_i head; exact absurd (List.cons.inj head).1 plus
    · rw [← shape, parse_digits_toDigits, Option.filter_some]
      by_cases small : value < bound
      · simp only [small, decide_true, ↓reduceIte, range.mpr small]
        rfl
      · simp only [small, decide_false, Bool.false_eq_true, ↓reduceIte, mt range.mp small]
        rfl
  | negSucc value =>
    have range : -(bound : Int) ≤ Int.negSucc value ∧ Int.negSucc value < bound ↔ value + 1 ≤ bound := by omega
    rw [parse_signed, toList_negSucc]
    simp only [parse_digits_toDigits, Option.filter_some]
    by_cases small : value + 1 ≤ bound
    · simp only [small, decide_true, ↓reduceIte, range.mpr small]
      rfl
    · simp only [small, decide_false, Bool.false_eq_true, ↓reduceIte, mt range.mp small]
      rfl

/-- A printed integer holds digits and perhaps a sign, hence none of the usual separators. -/
theorem not_mem_toString {separator : Char} (n : Int) (other : separator.isDigit = false) (sign : separator ≠ '-') :
    separator ∉ (toString n).toList := by
  have digits : ∀ m : Nat, separator ∉ Nat.toDigits 10 m := by
    intro m member
    rw [Nat.isDigit_of_mem_toDigits (by decide) (by decide) member] at other
    cases other
  cases n with
  | ofNat value =>
    have printed : (toString (Int.ofNat value)).toList = Nat.toDigits 10 value := Nat.toList_repr
    rw [printed]
    exact digits value
  | negSucc value =>
    rw [toList_negSucc, List.mem_cons]
    rintro (same | member)
    · exact sign same
    · exact digits _ member

end VectorSeam.Text
