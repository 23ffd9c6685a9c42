import VectorSeam.Regex
import VectorSeam.Cohort
import VectorSeam.FrameLayout

/-!
Cohort names in the Python SDK. `_encode_name` tests the length of a name and matches a
regular expression with look-aheads. It accepts exactly the names that
`validate_cohort_name` accepts, and both accept exactly the documented grammar.
-/

namespace VectorSeam.SdkNames
open VectorSeam.Regex VectorSeam.Text VectorSeam.Cohort VectorSeam.FrameLayout VectorSeam.LittleEndian

/-! ### The pattern -/

def MAX_NAME_BYTES : Nat := 255
def U32_MAX : Nat := 0xFFFFFFFF

/-- `[A-Za-z0-9._=-]` -/
def is_name_char (char : Char) : Bool :=
  ('A' ≤ char && char ≤ 'Z') || ('a' ≤ char && char ≤ 'z') || ('0' ≤ char && char ≤ '9') ||
    char == '.' || char == '_' || char == '=' || char == '-'
/-- `(?:/|\Z)` -/
def slash_or_end : Pattern := .alt (.one (· == '/')) .finish
def name_segment_pattern : Pattern :=
  .seq (.ahead (.seq (.repeats 1 (some 63) (.one is_name_char)) slash_or_end))
    (.seq (.not_ahead (.seq (.repeats 1 (some 2) (.one (· == '.'))) slash_or_end))
      (.seq (.not_ahead (literal "window=".toList))
        (.repeats 1 none (.one is_name_char))))
def name_pattern : Pattern :=
  .seq .start (.seq name_segment_pattern
    (.seq (.repeats 0 (some 7) (.seq (.one (· == '/')) name_segment_pattern)) .finish))

inductive EncodeError where
  | NameGrammar
  | MustFitU32 (field_name : String)
  | VectorEmpty
  | VectorLenMismatch
deriving DecidableEq, Repr

def validate_u32 (field_name : String) (value : Int) : Except EncodeError Unit :=
  if 0 ≤ value ∧ value ≤ U32_MAX then .ok () else .error (.MustFitU32 field_name)

/-- Validates a frame name and gives its bytes. -/
def encode_name (name : String) : Except EncodeError Bytes :=
  if MAX_NAME_BYTES < name.length ∨ ¬fullmatch name_pattern name then .error .NameGrammar
  else do
    let name_bytes := utf8 name
    validate_u32 "name_len" name_bytes.length
    return name_bytes

/-! ### One segment -/

/-- The documented grammar of one segment. -/
structure SegmentOk (run : List Char) : Prop where
  nonempty : 1 ≤ run.length
  short : run.length ≤ 63
  allowed : run.all is_name_char
  not_dots : run ≠ ['.'] ∧ run ≠ ['.', '.']
  not_window : ¬"window=".toList <+: run

/-- What may follow a segment. -/
def Stops (rest : List Char) : Prop := rest = [] ∨ ∃ more, rest = '/' :: more

theorem slash_not_name : is_name_char '/' = false := by decide

theorem mem_slash_or_end {place : Place} : (∃ inner, inner ∈ ends slash_or_end place) ↔ Stops place.2 := by
  unfold slash_or_end Stops
  constructor
  · rintro ⟨inner, member⟩
    rcases mem_ends_alt.mp member with slash | done
    · obtain ⟨char, same, here, _⟩ := mem_ends_one.mp slash
      exact .inr ⟨inner.2, by rw [here, beq_iff_eq.mp same]⟩
    · exact .inl (mem_ends_finish.mp done).2
  · rintro (done | ⟨more, here⟩)
    · exact ⟨place, mem_ends_alt.mpr (.inr (mem_ends_finish.mpr ⟨rfl, done⟩))⟩
    · exact ⟨(place.1 + 1, more), mem_ends_alt.mpr (.inl (mem_ends_one.mpr ⟨'/', rfl, here, rfl⟩))⟩

/-- A run of name characters in front of a stop is all of the run there is. -/
theorem run_unique {run other rest left : List Char} (all : run.all is_name_char) (otherAll : other.all is_name_char)
    (stops : Stops rest) (otherStops : Stops left) (same : run ++ rest = other ++ left) : run = other := by
  have whole : ∀ {chars behind : List Char}, chars.all is_name_char → Stops behind →
      (chars ++ behind).takeWhile is_name_char = chars := by
    intro chars behind accepted ending
    have nothing : behind.takeWhile is_name_char = [] := by
      rcases ending with rfl | ⟨more, rfl⟩
      · rfl
      · rw [List.takeWhile_cons, slash_not_name]
        rfl
    rw [List.takeWhile_append_of_pos (by simpa using accepted), nothing, List.append_nil]
  rw [← whole all stops, same, whole otherAll otherStops]

/-- A look-ahead at a bounded run in front of a stop. -/
theorem run_ahead {place : Place} {accepts : Char → Bool} {most : Nat} (some_turns : 1 ≤ most) :
    (∃ inner, inner ∈ ends (.seq (.repeats 1 (some most) (.one accepts)) slash_or_end) place) ↔
      ∃ run rest, place.2 = run ++ rest ∧ 1 ≤ run.length ∧ run.length ≤ most ∧ run.all accepts ∧ Stops rest := by
  constructor
  · rintro ⟨inner, member⟩
    obtain ⟨middle, repeated, stop⟩ := mem_ends_seq.mp member
    obtain ⟨count, enough, small, turns⟩ := (mem_ends_repeats (consumes_one accepts) some_turns).mp repeated
    obtain ⟨run, here, size, all, _⟩ := mem_times_one.mp turns
    exact ⟨run, middle.2, here, by omega, by omega, all, mem_slash_or_end.mp ⟨inner, stop⟩⟩
  · rintro ⟨run, rest, here, enough, small, all, stops⟩
    obtain ⟨inner, stop⟩ := mem_slash_or_end.mpr (show Stops (place.1 + run.length, rest).2 from stops)
    refine ⟨inner, mem_ends_seq.mpr ⟨(place.1 + run.length, rest), ?_, stop⟩⟩
    exact (mem_ends_repeats (consumes_one accepts) some_turns).mpr
      ⟨run.length, enough, small, mem_times_one.mpr ⟨run, here, rfl, all, rfl⟩⟩

/-- Wherever the segment pattern ends, it has passed a nonempty run of name characters. -/
theorem mem_segment {place after : Place} : after ∈ ends name_segment_pattern place ↔
    (∃ run, place.2 = run ++ after.2 ∧ 1 ≤ run.length ∧ run.all is_name_char ∧ after.1 = place.1 + run.length) ∧
    (∃ run rest, place.2 = run ++ rest ∧ 1 ≤ run.length ∧ run.length ≤ 63 ∧ run.all is_name_char ∧ Stops rest) ∧
    (¬∃ run rest, place.2 = run ++ rest ∧ 1 ≤ run.length ∧ run.length ≤ 2 ∧ run.all (· == '.') ∧ Stops rest) ∧
    ¬"window=".toList <+: place.2 := by
  have window : (∀ inner, inner ∉ ends (literal "window=".toList) place) ↔ ¬"window=".toList <+: place.2 := by
    constructor
    · rintro absent ⟨rest, here⟩
      exact absent (place.1 + 7, rest) (mem_ends_literal.mpr ⟨here.symm, rfl⟩)
    · rintro other inner member
      exact other ⟨inner.2, (mem_ends_literal.mp member).1.symm⟩
  unfold name_segment_pattern
  rw [mem_ends_seq]
  constructor
  · rintro ⟨first, ahead, behindAhead⟩
    obtain ⟨rfl, bounded⟩ := mem_ends_ahead.mp ahead
    obtain ⟨second, dots, behindDots⟩ := mem_ends_seq.mp behindAhead
    obtain ⟨rfl, noDots⟩ := mem_ends_not_ahead.mp dots
    obtain ⟨third, reserved, turns⟩ := mem_ends_seq.mp behindDots
    obtain ⟨rfl, noWindow⟩ := mem_ends_not_ahead.mp reserved
    obtain ⟨count, enough, turns⟩ := (mem_ends_repeats_unbounded (consumes_one _)).mp turns
    obtain ⟨run, here, size, all, passed⟩ := mem_times_one.mp turns
    refine ⟨⟨run, here, by omega, all, by omega⟩, (run_ahead (by omega)).mp bounded, fun dotted => ?_, window.mp noWindow⟩
    obtain ⟨inner, found⟩ := (run_ahead (by omega)).mpr dotted
    exact noDots inner found
  · rintro ⟨⟨run, here, enough, all, passed⟩, bounded, noDots, noWindow⟩
    refine ⟨place, mem_ends_ahead.mpr ⟨rfl, (run_ahead (by omega)).mpr bounded⟩, mem_ends_seq.mpr ⟨place, ?_, ?_⟩⟩
    · exact mem_ends_not_ahead.mpr ⟨rfl, fun inner found => noDots ((run_ahead (by omega)).mp ⟨inner, found⟩)⟩
    · refine mem_ends_seq.mpr ⟨place, mem_ends_not_ahead.mpr ⟨rfl, window.mpr noWindow⟩, ?_⟩
      exact (mem_ends_repeats_unbounded (consumes_one _)).mpr
        ⟨run.length, enough, mem_times_one.mpr ⟨run, here, rfl, all, passed⟩⟩

theorem dots_short {run : List Char} (nonempty : 1 ≤ run.length) (short : run.length ≤ 2) (dots : run.all (· == '.')) :
    run = ['.'] ∨ run = ['.', '.'] := by
  rcases run with _ | ⟨first, _ | ⟨second, _ | ⟨third, rest⟩⟩⟩
  · cases nonempty
  · left
    simpa using dots
  · right
    simpa using dots
  · simp only [List.length_cons] at short
    omega

/-- The reserved marker holds no slash, so a stop cannot be part of it. -/
theorem window_in_run {run rest : List Char} (reserved : "window=".toList <+: run ++ rest) (stops : Stops rest) :
    "window=".toList <+: run := by
  obtain ⟨behind, same⟩ := reserved
  rcases List.append_eq_append_iff.mp same with ⟨more, split, _⟩ | ⟨more, split, left⟩
  · exact ⟨more, split.symm⟩
  · cases more with
    | nil =>
      rw [List.append_nil] at split
      rw [split]
    | cons char more =>
      rcases stops with rfl | ⟨others, rfl⟩
      · cases left
      · obtain ⟨rfl, _⟩ := List.cons.inj left
        have inside : '/' ∈ "window=".toList := by
          rw [split]
          simp
        exact absurd inside (by decide)

/-- In front of a stop, the segment pattern passes exactly the segments of the grammar. -/
theorem mem_segment_stop {place after : Place} (stops : Stops after.2) : after ∈ ends name_segment_pattern place ↔
    ∃ run, place.2 = run ++ after.2 ∧ SegmentOk run ∧ after.1 = place.1 + run.length := by
  rw [mem_segment]
  constructor
  · rintro ⟨⟨run, here, enough, all, passed⟩, ⟨other, rest, there, _, small, otherAll, otherStops⟩, noDots, noWindow⟩
    obtain rfl := run_unique all otherAll stops otherStops (here.symm.trans there)
    refine ⟨run, here, ⟨enough, small, all, ⟨?_, ?_⟩, fun reserved => noWindow ?_⟩, passed⟩
    · rintro rfl
      exact noDots ⟨_, _, here, by decide, by decide, by decide, stops⟩
    · rintro rfl
      exact noDots ⟨_, _, here, by decide, by decide, by decide, stops⟩
    · rw [here]
      exact reserved.trans (List.prefix_append _ _)
  · rintro ⟨run, here, ⟨enough, small, all, ⟨notDot, notDots⟩, notWindow⟩, passed⟩
    refine ⟨⟨run, here, enough, all, passed⟩, ⟨run, _, here, enough, small, all, stops⟩, ?_, ?_⟩
    · rintro ⟨dots, rest, there, some_dots, few, dotted, dotsStop⟩
      have dotsAll : dots.all is_name_char := by
        refine List.all_eq_true.mpr fun char member => ?_
        rw [beq_iff_eq.mp (List.all_eq_true.mp dotted char member)]
        rfl
      obtain rfl := run_unique all dotsAll stops dotsStop (here.symm.trans there)
      rcases dots_short some_dots few dotted with single | double
      · exact notDot single
      · exact notDots double
    · intro reserved
      rw [here] at reserved
      exact notWindow (window_in_run reserved stops)

/-! ### The whole name -/

/-- A slash and a segment behind it, as the pattern repeats them. -/
def slash_segment : Pattern := .seq (.one (· == '/')) name_segment_pattern

theorem consumes_slash_segment : Consumes (ends slash_segment) := by
  intro place next member
  obtain ⟨middle, slash, behind⟩ := mem_ends_seq.mp member
  have first := consumes_one _ place middle slash
  obtain ⟨⟨run, here, _⟩, _⟩ := mem_segment.mp behind
  rw [here, List.length_append] at first
  omega

/-- Segments with a slash in front of each. -/
def slashed (runs : List (List Char)) : List Char := runs.flatMap ('/' :: ·)

theorem stops_slashed (runs : List (List Char)) : Stops (slashed runs) := by
  cases runs with
  | nil => exact .inl rfl
  | cons run runs => exact .inr ⟨run ++ slashed runs, rfl⟩

/-- Turns that reach the end of the text pass one segment each. -/
theorem segments_of_turns {count passed : Nat} {place : Place} (reached : (passed, []) ∈ times (ends slash_segment) count place) :
    ∃ runs, runs.length = count ∧ place.2 = slashed runs ∧ ∀ run ∈ runs, SegmentOk run := by
  induction count generalizing place with
  | zero =>
    obtain rfl := List.mem_singleton.mp reached
    exact ⟨[], rfl, rfl, by simp⟩
  | succ count ih =>
    obtain ⟨next, first, later⟩ := List.mem_flatMap.mp reached
    obtain ⟨runs, size, rest, all⟩ := ih later
    obtain ⟨middle, slash, behind⟩ := mem_ends_seq.mp first
    obtain ⟨char, same, here, _⟩ := mem_ends_one.mp slash
    obtain ⟨run, there, ok, _⟩ := (mem_segment_stop (by rw [rest]; exact stops_slashed runs)).mp behind
    refine ⟨run :: runs, by rw [List.length_cons, size], ?_, List.forall_mem_cons.mpr ⟨ok, all⟩⟩
    rw [here, beq_iff_eq.mp same, there, rest]
    rfl

theorem turns_of_segments {runs : List (List Char)} (all : ∀ run ∈ runs, SegmentOk run) (start : Nat) :
    ∃ passed, (passed, []) ∈ times (ends slash_segment) runs.length (start, slashed runs) := by
  induction runs generalizing start with
  | nil => exact ⟨start, List.mem_singleton_self _⟩
  | cons run runs ih =>
    obtain ⟨ok, all⟩ := List.forall_mem_cons.mp all
    obtain ⟨passed, later⟩ := ih all (start + 1 + run.length)
    have first : (start + 1 + run.length, slashed runs) ∈ ends slash_segment (start, slashed (run :: runs)) := by
      refine mem_ends_seq.mpr ⟨(start + 1, run ++ slashed runs), mem_ends_one.mpr ⟨'/', rfl, rfl, rfl⟩, ?_⟩
      exact (mem_segment_stop (stops_slashed runs)).mpr ⟨run, rfl, ok, rfl⟩
    exact ⟨passed, List.mem_flatMap.mpr ⟨_, first, later⟩⟩

/-- The pattern matches exactly the names of one to eight segments of the grammar. -/
theorem fullmatch_name_iff {name : String} : fullmatch name_pattern name ↔
    ∃ run runs, runs.length ≤ 7 ∧ name.toList = run ++ slashed runs ∧ ∀ segment ∈ run :: runs, SegmentOk segment := by
  rw [fullmatch_iff]
  unfold name_pattern
  constructor
  · rintro ⟨passed, member⟩
    obtain ⟨first, start, afterStart⟩ := mem_ends_seq.mp member
    obtain ⟨rfl, _⟩ := mem_ends_start.mp start
    obtain ⟨second, segment, afterSegment⟩ := mem_ends_seq.mp afterStart
    obtain ⟨third, turns, finish⟩ := mem_ends_seq.mp afterSegment
    obtain ⟨same, _⟩ := mem_ends_finish.mp finish
    obtain ⟨count, _, few, reached⟩ := (mem_ends_repeats consumes_slash_segment (Nat.zero_le 7)).mp turns
    obtain ⟨runs, size, rest, all⟩ := segments_of_turns (same ▸ reached)
    obtain ⟨run, here, ok, _⟩ := (mem_segment_stop (by rw [rest]; exact stops_slashed runs)).mp segment
    exact ⟨run, runs, by omega, by rw [← rest]; exact here, List.forall_mem_cons.mpr ⟨ok, all⟩⟩
  · rintro ⟨run, runs, few, here, all⟩
    obtain ⟨ok, all⟩ := List.forall_mem_cons.mp all
    obtain ⟨passed, reached⟩ := turns_of_segments all run.length
    refine ⟨passed, mem_ends_seq.mpr ⟨_, mem_ends_start.mpr ⟨rfl, rfl⟩, mem_ends_seq.mpr ⟨(run.length, slashed runs), ?_, ?_⟩⟩⟩
    · exact (mem_segment_stop (stops_slashed runs)).mpr ⟨run, here, ok, (Nat.zero_add _).symm⟩
    · refine mem_ends_seq.mpr ⟨(passed, []), ?_, mem_ends_finish.mpr ⟨rfl, rfl⟩⟩
      exact (mem_ends_repeats consumes_slash_segment (Nat.zero_le 7)).mpr ⟨_, Nat.zero_le _, few, reached⟩

/-! ### The grammar -/

/-- The documented grammar: one to eight segments joined by slashes, at most 255 bytes in all. -/
def Grammar (name : String) : Prop :=
  ∃ segments : List String, 1 ≤ segments.length ∧ segments.length ≤ 8 ∧ name = join '/' segments ∧
    (∀ segment ∈ segments, SegmentOk segment.toList) ∧ name.utf8ByteSize ≤ 255

theorem name_char_eq (char : Char) : is_name_char char = is_allowed_segment_byte char := by
  have upper : (('A' ≤ char && char ≤ 'Z') : Bool) = char.isUpper := by
    rw [Char.isUpper, ← Bool.decide_and]
    rfl
  have lower : (('a' ≤ char && char ≤ 'z') : Bool) = char.isLower := rfl
  have digit : (('0' ≤ char && char ≤ '9') : Bool) = char.isDigit := rfl
  rw [is_name_char, is_allowed_segment_byte, Char.isAlphanum, Char.isAlpha, upper, lower, digit]
  simp only [Bool.or_assoc, Bool.or_left_comm, Bool.or_comm]

theorem name_char_ascii {char : Char} (allowed : is_name_char char) : char.val < 128 := by
  have below : ∀ {bound : UInt32}, char.val ≤ bound → bound.toNat < 128 → char.val < 128 := fun high small =>
    UInt32.lt_iff_toNat_lt.mpr (Nat.lt_of_le_of_lt (UInt32.le_iff_toNat_le.mp high) small)
  unfold is_name_char at allowed
  simp only [Bool.or_eq_true, Bool.and_eq_true, decide_eq_true_eq, beq_iff_eq] at allowed
  rcases allowed with (((((⟨_, high⟩ | ⟨_, high⟩) | ⟨_, high⟩) | rfl) | rfl) | rfl) | rfl
  · exact below (show char.val ≤ 'Z'.val from high) (by decide)
  · exact below (show char.val ≤ 'z'.val from high) (by decide)
  · exact below (show char.val ≤ '9'.val from high) (by decide)
  all_goals decide

/-- Characters below 128 take one byte each. -/
theorem ascii_size {chars : List Char} (ascii : ∀ char ∈ chars, char.val < 128) :
    (String.ofList chars).utf8ByteSize = chars.length := by
  rw [String.utf8ByteSize_ofList]
  induction chars with
  | nil => rfl
  | cons char rest ih =>
    obtain ⟨first, others⟩ := List.forall_mem_cons.mp ascii
    have one : char.utf8Size = 1 := Char.utf8Size_eq_one_iff.mpr (by
      have bound := UInt32.lt_iff_toNat_lt.mp first
      exact UInt32.le_iff_toNat_le.mpr (Nat.le_of_lt_succ bound))
    rw [String.utf8Len, ih others, one]
    rfl

theorem ascii_utf8_size (text : String) (ascii : ∀ char ∈ text.toList, char.val < 128) :
    text.utf8ByteSize = text.toList.length := by
  have size := ascii_size ascii
  rwa [String.ofList_toList] at size

theorem SegmentOk.ascii {run : List Char} (ok : SegmentOk run) : ∀ char ∈ run, char.val < 128 :=
  fun char member => name_char_ascii (List.all_eq_true.mp ok.allowed char member)

theorem SegmentOk.no_slash {run : List Char} (ok : SegmentOk run) : '/' ∉ run := by
  intro member
  have allowed := List.all_eq_true.mp ok.allowed '/' member
  rw [slash_not_name] at allowed
  cases allowed

theorem validate_segment_iff {segment : String} : validate_segment segment = .ok () ↔ SegmentOk segment.toList := by
  have dot : segment = "." ↔ segment.toList = ['.'] := by
    rw [← String.toList_inj]
    rfl
  have dots : segment = ".." ↔ segment.toList = ['.', '.'] := by
    rw [← String.toList_inj]
    rfl
  have classes : segment.toList.all is_allowed_segment_byte = segment.toList.all is_name_char :=
    List.all_congr rfl fun char => (name_char_eq char).symm
  have window : starts_with "window=" segment = true ↔ "window=".toList <+: segment.toList := by
    rw [starts_with, List.isPrefixOf_iff_prefix]
  unfold validate_segment
  simp only [dot, dots, window, classes]
  constructor
  · intro accepted
    by_cases empty : segment.toList = []
    · rw [if_pos empty] at accepted; cases accepted
    rw [if_neg empty] at accepted
    by_cases long : MAX_COHORT_SEGMENT_BYTES < segment.utf8ByteSize
    · rw [if_pos long] at accepted; cases accepted
    rw [if_neg long] at accepted
    by_cases dotted : segment.toList = ['.'] ∨ segment.toList = ['.', '.']
    · rw [if_pos dotted] at accepted; cases accepted
    rw [if_neg dotted] at accepted
    by_cases reserved : "window=".toList <+: segment.toList
    · rw [if_pos reserved] at accepted; cases accepted
    rw [if_neg reserved] at accepted
    by_cases allowed : segment.toList.all is_name_char
    · have size := ascii_utf8_size segment fun char member =>
        name_char_ascii (List.all_eq_true.mp allowed char member)
      rw [size] at long
      exact ⟨List.length_pos_iff.mpr empty, not_lt.mp long, allowed, not_or.mp dotted, reserved⟩
    · rw [if_neg allowed] at accepted; cases accepted
  · intro ok
    have size := ascii_utf8_size segment ok.ascii
    have short := ok.short
    rw [if_neg (List.length_pos_iff.mp ok.nonempty), if_neg (by rw [size]; exact not_lt.mpr short),
      if_neg (not_or.mpr ok.not_dots), if_neg ok.not_window, if_pos ok.allowed]

theorem intercalate_slash (run : List Char) (runs : List (List Char)) :
    ['/'].intercalate (run :: runs) = run ++ slashed runs := by
  induction runs generalizing run with
  | nil => simp [slashed]
  | cons next runs ih =>
    have step : ['/'].intercalate (run :: next :: runs) = run ++ '/' :: ['/'].intercalate (next :: runs) := by
      simp [List.intercalate, List.intersperse]
    rw [step, ih next]
    rfl

theorem slashed_ascii {runs : List (List Char)} (all : ∀ run ∈ runs, SegmentOk run) :
    ∀ char ∈ slashed runs, char.val < 128 := by
  intro char member
  obtain ⟨run, runMember, inside⟩ := List.mem_flatMap.mp member
  rcases List.mem_cons.mp inside with rfl | within
  · decide
  · exact (all run runMember).ascii char within

/-- The shape shared by both readings of the grammar. -/
theorem grammar_iff {name : String} : Grammar name ↔ name.utf8ByteSize ≤ 255 ∧
    ∃ run runs, runs.length ≤ 7 ∧ name.toList = run ++ slashed runs ∧ ∀ segment ∈ run :: runs, SegmentOk segment := by
  constructor
  · rintro ⟨segments, some_segment, few, rfl, all, short⟩
    cases segments with
    | nil => cases some_segment
    | cons first rest =>
      rw [List.length_cons] at few
      refine ⟨short, first.toList, rest.map String.toList, by rw [List.length_map]; omega, ?_, ?_⟩
      · rw [join, String.toList_ofList, List.map_cons, intercalate_slash]
      · intro segment member
        rw [← List.map_cons] at member
        obtain ⟨source, sourceMember, rfl⟩ := List.mem_map.mp member
        exact all source sourceMember
  · rintro ⟨short, run, runs, few, here, all⟩
    have lists : ((run :: runs).map String.ofList).map String.toList = run :: runs := by
      rw [List.map_map]
      exact List.map_congr_left (fun chars _ => String.toList_ofList) |>.trans (List.map_id _)
    refine ⟨(run :: runs).map String.ofList, ?_, ?_, ?_, ?_, short⟩
    · rw [List.length_map, List.length_cons]
      omega
    · rw [List.length_map, List.length_cons]
      omega
    · rw [join, lists, intercalate_slash, ← here, String.ofList_toList]
    · intro segment member
      obtain ⟨chars, charsMember, rfl⟩ := List.mem_map.mp member
      rw [String.toList_ofList]
      exact all chars charsMember

theorem grammar_ascii {name : String} {run : List Char} {runs : List (List Char)} (here : name.toList = run ++ slashed runs)
    (all : ∀ segment ∈ run :: runs, SegmentOk segment) : ∀ char ∈ name.toList, char.val < 128 := by
  obtain ⟨ok, all⟩ := List.forall_mem_cons.mp all
  intro char member
  rw [here] at member
  rcases List.mem_append.mp member with first | rest
  · exact ok.ascii char first
  · exact slashed_ascii all char rest

theorem validate_cohort_name_iff {name : String} : validate_cohort_name name = .ok () ↔ Grammar name := by
  constructor
  · intro accepted
    have valid := validate_cohort_name_ok accepted
    unfold validate_cohort_name at accepted
    rw [if_neg valid.nonempty, if_neg (not_lt.mpr valid.short), if_neg (by simpa using valid.ascii)] at accepted
    by_cases many : MAX_COHORT_SEGMENTS < (split_on '/' name).length
    · rw [if_pos many] at accepted; cases accepted
    rw [if_neg many] at accepted
    refine ⟨split_on '/' name, List.length_pos_iff.mpr (split_on_ne_nil _ _), not_lt.mp many, (join_split_on _ _).symm,
      fun segment member => ?_, valid.short⟩
    exact validate_segment_iff.mp (Results.forM_ok.mp accepted segment member)
  · intro grammar
    obtain ⟨_, run, runs, _, here, allRuns⟩ := grammar_iff.mp grammar
    have ascii := grammar_ascii here allRuns
    have nonempty : name.toList ≠ [] := by
      rw [here]
      intro empty
      have size := (allRuns run List.mem_cons_self).nonempty
      rw [(List.append_eq_nil_iff.mp empty).1] at size
      cases size
    obtain ⟨segments, some_segment, few, rfl, all, short⟩ := grammar
    have split := split_on_join (List.length_pos_iff.mp some_segment) fun segment member => (all segment member).no_slash
    have within : ¬MAX_COHORT_NAME_BYTES < (join '/' segments).utf8ByteSize := not_lt.mpr short
    have counted : ¬MAX_COHORT_SEGMENTS < segments.length := not_lt.mpr few
    unfold validate_cohort_name
    rw [if_neg nonempty, if_neg within, if_neg (by simpa using ascii), split, if_neg counted]
    exact Results.forM_ok.mpr fun segment member => validate_segment_iff.mpr (all segment member)

theorem encode_name_ok {name : String} {name_bytes : Bytes} :
    encode_name name = .ok name_bytes ↔ Grammar name ∧ name_bytes = utf8 name := by
  rw [grammar_iff, ← fullmatch_name_iff]
  unfold encode_name
  constructor
  · intro found
    by_cases wrong : MAX_NAME_BYTES < name.length ∨ ¬fullmatch name_pattern name
    · rw [if_pos wrong] at found; cases found
    rw [if_neg wrong] at found
    obtain ⟨short, matched⟩ := not_or.mp wrong
    rw [not_not] at matched
    obtain ⟨run, runs, _, here, all⟩ := fullmatch_name_iff.mp matched
    obtain ⟨_, built⟩ := Results.check_ok.mp found
    refine ⟨⟨?_, matched⟩, (Except.ok.inj built).symm⟩
    rw [ascii_utf8_size name (grammar_ascii here all)]
    exact not_lt.mp short
  · rintro ⟨⟨short, matched⟩, rfl⟩
    obtain ⟨run, runs, _, here, all⟩ := fullmatch_name_iff.mp matched
    have size := ascii_utf8_size name (grammar_ascii here all)
    have bytes : (utf8 name).length ≤ 255 := short
    have length : ¬MAX_NAME_BYTES < name.length := by
      rw [size] at short
      exact not_lt.mpr short
    rw [if_neg (not_or.mpr ⟨length, not_not.mpr matched⟩)]
    refine Results.check_ok.mpr ⟨?_, rfl⟩
    rw [validate_u32, if_pos]
    simp only [U32_MAX]
    omega

/-- One cohort grammar: the SDK and the collector accept the same names, and these are the documented ones. -/
theorem one_cohort_grammar (name : String) :
    ((∃ name_bytes, encode_name name = .ok name_bytes) ↔ validate_cohort_name name = .ok ()) ∧
      (validate_cohort_name name = .ok () ↔ Grammar name) := by
  refine ⟨?_, validate_cohort_name_iff⟩
  rw [validate_cohort_name_iff]
  constructor
  · rintro ⟨name_bytes, found⟩
    exact (encode_name_ok.mp found).1
  · intro grammar
    exact ⟨_, encode_name_ok.mpr ⟨grammar, rfl⟩⟩

end VectorSeam.SdkNames
