import VectorSeam.Calendar
import VectorSeam.Pipeline

/-!
The keys of everything that the collector and the tuner store. A validated name is
its own list of path segments, none of which carries the reserved window marker;
the marker therefore ends the cohort in every key below a window, whatever the other
segments of the two names look like.
-/

namespace VectorSeam.Keys
open VectorSeam.Text VectorSeam.Cohort VectorSeam.Ulids VectorSeam.Window VectorSeam.ObjectStore VectorSeam.Pipeline
open VectorSeam.Calendar

/-! ### Lists cut at a marker -/

section Marked
variable {α : Type} {marked : α → Prop} {left right back back' : List α} {mark mark' : α}

/-- Fronts without marks end at the same place when one marked list begins the other. -/
theorem marked_prefix (cleanLeft : ∀ item ∈ left, ¬marked item) (cleanRight : ∀ item ∈ right, ¬marked item)
    (isMark : marked mark) (isMark' : marked mark') (begins : left ++ mark :: back <+: right ++ mark' :: back') :
    left = right ∧ mark = mark' ∧ back <+: back' := by
  induction left generalizing right with
  | nil =>
    cases right with
    | nil =>
      obtain ⟨same, rest⟩ := List.cons_prefix_cons.mp begins
      exact ⟨rfl, same, rest⟩
    | cons item rest =>
      obtain ⟨same, _⟩ := List.cons_prefix_cons.mp begins
      exact absurd (same ▸ isMark) (cleanRight item (by simp))
  | cons item rest ih =>
    cases right with
    | nil =>
      obtain ⟨same, _⟩ := List.cons_prefix_cons.mp begins
      exact absurd (same ▸ isMark') (cleanLeft item (by simp))
    | cons other others =>
      obtain ⟨rfl, tail⟩ := List.cons_prefix_cons.mp begins
      obtain ⟨rfl, marks, backs⟩ := ih (fun found member => cleanLeft found (List.mem_cons_of_mem _ member))
        (fun found member => cleanRight found (List.mem_cons_of_mem _ member)) tail
      exact ⟨rfl, marks, backs⟩

end Marked

/-! ### The segments of a name -/

def segments (cohort : CohortName) : List String := split_on '/' cohort.name
/-- The reserved marker of the storage layout. -/
def Marker (segment : String) : Prop := starts_with "window=" segment = true

theorem marker_window (timestamp : String) : Marker ("window=" ++ timestamp) := by
  simp [Marker, starts_with]

theorem segments_clean (cohort : CohortName) : ∀ segment ∈ segments cohort, ¬Marker segment := by
  intro segment member isMark
  have valid := cohort.nameValid.segments segment member
  rw [Marker, valid.not_window] at isMark
  cases isMark

theorem segments_injective {left right : CohortName} (same : segments left = segments right) : left = right := by
  apply CohortName.ext
  rw [← join_split_on '/' left.name, ← join_split_on '/' right.name]
  exact congrArg (join '/') same

private theorem plain_of_allowed_nat : ∀ n < 128, is_allowed_segment_byte (Char.ofNat n) = true →
    is_plain (Char.ofNat n) = true := by decide

private theorem allowed_ascii {char : Char} (allowed : is_allowed_segment_byte char = true) : char.toNat < 128 := by
  unfold is_allowed_segment_byte Char.isAlphanum Char.isAlpha Char.isUpper Char.isLower Char.isDigit at allowed
  simp only [Bool.or_eq_true, Bool.and_eq_true, decide_eq_true_eq, beq_iff_eq, ge_iff_le, UInt32.le_iff_toNat_le] at allowed
  rcases allowed with ((((((⟨_, upper⟩ | ⟨_, upper⟩) | ⟨_, upper⟩) | rfl) | rfl) | rfl) | rfl)
  · simp at upper; omega
  · simp at upper; omega
  · simp at upper; omega
  all_goals decide

theorem is_plain_of_allowed {char : Char} (allowed : is_allowed_segment_byte char = true) : is_plain char = true := by
  have same : Char.ofNat char.toNat = char := Char.ofNat_toNat char
  rw [← same]
  exact plain_of_allowed_nat char.toNat (allowed_ascii allowed) (by rw [same]; exact allowed)

/-- A validated name is stored under its own segments. -/
theorem name_parts (cohort : CohortName) : (Path.from_text cohort.name).parts = segments cohort := by
  have valid := cohort.nameValid.segments
  have kept : (segments cohort).filter (· ≠ "") = segments cohort := by
    refine List.filter_eq_self.mpr fun segment member => ?_
    have nonempty := (valid segment member).nonempty
    simp only [ne_eq, decide_not, Bool.not_eq_true', decide_eq_false_iff_not]
    rintro rfl
    exact nonempty rfl
  have encoded : (segments cohort).map encode_part = segments cohort := by
    refine (List.map_congr_left fun segment member => ?_).trans (List.map_id _)
    have segmentValid := valid segment member
    exact encode_part_plain (fun char present => is_plain_of_allowed (segmentValid.allowed char present))
      segmentValid.not_dot.1 segmentValid.not_dot.2
  change ((segments cohort).filter (· ≠ "")).map encode_part = segments cohort
  rw [kept, encoded]

/-! ### Plain file names -/

/-- All characters of the text may stand in a segment. -/
def Allowed (text : String) : Prop := text.toList.all is_allowed_segment_byte = true

/-- A text of allowed characters that is longer than `..` is one path segment. -/
theorem plain_segment {text : String} (long : 2 < text.toList.length) (allowed : Allowed text) : PlainSegment text := by
  refine ⟨?_, List.all_eq_true.mpr fun char member => is_plain_of_allowed (List.all_eq_true.mp allowed char member), ?_, ?_⟩
  all_goals
    rintro rfl
    revert long
    decide

private theorem allowed_timestamp {window_start : Nat} {timestamp : String}
    (found : format_window_timestamp window_start = .ok timestamp) : Allowed timestamp := by
  refine List.all_eq_true.mpr fun char member => ?_
  rcases mem_timestamp found member with digit | rfl | rfl | rfl
  · simp [is_allowed_segment_byte, Char.isAlphanum, digit]
  all_goals decide

private theorem allowed_ulid (part : Ulid) : Allowed part.to_string := by
  have all : ALPHABET.all is_allowed_segment_byte = true := by decide
  exact List.all_eq_true.mpr fun char member => List.all_eq_true.mp all char (mem_to_string member)

private theorem allowed_append {left right : String} (first : Allowed left) (second : Allowed right) :
    Allowed (left ++ right) := by
  rw [Allowed, String.toList_append, List.all_append, first, second]
  rfl

theorem window_segment {window_start : Nat} {timestamp : String}
    (found : format_window_timestamp window_start = .ok timestamp) : PlainSegment ("window=" ++ timestamp) :=
  plain_segment (by simp) (allowed_append rfl (allowed_timestamp found))

theorem round_segment {round_end : Nat} {timestamp : String}
    (found : format_window_timestamp round_end = .ok timestamp) : PlainSegment ("round-" ++ timestamp ++ ".json") :=
  plain_segment (by simp) (allowed_append (allowed_append rfl (allowed_timestamp found)) rfl)

theorem part_segment (part : Ulid) {finish : String} (allowed : Allowed finish) :
    PlainSegment ("part-" ++ part.to_string ++ finish) :=
  plain_segment (by simp) (allowed_append (allowed_append rfl (allowed_ulid part)) allowed)

theorem source_part_ulid_canonical {path : Path} {part_ulid : String} (named : source_part_ulid path = some part_ulid) :
    ∃ part : Ulid, part_ulid = part.to_string := by
  unfold source_part_ulid at named
  simp only [Option.bind_eq_bind, Option.bind_eq_some_iff, Option.map_eq_some_iff] at named
  obtain ⟨_, _, _, _, part, _, same⟩ := named
  exact ⟨part, same.symm⟩

theorem latest_segment : PlainSegment "latest.json" := ⟨by decide, by decide, by decide, by decide⟩

/-! ### Keys by their parts -/

/-- The parts of a path below a window of a cohort in one of the two window trees. -/
def window_parts (tree : String) (cohort : CohortName) (timestamp : String) (rest : List String) : List String :=
  tree :: (segments cohort ++ ("window=" ++ timestamp) :: rest)
/-- The parts of a calibration file of a cohort. -/
def record_parts (cohort : CohortName) (name : String) : List String := "calibrations" :: (segments cohort ++ [name])

private theorem tree_parts {tree : String} (segment : PlainSegment tree) (cohort : CohortName) (rest : String) :
    (Path.from_text (tree ++ "/" ++ cohort.name ++ "/" ++ rest)).parts =
      tree :: (segments cohort ++ (Path.from_text rest).parts) := by
  rw [Path.parts_append, Path.parts_append, Path.parts_plain segment, name_parts]
  simp

private theorem slash_window (rest : String) : "/window=" ++ rest = "/" ++ ("window=" ++ rest) := by
  rw [← String.append_assoc]
  rfl
theorem slash_part (rest : String) : "/part-" ++ rest = "/" ++ ("part-" ++ rest) := by
  rw [← String.append_assoc]
  rfl
private theorem slash_round (rest : String) : "/round-" ++ rest = "/" ++ ("round-" ++ rest) := by
  rw [← String.append_assoc]
  rfl

section Parts
variable {cohort : CohortName} {window_start : Nat} {timestamp : String}

theorem window_path_parts {tree : String} (segment : PlainSegment tree) (found : format_window_timestamp window_start = .ok timestamp) :
    (window_path tree cohort.name timestamp).parts = window_parts tree cohort timestamp [] := by
  have parts := tree_parts segment cohort ("window=" ++ timestamp)
  rw [Path.parts_plain (window_segment found)] at parts
  rw [window_parts, window_path, ← parts]
  simp [String.append_assoc, slash_window]

private theorem window_file_parts {tree name : String} (segment : PlainSegment tree)
    (found : format_window_timestamp window_start = .ok timestamp) (file : PlainSegment name) :
    (Path.from_text (tree ++ "/" ++ cohort.name ++ "/" ++ ("window=" ++ timestamp ++ "/" ++ name))).parts =
      window_parts tree cohort timestamp [name] := by
  rw [tree_parts segment, Path.parts_append, Path.parts_plain (window_segment found), Path.parts_plain file]
  rfl

theorem object_key_parts {part : Ulid} {key : String} (named : object_key cohort window_start part = .ok key) :
    ∃ timestamp, format_window_timestamp window_start = .ok timestamp ∧
      (Path.from_text key).parts = window_parts "cohorts" cohort timestamp ["part-" ++ part.to_string ++ ".vseam"] := by
  unfold object_key at named
  cases found : format_window_timestamp window_start with
  | error error => rw [found] at named; cases named
  | ok timestamp =>
    rw [found] at named
    obtain rfl := Except.ok.inj named
    refine ⟨timestamp, rfl, ?_⟩
    rw [← window_file_parts cohorts_segment found (part_segment part (show Allowed ".vseam" from rfl))]
    simp [String.append_assoc, slash_window, slash_part]

theorem intermediate_paths_parts {part : Ulid} {paths : Path × Path}
    (named : intermediate_paths cohort.name window_start part.to_string = .ok paths) :
    ∃ timestamp, format_window_timestamp window_start = .ok timestamp ∧
      paths.1.parts = window_parts "measurements" cohort timestamp ["part-" ++ part.to_string ++ ".truth.parquet"] ∧
      paths.2.parts = window_parts "measurements" cohort timestamp ["part-" ++ part.to_string ++ ".sweep.parquet"] := by
  obtain ⟨timestamp, found, built⟩ := Results.bind_ok.mp named
  obtain rfl := Except.ok.inj built
  refine ⟨timestamp, found, ?_, ?_⟩
  · rw [← window_file_parts measurements_segment found (part_segment part (show Allowed ".truth.parquet" from rfl))]
    simp [String.append_assoc, slash_window, slash_part]
  · rw [← window_file_parts measurements_segment found (part_segment part (show Allowed ".sweep.parquet" from rfl))]
    simp [String.append_assoc, slash_window, slash_part]

theorem round_paths_parts {round_end : Nat} {paths : Path × Path} (named : round_paths cohort.name round_end = .ok paths) :
    ∃ timestamp, format_window_timestamp round_end = .ok timestamp ∧
      paths.1.parts = record_parts cohort ("round-" ++ timestamp ++ ".json") ∧
      paths.2.parts = record_parts cohort "latest.json" := by
  obtain ⟨timestamp, found, built⟩ := Results.bind_ok.mp named
  obtain rfl := Except.ok.inj built
  refine ⟨timestamp, found, ?_, ?_⟩
  · have parts := tree_parts calibrations_segment cohort ("round-" ++ timestamp ++ ".json")
    rw [Path.parts_plain (round_segment found)] at parts
    rw [record_parts, ← parts]
    simp [String.append_assoc, slash_round]
  · have parts := tree_parts calibrations_segment cohort "latest.json"
    rw [Path.parts_plain latest_segment] at parts
    rw [record_parts, ← parts]
    simp [String.append_assoc]

end Parts

/-! ### Artifacts -/

/-- Everything that the collector and the tuner store, by the arguments of its key. -/
inductive Artifact where
  | segment (cohort : CohortName) (window_start : Nat) (part : Ulid)
  | truth (cohort : CohortName) (window_start : Nat) (part : Ulid)
  | sweep (cohort : CohortName) (window_start : Nat) (part : Ulid)
  | round (cohort : CohortName) (round_end : Nat)
  | latest (cohort : CohortName) (round_end : Nat)
deriving DecidableEq

namespace Artifact

def key : Artifact → Except WindowError Path
  | segment cohort window_start part => (object_key cohort window_start part).map Path.from_text
  | truth cohort window_start part => (intermediate_paths cohort.name window_start part.to_string).map Prod.fst
  | sweep cohort window_start part => (intermediate_paths cohort.name window_start part.to_string).map Prod.snd
  | round cohort round_end => (round_paths cohort.name round_end).map Prod.fst
  | latest cohort round_end => (round_paths cohort.name round_end).map Prod.snd

def cohort : Artifact → CohortName
  | segment cohort _ _ | truth cohort _ _ | sweep cohort _ _ | round cohort _ | latest cohort _ => cohort
/-- The window start or round end that is formatted in the key. -/
def instant : Artifact → Nat
  | segment _ instant _ | truth _ instant _ | sweep _ instant _ | round _ instant | latest _ instant => instant

/-- The parts of the key, for the timestamp of the instant. -/
def parts (timestamp : String) : Artifact → List String
  | segment cohort _ part => window_parts "cohorts" cohort timestamp ["part-" ++ part.to_string ++ ".vseam"]
  | truth cohort _ part => window_parts "measurements" cohort timestamp ["part-" ++ part.to_string ++ ".truth.parquet"]
  | sweep cohort _ part => window_parts "measurements" cohort timestamp ["part-" ++ part.to_string ++ ".sweep.parquet"]
  | round cohort _ => record_parts cohort ("round-" ++ timestamp ++ ".json")
  | latest cohort _ => record_parts cohort "latest.json"

end Artifact

private theorem map_ok {ε α β : Type} {result : Except ε α} {f : α → β} {value : β} (found : result.map f = .ok value) :
    ∃ inner, result = .ok inner ∧ f inner = value := by
  cases result with
  | error error => cases found
  | ok inner => exact ⟨inner, rfl, Except.ok.inj found⟩

theorem Artifact.key_parts {artifact : Artifact} {path : Path} (named : artifact.key = .ok path) :
    ∃ timestamp, format_window_timestamp artifact.instant = .ok timestamp ∧ path.parts = artifact.parts timestamp := by
  cases artifact with
  | segment cohort window_start part =>
    obtain ⟨text, found, rfl⟩ := map_ok named
    exact object_key_parts found
  | truth cohort window_start part =>
    obtain ⟨paths, found, rfl⟩ := map_ok named
    obtain ⟨timestamp, formatted, truth, _⟩ := intermediate_paths_parts found
    exact ⟨timestamp, formatted, truth⟩
  | sweep cohort window_start part =>
    obtain ⟨paths, found, rfl⟩ := map_ok named
    obtain ⟨timestamp, formatted, _, sweep⟩ := intermediate_paths_parts found
    exact ⟨timestamp, formatted, sweep⟩
  | round cohort round_end =>
    obtain ⟨paths, found, rfl⟩ := map_ok named
    obtain ⟨timestamp, formatted, round, _⟩ := round_paths_parts found
    exact ⟨timestamp, formatted, round⟩
  | latest cohort round_end =>
    obtain ⟨paths, found, rfl⟩ := map_ok named
    obtain ⟨timestamp, formatted, _, latest⟩ := round_paths_parts found
    exact ⟨timestamp, formatted, latest⟩

section Injective
variable {left right : CohortName} {tree tree' timestamp timestamp' name name' : String} {rest rest' : List String}

theorem window_parts_injective
    (same : window_parts tree left timestamp rest = window_parts tree' right timestamp' rest') :
    tree = tree' ∧ left = right ∧ timestamp = timestamp' ∧ rest = rest' := by
  obtain ⟨trees, tails⟩ := List.cons.inj same
  have begins : segments left ++ ("window=" ++ timestamp) :: rest <+:
      segments right ++ ("window=" ++ timestamp') :: rest' := tails ▸ List.prefix_refl _
  obtain ⟨cohorts, marks, _⟩ := marked_prefix (segments_clean left) (segments_clean right) (marker_window timestamp)
    (marker_window timestamp') begins
  have backs := List.append_inj_right tails (by rw [cohorts])
  exact ⟨trees, segments_injective cohorts, (String.append_right_inj _).mp marks, (List.cons.inj backs).2⟩

theorem record_parts_injective (same : record_parts left name = record_parts right name') : left = right ∧ name = name' := by
  obtain ⟨cohorts, names⟩ := List.append_inj' (List.cons.inj same).2 rfl
  exact ⟨segments_injective cohorts, (List.cons.inj names).1⟩

private theorem window_not_record (other : tree ≠ "calibrations") :
    window_parts tree left timestamp rest ≠ record_parts right name := by
  intro same
  exact other (List.cons.inj same).1

/-- File names of parts are told apart by their ULID and by their ending. -/
theorem part_name_injective {part part' : Ulid} {finish finish' : String}
    (long : finish.toList.length = finish'.toList.length)
    (same : "part-" ++ part.to_string ++ finish = "part-" ++ part'.to_string ++ finish') :
    part = part' ∧ finish = finish' := by
  have chars := congrArg String.toList same
  simp only [String.toList_append] at chars
  obtain ⟨front, back⟩ := List.append_inj' chars long
  exact ⟨to_string_injective (String.toList_inj.mp (List.append_cancel_left front)), String.toList_inj.mp back⟩

private theorem round_not_latest : "round-" ++ timestamp ++ ".json" ≠ "latest.json" := by
  intro same
  have chars := congrArg String.toList same
  simp at chars

private theorem round_name_injective (same : "round-" ++ timestamp ++ ".json" = "round-" ++ timestamp' ++ ".json") :
    timestamp = timestamp' :=
  (String.append_right_inj _).mp ((String.append_left_inj _).mp same)

end Injective

/-- The instant is a whole minute before year 10000, as the window arithmetic of both programs makes it. -/
def Artifact.Timely (artifact : Artifact) : Prop := artifact.instant % 60 = 0 ∧ artifact.instant < YEAR_10000

/-- The artifacts share a key because they are the same, or are the one mutable record of their cohort. -/
def Shared (left right : Artifact) : Prop :=
  left = right ∨ ∃ cohort round_end round_end', left = .latest cohort round_end ∧ right = .latest cohort round_end'

private theorem instants_equal {left right : Artifact} {timestamp : String} (timelyLeft : left.Timely)
    (timelyRight : right.Timely) (foundLeft : format_window_timestamp left.instant = .ok timestamp)
    (foundRight : format_window_timestamp right.instant = .ok timestamp) : left.instant = right.instant :=
  format_window_timestamp_injective timelyLeft.1 timelyRight.1 timelyLeft.2 timelyRight.2 foundLeft foundRight

/-- Artifacts of one window tree with one key have the same cohort, and with whole minutes the same arguments. -/
private theorem part_keys_shared {left right : Artifact} {timestamp timestamp' tree name name' : String}
    (foundLeft : format_window_timestamp left.instant = .ok timestamp)
    (foundRight : format_window_timestamp right.instant = .ok timestamp')
    (same : window_parts tree left.cohort timestamp [name] = window_parts tree right.cohort timestamp' [name']) :
    left.cohort = right.cohort ∧ name = name' ∧ (left.Timely → right.Timely → left.instant = right.instant) := by
  obtain ⟨_, cohorts, rfl, names⟩ := window_parts_injective same
  exact ⟨cohorts, (List.cons.inj names).1, fun timelyLeft timelyRight =>
    instants_equal timelyLeft timelyRight foundLeft foundRight⟩

/-- Keys of two cohorts differ; within a cohort, whole minutes before year 10000 make them differ too. -/
theorem Artifact.key_shared {left right : Artifact} {path : Path} (namedLeft : left.key = .ok path)
    (namedRight : right.key = .ok path) :
    left.cohort = right.cohort ∧ (left.Timely → right.Timely → Shared left right) := by
  obtain ⟨timestamp, foundLeft, partsLeft⟩ := key_parts namedLeft
  obtain ⟨timestamp', foundRight, partsRight⟩ := key_parts namedRight
  have same : left.parts timestamp = right.parts timestamp' := partsLeft.symm.trans partsRight
  cases left with
  | segment cohort window_start part =>
    cases right with
    | segment cohort' window_start' part' =>
      obtain ⟨cohorts, names, instants⟩ := part_keys_shared foundLeft foundRight same
      obtain ⟨rfl, _⟩ := part_name_injective rfl names
      exact ⟨cohorts, fun timelyLeft timelyRight => .inl (by rw [show cohort = cohort' from cohorts, show window_start =
        window_start' from instants timelyLeft timelyRight])⟩
    | truth cohort' window_start' part' => exact absurd (window_parts_injective same).1 (by decide)
    | sweep cohort' window_start' part' => exact absurd (window_parts_injective same).1 (by decide)
    | round cohort' round_end' => exact absurd same (window_not_record (by decide))
    | latest cohort' round_end' => exact absurd same (window_not_record (by decide))
  | truth cohort window_start part =>
    cases right with
    | segment cohort' window_start' part' => exact absurd (window_parts_injective same).1 (by decide)
    | truth cohort' window_start' part' =>
      obtain ⟨cohorts, names, instants⟩ := part_keys_shared foundLeft foundRight same
      obtain ⟨rfl, _⟩ := part_name_injective rfl names
      exact ⟨cohorts, fun timelyLeft timelyRight => .inl (by rw [show cohort = cohort' from cohorts, show window_start =
        window_start' from instants timelyLeft timelyRight])⟩
    | sweep cohort' window_start' part' =>
      obtain ⟨_, names, _⟩ := part_keys_shared foundLeft foundRight same
      exact absurd (part_name_injective (by decide) names).2 (by decide)
    | round cohort' round_end' => exact absurd same (window_not_record (by decide))
    | latest cohort' round_end' => exact absurd same (window_not_record (by decide))
  | sweep cohort window_start part =>
    cases right with
    | segment cohort' window_start' part' => exact absurd (window_parts_injective same).1 (by decide)
    | truth cohort' window_start' part' =>
      obtain ⟨_, names, _⟩ := part_keys_shared foundLeft foundRight same
      exact absurd (part_name_injective (by decide) names).2 (by decide)
    | sweep cohort' window_start' part' =>
      obtain ⟨cohorts, names, instants⟩ := part_keys_shared foundLeft foundRight same
      obtain ⟨rfl, _⟩ := part_name_injective rfl names
      exact ⟨cohorts, fun timelyLeft timelyRight => .inl (by rw [show cohort = cohort' from cohorts, show window_start =
        window_start' from instants timelyLeft timelyRight])⟩
    | round cohort' round_end' => exact absurd same (window_not_record (by decide))
    | latest cohort' round_end' => exact absurd same (window_not_record (by decide))
  | round cohort round_end =>
    cases right with
    | segment cohort' window_start' part' => exact absurd same.symm (window_not_record (by decide))
    | truth cohort' window_start' part' => exact absurd same.symm (window_not_record (by decide))
    | sweep cohort' window_start' part' => exact absurd same.symm (window_not_record (by decide))
    | round cohort' round_end' =>
      obtain ⟨cohorts, names⟩ := record_parts_injective same
      obtain rfl := round_name_injective names
      exact ⟨cohorts, fun timelyLeft timelyRight => .inl (by rw [show cohort = cohort' from cohorts, show round_end =
        round_end' from instants_equal timelyLeft timelyRight foundLeft foundRight])⟩
    | latest cohort' round_end' => exact absurd (record_parts_injective same).2 round_not_latest
  | latest cohort round_end =>
    cases right with
    | segment cohort' window_start' part' => exact absurd same.symm (window_not_record (by decide))
    | truth cohort' window_start' part' => exact absurd same.symm (window_not_record (by decide))
    | sweep cohort' window_start' part' => exact absurd same.symm (window_not_record (by decide))
    | round cohort' round_end' => exact absurd (record_parts_injective same).2.symm round_not_latest
    | latest cohort' round_end' =>
      obtain ⟨rfl, _⟩ := record_parts_injective same
      exact ⟨rfl, fun _ _ => .inr ⟨cohort, round_end, round_end', rfl, rfl⟩⟩

/-! ### Keys as directories -/

/-- The keys that can be written for a set of cohorts. -/
def Written (cohorts : Set CohortName) (path : Path) : Prop :=
  ∃ artifact : Artifact, artifact.cohort ∈ cohorts ∧ artifact.instant < 2 ^ 64 ∧ artifact.key = .ok path

/-- File names of the records of a cohort. -/
def RecordFile (file : String) : Prop :=
  file = "latest.json" ∨ ∃ round_end timestamp, round_end < 2 ^ 64 ∧ format_window_timestamp round_end = .ok timestamp ∧
    file = "round-" ++ timestamp ++ ".json"

/-- A local file system cannot hold the object: another one is stored at one of its directories, or below it. -/
def Blocked {B : Type} (objects : Objects B) (path : Path) : Prop :=
  ∃ stored, (lookup objects stored).isSome ∧ (stored.below path = true ∨ path.below stored = true)

theorem below_iff {lead path : Path} :
    lead.below path = true ↔ lead.parts <+: path.parts ∧ lead.parts.length < path.parts.length := by
  simp [Path.below]

private theorem no_window_below {left right : CohortName} {tree tree' timestamp timestamp' name name' : String} :
    ¬(window_parts tree left timestamp [name] <+: window_parts tree' right timestamp' [name'] ∧
      (window_parts tree left timestamp [name]).length < (window_parts tree' right timestamp' [name']).length) := by
  rintro ⟨begins, longer⟩
  obtain ⟨_, tails⟩ := List.cons_prefix_cons.mp begins
  obtain ⟨fronts, _, _⟩ := marked_prefix (segments_clean left) (segments_clean right) (marker_window timestamp)
    (marker_window timestamp') tails
  simp [window_parts, fronts] at longer

/-- The parts of an artifact lie below a window, or they are those of a record. -/
private theorem parts_shape {artifact : Artifact} {timestamp : String} (small : artifact.instant < 2 ^ 64)
    (found : format_window_timestamp artifact.instant = .ok timestamp) :
    (∃ tree name, (tree = "cohorts" ∨ tree = "measurements") ∧
      artifact.parts timestamp = window_parts tree artifact.cohort timestamp [name]) ∨
    ∃ file, RecordFile file ∧ artifact.parts timestamp = record_parts artifact.cohort file := by
  cases artifact with
  | segment cohort window_start part => exact .inl ⟨"cohorts", _, .inl rfl, rfl⟩
  | truth cohort window_start part => exact .inl ⟨"measurements", _, .inr rfl, rfl⟩
  | sweep cohort window_start part => exact .inl ⟨"measurements", _, .inr rfl, rfl⟩
  | round cohort round_end => exact .inr ⟨_, .inr ⟨round_end, timestamp, small, found, rfl⟩, rfl⟩
  | latest cohort round_end => exact .inr ⟨_, .inl rfl, rfl⟩

/-- One key is a directory of another only where a record file of one cohort starts the rest of another's name. -/
private theorem below_record {cohorts : Set CohortName} {path other : Path} (written : Written cohorts path)
    (writtenOther : Written cohorts other) (below : path.below other = true) :
    ∃ left ∈ cohorts, ∃ right ∈ cohorts, ∃ file, RecordFile file ∧ segments left ++ [file] <+: segments right := by
  obtain ⟨artifact, member, small, named⟩ := written
  obtain ⟨artifact', member', small', named'⟩ := writtenOther
  obtain ⟨timestamp, found, parts⟩ := Artifact.key_parts named
  obtain ⟨timestamp', found', parts'⟩ := Artifact.key_parts named'
  rw [below_iff, parts, parts'] at below
  rcases parts_shape small found with ⟨tree, name, trees, shape⟩ | ⟨file, recordFile, shape⟩
  · rcases parts_shape small' found' with ⟨tree', name', _, shape'⟩ | ⟨file', _, shape'⟩
    · rw [shape, shape'] at below
      exact absurd below no_window_below
    · rw [shape, shape'] at below
      have roots := (List.cons_prefix_cons.mp below.1).1
      rcases trees with rfl | rfl
      · exact absurd roots (by decide)
      · exact absurd roots (by decide)
  · rcases parts_shape small' found' with ⟨tree', name', trees', shape'⟩ | ⟨file', _, shape'⟩
    · rw [shape, shape'] at below
      have roots := (List.cons_prefix_cons.mp below.1).1
      rcases trees' with rfl | rfl
      · exact absurd roots (by decide)
      · exact absurd roots (by decide)
    · rw [shape, shape'] at below
      obtain ⟨begins, longer⟩ := below
      have tails := (List.cons_prefix_cons.mp begins).2
      simp only [record_parts, List.length_cons, List.length_append, List.length_nil] at longer
      refine ⟨artifact.cohort, member, artifact'.cohort, member', file, recordFile, ?_⟩
      exact List.prefix_of_prefix_length_le tails (List.prefix_append _ _) (by simp; omega)

private theorem latest_written {cohorts : Set CohortName} {cohort : CohortName} (member : cohort ∈ cohorts) :
    ∃ path, Written cohorts path ∧ path.parts = record_parts cohort "latest.json" := by
  obtain ⟨timestamp, found⟩ := format_window_timestamp_ok (show 0 < 2 ^ 64 by decide)
  have named : ∃ paths, round_paths cohort.name 0 = .ok paths := by
    unfold round_paths
    rw [found]
    exact ⟨_, rfl⟩
  obtain ⟨paths, named⟩ := named
  have key : (Artifact.latest cohort 0).key = .ok paths.2 := by
    rw [Artifact.key, named]
    rfl
  obtain ⟨_, _, _, parts⟩ := round_paths_parts named
  exact ⟨paths.2, ⟨.latest cohort 0, member, show 0 < 2 ^ 64 by decide, key⟩, parts⟩

private theorem record_written {cohorts : Set CohortName} {cohort : CohortName} {file : String}
    (member : cohort ∈ cohorts) (recordFile : RecordFile file) :
    ∃ path, Written cohorts path ∧ path.parts = record_parts cohort file := by
  rcases recordFile with rfl | ⟨round_end, timestamp, small, found, rfl⟩
  · exact latest_written member
  · have named : ∃ paths, round_paths cohort.name round_end = .ok paths := by
      unfold round_paths
      rw [found]
      exact ⟨_, rfl⟩
    obtain ⟨paths, named⟩ := named
    have key : (Artifact.round cohort round_end).key = .ok paths.1 := by
      rw [Artifact.key, named]
      rfl
    obtain ⟨timestamp', found', parts, _⟩ := round_paths_parts named
    obtain rfl := Except.ok.inj (found.symm.trans found')
    exact ⟨paths.1, ⟨.round cohort round_end, member, small, key⟩, parts⟩

/-- No key that is written for the cohorts is a directory of another, and so none is ever blocked by the others,
    exactly when no name starts with another name followed by the file name of a record. -/
theorem no_key_below_iff {B : Type} (cohorts : Set CohortName) :
    ((∀ path other, Written cohorts path → Written cohorts other → path.below other = false) ∧
      ∀ objects : Objects B, (∀ path, (lookup objects path).isSome → Written cohorts path) →
        ∀ path, Written cohorts path → ¬Blocked objects path) ↔
    ∀ left ∈ cohorts, ∀ right ∈ cohorts, ∀ file, RecordFile file → ¬(segments left ++ [file] <+: segments right) := by
  constructor
  · rintro ⟨free, _⟩ left memberLeft right memberRight file recordFile begins
    obtain ⟨path, written, parts⟩ := record_written memberLeft recordFile
    obtain ⟨other, writtenOther, partsOther⟩ := latest_written memberRight
    have below : path.below other = true := by
      rw [below_iff, parts, partsOther]
      refine ⟨List.cons_prefix_cons.mpr ⟨rfl, begins.trans (List.prefix_append _ _)⟩, ?_⟩
      have length := begins.length_le
      simp only [record_parts, List.length_cons, List.length_append, List.length_nil] at length ⊢
      omega
    rw [free path other written writtenOther] at below
    cases below
  · intro condition
    have free : ∀ path other, Written cohorts path → Written cohorts other → path.below other = false := by
      intro path other written writtenOther
      by_cases below : path.below other = true
      · obtain ⟨left, memberLeft, right, memberRight, file, recordFile, begins⟩ := below_record written writtenOther below
        exact absurd begins (condition left memberLeft right memberRight file recordFile)
      · exact Bool.not_eq_true _ ▸ below
    refine ⟨free, fun objects all path written => ?_⟩
    rintro ⟨stored, present, below | below⟩
    · rw [free stored path (all stored present) written] at below
      cases below
    · rw [free path stored written (all stored present)] at below
      cases below

/-! ### A name that ends in a record file -/

def smallCohort : CohortName := ⟨"prod", prod_validates⟩
def smallInner : CohortName := ⟨"prod/latest.json", by decide⟩

/-- The latest record of `prod` is the directory of every record of `prod/latest.json`, and blocks them. -/
theorem latest_blocks_inner : ∃ path other, Written {smallCohort, smallInner} path ∧
    Written {smallCohort, smallInner} other ∧ path.below other = true ∧
    Blocked (store ([] : Objects Unit) path ()) other := by
  refine ⟨Path.from_text "calibrations/prod/latest.json", Path.from_text "calibrations/prod/latest.json/latest.json",
    ⟨.latest smallCohort 0, .inl rfl, by decide, by decide +kernel⟩, ⟨.latest smallInner 0, .inr rfl, by decide, by decide +kernel⟩,
    by decide, Path.from_text "calibrations/prod/latest.json", by decide, .inl (by decide)⟩

end VectorSeam.Keys
