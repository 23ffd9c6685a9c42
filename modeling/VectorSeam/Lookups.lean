import VectorSeam.Segments
import VectorSeam.Pipeline
import VectorSeam.Durations

/-!
What the recommendation server makes of a cohort's latest round. How JSON bytes are read
is a parameter; everything that the server checks afterwards is modelled. A lookup finds
an ef, finds that there is none, or finds a defect that a later read would find again.
-/

namespace VectorSeam.Lookups
open VectorSeam.Model VectorSeam.Cohort VectorSeam.ObjectStore VectorSeam.LittleEndian VectorSeam.Durations

def LATEST_JSON_MAX_BYTES : Nat := 256 * 1024

structure EffectiveRecommendation where
  recommended_ef : Int
deriving DecidableEq

structure LatestRound where
  format_version : Nat
  cohort : String
  effective : Option EffectiveRecommendation
deriving DecidableEq

inductive PermanentDefect where
  | TooLarge (path : String) (actual_bytes : Nat)
  | Malformed (path reason : String)
  | UnsupportedFormat (path : String) (format_version : Nat)
  | CohortMismatch (path expected actual : String)
  | InvalidEf (path : String) (ef : Int)
deriving DecidableEq

inductive NegativeLookup where
  | Missing
  | Defect (defect : PermanentDefect)
deriving DecidableEq

inductive CachedLookup where
  | Found (ef : Int)
  | Negative (negative : NegativeLookup)
deriving DecidableEq

inductive TransientLookupError where
  | Get (path source : String)
  | Body (path source : String)
  | Timeout (path : String) (timeout_seconds : Float)
deriving DecidableEq

def latest_path (cohort : CohortName) : Path := Path.from_text ("calibrations/" ++ cohort.name ++ "/latest.json")

/-- The longest start of a text within a number of bytes. -/
def truncated : Nat → List Char → List Char
  | _, [] => []
  | room, char :: rest => if char.utf8Size ≤ room then char :: truncated (room - char.utf8Size) rest else []

def truncate_cohort_diagnostic (cohort : String) : String :=
  if cohort.utf8ByteSize ≤ MAX_COHORT_NAME_BYTES then cohort
  else String.ofList (truncated MAX_COHORT_NAME_BYTES cohort.toList)

/-- The lookup that an object of too many bytes ends, before its body is read. -/
def check_size (cohort : CohortName) (size : Nat) : Option CachedLookup :=
  if LATEST_JSON_MAX_BYTES < size then some (.Negative (.Defect (.TooLarge (latest_path cohort).raw size))) else none

section Parse
variable (from_slice : Bytes → Except String LatestRound)

/-- What the bytes of an object amount to. -/
def read_latest (cohort : CohortName) (bytes : Bytes) : CachedLookup :=
  let path := (latest_path cohort).raw
  match from_slice bytes with
  | .error reason => .Negative (.Defect (.Malformed path reason))
  | .ok latest =>
    if latest.format_version ≠ 1 then .Negative (.Defect (.UnsupportedFormat path latest.format_version))
    else if latest.cohort ≠ cohort.name then
      .Negative (.Defect (.CohortMismatch path cohort.name (truncate_cohort_diagnostic latest.cohort)))
    else
      match latest.effective with
      | none => .Negative .Missing
      | some effective =>
        if ¬(MIN_EF_SEARCH ≤ effective.recommended_ef ∧ effective.recommended_ef ≤ MAX_EF_SEARCH) then
          .Negative (.Defect (.InvalidEf path effective.recommended_ef))
        else .Found effective.recommended_ef

/-- The lookup for what a GET observes: no object, or an object of these bytes. -/
def assess (cohort : CohortName) : Option Bytes → CachedLookup
  | none => .Negative .Missing
  | some bytes => (check_size cohort bytes.length).getD (read_latest from_slice cohort bytes)

end Parse

/-! ### What a lookup says of the object -/

/-- An object small enough to be read, in the known format and for the cohort. -/
structure Legible (from_slice : Bytes → Except String LatestRound) (cohort : CohortName) (bytes : Bytes)
    (latest : LatestRound) : Prop where
  small : bytes.length ≤ LATEST_JSON_MAX_BYTES
  parsed : from_slice bytes = .ok latest
  version : latest.format_version = 1
  cohort : latest.cohort = cohort.name

/-- The reasons to reject an object for good. -/
inductive Defective (from_slice : Bytes → Except String LatestRound) (cohort : CohortName) (bytes : Bytes) : Prop where
  | too_large (large : LATEST_JSON_MAX_BYTES < bytes.length)
  | malformed (reason : String) (rejected : from_slice bytes = .error reason)
  | unsupported (latest : LatestRound) (parsed : from_slice bytes = .ok latest) (version : latest.format_version ≠ 1)
  | mismatched (latest : LatestRound) (parsed : from_slice bytes = .ok latest) (other : latest.cohort ≠ cohort.name)
  | out_of_range (latest : LatestRound) (effective : EffectiveRecommendation) (parsed : from_slice bytes = .ok latest)
      (present : latest.effective = some effective)
      (outside : ¬(MIN_EF_SEARCH ≤ effective.recommended_ef ∧ effective.recommended_ef ≤ MAX_EF_SEARCH))

section Assess
variable {from_slice : Bytes → Except String LatestRound} {cohort : CohortName} {observed : Option Bytes} {ef : Int}
  {defect : PermanentDefect}

/-- The object behind a lookup: none, a defective one, or a legible one with or without an effective ef. -/
theorem assess_cases (from_slice : Bytes → Except String LatestRound) (cohort : CohortName) (observed : Option Bytes) :
    observed = none ∧ assess from_slice cohort observed = .Negative .Missing ∨
    (∃ bytes defect, observed = some bytes ∧ Defective from_slice cohort bytes ∧
      assess from_slice cohort observed = .Negative (.Defect defect)) ∨
    (∃ bytes latest, observed = some bytes ∧ Legible from_slice cohort bytes latest ∧ latest.effective = none ∧
      assess from_slice cohort observed = .Negative .Missing) ∨
    ∃ bytes latest ef, observed = some bytes ∧ Legible from_slice cohort bytes latest ∧ latest.effective = some ⟨ef⟩ ∧
      (MIN_EF_SEARCH ≤ ef ∧ ef ≤ MAX_EF_SEARCH) ∧ assess from_slice cohort observed = .Found ef := by
  cases observed with
  | none => exact .inl ⟨rfl, rfl⟩
  | some bytes =>
    refine .inr ?_
    by_cases large : LATEST_JSON_MAX_BYTES < bytes.length
    · exact .inl ⟨bytes, _, rfl, .too_large large, by rw [assess, check_size, if_pos large]; rfl⟩
    have read : assess from_slice cohort (some bytes) = read_latest from_slice cohort bytes := by
      rw [assess, check_size, if_neg large]
      rfl
    rw [read]
    unfold read_latest
    cases parsed : from_slice bytes with
    | error reason => exact .inl ⟨bytes, _, rfl, .malformed reason parsed, rfl⟩
    | ok latest =>
      by_cases version : latest.format_version ≠ 1
      · exact .inl ⟨bytes, _, rfl, .unsupported latest parsed version, by simp only [if_pos version]; rfl⟩
      by_cases other : latest.cohort ≠ cohort.name
      · exact .inl ⟨bytes, _, rfl, .mismatched latest parsed other, by simp only [if_neg version, if_pos other]; rfl⟩
      have legible : Legible from_slice cohort bytes latest :=
        ⟨not_lt.mp large, parsed, not_not.mp version, not_not.mp other⟩
      simp only [if_neg version, if_neg other]
      cases present : latest.effective with
      | none => exact .inr (.inl ⟨bytes, latest, rfl, legible, present, rfl⟩)
      | some effective =>
        by_cases inside : MIN_EF_SEARCH ≤ effective.recommended_ef ∧ effective.recommended_ef ≤ MAX_EF_SEARCH
        · exact .inr (.inr ⟨bytes, latest, _, rfl, legible, present, inside, by simp only [inside]; rfl⟩)
        · exact .inl ⟨bytes, _, rfl, .out_of_range latest effective parsed present inside, by simp only [inside]; rfl⟩

theorem assess_found (found : assess from_slice cohort observed = .Found ef) :
    ∃ bytes latest, observed = some bytes ∧ Legible from_slice cohort bytes latest ∧ latest.effective = some ⟨ef⟩ ∧
      (MIN_EF_SEARCH ≤ ef ∧ ef ≤ MAX_EF_SEARCH) := by
  rcases assess_cases from_slice cohort observed with ⟨_, other⟩ | ⟨_, _, _, _, other⟩ | ⟨_, _, _, _, _, other⟩ |
    ⟨bytes, latest, ef', same, legible, present, range, assessed⟩
  · rw [other] at found; cases found
  · rw [other] at found; cases found
  · rw [other] at found; cases found
  · rw [assessed] at found
    obtain rfl := CachedLookup.Found.inj found
    exact ⟨bytes, latest, same, legible, present, range⟩

theorem assess_missing (missing : assess from_slice cohort observed = .Negative .Missing) :
    observed = none ∨
      ∃ bytes latest, observed = some bytes ∧ Legible from_slice cohort bytes latest ∧ latest.effective = none := by
  rcases assess_cases from_slice cohort observed with ⟨none, _⟩ | ⟨_, _, _, _, other⟩ | ⟨bytes, latest, same, legible, absent, _⟩ |
    ⟨_, _, _, _, _, _, _, other⟩
  · exact .inl none
  · rw [other] at missing; cases missing
  · exact .inr ⟨bytes, latest, same, legible, absent⟩
  · rw [other] at missing; cases missing

theorem assess_defect (rejected : assess from_slice cohort observed = .Negative (.Defect defect)) :
    ∃ bytes, observed = some bytes ∧ Defective from_slice cohort bytes := by
  rcases assess_cases from_slice cohort observed with ⟨_, other⟩ | ⟨bytes, _, same, defective, _⟩ | ⟨_, _, _, _, _, other⟩ |
    ⟨_, _, _, _, _, _, _, other⟩
  · rw [other] at rejected; cases rejected
  · exact ⟨bytes, same, defective⟩
  · rw [other] at rejected; cases rejected
  · rw [other] at rejected; cases rejected

end Assess

end VectorSeam.Lookups
