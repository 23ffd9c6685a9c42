import VectorSeam.Text
import VectorSeam.Results

/-!
Cohort names. A name is one to eight slash-separated path segments over a small
ASCII alphabet; a `CohortName` carries the proof that validation accepted it.
-/

namespace VectorSeam.Cohort
open VectorSeam.Text

def MAX_COHORT_NAME_BYTES : Nat := 255
def MAX_COHORT_SEGMENTS : Nat := 8
def MAX_COHORT_SEGMENT_BYTES : Nat := 63

inductive CohortNameError where
  | Empty
  | NameTooLong
  | NonAscii
  | TooManySegments
  | EmptySegment
  | SegmentTooLong
  | DotSegment
  | ReservedWindowSegment
  | InvalidSegment
deriving DecidableEq, Repr

def is_allowed_segment_byte (byte : Char) : Bool :=
  byte.isAlphanum || byte == '.' || byte == '_' || byte == '-' || byte == '='

def validate_segment (segment : String) : Except CohortNameError Unit :=
  if segment.toList = [] then .error .EmptySegment
  else if MAX_COHORT_SEGMENT_BYTES < segment.utf8ByteSize then .error .SegmentTooLong
  else if segment = "." ∨ segment = ".." then .error .DotSegment
  else if starts_with "window=" segment then .error .ReservedWindowSegment
  else if segment.toList.all is_allowed_segment_byte then .ok ()
  else .error .InvalidSegment

/-- The grammar: 1 to 8 segments of 1 to 63 path-safe bytes, none of them `.`,
    `..` or starting with the reserved window marker. -/
def validate_cohort_name (name : String) : Except CohortNameError Unit :=
  if name.toList = [] then .error .Empty
  else if MAX_COHORT_NAME_BYTES < name.utf8ByteSize then .error .NameTooLong
  else if ¬ name.toList.all (·.val < 128) then .error .NonAscii
  else
    let segments := split_on '/' name
    if MAX_COHORT_SEGMENTS < segments.length then .error .TooManySegments
    else segments.forM validate_segment

/-- A validated cohort name. -/
structure CohortName where
  name : String
  valid : validate_cohort_name name = .ok ()
deriving DecidableEq

namespace CohortName

def new (name : String) : Except CohortNameError CohortName :=
  match valid : validate_cohort_name name with
  | .ok () => .ok ⟨name, valid⟩
  | .error error => .error error

@[ext] theorem ext {left right : CohortName} (same : left.name = right.name) : left = right := by
  cases left; cases right; cases same; rfl

theorem new_name (cohort : CohortName) : new cohort.name = .ok cohort := by
  unfold new
  split
  · rfl
  · rename_i error rejected
    rw [cohort.valid] at rejected
    cases rejected

theorem name_of_new {name : String} {cohort : CohortName} (made : new name = .ok cohort) : cohort.name = name := by
  unfold new at made
  split at made
  · cases made; rfl
  · cases made

end CohortName

/-! ### What validation guarantees -/

/-- The facts about one segment that the storage layout relies on. -/
structure SegmentValid (segment : String) : Prop where
  nonempty : segment.toList ≠ []
  not_dot : segment ≠ "." ∧ segment ≠ ".."
  not_window : starts_with "window=" segment = false
  allowed : ∀ byte ∈ segment.toList, is_allowed_segment_byte byte

theorem validate_segment_ok {segment : String} (accepted : validate_segment segment = .ok ()) : SegmentValid segment := by
  unfold validate_segment at accepted
  split at accepted <;> try cases accepted
  rename_i nonempty
  split at accepted <;> try cases accepted
  split at accepted <;> try cases accepted
  rename_i dot
  split at accepted <;> try cases accepted
  rename_i window
  split at accepted <;> try cases accepted
  rename_i allowed
  exact ⟨nonempty, not_or.mp dot, by simpa using window, by simpa using allowed⟩

/-- Everything later modules use about a validated name. -/
structure NameValid (name : String) : Prop where
  nonempty : name.toList ≠ []
  short : name.utf8ByteSize ≤ MAX_COHORT_NAME_BYTES
  ascii : ∀ byte ∈ name.toList, byte.val < 128
  segments : ∀ segment ∈ split_on '/' name, SegmentValid segment

theorem validate_cohort_name_ok {name : String} (accepted : validate_cohort_name name = .ok ()) : NameValid name := by
  unfold validate_cohort_name at accepted
  split at accepted <;> try cases accepted
  rename_i nonempty
  split at accepted <;> try cases accepted
  rename_i short
  split at accepted <;> try cases accepted
  rename_i ascii
  simp only [] at accepted
  split at accepted <;> try cases accepted
  exact ⟨nonempty, by omega, by simpa using ascii, fun segment member =>
    validate_segment_ok (Results.forM_ok.mp accepted segment member)⟩

theorem CohortName.nameValid (cohort : CohortName) : NameValid cohort.name := validate_cohort_name_ok cohort.valid

example : (CohortName.new "env=prod/tenant=a").isOk = true := by decide
example : validate_cohort_name "prod/window=x" = .error .ReservedWindowSegment := by decide

end VectorSeam.Cohort
