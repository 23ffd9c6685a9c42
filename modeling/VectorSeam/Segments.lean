import VectorSeam.Frame
import VectorSeam.Cohort
import VectorSeam.Model

/-!
The `.vseam` segment format: a header of fixed fields and the cohort name, followed
by records of a receive time and one frame each. Bytes behind the known header
fields are skipped on reading.
-/

namespace VectorSeam.Segments
open VectorSeam.LittleEndian VectorSeam.Frame VectorSeam.Cohort VectorSeam.Model

def SEGMENT_MAGIC : Bytes := [0x56, 0x53, 0x47, 0x31]
def BASE_HEADER_LEN : Nat := 46
def FIXED_PREFIX_LEN : Nat := 8
def RECORD_TIME_LEN : Nat := 8

structure SegmentHeader where
  window_start : Nat
  window_seconds : Nat
  first_receive : Nat
  last_receive : Nat
  received_frame_count : Nat
  record_count : Nat
  cohort : CohortName
deriving DecidableEq

structure SegmentRecord where
  receive_time : Nat
  frame : Bytes
deriving DecidableEq

structure Segment where
  header : SegmentHeader
  records : List SegmentRecord
deriving DecidableEq

inductive SegmentError where
  | BadMagic
  | Truncated (needed actual : Nat)
  | HeaderTooShort
  | CohortTooLong
  | InvalidCohortUtf8
  | InvalidCohort (error : CohortNameError)
  | InvalidFrame (error : FrameError)
  | LengthOverflow
deriving DecidableEq, Repr

/-- Frame errors inside a segment. -/
def frame {α : Type} : Except FrameError α → Except SegmentError α
  | .ok value => .ok value
  | .error error => .error (.InvalidFrame error)

/-- Total bytes of the records, each of which must hold one frame. -/
def records_len : List SegmentRecord → Nat → Except SegmentError Nat
  | [], sum => .ok sum
  | record :: rest, sum => do
    let _ ← frame (parse_frame_header record.frame)
    match (checked_add sum RECORD_TIME_LEN).bind fun value => checked_add value record.frame.length with
    | none => throw .LengthOverflow
    | some sum => records_len rest sum

def header_bytes (header : SegmentHeader) : Bytes :=
  let cohort := header.cohort.name.toUTF8.data.toList
  SEGMENT_MAGIC ++ (to_le_bytes 4 (BASE_HEADER_LEN + cohort.length) ++ (to_le_bytes 8 header.window_start ++
    (to_le_bytes 4 header.window_seconds ++ (to_le_bytes 8 header.first_receive ++ (to_le_bytes 8 header.last_receive ++
      (to_le_bytes 8 header.received_frame_count ++ (to_le_bytes 8 header.record_count ++
        (to_le_bytes 2 cohort.length ++ cohort))))))))
def record_bytes (record : SegmentRecord) : Bytes := to_le_bytes 8 record.receive_time ++ record.frame

def write_segment (header : SegmentHeader) (records : List SegmentRecord) : Except SegmentError Bytes := do
  let cohort_len := header.cohort.name.toUTF8.data.toList.length
  if 2 ^ 16 ≤ cohort_len then throw .CohortTooLong
  let header_len := BASE_HEADER_LEN + cohort_len
  let records_len ← records_len records 0
  if U64_MAX < FIXED_PREFIX_LEN + header_len + records_len then throw .LengthOverflow
  return header_bytes header ++ records.flatMap record_bytes

/-- An unsigned field, or the truncation error of a read past the end. -/
def read_field (width : Nat) (buffer : Bytes) (offset : Nat) : Except SegmentError Nat :=
  match read_le width buffer offset with
  | some value => .ok value
  | none => .error (.Truncated (offset + width) buffer.length)

/-- The record loop; every record takes at least one byte, so `room` is the number of bytes left. -/
def read_records (buffer : Bytes) : Nat → Nat → Except SegmentError (List SegmentRecord)
  | 0, _ => .ok []
  | room + 1, record_offset =>
    if buffer.length ≤ record_offset then .ok []
    else do
      let receive_time_end := record_offset + RECORD_TIME_LEN
      if buffer.length < receive_time_end then throw (.Truncated receive_time_end buffer.length)
      let receive_time ← read_field 8 buffer record_offset
      let frame_start := receive_time_end
      let frame_total_len ← frame (total_frame_len (buffer.drop frame_start))
      let frame_end := frame_start + frame_total_len
      if buffer.length < frame_end then throw (.Truncated frame_end buffer.length)
      let _ ← frame (parse_frame_header (slice buffer frame_start frame_end))
      let rest ← read_records buffer room frame_end
      return { receive_time, frame := slice buffer frame_start frame_end } :: rest

def read_header (buffer : Bytes) : Except SegmentError (SegmentHeader × Nat) := do
  if buffer.length < FIXED_PREFIX_LEN then throw (.Truncated FIXED_PREFIX_LEN buffer.length)
  if slice buffer 0 4 ≠ SEGMENT_MAGIC then throw .BadMagic
  let header_len ← read_field 4 buffer 4
  if header_len < BASE_HEADER_LEN then throw .HeaderTooShort
  let header_end := FIXED_PREFIX_LEN + header_len
  if buffer.length < header_end then throw (.Truncated header_end buffer.length)
  let window_start ← read_field 8 buffer 8
  let window_seconds ← read_field 4 buffer 16
  let first_receive ← read_field 8 buffer 20
  let last_receive ← read_field 8 buffer 28
  let received_frame_count ← read_field 8 buffer 36
  let record_count ← read_field 8 buffer 44
  let cohort_len ← read_field 2 buffer 52
  let cohort_end := 54 + cohort_len
  if header_end < cohort_end then throw .HeaderTooShort
  match from_utf8 (slice buffer 54 cohort_end) with
  | none => throw .InvalidCohortUtf8
  | some name =>
    match CohortName.new name with
    | .error error => throw (.InvalidCohort error)
    | .ok cohort =>
      return ({ window_start, window_seconds, first_receive, last_receive, received_frame_count, record_count, cohort },
        header_end)

def read_segment (buffer : Bytes) : Except SegmentError Segment := do
  let (header, header_end) ← read_header buffer
  let records ← read_records buffer buffer.length header_end
  return { header, records }

end VectorSeam.Segments
