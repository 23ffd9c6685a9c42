import VectorSeam.SegmentLayout
import VectorSeam.Panics

/-!
The segment reader with its slices and its loop spelled out, so that a range outside
the buffer panics and a loop without end never returns, and what the format promises:
segments read back as written, exactly the layouts of `SegmentLayout` are accepted, and
skipped header bytes do not matter.
-/

namespace VectorSeam.SegmentFormat
open VectorSeam.LittleEndian VectorSeam.Frame VectorSeam.Segments VectorSeam.Cohort VectorSeam.FrameLayout VectorSeam.Model
open VectorSeam.SegmentLayout VectorSeam.Panics

/-! ### The readers with indexing that panics -/

def parse_frame_header_indexed (buffer : Bytes) : Panicking FrameError FrameHeader := do
  if buffer.length < FIXED_FRAME_HEADER_LEN then throw (.Truncated FIXED_FRAME_HEADER_LEN buffer.length)
  let frame_len ← plain (read_u32_le buffer 0)
  let declared_total := frame_len + FRAME_LEN_FIELD_LEN
  if declared_total ≠ buffer.length then throw (.FrameLenMismatch declared_total buffer.length)
  if frame_len < FRAME_LEN_REMAINING_HEADER then throw (.Truncated FIXED_FRAME_HEADER_LEN declared_total)
  let magic ← index_range buffer 4 8
  if magic ≠ FRAME_MAGIC then throw .BadMagic
  let version ← plain (read_u32_le buffer 8)
  if version ≠ FRAME_VERSION then throw (.BadVersion version)
  let dtype ← plain (read_u32_le buffer 12)
  let name_len ← plain (read_u32_le buffer 16)
  let dimension ← plain (read_u32_le buffer 20)
  let vector_len ← plain (read_u32_le buffer 24)
  let name_start := FIXED_FRAME_HEADER_LEN
  let vector_start := name_start + name_len
  if declared_total < vector_start then throw .NameLenExceedsFrame
  let expected_total := vector_start + vector_len
  if expected_total ≠ declared_total then throw (.FrameLenMismatch declared_total expected_total)
  let name_bytes ← index_range buffer name_start vector_start
  match from_utf8 name_bytes with
  | none => throw .InvalidNameUtf8
  | some name => return { frame_len, dtype, name_len, dimension, vector_len, name }

def read_header_indexed (buffer : Bytes) : Panicking SegmentError (SegmentHeader × Nat) := do
  if buffer.length < FIXED_PREFIX_LEN then throw (.Truncated FIXED_PREFIX_LEN buffer.length)
  let magic ← index_range buffer 0 4
  if magic ≠ SEGMENT_MAGIC then throw .BadMagic
  let header_len ← plain (read_field 4 buffer 4)
  if header_len < BASE_HEADER_LEN then throw .HeaderTooShort
  let header_end := FIXED_PREFIX_LEN + header_len
  if buffer.length < header_end then throw (.Truncated header_end buffer.length)
  let window_start ← plain (read_field 8 buffer 8)
  let window_seconds ← plain (read_field 4 buffer 16)
  let first_receive ← plain (read_field 8 buffer 20)
  let last_receive ← plain (read_field 8 buffer 28)
  let received_frame_count ← plain (read_field 8 buffer 36)
  let record_count ← plain (read_field 8 buffer 44)
  let cohort_len ← plain (read_field 2 buffer 52)
  let cohort_end := 54 + cohort_len
  if header_end < cohort_end then throw .HeaderTooShort
  let cohort_bytes ← index_range buffer 54 cohort_end
  match from_utf8 cohort_bytes with
  | none => throw .InvalidCohortUtf8
  | some name =>
    match CohortName.new name with
    | .error error => throw (.InvalidCohort error)
    | .ok cohort =>
      return ({ window_start, window_seconds, first_receive, last_receive, received_frame_count, record_count, cohort },
        header_end)

/-- A frame error inside a segment, from a parser that may panic. -/
def frame_indexed {α : Type} (parsed : Panicking FrameError α) : Panicking SegmentError α :=
  ExceptT.mk (parsed.run.map Segments.frame)

/-- The record loop with a bound on its turns; a loop that is not over within the bound does not return. -/
def read_records_indexed (buffer : Bytes) : Nat → Nat → Panicking SegmentError (List SegmentRecord)
  | 0, _ => panicked
  | turns + 1, record_offset =>
    if buffer.length ≤ record_offset then pure []
    else do
      let receive_time_end := record_offset + RECORD_TIME_LEN
      if buffer.length < receive_time_end then throw (.Truncated receive_time_end buffer.length)
      let receive_time ← plain (read_field 8 buffer record_offset)
      let frame_start := receive_time_end
      let rest ← index_range buffer frame_start buffer.length
      let frame_total_len ← plain (Segments.frame (total_frame_len rest))
      let frame_end := frame_start + frame_total_len
      if buffer.length < frame_end then throw (.Truncated frame_end buffer.length)
      let frame_bytes ← index_range buffer frame_start frame_end
      let _ ← frame_indexed (parse_frame_header_indexed frame_bytes)
      let frame_copy ← index_range buffer frame_start frame_end
      let others ← read_records_indexed buffer turns frame_end
      return { receive_time, frame := frame_copy } :: others

def read_segment_indexed (turns : Nat) (buffer : Bytes) : Panicking SegmentError Segment := do
  let (header, header_end) ← read_header_indexed buffer
  let records ← read_records_indexed buffer turns header_end
  return { header, records }

/-! ### No panic -/

theorem parse_frame_header_agrees (buffer : Bytes) : Agrees (parse_frame_header_indexed buffer) (parse_frame_header buffer) := by
  unfold parse_frame_header_indexed parse_frame_header
  apply agrees_guard
  intro long
  apply agrees_bind (agrees_plain _)
  intro frame_len _
  apply agrees_guard
  intro declared
  apply agrees_guard
  intro complete
  simp only [FIXED_FRAME_HEADER_LEN] at long
  apply agrees_index (by omega) (by omega)
  apply agrees_guard
  intro _
  apply agrees_bind (agrees_plain _)
  intro version _
  apply agrees_guard
  intro _
  apply agrees_bind (agrees_plain _)
  intro dtype _
  apply agrees_bind (agrees_plain _)
  intro name_len _
  apply agrees_bind (agrees_plain _)
  intro dimension _
  apply agrees_bind (agrees_plain _)
  intro vector_len _
  apply agrees_guard
  intro name_inside
  apply agrees_guard
  intro _
  apply agrees_index (by omega) (by omega)
  unfold slice
  cases from_utf8 ((buffer.take (FIXED_FRAME_HEADER_LEN + name_len)).drop FIXED_FRAME_HEADER_LEN) with
  | none => exact agrees_throw _
  | some name => exact agrees_pure _

theorem read_header_agrees (buffer : Bytes) : Agrees (read_header_indexed buffer) (read_header buffer) := by
  unfold read_header_indexed read_header
  apply agrees_guard
  intro long
  simp only [FIXED_PREFIX_LEN] at long
  apply agrees_index (by omega) (by omega)
  apply agrees_guard
  intro _
  apply agrees_bind (agrees_plain _)
  intro header_len _
  apply agrees_guard
  intro _
  apply agrees_guard
  intro whole
  apply agrees_bind (agrees_plain _)
  intro window_start _
  apply agrees_bind (agrees_plain _)
  intro window_seconds _
  apply agrees_bind (agrees_plain _)
  intro first_receive _
  apply agrees_bind (agrees_plain _)
  intro last_receive _
  apply agrees_bind (agrees_plain _)
  intro received_frame_count _
  apply agrees_bind (agrees_plain _)
  intro record_count _
  apply agrees_bind (agrees_plain _)
  intro cohort_len _
  apply agrees_guard
  intro known
  simp only [FIXED_PREFIX_LEN] at known whole
  apply agrees_index (by omega) (by omega)
  unfold slice
  cases from_utf8 ((buffer.take (54 + cohort_len)).drop 54) with
  | none => exact agrees_throw _
  | some name =>
    dsimp only
    cases CohortName.new name with
    | error error => exact agrees_throw _
    | ok cohort => exact agrees_pure _

theorem read_header_end {buffer : Bytes} {header : SegmentHeader} {header_end : Nat}
    (found : read_header buffer = .ok (header, header_end)) : header_end ≤ buffer.length := by
  obtain ⟨declared, rfl, reads⟩ := read_header_reads.mp found
  exact reads.whole

theorem frame_agrees {α : Type} {parsed : Panicking FrameError α} {outcome : Except FrameError α}
    (agrees : Agrees parsed outcome) : Agrees (frame_indexed parsed) (Segments.frame outcome) := by
  unfold Agrees at agrees
  subst agrees
  rfl

/-- Every turn moves the offset on, so as many turns as bytes are left and one more end the loop. -/
theorem read_records_agrees {buffer : Bytes} {turns room record_offset : Nat} (inside : record_offset ≤ buffer.length)
    (enough : buffer.length < record_offset + turns) (room_enough : buffer.length ≤ record_offset + room) :
    Agrees (read_records_indexed buffer turns record_offset) (read_records buffer room record_offset) := by
  induction turns generalizing room record_offset with
  | zero => omega
  | succ turns ih =>
    rw [read_records_indexed]
    by_cases done : buffer.length ≤ record_offset
    · rw [if_pos done]
      cases room with
      | zero => exact agrees_pure _
      | succ room =>
        rw [read_records, if_pos done]
        exact agrees_pure _
    · rw [if_neg done]
      cases room with
      | zero => omega
      | succ room =>
        rw [read_records, if_neg done]
        apply agrees_guard
        intro time_inside
        apply agrees_bind (agrees_plain _)
        intro receive_time _
        apply agrees_index (by omega) (by omega)
        rw [List.take_length]
        apply agrees_bind (agrees_plain _)
        intro frame_total_len _
        apply agrees_guard
        intro frame_inside
        apply agrees_index (by omega) (by omega)
        apply agrees_bind (frame_agrees (parse_frame_header_agrees _))
        intro header _
        apply agrees_index (by omega) (by omega)
        simp only [RECORD_TIME_LEN] at *
        apply agrees_bind (ih (by omega) (by omega) (by omega))
        intro others _
        exact agrees_pure _

/-- Reading a segment never indexes outside the buffer, and its loop ends within one turn a byte. -/
theorem read_segment_agrees {turns : Nat} {buffer : Bytes} (enough : buffer.length < turns) :
    Agrees (read_segment_indexed turns buffer) (read_segment buffer) := by
  unfold read_segment_indexed read_segment
  apply agrees_bind (read_header_agrees buffer)
  rintro ⟨header, header_end⟩ found
  apply agrees_bind (read_records_agrees (read_header_end found) (by omega) (by omega))
  intro records _
  exact agrees_pure _

/-! ### The format -/

/-- A segment written is read back: its header, and its records byte for byte. -/
theorem written_segment_reads {header : SegmentHeader} {records : List SegmentRecord} {bytes : Bytes}
    (fits : HeaderFits header) (times : ∀ record ∈ records, record.receive_time < 2 ^ 64)
    (written : write_segment header records = .ok bytes) : read_segment bytes = .ok { header, records } := by
  obtain ⟨parsed, rfl, _⟩ := write_segment_ok.mp written
  have short := cohort_length header.cohort
  simp only [MAX_COHORT_NAME_BYTES] at short
  refine read_segment_iff.mpr ⟨[], ⟨fits, fun record member => ⟨times record member, parsed record member⟩, ?_⟩, rfl⟩
  simp only [BASE_HEADER_LEN, List.length_nil]
  omega

/-- Writing and reading segments are inverse to each other on headers and records whose fields have
    their widths: what is accepted is exactly a layout of a header, skipped bytes and frames, the
    skipped bytes do not show in the result, and without them writing the result gives the input. -/
theorem segment_format :
    (∀ (header : SegmentHeader) (records : List SegmentRecord), HeaderFits header →
      (∀ record ∈ records, RecordFits record) → (segment_bytes header [] records).length ≤ U64_MAX →
        ∃ bytes, write_segment header records = .ok bytes ∧ read_segment bytes = .ok { header, records }) ∧
    (∀ (bytes : Bytes) (segment : Segment), read_segment bytes = .ok segment ↔
      ∃ extra, SegmentFits segment extra ∧ bytes = segment_bytes segment.header extra segment.records) ∧
    (∀ (segment : Segment) (extra other : Bytes), SegmentFits segment extra → SegmentFits segment other →
      read_segment (segment_bytes segment.header extra segment.records) =
        read_segment (segment_bytes segment.header other segment.records)) ∧
    (∀ (bytes : Bytes) (segment : Segment), bytes.length ≤ U64_MAX → read_segment bytes = .ok segment →
      read_le 4 bytes 4 = some (BASE_HEADER_LEN + (utf8 segment.header.cohort.name).length) →
        write_segment segment.header segment.records = .ok bytes) ∧
    (∀ bytes : Bytes, read_segment_indexed (bytes.length + 1) bytes = plain (read_segment bytes)) := by
  refine ⟨?_, fun bytes segment => read_segment_iff, ?_, ?_, fun bytes => read_segment_agrees (Nat.lt_succ_self _)⟩
  · intro header records fits recordsFit bounded
    have written : write_segment header records = .ok (segment_bytes header [] records) :=
      write_segment_ok.mpr ⟨fun record member => (recordsFit record member).frame, rfl, bounded⟩
    exact ⟨_, written, written_segment_reads fits (fun record member => (recordsFit record member).receive_time) written⟩
  · intro segment extra other fits otherFits
    rw [read_segment_iff.mpr ⟨extra, fits, rfl⟩, read_segment_iff.mpr ⟨other, otherFits, rfl⟩]
  · intro bytes segment bounded found declared
    obtain ⟨extra, fits, rfl⟩ := read_segment_iff.mp found
    have reads := reads_head_bytes (segment.records.flatMap record_bytes) fits.header fits.short
    have none_extra : extra = [] := by
      have same := Option.some.inj (reads.header_len.symm.trans declared)
      rw [length_head_bytes] at same
      simp only [FIXED_PREFIX_LEN] at same
      rw [← List.length_eq_zero_iff]
      omega
    subst none_extra
    exact write_segment_ok.mpr ⟨fun record member => (fits.records record member).frame, rfl, bounded⟩

/-! ### A short segment -/

def shortFrame : FrameHeader := ⟨29, 1, 1, 1, 4, "a"⟩
def shortRecord : SegmentRecord := ⟨61000000, frame_bytes 1 1 (utf8 "a") [0, 0, 128, 63]⟩
theorem a_validates : validate_cohort_name "a" = .ok () := by decide
def shortHeader : SegmentHeader := ⟨60, 60, 61000000, 61000000, 2, 1, ⟨"a", a_validates⟩⟩

theorem short_frame_parses : parse_frame_header shortRecord.frame = .ok shortFrame :=
  parse_frame_header_iff.mpr ⟨[0, 0, 128, 63], ⟨by decide, by decide, by decide, by decide, by decide, by decide⟩, rfl⟩

theorem short_segment_format : ∃ bytes, write_segment shortHeader [shortRecord] = .ok bytes ∧
    read_segment bytes = .ok { header := shortHeader, records := [shortRecord] } :=
  segment_format.1 shortHeader [shortRecord] ⟨by decide, by decide, by decide, by decide, by decide, by decide⟩
    (List.forall_mem_singleton.mpr ⟨by decide, _, short_frame_parses⟩) (by decide)

end VectorSeam.SegmentFormat
