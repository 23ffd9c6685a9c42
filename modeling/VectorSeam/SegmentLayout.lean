import VectorSeam.Segments
import VectorSeam.FrameLayout

/-!
The byte layout of segments: a header, perhaps header bytes of a later version, and
records up to the end of the file. The reader accepts exactly these layouts, and what
it returns does not depend on the skipped header bytes.
-/

namespace VectorSeam.SegmentLayout
open VectorSeam.LittleEndian VectorSeam.Frame VectorSeam.Segments VectorSeam.Cohort VectorSeam.FrameLayout VectorSeam.Model

/-- The fields of a segment header in their order, with `extra` bytes of a later version behind them. -/
def head_bytes (header : SegmentHeader) (extra : Bytes) : Bytes :=
  let cohort := utf8 header.cohort.name
  SEGMENT_MAGIC ++ (to_le_bytes 4 (BASE_HEADER_LEN + cohort.length + extra.length) ++
    (to_le_bytes 8 header.window_start ++ (to_le_bytes 4 header.window_seconds ++
      (to_le_bytes 8 header.first_receive ++ (to_le_bytes 8 header.last_receive ++
        (to_le_bytes 8 header.received_frame_count ++ (to_le_bytes 8 header.record_count ++
          (to_le_bytes 2 cohort.length ++ (cohort ++ extra)))))))))
def segment_bytes (header : SegmentHeader) (extra : Bytes) (records : List SegmentRecord) : Bytes :=
  head_bytes header extra ++ records.flatMap record_bytes

theorem length_head_bytes (header : SegmentHeader) (extra : Bytes) : (head_bytes header extra).length =
    FIXED_PREFIX_LEN + (BASE_HEADER_LEN + (utf8 header.cohort.name).length + extra.length) := by
  simp only [head_bytes, List.length_append, length_to_le_bytes, SEGMENT_MAGIC, List.length_cons, List.length_nil,
    FIXED_PREFIX_LEN, BASE_HEADER_LEN]
  omega

theorem head_bytes_plain (header : SegmentHeader) : head_bytes header [] = header_bytes header := by
  rw [head_bytes, header_bytes, List.append_nil, List.length_nil, Nat.add_zero]
  rfl

/-- Header fields in the widths of their types. -/
structure HeaderFits (header : SegmentHeader) : Prop where
  window_start : header.window_start < 2 ^ 64
  window_seconds : header.window_seconds < 2 ^ 32
  first_receive : header.first_receive < 2 ^ 64
  last_receive : header.last_receive < 2 ^ 64
  received_frame_count : header.received_frame_count < 2 ^ 64
  record_count : header.record_count < 2 ^ 64

/-- A receive time in its width, and bytes that hold exactly one frame. -/
structure RecordFits (record : SegmentRecord) : Prop where
  receive_time : record.receive_time < 2 ^ 64
  frame : ∃ header, parse_frame_header record.frame = .ok header

theorem cohort_length (cohort : CohortName) : (utf8 cohort.name).length ≤ MAX_COHORT_NAME_BYTES := by
  have short := cohort.nameValid.short
  exact short

theorem read_field_ok {width : Nat} {buffer : Bytes} {offset value : Nat} :
    read_field width buffer offset = .ok value ↔ read_le width buffer offset = some value := by
  unfold read_field
  cases read_le width buffer offset with
  | none => simp
  | some found => simp

theorem frame_ok {α : Type} {outcome : Except FrameError α} {value : α} :
    Segments.frame outcome = .ok value ↔ outcome = .ok value := by
  cases outcome with
  | error error => simp [Segments.frame]
  | ok found => simp [Segments.frame]

/-! ### Headers -/

/-- Every field of the header stands where the reader looks for it. -/
structure ReadsHead (buffer : Bytes) (header : SegmentHeader) (declared : Nat) : Prop where
  magic : slice buffer 0 4 = SEGMENT_MAGIC
  header_len : read_le 4 buffer 4 = some declared
  window_start : read_le 8 buffer 8 = some header.window_start
  window_seconds : read_le 4 buffer 16 = some header.window_seconds
  first_receive : read_le 8 buffer 20 = some header.first_receive
  last_receive : read_le 8 buffer 28 = some header.last_receive
  received_frame_count : read_le 8 buffer 36 = some header.received_frame_count
  record_count : read_le 8 buffer 44 = some header.record_count
  cohort_len : read_le 2 buffer 52 = some (utf8 header.cohort.name).length
  cohort : slice buffer 54 (54 + (utf8 header.cohort.name).length) = utf8 header.cohort.name
  known : 46 + (utf8 header.cohort.name).length ≤ declared
  whole : 8 + declared ≤ buffer.length

theorem read_header_reads {buffer : Bytes} {header : SegmentHeader} {header_end : Nat} :
    read_header buffer = .ok (header, header_end) ↔ ∃ header_len, header_end = 8 + header_len ∧ ReadsHead buffer header header_len := by
  constructor
  · intro found
    unfold read_header at found
    obtain ⟨long, found⟩ := Results.guard_ok.mp found
    obtain ⟨magic, found⟩ := Results.guard_ok.mp found
    obtain ⟨header_len, header_len_read, found⟩ := Results.bind_ok.mp found
    obtain ⟨base, found⟩ := Results.guard_ok.mp found
    obtain ⟨whole, found⟩ := Results.guard_ok.mp found
    obtain ⟨window_start, window_start_read, found⟩ := Results.bind_ok.mp found
    obtain ⟨window_seconds, window_seconds_read, found⟩ := Results.bind_ok.mp found
    obtain ⟨first_receive, first_receive_read, found⟩ := Results.bind_ok.mp found
    obtain ⟨last_receive, last_receive_read, found⟩ := Results.bind_ok.mp found
    obtain ⟨received_frame_count, received_read, found⟩ := Results.bind_ok.mp found
    obtain ⟨record_count, record_count_read, found⟩ := Results.bind_ok.mp found
    obtain ⟨cohort_len, cohort_len_read, found⟩ := Results.bind_ok.mp found
    obtain ⟨known, found⟩ := Results.guard_ok.mp found
    rw [not_not] at magic
    rw [not_lt] at known whole
    simp only [FIXED_PREFIX_LEN] at known whole
    cases decoded : from_utf8 (slice buffer 54 (54 + cohort_len)) with
    | none => rw [decoded] at found; cases found
    | some name =>
      rw [decoded] at found
      cases made : CohortName.new name with
      | error error => simp only [made] at found; cases found
      | ok cohort =>
        simp only [made] at found
        obtain ⟨rfl, rfl⟩ := Prod.mk.inj (Except.ok.inj found)
        have cohort_bytes := from_utf8_iff.mp decoded
        have cohort_size := slice_length 54 (show 54 + cohort_len ≤ buffer.length by omega)
        rw [cohort_bytes, ← CohortName.name_of_new made] at cohort_size
        have same : cohort_len = (utf8 cohort.name).length := by omega
        rw [← CohortName.name_of_new made, same] at cohort_bytes
        exact ⟨header_len, rfl, magic, read_field_ok.mp header_len_read, read_field_ok.mp window_start_read,
          read_field_ok.mp window_seconds_read, read_field_ok.mp first_receive_read, read_field_ok.mp last_receive_read,
          read_field_ok.mp received_read, read_field_ok.mp record_count_read, same ▸ read_field_ok.mp cohort_len_read,
          cohort_bytes, by simp only; omega, whole⟩
  · rintro ⟨header_len, rfl, magic, header_len_read, window_start, window_seconds, first_receive, last_receive,
      received_frame_count, record_count, cohort_len, cohort, known, whole⟩
    unfold read_header
    simp only [FIXED_PREFIX_LEN, BASE_HEADER_LEN]
    apply Results.guard_ok.mpr
    refine ⟨by omega, ?_⟩
    apply Results.guard_ok.mpr
    refine ⟨not_not.mpr magic, Results.bind_ok.mpr ⟨_, read_field_ok.mpr header_len_read, ?_⟩⟩
    apply Results.guard_ok.mpr
    refine ⟨by omega, ?_⟩
    apply Results.guard_ok.mpr
    refine ⟨by omega, Results.bind_ok.mpr ⟨_, read_field_ok.mpr window_start, ?_⟩⟩
    refine Results.bind_ok.mpr ⟨_, read_field_ok.mpr window_seconds, ?_⟩
    refine Results.bind_ok.mpr ⟨_, read_field_ok.mpr first_receive, ?_⟩
    refine Results.bind_ok.mpr ⟨_, read_field_ok.mpr last_receive, ?_⟩
    refine Results.bind_ok.mpr ⟨_, read_field_ok.mpr received_frame_count, ?_⟩
    refine Results.bind_ok.mpr ⟨_, read_field_ok.mpr record_count, ?_⟩
    refine Results.bind_ok.mpr ⟨_, read_field_ok.mpr cohort_len, ?_⟩
    apply Results.guard_ok.mpr
    refine ⟨by omega, ?_⟩
    rw [from_utf8_iff.mpr cohort]
    simp only [CohortName.new_name]
    rfl

theorem ReadsHead.fits {buffer : Bytes} {header : SegmentHeader} {declared : Nat} (reads : ReadsHead buffer header declared) :
    HeaderFits header :=
  ⟨read_le_lt reads.window_start, read_le_lt reads.window_seconds, read_le_lt reads.first_receive,
    read_le_lt reads.last_receive, read_le_lt reads.received_frame_count, read_le_lt reads.record_count⟩

theorem ReadsHead.laid {buffer : Bytes} {header : SegmentHeader} {declared : Nat} (reads : ReadsHead buffer header declared) :
    ∃ extra, buffer = head_bytes header extra ++ buffer.drop (8 + declared) ∧
      (head_bytes header extra).length = 8 + declared := by
  obtain ⟨magic, header_len, window_start, window_seconds, first_receive, last_receive, received_frame_count, record_count,
    cohort_len, cohort, known, whole⟩ := reads
  have at_magic := drop_slice buffer (show 0 ≤ 4 by omega)
  have at_cohort := drop_slice buffer (Nat.le_add_right 54 (utf8 header.cohort.name).length)
  have at_extra := drop_slice buffer
    (show 54 + (utf8 header.cohort.name).length ≤ 8 + declared by omega)
  have extra_size := slice_length (54 + (utf8 header.cohort.name).length) whole
  rw [magic] at at_magic
  rw [cohort] at at_cohort
  refine ⟨slice buffer (54 + (utf8 header.cohort.name).length) (8 + declared), ?_, ?_⟩
  · have length : BASE_HEADER_LEN + (utf8 header.cohort.name).length +
        (slice buffer (54 + (utf8 header.cohort.name).length) (8 + declared)).length = declared := by
      simp only [BASE_HEADER_LEN]
      omega
    rw [head_bytes, length]
    simp only [List.append_assoc]
    calc buffer = buffer.drop 0 := rfl
      _ = _ := by
        rw [at_magic, read_le_drop header_len, read_le_drop window_start, read_le_drop window_seconds,
          read_le_drop first_receive, read_le_drop last_receive, read_le_drop received_frame_count,
          read_le_drop record_count, read_le_drop cohort_len, at_cohort, at_extra]
  · rw [length_head_bytes]
    simp only [BASE_HEADER_LEN, FIXED_PREFIX_LEN]
    omega

/-- Every layout of a header in the widths of its fields shows them where the reader looks. -/
theorem reads_head_bytes {header : SegmentHeader} {extra : Bytes} (body : Bytes) (fits : HeaderFits header)
    (short : (head_bytes header extra).length < 8 + 2 ^ 32) :
    ReadsHead (head_bytes header extra ++ body) header ((head_bytes header extra).length - 8) := by
  have size := length_head_bytes header extra
  have cohort_short := cohort_length header.cohort
  simp only [FIXED_PREFIX_LEN, BASE_HEADER_LEN, MAX_COHORT_NAME_BYTES] at size cohort_short
  have declared : BASE_HEADER_LEN + (utf8 header.cohort.name).length + extra.length =
      (head_bytes header extra).length - 8 := by
    simp only [BASE_HEADER_LEN]
    omega
  have laid : head_bytes header extra ++ body = SEGMENT_MAGIC ++ (to_le_bytes 4 ((head_bytes header extra).length - 8) ++
      (to_le_bytes 8 header.window_start ++ (to_le_bytes 4 header.window_seconds ++ (to_le_bytes 8 header.first_receive ++
        (to_le_bytes 8 header.last_receive ++ (to_le_bytes 8 header.received_frame_count ++
          (to_le_bytes 8 header.record_count ++ (to_le_bytes 2 (utf8 header.cohort.name).length ++
            (utf8 header.cohort.name ++ (extra ++ body)))))))))) := by
    rw [← declared, head_bytes]
    simp only [List.append_assoc]
  refine ⟨?_, read_le_of_drop (by omega) (congrArg (List.drop 4) laid) (by omega),
    read_le_of_drop (by omega) (congrArg (List.drop 8) laid) fits.window_start,
    read_le_of_drop (by omega) (congrArg (List.drop 16) laid) fits.window_seconds,
    read_le_of_drop (by omega) (congrArg (List.drop 20) laid) fits.first_receive,
    read_le_of_drop (by omega) (congrArg (List.drop 28) laid) fits.last_receive,
    read_le_of_drop (by omega) (congrArg (List.drop 36) laid) fits.received_frame_count,
    read_le_of_drop (by omega) (congrArg (List.drop 44) laid) fits.record_count,
    read_le_of_drop (by omega) (congrArg (List.drop 52) laid) (by omega), ?_, by omega, ?_⟩
  · rw [laid]
    rfl
  · rw [laid, slice, List.drop_take, show 54 + (utf8 header.cohort.name).length - 54 = (utf8 header.cohort.name).length by omega]
    exact List.take_left
  · rw [List.length_append]
    omega

theorem read_header_iff {buffer : Bytes} {header : SegmentHeader} {header_end : Nat} :
    read_header buffer = .ok (header, header_end) ↔ ∃ extra body, HeaderFits header ∧
      buffer = head_bytes header extra ++ body ∧ (head_bytes header extra).length = header_end ∧ header_end < 8 + 2 ^ 32 := by
  rw [read_header_reads]
  constructor
  · rintro ⟨declared, rfl, reads⟩
    obtain ⟨extra, laid, length⟩ := reads.laid
    have short := read_le_lt reads.header_len
    exact ⟨extra, _, reads.fits, laid, length, by omega⟩
  · rintro ⟨extra, body, fits, rfl, rfl, short⟩
    have size := length_head_bytes header extra
    simp only [FIXED_PREFIX_LEN] at size
    exact ⟨_, by omega, reads_head_bytes body fits short⟩

/-! ### Records -/

theorem RecordFits.framed {record : SegmentRecord} (fits : RecordFits record) :
    ∃ header vector, Framed record.frame header vector := by
  obtain ⟨header, parsed⟩ := fits.frame
  exact ⟨header, parse_frame_header_iff.mp parsed⟩

theorem RecordFits.total_frame_len {record : SegmentRecord} (fits : RecordFits record) (after : Bytes) :
    total_frame_len (record.frame ++ after) = .ok record.frame.length := by
  obtain ⟨header, vector, framed⟩ := fits.framed
  exact framed.total_frame_len after

theorem RecordFits.length_min {record : SegmentRecord} (fits : RecordFits record) :
    FIXED_FRAME_HEADER_LEN ≤ record.frame.length := by
  obtain ⟨header, vector, framed⟩ := fits.framed
  exact (Nat.le_add_right _ _).trans framed.length_min

theorem length_record_bytes (record : SegmentRecord) : (record_bytes record).length = 8 + record.frame.length := by
  rw [record_bytes, List.length_append, length_to_le_bytes]

/-- What one turn of the record loop takes from the front of the rest. -/
theorem read_record {buffer rest : Bytes} {record : SegmentRecord} {record_offset : Nat} (fits : RecordFits record)
    (here : buffer.drop record_offset = record_bytes record ++ rest) :
    read_le 8 buffer record_offset = some record.receive_time ∧
      total_frame_len (buffer.drop (record_offset + 8)) = .ok record.frame.length ∧
      slice buffer (record_offset + 8) (record_offset + 8 + record.frame.length) = record.frame ∧
      buffer.drop (record_offset + 8 + record.frame.length) = rest ∧
      record_offset + 8 + record.frame.length ≤ buffer.length := by
  rw [record_bytes, List.append_assoc] at here
  have behind : buffer.drop (record_offset + 8) = record.frame ++ rest := by
    rw [← List.drop_drop, here]
    exact List.drop_left' (length_to_le_bytes 8 _)
  have size := congrArg List.length here
  rw [List.length_drop, List.length_append, length_to_le_bytes, List.length_append] at size
  refine ⟨read_le_of_drop (by omega) here fits.receive_time, ?_, ?_, ?_, by omega⟩
  · rw [behind]
    exact fits.total_frame_len rest
  · rw [slice, List.drop_take, behind, Nat.add_sub_cancel_left]
    exact List.take_left
  · rw [← List.drop_drop, behind]
    exact List.drop_left

/-- One turn of the record loop on bytes that start with a record. -/
theorem read_records_cons {buffer rest : Bytes} {record : SegmentRecord} {record_offset room : Nat}
    {others : List SegmentRecord} (fits : RecordFits record) (here : buffer.drop record_offset = record_bytes record ++ rest)
    (later : read_records buffer room (record_offset + 8 + record.frame.length) = .ok others) :
    read_records buffer (room + 1) record_offset = .ok (record :: others) := by
  obtain ⟨receive_time, total, frame_bytes, behind, inside⟩ := read_record fits here
  obtain ⟨header, parsed⟩ := fits.frame
  have size := fits.length_min
  simp only [FIXED_FRAME_HEADER_LEN] at size
  rw [read_records, if_neg (by omega)]
  apply Results.guard_ok.mpr
  refine ⟨by simp only [RECORD_TIME_LEN]; omega, Results.bind_ok.mpr ⟨_, read_field_ok.mpr receive_time, ?_⟩⟩
  refine Results.bind_ok.mpr ⟨_, frame_ok.mpr total, ?_⟩
  apply Results.guard_ok.mpr
  refine ⟨by simp only [RECORD_TIME_LEN]; omega, ?_⟩
  refine Results.bind_ok.mpr ⟨header, frame_ok.mpr (by simp only [RECORD_TIME_LEN, frame_bytes, parsed]), ?_⟩
  refine Results.bind_ok.mpr ⟨others, later, ?_⟩
  simp only [RECORD_TIME_LEN, frame_bytes]
  rfl

/-- A turn that succeeds has a record in front of it. -/
theorem read_records_first {buffer : Bytes} {record_offset room : Nat} {records : List SegmentRecord}
    (more : record_offset < buffer.length) (found : read_records buffer (room + 1) record_offset = .ok records) :
    ∃ record others, records = record :: others ∧ RecordFits record ∧
      record_offset + 8 + record.frame.length ≤ buffer.length ∧
      buffer.drop record_offset = record_bytes record ++ buffer.drop (record_offset + 8 + record.frame.length) ∧
      read_records buffer room (record_offset + 8 + record.frame.length) = .ok others := by
  rw [read_records, if_neg (by omega)] at found
  obtain ⟨time_inside, found⟩ := Results.guard_ok.mp found
  obtain ⟨receive_time, receive_time_read, found⟩ := Results.bind_ok.mp found
  obtain ⟨frame_total_len, total, found⟩ := Results.bind_ok.mp found
  obtain ⟨inside, found⟩ := Results.guard_ok.mp found
  obtain ⟨header, parsed, found⟩ := Results.bind_ok.mp found
  obtain ⟨others, later, found⟩ := Results.bind_ok.mp found
  obtain rfl := Except.ok.inj found
  simp only [RECORD_TIME_LEN, not_lt] at *
  rw [read_field_ok] at receive_time_read
  rw [frame_ok] at parsed
  have size := slice_length (record_offset + 8) inside
  have frame_size : (slice buffer (record_offset + 8) (record_offset + 8 + frame_total_len)).length = frame_total_len := by
    omega
  refine ⟨_, others, rfl, ⟨read_le_lt receive_time_read, header, parsed⟩, ?_, ?_, ?_⟩
  · rw [frame_size]
    exact inside
  · rw [record_bytes, frame_size, List.append_assoc, ← drop_slice buffer (Nat.le_add_right _ _)]
    exact read_le_drop receive_time_read
  · rw [frame_size]
    exact later

/-- The record loop reads exactly the records that fill the rest of the buffer. -/
theorem read_records_iff {buffer : Bytes} {room record_offset : Nat} {records : List SegmentRecord}
    (inside : record_offset ≤ buffer.length) (enough : buffer.length ≤ record_offset + room) :
    read_records buffer room record_offset = .ok records ↔
      buffer.drop record_offset = records.flatMap record_bytes ∧ ∀ record ∈ records, RecordFits record := by
  constructor
  · intro found
    induction room generalizing record_offset records with
    | zero =>
      obtain rfl := Except.ok.inj found
      exact ⟨List.drop_of_length_le enough, fun record member => absurd member List.not_mem_nil⟩
    | succ room ih =>
      by_cases more : record_offset < buffer.length
      · obtain ⟨record, others, rfl, fits, within, here, later⟩ := read_records_first more found
        obtain ⟨rest, othersFit⟩ := ih within (by omega) later
        exact ⟨by rw [here, rest, List.flatMap_cons], List.forall_mem_cons.mpr ⟨fits, othersFit⟩⟩
      · rw [read_records, if_pos (by omega)] at found
        obtain rfl := Except.ok.inj found
        exact ⟨List.drop_of_length_le (by omega), fun record member => absurd member List.not_mem_nil⟩
  · rintro ⟨rest, fits⟩
    induction records generalizing room record_offset with
    | nil =>
      have size := congrArg List.length rest
      rw [List.length_drop, List.flatMap_nil, List.length_nil] at size
      cases room with
      | zero => rfl
      | succ room => rw [read_records, if_pos (by omega)]
    | cons record others ih =>
      rw [List.flatMap_cons] at rest
      obtain ⟨first, later⟩ := List.forall_mem_cons.mp fits
      obtain ⟨_, _, _, behind, within⟩ := read_record first rest
      cases room with
      | zero => omega
      | succ room => exact read_records_cons first rest (ih within (by omega) behind later)

/-! ### Segments -/

/-- A segment whose fields have the widths of their types and whose records hold one frame each. -/
structure SegmentFits (segment : Segment) (extra : Bytes) : Prop where
  header : HeaderFits segment.header
  records : ∀ record ∈ segment.records, RecordFits record
  header_len : BASE_HEADER_LEN + (utf8 segment.header.cohort.name).length + extra.length < 2 ^ 32

theorem SegmentFits.short {segment : Segment} {extra : Bytes} (fits : SegmentFits segment extra) :
    (head_bytes segment.header extra).length < 8 + 2 ^ 32 := by
  have known := fits.header_len
  rw [length_head_bytes]
  simp only [FIXED_PREFIX_LEN]
  omega

theorem read_segment_iff {buffer : Bytes} {segment : Segment} :
    read_segment buffer = .ok segment ↔
      ∃ extra, SegmentFits segment extra ∧ buffer = segment_bytes segment.header extra segment.records := by
  have split : ∀ extra body, (head_bytes segment.header extra ++ body).drop (head_bytes segment.header extra).length = body :=
    fun extra body => List.drop_left
  unfold read_segment
  rw [Results.bind_ok]
  constructor
  · rintro ⟨⟨header, header_end⟩, head, found⟩
    obtain ⟨records, read, built⟩ := Results.bind_ok.mp found
    obtain rfl := Except.ok.inj built
    obtain ⟨extra, body, fits, rfl, rfl, short⟩ := read_header_iff.mp head
    rw [read_records_iff (by rw [List.length_append]; omega) (by omega)] at read
    rw [split extra body] at read
    rw [length_head_bytes] at short
    simp only [FIXED_PREFIX_LEN] at short
    exact ⟨extra, ⟨fits, read.2, by
      show BASE_HEADER_LEN + (utf8 header.cohort.name).length + extra.length < 2 ^ 32
      omega⟩, by rw [segment_bytes, ← read.1]⟩
  · rintro ⟨extra, ⟨fits, records, short⟩, rfl⟩
    have size := length_head_bytes segment.header extra
    simp only [FIXED_PREFIX_LEN] at size
    refine ⟨(segment.header, (head_bytes segment.header extra).length),
      read_header_iff.mpr ⟨extra, _, fits, rfl, rfl, by omega⟩, Results.bind_ok.mpr ⟨segment.records, ?_, rfl⟩⟩
    rw [read_records_iff (by rw [segment_bytes, List.length_append]; omega) (by omega), segment_bytes, split]
    exact ⟨rfl, records⟩

/-! ### Writing -/

theorem records_len_ok {records : List SegmentRecord} {sum total : Nat} (held : sum ≤ U64_MAX) :
    records_len records sum = .ok total ↔ (∀ record ∈ records, ∃ header, parse_frame_header record.frame = .ok header) ∧
      total = sum + (records.flatMap record_bytes).length ∧ total ≤ U64_MAX := by
  induction records generalizing sum with
  | nil =>
    constructor
    · intro found
      obtain rfl := Except.ok.inj found
      exact ⟨fun record member => absurd member List.not_mem_nil, rfl, held⟩
    · rintro ⟨_, rfl, _⟩
      rfl
  | cons record rest ih =>
    have size := length_record_bytes record
    rw [records_len, Results.bind_ok, List.flatMap_cons, List.length_append, size]
    constructor
    · rintro ⟨header, parsed, found⟩
      rw [frame_ok] at parsed
      cases added : (checked_add sum RECORD_TIME_LEN).bind fun value => checked_add value record.frame.length with
      | none => rw [added] at found; cases found
      | some next =>
        rw [added] at found
        obtain ⟨middle, first, second⟩ := Option.bind_eq_some_iff.mp added
        obtain ⟨rfl, _⟩ := checked_add_eq_some.mp first
        obtain ⟨rfl, fits⟩ := checked_add_eq_some.mp second
        obtain ⟨others, counted, bounded⟩ := (ih fits).mp found
        simp only [RECORD_TIME_LEN] at counted
        exact ⟨List.forall_mem_cons.mpr ⟨⟨header, parsed⟩, others⟩, by omega, bounded⟩
    · rintro ⟨parsed, rfl, bounded⟩
      obtain ⟨⟨header, first⟩, others⟩ := List.forall_mem_cons.mp parsed
      refine ⟨header, frame_ok.mpr first, ?_⟩
      have added : ((checked_add sum RECORD_TIME_LEN).bind fun value => checked_add value record.frame.length) =
          some (sum + 8 + record.frame.length) := by
        refine Option.bind_eq_some_iff.mpr ⟨sum + 8, checked_add_eq_some.mpr ⟨rfl, ?_⟩, checked_add_eq_some.mpr ⟨rfl, ?_⟩⟩
        · simp only [RECORD_TIME_LEN]
          omega
        · omega
      rw [added]
      exact (ih (by omega)).mpr ⟨others, by omega, by omega⟩

/-- Writing succeeds on records of one frame each, as long as the segment fits in memory. -/
theorem write_segment_ok {header : SegmentHeader} {records : List SegmentRecord} {bytes : Bytes} :
    write_segment header records = .ok bytes ↔
      (∀ record ∈ records, ∃ header, parse_frame_header record.frame = .ok header) ∧
        bytes = segment_bytes header [] records ∧ bytes.length ≤ U64_MAX := by
  have short := cohort_length header.cohort
  have size := length_head_bytes header []
  have cohort : header.cohort.name.toUTF8.data.toList = utf8 header.cohort.name := rfl
  simp only [MAX_COHORT_NAME_BYTES, List.length_nil, Nat.add_zero] at short size
  unfold write_segment
  rw [Results.guard_ok, Results.bind_ok, cohort]
  constructor
  · rintro ⟨_, total, counted, found⟩
    obtain ⟨large, found⟩ := Results.guard_ok.mp found
    obtain rfl := Except.ok.inj found
    obtain ⟨parsed, rfl, _⟩ := (records_len_ok (Nat.zero_le _)).mp counted
    refine ⟨parsed, by rw [segment_bytes, head_bytes_plain], ?_⟩
    rw [List.length_append, ← head_bytes_plain, size]
    omega
  · rintro ⟨parsed, rfl, bounded⟩
    rw [segment_bytes, List.length_append, size] at bounded
    refine ⟨by omega, _, (records_len_ok (Nat.zero_le _)).mpr ⟨parsed, rfl, by omega⟩, ?_⟩
    apply Results.guard_ok.mpr
    refine ⟨by omega, ?_⟩
    rw [segment_bytes, head_bytes_plain]
    rfl

end VectorSeam.SegmentLayout
