import VectorSeam.Frame
import VectorSeam.Results

/-!
The byte layout of protocol v1 frames. `frame_bytes` writes the fields of a frame one
after the other; the parser accepts exactly these layouts, and reads every field of one
back.
-/

namespace VectorSeam.FrameLayout
open VectorSeam.LittleEndian VectorSeam.Frame

theorem from_utf8_iff {bytes : Bytes} {text : String} : from_utf8 bytes = some text ↔ bytes = utf8 text := by
  unfold from_utf8 utf8 String.fromUTF8?
  constructor
  · intro found
    by_cases valid : ByteArray.IsValidUTF8 ⟨bytes.toArray⟩
    · rw [dif_pos valid] at found
      obtain rfl := Option.some.inj found
      rfl
    · rw [dif_neg valid] at found
      cases found
  · rintro rfl
    have same : (⟨text.toUTF8.data.toList.toArray⟩ : ByteArray) = text.toUTF8 := rfl
    rw [same, String.toUTF8_eq_toByteArray, dif_pos text.isValidUTF8]
    rfl

/-! ### The layout -/

/-- The fields of a frame in their order on the wire. -/
def frame_bytes (dtype dimension : Nat) (name vector : Bytes) : Bytes :=
  to_le_bytes 4 (FRAME_LEN_REMAINING_HEADER + name.length + vector.length) ++ (FRAME_MAGIC ++
    (to_le_bytes 4 FRAME_VERSION ++ (to_le_bytes 4 dtype ++ (to_le_bytes 4 name.length ++
      (to_le_bytes 4 dimension ++ (to_le_bytes 4 vector.length ++ (name ++ vector)))))))

theorem length_frame_bytes (dtype dimension : Nat) (name vector : Bytes) :
    (frame_bytes dtype dimension name vector).length = FIXED_FRAME_HEADER_LEN + name.length + vector.length := by
  simp only [frame_bytes, List.length_append, length_to_le_bytes, FRAME_MAGIC, FIXED_FRAME_HEADER_LEN, List.length_cons,
    List.length_nil]
  omega

/-- A header that describes its own name and a payload, in the widths of its fields. -/
structure Carries (header : FrameHeader) (vector : Bytes) : Prop where
  frame_len : header.frame_len = FRAME_LEN_REMAINING_HEADER + (utf8 header.name).length + vector.length
  name_len : header.name_len = (utf8 header.name).length
  vector_len : header.vector_len = vector.length
  frame_fits : header.frame_len < 2 ^ 32
  dtype_fits : header.dtype < 2 ^ 32
  dimension_fits : header.dimension < 2 ^ 32

/-- A frame with the given header and payload. -/
def Framed (buffer : Bytes) (header : FrameHeader) (vector : Bytes) : Prop :=
  Carries header vector ∧ buffer = frame_bytes header.dtype header.dimension (utf8 header.name) vector

theorem read_u32_le_ok {buffer : Bytes} {offset value : Nat} :
    read_u32_le buffer offset = .ok value ↔ read_le 4 buffer offset = some value := by
  unfold read_u32_le
  cases read_le 4 buffer offset with
  | none => simp
  | some found => simp

theorem drop_slice (buffer : Bytes) {start finish : Nat} (ordered : start ≤ finish) :
    buffer.drop start = slice buffer start finish ++ buffer.drop finish := by
  have split := List.take_append_drop (finish - start) (buffer.drop start)
  rw [List.drop_drop, show start + (finish - start) = finish by omega] at split
  rw [slice, List.drop_take, split]

theorem slice_length {buffer : Bytes} (start : Nat) {finish : Nat} (inside : finish ≤ buffer.length) :
    (slice buffer start finish).length = finish - start := by
  rw [slice, List.length_drop, List.length_take, Nat.min_eq_left inside]

/-! ### Parsing -/

/-- Every field of the header stands where the parser looks for it. -/
structure Reads (buffer : Bytes) (header : FrameHeader) : Prop where
  frame_len : read_le 4 buffer 0 = some header.frame_len
  magic : slice buffer 4 8 = FRAME_MAGIC
  version : read_le 4 buffer 8 = some FRAME_VERSION
  dtype : read_le 4 buffer 12 = some header.dtype
  name_len : read_le 4 buffer 16 = some header.name_len
  dimension : read_le 4 buffer 20 = some header.dimension
  vector_len : read_le 4 buffer 24 = some header.vector_len
  name : from_utf8 (slice buffer 28 (28 + header.name_len)) = some header.name
  whole : header.frame_len + 4 = buffer.length
  filled : 28 + header.name_len + header.vector_len = buffer.length

theorem parse_frame_header_reads {buffer : Bytes} {header : FrameHeader} :
    parse_frame_header buffer = .ok header ↔ Reads buffer header := by
  constructor
  · intro parsed
    unfold parse_frame_header at parsed
    obtain ⟨long, parsed⟩ := Results.guard_ok.mp parsed
    obtain ⟨frame_len, frame_len_read, parsed⟩ := Results.bind_ok.mp parsed
    obtain ⟨declared, parsed⟩ := Results.guard_ok.mp parsed
    obtain ⟨header_fits, parsed⟩ := Results.guard_ok.mp parsed
    obtain ⟨magic, parsed⟩ := Results.guard_ok.mp parsed
    obtain ⟨version, version_read, parsed⟩ := Results.bind_ok.mp parsed
    obtain ⟨supported, parsed⟩ := Results.guard_ok.mp parsed
    obtain ⟨dtype, dtype_read, parsed⟩ := Results.bind_ok.mp parsed
    obtain ⟨name_len, name_len_read, parsed⟩ := Results.bind_ok.mp parsed
    obtain ⟨dimension, dimension_read, parsed⟩ := Results.bind_ok.mp parsed
    obtain ⟨vector_len, vector_len_read, parsed⟩ := Results.bind_ok.mp parsed
    obtain ⟨name_inside, parsed⟩ := Results.guard_ok.mp parsed
    obtain ⟨exact, parsed⟩ := Results.guard_ok.mp parsed
    rw [not_not] at declared magic supported exact
    cases decoded : from_utf8 (slice buffer FIXED_FRAME_HEADER_LEN (FIXED_FRAME_HEADER_LEN + name_len)) with
    | none => rw [decoded] at parsed; cases parsed
    | some name =>
      rw [decoded] at parsed
      obtain rfl := Except.ok.inj parsed
      subst supported
      exact ⟨read_u32_le_ok.mp frame_len_read, magic, read_u32_le_ok.mp version_read, read_u32_le_ok.mp dtype_read,
        read_u32_le_ok.mp name_len_read, read_u32_le_ok.mp dimension_read, read_u32_le_ok.mp vector_len_read, decoded,
        declared, exact.trans declared⟩
  · rintro ⟨frame_len, magic, version, dtype, name_len, dimension, vector_len, name, whole, filled⟩
    unfold parse_frame_header
    simp only [FIXED_FRAME_HEADER_LEN, FRAME_LEN_REMAINING_HEADER, FRAME_LEN_FIELD_LEN]
    apply Results.guard_ok.mpr
    refine ⟨by omega, Results.bind_ok.mpr ⟨_, read_u32_le_ok.mpr frame_len, ?_⟩⟩
    apply Results.guard_ok.mpr
    refine ⟨not_not.mpr whole, ?_⟩
    apply Results.guard_ok.mpr
    refine ⟨by omega, ?_⟩
    apply Results.guard_ok.mpr
    refine ⟨not_not.mpr magic, Results.bind_ok.mpr ⟨_, read_u32_le_ok.mpr version, ?_⟩⟩
    apply Results.guard_ok.mpr
    refine ⟨not_not.mpr rfl, Results.bind_ok.mpr ⟨_, read_u32_le_ok.mpr dtype, ?_⟩⟩
    refine Results.bind_ok.mpr ⟨_, read_u32_le_ok.mpr name_len, ?_⟩
    refine Results.bind_ok.mpr ⟨_, read_u32_le_ok.mpr dimension, ?_⟩
    refine Results.bind_ok.mpr ⟨_, read_u32_le_ok.mpr vector_len, ?_⟩
    apply Results.guard_ok.mpr
    refine ⟨by omega, ?_⟩
    apply Results.guard_ok.mpr
    refine ⟨by omega, ?_⟩
    rw [name]
    rfl

/-- What the parser accepts is laid out as its header says. -/
theorem Reads.framed {buffer : Bytes} {header : FrameHeader} (reads : Reads buffer header) :
    Framed buffer header (buffer.drop (28 + header.name_len)) := by
  obtain ⟨frame_len, magic, version, dtype, name_len, dimension, vector_len, name, whole, filled⟩ := reads
  -- the fields stand behind each other, so the buffer is their concatenation
  have at_magic := drop_slice buffer (show 4 ≤ 8 by omega)
  have at_name := drop_slice buffer (Nat.le_add_right 28 header.name_len)
  have name_size := slice_length 28 (show 28 + header.name_len ≤ buffer.length by omega)
  have vector_size : (buffer.drop (28 + header.name_len)).length = header.vector_len := by
    rw [List.length_drop]
    omega
  rw [from_utf8_iff.mp name] at at_name name_size
  rw [magic] at at_magic
  have length : FRAME_LEN_REMAINING_HEADER + (utf8 header.name).length + (buffer.drop (28 + header.name_len)).length =
      header.frame_len := by
    simp only [FRAME_LEN_REMAINING_HEADER, FIXED_FRAME_HEADER_LEN, FRAME_LEN_FIELD_LEN, vector_size, name_size]
    omega
  have name_length : (utf8 header.name).length = header.name_len := by omega
  refine ⟨⟨length.symm, name_length.symm, vector_size.symm, read_le_lt frame_len, read_le_lt dtype, read_le_lt dimension⟩, ?_⟩
  rw [frame_bytes, length, vector_size, name_length]
  calc buffer = buffer.drop 0 := rfl
    _ = _ := by
      rw [read_le_drop frame_len, at_magic, read_le_drop version, read_le_drop dtype, read_le_drop name_len,
        read_le_drop dimension, read_le_drop vector_len, at_name]

/-- Every layout of fields in their widths shows them where the parser looks. -/
theorem Framed.reads {buffer vector : Bytes} {header : FrameHeader} (framed : Framed buffer header vector) :
    Reads buffer header := by
  obtain ⟨carries, rfl⟩ := framed
  obtain ⟨frame_len, name_len, vector_len, frame_fits, dtype_fits, dimension_fits⟩ := carries
  have size := length_frame_bytes header.dtype header.dimension (utf8 header.name) vector
  simp only [FIXED_FRAME_HEADER_LEN, FRAME_LEN_REMAINING_HEADER, FRAME_LEN_FIELD_LEN] at size frame_len
  have laid : frame_bytes header.dtype header.dimension (utf8 header.name) vector =
      to_le_bytes 4 header.frame_len ++ (FRAME_MAGIC ++ (to_le_bytes 4 FRAME_VERSION ++ (to_le_bytes 4 header.dtype ++
        (to_le_bytes 4 header.name_len ++ (to_le_bytes 4 header.dimension ++ (to_le_bytes 4 header.vector_len ++
          (utf8 header.name ++ vector))))))) := by
    rw [frame_len, name_len, vector_len]
    rfl
  refine ⟨read_le_of_drop (by omega) (congrArg (List.drop 0) laid) (by omega), rfl,
    read_le_of_drop (by omega) (congrArg (List.drop 8) laid) (by decide),
    read_le_of_drop (by omega) (congrArg (List.drop 12) laid) (by omega),
    read_le_of_drop (by omega) (congrArg (List.drop 16) laid) (by omega),
    read_le_of_drop (by omega) (congrArg (List.drop 20) laid) (by omega),
    read_le_of_drop (by omega) (congrArg (List.drop 24) laid) (by omega), ?_, by omega, by omega⟩
  rw [slice, List.drop_take, show 28 + header.name_len - 28 = (utf8 header.name).length by omega, from_utf8_iff]
  exact List.take_left

theorem parse_frame_header_iff {buffer : Bytes} {header : FrameHeader} :
    parse_frame_header buffer = .ok header ↔ ∃ vector, Framed buffer header vector := by
  rw [parse_frame_header_reads]
  constructor
  · intro reads
    exact ⟨_, reads.framed⟩
  · rintro ⟨vector, framed⟩
    exact framed.reads

/-! ### What a layout determines -/

section Framed
variable {buffer vector : Bytes} {header : FrameHeader} (framed : Framed buffer header vector)
include framed

theorem Framed.length : buffer.length = FRAME_LEN_FIELD_LEN + header.frame_len := by
  obtain ⟨carries, rfl⟩ := framed
  rw [length_frame_bytes, carries.frame_len]
  simp only [FIXED_FRAME_HEADER_LEN, FRAME_LEN_REMAINING_HEADER, FRAME_LEN_FIELD_LEN]
  omega

theorem Framed.length_min : FIXED_FRAME_HEADER_LEN + header.name_len ≤ buffer.length := by
  obtain ⟨carries, rfl⟩ := framed
  rw [length_frame_bytes, carries.name_len]
  omega

/-- The bytes behind the name are the payload. -/
theorem Framed.payload : buffer.drop (FIXED_FRAME_HEADER_LEN + header.name_len) = vector := by
  obtain ⟨carries, rfl⟩ := framed
  rw [carries.name_len, ← List.drop_drop]
  exact List.drop_left

/-- A frame tells its own length to whoever reads on from its start. -/
theorem Framed.total_frame_len (after : Bytes) : total_frame_len (buffer ++ after) = .ok buffer.length := by
  have size := framed.length
  have fits := framed.1.frame_fits
  have start : (buffer ++ after).drop 0 = to_le_bytes 4 header.frame_len ++ ((buffer ++ after).drop 4) := by
    obtain ⟨carries, rfl⟩ := framed
    rw [carries.frame_len]
    rfl
  unfold Frame.total_frame_len
  apply Results.guard_ok.mpr
  refine ⟨by rw [List.length_append]; omega, Results.bind_ok.mpr ⟨header.frame_len, ?_, ?_⟩⟩
  · exact read_u32_le_ok.mpr (read_le_of_drop (by omega) start (by omega))
  · rw [size, Nat.add_comm]
    rfl

end Framed

end VectorSeam.FrameLayout
