import VectorSeam.SdkNames

/-!
Frames packed by the Python SDK. `encode_vector_frame` checks name, dimension and length
of a vector and writes the protocol layout; the Rust parser reads every frame it makes
back, and no two byte strings parse to the same fields and payload.
-/

namespace VectorSeam.SdkFrames
open VectorSeam.LittleEndian VectorSeam.Frame VectorSeam.FrameLayout VectorSeam.Cohort VectorSeam.SdkNames

/-- Vector element types of protocol v1. -/
inductive DType where
  | F32
  | F64
  | F16
  | BF16
  | I8
  | U8
deriving DecidableEq, Repr

def DType.value : DType → Nat
  | .F32 => 1
  | .F64 => 2
  | .F16 => 3
  | .BF16 => 4
  | .I8 => 5
  | .U8 => 6
def DType.byte_size : DType → Nat
  | .F32 => 4
  | .F64 => 8
  | .F16 => 2
  | .BF16 => 2
  | .I8 => 1
  | .U8 => 1

def MAGIC : Bytes := [0x56, 0x51, 0x53, 0x31]
def VERSION : Nat := 1

def validate_dimension (dimension : Int) : Except EncodeError Unit :=
  if dimension = 0 then .error .VectorEmpty else validate_u32 "dimension" dimension

def validate_vector_len (dimension : Int) (dtype : DType) (vector_len : Nat) : Except EncodeError Unit :=
  if (vector_len : Int) ≠ dimension * dtype.byte_size then .error .VectorLenMismatch
  else validate_u32 "vector_len" vector_len

/-- The format `<I4sIIIII`. -/
def pack_header (frame_len : Nat) (magic : Bytes) (version dtype name_len dimension vector_len : Nat) : Bytes :=
  to_le_bytes 4 frame_len ++ magic ++ to_le_bytes 4 version ++ to_le_bytes 4 dtype ++ to_le_bytes 4 name_len ++
    to_le_bytes 4 dimension ++ to_le_bytes 4 vector_len

def encode_vector_frame_from_view (name_bytes : Bytes) (dtype : DType) (dimension : Int) (vector : Bytes) :
    Except EncodeError Bytes := do
  let name_len := name_bytes.length
  let vector_len := vector.length
  let frame_len := FIXED_FRAME_HEADER_LEN - 4 + name_len + vector_len
  validate_u32 "frame_len" frame_len
  let header := pack_header frame_len MAGIC VERSION dtype.value name_len dimension.toNat vector_len
  return header ++ (name_bytes ++ vector)

/-- Packs little-endian vector bytes into a frame. -/
def encode_vector_frame (name : String) (dtype : DType) (dimension : Int) (vector : Bytes) : Except EncodeError Bytes := do
  let name_bytes ← encode_name name
  validate_dimension dimension
  validate_vector_len dimension dtype vector.length
  encode_vector_frame_from_view name_bytes dtype dimension vector

theorem validate_u32_ok {field_name : String} {value : Int} :
    validate_u32 field_name value = .ok () ↔ 0 ≤ value ∧ value < 2 ^ 32 := by
  have bound : (U32_MAX : Int) = 2 ^ 32 - 1 := by decide
  unfold validate_u32
  by_cases fits : 0 ≤ value ∧ value ≤ U32_MAX
  · rw [if_pos fits]
    constructor
    · intro _
      omega
    · intro _
      rfl
  · rw [if_neg fits]
    constructor
    · intro wrong
      cases wrong
    · intro within
      omega

theorem pack_frame (dtype dimension : Nat) (name vector : Bytes) :
    pack_header (FIXED_FRAME_HEADER_LEN - 4 + name.length + vector.length) MAGIC VERSION dtype name.length dimension
      vector.length ++ (name ++ vector) = frame_bytes dtype dimension name vector := by
  simp only [pack_header, frame_bytes, List.append_assoc]
  rfl

/-- What the encoder accepts, and what it makes of it. -/
theorem encode_vector_frame_ok {name : String} {dtype : DType} {dimension : Int} {vector frame : Bytes} :
    encode_vector_frame name dtype dimension vector = .ok frame ↔
      Grammar name ∧ 0 < dimension ∧ dimension < 2 ^ 32 ∧ (vector.length : Int) = dimension * dtype.byte_size ∧
        FIXED_FRAME_HEADER_LEN - 4 + (utf8 name).length + vector.length < 2 ^ 32 ∧
        frame = frame_bytes dtype.value dimension.toNat (utf8 name) vector := by
  unfold encode_vector_frame encode_vector_frame_from_view
  rw [Results.bind_ok]
  constructor
  · rintro ⟨name_bytes, encoded, found⟩
    obtain ⟨grammar, rfl⟩ := encode_name_ok.mp encoded
    obtain ⟨positive, found⟩ := Results.check_ok.mp found
    obtain ⟨matching, found⟩ := Results.check_ok.mp found
    obtain ⟨fits, found⟩ := Results.check_ok.mp found
    obtain rfl := Except.ok.inj found
    unfold validate_dimension at positive
    by_cases zero : dimension = 0
    · rw [if_pos zero] at positive; cases positive
    rw [if_neg zero] at positive
    obtain ⟨nonneg, small⟩ := validate_u32_ok.mp positive
    unfold validate_vector_len at matching
    by_cases other : (vector.length : Int) ≠ dimension * dtype.byte_size
    · rw [if_pos other] at matching; cases matching
    have bound := (validate_u32_ok.mp fits).2
    exact ⟨grammar, by omega, small, not_not.mp other, by omega, pack_frame _ _ _ _⟩
  · rintro ⟨grammar, positive, small, matching, fits, rfl⟩
    refine ⟨utf8 name, encode_name_ok.mpr ⟨grammar, rfl⟩, Results.check_ok.mpr ⟨?_, Results.check_ok.mpr ⟨?_, ?_⟩⟩⟩
    · rw [validate_dimension, if_neg (by omega)]
      exact validate_u32_ok.mpr ⟨by omega, small⟩
    · rw [validate_vector_len, if_neg (not_not.mpr matching)]
      exact validate_u32_ok.mpr ⟨by omega, by omega⟩
    · refine Results.check_ok.mpr ⟨validate_u32_ok.mpr ⟨by omega, by omega⟩, ?_⟩
      exact congrArg Except.ok (pack_frame _ _ _ _)

/-- A frame made by the SDK, with its header and payload. -/
theorem encoded_framed {name : String} {dtype : DType} {dimension : Int} {vector frame : Bytes}
    (encoded : encode_vector_frame name dtype dimension vector = .ok frame) :
    ∃ header, Framed frame header vector ∧ header.name = name ∧ header.dtype = dtype.value ∧
      (header.dimension : Int) = dimension := by
  obtain ⟨grammar, positive, small, matching, fits, rfl⟩ := encode_vector_frame_ok.mp encoded
  refine ⟨⟨FRAME_LEN_REMAINING_HEADER + (utf8 name).length + vector.length, dtype.value, (utf8 name).length,
    dimension.toNat, vector.length, name⟩, ⟨⟨rfl, rfl, rfl, fits, ?_, ?_⟩, rfl⟩, rfl, rfl, ?_⟩
  · show dtype.value < 2 ^ 32
    cases dtype <;> decide
  · show dimension.toNat < 2 ^ 32
    omega
  · show (dimension.toNat : Int) = dimension
    omega

/-- The encoder of the SDK and the parser of the collector agree in both directions. -/
theorem frames_agree :
    (∀ (name : String) (dtype : DType) (dimension : Int) (vector frame : Bytes),
      encode_vector_frame name dtype dimension vector = .ok frame →
        ∃ header, parse_frame_header frame = .ok header ∧ header.dtype = dtype.value ∧
          (header.dimension : Int) = dimension ∧ header.name = name ∧ header.name_len = (utf8 name).length ∧
          header.vector_len = vector.length ∧ (∀ after, total_frame_len (frame ++ after) = .ok frame.length) ∧
          frame.drop (FIXED_FRAME_HEADER_LEN + header.name_len) = vector ∧
          ∃ cohort, CohortName.new header.name = .ok cohort) ∧
    (∀ (buffer : Bytes) (header : FrameHeader), parse_frame_header buffer = .ok header →
      buffer = frame_bytes header.dtype header.dimension
        (slice buffer FIXED_FRAME_HEADER_LEN (FIXED_FRAME_HEADER_LEN + header.name_len))
        (buffer.drop (FIXED_FRAME_HEADER_LEN + header.name_len))) ∧
    (∀ (buffer other : Bytes) (header : FrameHeader), parse_frame_header buffer = .ok header →
      parse_frame_header other = .ok header →
        buffer.drop (FIXED_FRAME_HEADER_LEN + header.name_len) = other.drop (FIXED_FRAME_HEADER_LEN + header.name_len) →
          buffer = other) := by
  refine ⟨?_, ?_, ?_⟩
  · intro name dtype dimension vector frame encoded
    obtain ⟨header, framed, rfl, sameDtype, sameDimension⟩ := encoded_framed encoded
    refine ⟨header, parse_frame_header_iff.mpr ⟨vector, framed⟩, sameDtype, sameDimension, rfl, framed.1.name_len,
      framed.1.vector_len, framed.total_frame_len, framed.payload, ?_⟩
    have valid := validate_cohort_name_iff.mpr (encode_vector_frame_ok.mp encoded).1
    exact ⟨⟨header.name, valid⟩, CohortName.new_name ⟨header.name, valid⟩⟩
  · intro buffer header parsed
    have reads := parse_frame_header_reads.mp parsed
    have name := from_utf8_iff.mp reads.name
    have laid := reads.framed.2
    rw [← name] at laid
    exact laid
  · intro buffer other header parsed otherParsed same
    have laid := (parse_frame_header_reads.mp parsed).framed.2
    have otherLaid := (parse_frame_header_reads.mp otherParsed).framed.2
    have payloads : buffer.drop (28 + header.name_len) = other.drop (28 + header.name_len) := same
    rw [payloads, ← otherLaid] at laid
    exact laid

/-- A frame of one 32-bit value. -/
theorem short_frame_encoded : ∃ frame header, encode_vector_frame "a" .F32 1 [0, 0, 128, 63] = .ok frame ∧
    parse_frame_header frame = .ok header ∧ header.name = "a" := by
  have grammar : Grammar "a" := validate_cohort_name_iff.mp (by decide)
  have encoded := encode_vector_frame_ok.mpr
    ⟨grammar, show 0 < (1 : Int) by decide, by decide, show (([0, 0, 128, 63] : Bytes).length : Int) = 1 * DType.F32.byte_size
      by decide, by decide, rfl⟩
  obtain ⟨header, parsed, _, _, named, _⟩ := frames_agree.1 _ _ _ _ _ encoded
  exact ⟨_, header, encoded, parsed, named⟩

end VectorSeam.SdkFrames
