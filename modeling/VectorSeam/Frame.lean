import VectorSeam.LittleEndian

/-!
Protocol v1 frames. A frame is self-delimiting: its first four bytes give the length
of the rest. Buffers are byte lists; `usize` has 64 bits, so the sums of 32-bit
lengths below never overflow and the source's overflow branches are unreachable.
-/

namespace VectorSeam.Frame
open VectorSeam.LittleEndian

def FRAME_MAGIC : Bytes := [0x56, 0x51, 0x53, 0x31]
def FRAME_VERSION : Nat := 1
def FIXED_FRAME_HEADER_LEN : Nat := 28
def FRAME_LEN_FIELD_LEN : Nat := 4
def FRAME_LEN_REMAINING_HEADER : Nat := FIXED_FRAME_HEADER_LEN - FRAME_LEN_FIELD_LEN

inductive FrameError where
  | Truncated (needed actual : Nat)
  | BadMagic
  | BadVersion (version : Nat)
  | NameLenExceedsFrame
  | FrameLenMismatch (declared_total actual : Nat)
  | InvalidNameUtf8
deriving DecidableEq, Repr

/-- The envelope of a frame; the vector payload is not interpreted. -/
structure FrameHeader where
  frame_len : Nat
  dtype : Nat
  name_len : Nat
  dimension : Nat
  vector_len : Nat
  name : String
deriving DecidableEq

/-- A 32-bit field, or the truncation error of a read past the end. -/
def read_u32_le (buffer : Bytes) (offset : Nat) : Except FrameError Nat :=
  match read_le 4 buffer offset with
  | some value => .ok value
  | none => .error (.Truncated (offset + 4) buffer.length)

/-- The bytes from one offset up to another. -/
def slice (buffer : Bytes) (start finish : Nat) : Bytes := (buffer.take finish).drop start

def from_utf8 (bytes : Bytes) : Option String := String.fromUTF8? ⟨bytes.toArray⟩

/-- Parses a buffer that must hold exactly one frame. -/
def parse_frame_header (buffer : Bytes) : Except FrameError FrameHeader := do
  if buffer.length < FIXED_FRAME_HEADER_LEN then throw (.Truncated FIXED_FRAME_HEADER_LEN buffer.length)
  let frame_len ← read_u32_le buffer 0
  let declared_total := frame_len + FRAME_LEN_FIELD_LEN
  if declared_total ≠ buffer.length then throw (.FrameLenMismatch declared_total buffer.length)
  if frame_len < FRAME_LEN_REMAINING_HEADER then throw (.Truncated FIXED_FRAME_HEADER_LEN declared_total)
  if slice buffer 4 8 ≠ FRAME_MAGIC then throw .BadMagic
  let version ← read_u32_le buffer 8
  if version ≠ FRAME_VERSION then throw (.BadVersion version)
  let dtype ← read_u32_le buffer 12
  let name_len ← read_u32_le buffer 16
  let dimension ← read_u32_le buffer 20
  let vector_len ← read_u32_le buffer 24
  let name_start := FIXED_FRAME_HEADER_LEN
  let vector_start := name_start + name_len
  if declared_total < vector_start then throw .NameLenExceedsFrame
  let expected_total := vector_start + vector_len
  if expected_total ≠ declared_total then throw (.FrameLenMismatch declared_total expected_total)
  match from_utf8 (slice buffer name_start vector_start) with
  | none => throw .InvalidNameUtf8
  | some name => return { frame_len, dtype, name_len, dimension, vector_len, name }

/-- Total frame length from a buffer that holds at least the length field. -/
def total_frame_len (buffer : Bytes) : Except FrameError Nat := do
  if buffer.length < FRAME_LEN_FIELD_LEN then throw (.Truncated FRAME_LEN_FIELD_LEN buffer.length)
  let frame_len ← read_u32_le buffer 0
  return frame_len + FRAME_LEN_FIELD_LEN

end VectorSeam.Frame
