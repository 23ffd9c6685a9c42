import VectorSeam.LittleEndian

/-!
Length-prefixed blobs in a byte stream. The first four bytes of a blob give the length of
the rest. A stream reads as complete blobs and a rest in which none is complete; wherever
it is cut off, the first blobs of that reading are left.
-/

namespace VectorSeam.Blobs
open VectorSeam.LittleEndian

/-- The length that the first bytes of a stream declare, the prefix counted in. -/
def declared (stream : Bytes) : Nat := from_le_bytes (stream.take 4) + 4

/-- Exactly one blob. -/
def Blob (bytes : Bytes) : Prop := 4 ≤ bytes.length ∧ bytes.length = declared bytes

/-- No blob is complete at the start. -/
def Unfinished (stream : Bytes) : Prop := stream.length < 4 ∨ stream.length < declared stream

theorem declared_append {front : Bytes} (some : 4 ≤ front.length) (after : Bytes) :
    declared (front ++ after) = declared front := by
  rw [declared, declared, List.take_append_of_le_length some]

theorem Blob.declared_append {blob : Bytes} (whole : Blob blob) (after : Bytes) : declared (blob ++ after) = blob.length := by
  rw [Blobs.declared_append whole.1, ← whole.2]

/-- Stopped anywhere before its end a blob is unfinished. -/
theorem Blob.unfinished_take {blob : Bytes} (whole : Blob blob) {count : Nat} (short : count < blob.length) :
    Unfinished (blob.take count) := by
  by_cases few : count < 4
  · left
    rw [List.length_take]
    omega
  · right
    have size : (blob.take count).length = count := by rw [List.length_take]; omega
    have same : declared (blob.take count) = declared blob := by
      rw [← Blobs.declared_append (by omega) (blob.drop count), List.take_append_drop]
    rw [size, same, ← whole.2]
    exact short

theorem unfinished_nil : Unfinished [] := .inl (by decide)

/-- The first bytes of joined blobs are complete blobs and a proper prefix of the next one. -/
theorem take_flatten (blobs : List Bytes) (count : Nat) :
    ∃ complete rest, (blobs.flatten).take count = (blobs.take complete).flatten ++ rest ∧
      (rest = [] ∨ ∃ blob, blobs[complete]? = some blob ∧ rest <+: blob ∧ rest.length < blob.length) := by
  induction blobs generalizing count with
  | nil => exact ⟨0, [], by simp, .inl rfl⟩
  | cons blob blobs ih =>
    by_cases short : count < blob.length
    · refine ⟨0, blob.take count, ?_, .inr ⟨blob, rfl, List.take_prefix _ _, by rw [List.length_take]; omega⟩⟩
      rw [List.flatten_cons, List.take_append_of_le_length (by omega)]
      rfl
    · obtain ⟨complete, rest, split, cut⟩ := ih (count - blob.length)
      refine ⟨complete + 1, rest, ?_, cut⟩
      rw [List.flatten_cons, List.take_append, List.take_of_length_le (by omega), split, List.take_succ_cons,
        List.flatten_cons, List.append_assoc]

theorem Unfinished.take {stream : Bytes} (unfinished : Unfinished stream) (count : Nat) : Unfinished (stream.take count) := by
  by_cases few : (stream.take count).length < 4
  · exact .inl few
  rw [List.length_take] at few
  obtain short | short := unfinished
  · omega
  · right
    have same : declared (stream.take count) = declared stream := by
      rw [← declared_append (by rw [List.length_take]; omega) (stream.drop count), List.take_append_drop]
    rw [same, List.length_take]
    omega

/-- A stream that ends early has the first blobs of its reading. -/
theorem take_reading {blobs : List Bytes} {tail : Bytes} (whole : ∀ blob ∈ blobs, Blob blob) (rest : Unfinished tail)
    (count : Nat) : ∃ complete tail', (blobs.flatten ++ tail).take count = (blobs.take complete).flatten ++ tail' ∧
      Unfinished tail' := by
  induction blobs generalizing count with
  | nil => exact ⟨0, tail.take count, by simp, rest.take count⟩
  | cons blob blobs ih =>
    obtain ⟨own, others⟩ := List.forall_mem_cons.mp whole
    rw [List.flatten_cons, List.append_assoc]
    by_cases short : count < blob.length
    · refine ⟨0, blob.take count, ?_, own.unfinished_take short⟩
      rw [List.take_append_of_le_length (by omega)]
      rfl
    · obtain ⟨complete, tail', split, unfinished⟩ := ih others (count - blob.length)
      refine ⟨complete + 1, tail', ?_, unfinished⟩
      rw [List.take_append, List.take_of_length_le (by omega), split, List.take_succ_cons, List.flatten_cons,
        List.append_assoc]

end VectorSeam.Blobs
