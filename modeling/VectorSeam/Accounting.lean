import VectorSeam.Estimators
import VectorSeam.SortedMaps
import VectorSeam.Results

/-!
Rolling-window membership and collector-side accounting over listed part headers.
-/

namespace VectorSeam.Accounting
open VectorSeam.Model VectorSeam.Estimators VectorSeam.Window VectorSeam.SortedMaps

/-- Invalid or inconsistent aggregation input. -/
inductive AggregateError where
  | Math (error : MathError)
  | Window (error : WindowError)
  | WindowUnderflow
  | UnalignedRoundEnd
  | InvalidConfig (reason : String)
  | ConflictingListedPart (part_ulid : String)
  | ConflictingIntermediate (part_ulid : String)
  | InvalidPartCounts (part_ulid : String)
  | CounterOverflow (counter : String)
  | PartWindowOverflow (part_ulid : String)
  | MissingSweep (part_ulid : String) (record_index : Int) (ef : Int)
  | InvalidObservation (part_ulid : String) (record_index : Int) (ef : Int)
  | InvalidGroundTruthLatency (part_ulid : String) (record_index : Int)
  | Json (message : String)
deriving DecidableEq

/-- The source's `checked_…().ok_or(error)`. -/
def ok_or {α : Type} (value : Option α) (error : AggregateError) : Except AggregateError α :=
  match value with
  | some value => .ok value
  | none => .error error

/-- The loop that walks window starts down from `candidate_end` to the lower bound.
    `room` bounds the iterations by the number of widths below the start. -/
def starts_below (storage_width lower : Nat) : Nat → Nat → List Nat
  | 0, _ => []
  | room + 1, candidate_end =>
    match checked_sub candidate_end storage_width with
    | none => []
    | some start => if start < lower then [] else start :: starts_below storage_width lower room start

/-- Storage-window starts fully inside the rolling window, in ascending order. -/
def in_scope_window_starts (round_end window_duration_seconds storage_window_seconds : Nat) :
    Except AggregateError (List Nat) := do
  let storage_width := storage_window_seconds
  if storage_width = 0 then throw (.Window .ZeroDuration)
  if round_end % storage_width ≠ 0 then throw .UnalignedRoundEnd
  let lower ← ok_or (checked_sub round_end window_duration_seconds) .WindowUnderflow
  return (starts_below storage_width lower (round_end / storage_width) round_end).reverse

/-- The accumulation over part headers `(ulid, received, records)`. -/
def sum_frames : List (String × Nat × Nat) → Nat → Nat → Except AggregateError (Nat × Nat)
  | [], received, records => .ok (received, records)
  | (part_ulid, part_received, part_records) :: rest, received, records => do
    if part_received < part_records then throw (.InvalidPartCounts part_ulid)
    let received ← ok_or (checked_add received part_received) (.CounterOverflow "received_frame_count")
    let records ← ok_or (checked_add records part_records) (.CounterOverflow "record_count")
    sum_frames rest received records

/-- Collector-side drop fraction of distinct part headers. -/
def dropped_frame_fraction (headers : List (String × Nat × Nat)) : Except AggregateError Float := do
  let (received, records) ← sum_frames headers 0 0
  if received = 0 then return 0.0
  return 1.0 - Float.ofNat records / Float.ofNat received

/-- Whether a part lies in scope; its window end must not overflow. -/
def in_scope (lower round_end : Nat) (part : ListedPart) : Except AggregateError Bool :=
  match checked_add part.window_start part.window_seconds with
  | none => .error (.PartWindowOverflow part.part_ulid)
  | some part_end => .ok (! (part.window_start < lower || round_end < part_end))

/-- In-scope parts by ULID; one ULID under two headers is an error. -/
def unique_in_scope_parts (parts : List ListedPart) (lower round_end : Nat) :
    Except AggregateError (BTreeMap String ListedPart) :=
  collect (in_scope lower round_end) ListedPart.part_ulid (fun existing part => decide (existing ≠ part))
    (fun part => .ConflictingListedPart part.part_ulid) parts ∅

def coverage (expected_windows : List Nat) (listed : BTreeMap String ListedPart) : Coverage :=
  let covered := (listed.toList.map Prod.snd).filter fun part => decide (part.window_start ∈ expected_windows)
  let windows_with_parts := (covered.map ListedPart.window_start).dedup.length
  let windows_in_scope := expected_windows.length
  { empty_window_fraction :=
      if windows_in_scope = 0 then 1.0
      else Float.ofNat (windows_in_scope - windows_with_parts) / Float.ofNat windows_in_scope
    windows_in_scope
    windows_with_parts }

/-! ### Membership -/

theorem ok_or_ok {α : Type} {value : Option α} {error : AggregateError} {result : α} :
    ok_or value error = .ok result ↔ value = some result := by
  cases value with
  | none => simp [ok_or]
  | some value => simp [ok_or]

/-- Starts counted down from an aligned end are the aligned starts whose window fits. -/
theorem mem_starts_below {storage_width lower room candidate_end start : Nat} (positive : 0 < storage_width)
    (exact : candidate_end = room * storage_width) :
    start ∈ starts_below storage_width lower room candidate_end ↔
      storage_width ∣ start ∧ lower ≤ start ∧ start + storage_width ≤ candidate_end := by
  induction room generalizing candidate_end with
  | zero =>
    simp only [starts_below, List.not_mem_nil, false_iff]
    rintro ⟨_, _, fits⟩
    omega
  | succ room ih =>
    have next : candidate_end - storage_width = room * storage_width := by
      rw [exact, Nat.succ_mul, Nat.add_sub_cancel]
    have wide : storage_width ≤ candidate_end := by rw [exact, Nat.succ_mul]; omega
    have found : checked_sub candidate_end storage_width = some (room * storage_width) :=
      checked_sub_eq_some.mpr ⟨wide, next.symm⟩
    simp only [starts_below, found]
    by_cases low : room * storage_width < lower
    · rw [if_pos low]
      simp only [List.not_mem_nil, false_iff]
      rintro ⟨_, atLeast, fits⟩
      omega
    · rw [if_neg low, List.mem_cons, ih rfl]
      constructor
      · rintro (rfl | ⟨aligned, atLeast, fits⟩)
        · exact ⟨Nat.dvd_mul_left _ _, by omega, by omega⟩
        · exact ⟨aligned, atLeast, by omega⟩
      · rintro ⟨⟨count, rfl⟩, atLeast, fits⟩
        by_cases last : count = room
        · exact .inl (by rw [last, Nat.mul_comm])
        · have below : count < room := by
            rw [exact, Nat.mul_comm storage_width count, ← Nat.succ_mul] at fits
            have := Nat.le_of_mul_le_mul_right fits positive
            omega
          have smaller : (count + 1) * storage_width ≤ room * storage_width := Nat.mul_le_mul_right _ below
          exact .inr ⟨Nat.dvd_mul_right _ _, atLeast, by rw [Nat.mul_comm storage_width count, ← Nat.succ_mul]; exact smaller⟩

/-- The enumerated window starts are the aligned ones whose whole window is in the rolling window. -/
theorem mem_in_scope_window_starts {round_end duration width : Nat} {starts : List Nat}
    (found : in_scope_window_starts round_end duration width = .ok starts) (start : Nat) :
    start ∈ starts ↔ width ∣ start ∧ round_end - duration ≤ start ∧ start + width ≤ round_end := by
  unfold in_scope_window_starts at found
  by_cases zero : width = 0
  · rw [if_pos zero] at found; cases found
  by_cases unaligned : round_end % width ≠ 0
  · rw [if_neg zero, if_pos unaligned] at found; cases found
  rw [if_neg zero, if_neg unaligned] at found
  simp only [] at found
  obtain ⟨lower, lowerFound, listing⟩ := Results.bind_ok.mp found
  obtain ⟨_, rfl⟩ := checked_sub_eq_some.mp (ok_or_ok.mp lowerFound)
  obtain rfl := Except.ok.inj listing
  have aligned : round_end = round_end / width * width :=
    (Nat.div_mul_cancel (Nat.dvd_of_mod_eq_zero (not_not.mp unaligned))).symm
  rw [List.mem_reverse, mem_starts_below (Nat.pos_of_ne_zero zero) aligned]

example : in_scope_window_starts 43200 3600 600 = .ok [39600, 40200, 40800, 41400, 42000, 42600] := by decide

end VectorSeam.Accounting
