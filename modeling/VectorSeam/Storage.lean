import VectorSeam.Tallies

/-!
Written pairs are read back. Metadata whose numbers fit their fields is accepted with
the values written, and the two row tables are joined again as soon as the truth rows
have distinct ordinals and every sweep row belongs to one of them under its own ef.
-/

namespace VectorSeam.Storage
open VectorSeam.Model VectorSeam.Text VectorSeam.Intermediate VectorSeam.Tallies

/-! ### Metadata -/

theorem collect_values_succeeds {entries : List (String × Option String)} {values : BTreeMap String String}
    (distinct : (entries.map Prod.fst).Nodup) (fresh : ∀ key ∈ entries.map Prod.fst, key ∉ values) :
    ∃ result, collect_values entries values = .ok result := by
  induction entries generalizing values with
  | nil => exact ⟨values, rfl⟩
  | cons entry rest ih =>
    obtain ⟨key, stored⟩ := entry
    rw [List.map_cons, List.nodup_cons] at distinct
    have absent := fresh key (by simp)
    have others : ∀ other ∈ rest.map Prod.fst, other ∉ values := fun other member => fresh other (by simp [member])
    cases stored with
    | none => exact ih distinct.2 others
    | some value =>
      rw [collect_values, if_neg absent]
      refine ih distinct.2 fun other member present => ?_
      rw [Std.ExtTreeMap.mem_insert, Std.LawfulEqCmp.compare_eq_iff_eq] at present
      rcases present with rfl | already
      · exact distinct.1 member
      · exact others other member already

theorem parse_metadata_written {bound number : Nat} {values : BTreeMap String String} {key : String}
    (stored : values[key]? = some (toString number)) (fits : number < bound) :
    parse_metadata (parse_unsigned bound) values key = .ok number := by
  refine Results.bind_ok.mpr ⟨toString number, metadata_value_ok.mpr stored, ?_⟩
  rw [parse_unsigned_toString, if_pos fits]

theorem parse_ef_grid_written {grid : List Int} (fits : ∀ ef ∈ grid, -(2 ^ 31 : Int) ≤ ef ∧ ef < 2 ^ 31) :
    parse_ef_grid (join ',' (grid.map toString)) = .ok grid := by
  unfold parse_ef_grid
  by_cases empty : grid = []
  · subst empty
    rw [if_pos (by decide)]
  have clean : ∀ piece ∈ grid.map (toString : Int → String), ',' ∉ piece.toList := by
    intro piece member
    obtain ⟨ef, _, rfl⟩ := List.mem_map.mp member
    exact not_mem_toString ef (by decide) (by decide)
  have pieces := split_on_join (by simpa using empty) clean
  by_cases blank : join ',' (grid.map (toString : Int → String)) = ""
  · rw [blank] at pieces
    obtain ⟨ef, rest, rfl⟩ := List.exists_cons_of_ne_nil empty
    have printed : toString ef = "" := (List.cons.inj pieces).1.symm
    have reread := parse_signed_toString (ef.natAbs + 1) ef
    rw [printed, if_pos (by omega)] at reread
    cases reread
  · rw [if_neg blank, pieces, Results.mapM_ok, List.forall₂_map_left_iff, List.forall₂_same]
    intro ef member
    obtain ⟨low, high⟩ := fits ef member
    rw [parse_signed_toString, if_pos ⟨by omega, by omega⟩]

/-- Numbers of metadata in the widths of their fields. -/
structure MetadataFits (metadata : IntermediateMetadata) : Prop where
  format_version : metadata.format_version < 2 ^ 32
  window_start : metadata.window_start < 2 ^ 64
  window_seconds : metadata.window_seconds < 2 ^ 32
  received_frame_count : metadata.received_frame_count < 2 ^ 64
  record_count : metadata.record_count < 2 ^ 64
  k : metadata.k < 2 ^ 32
  ef_grid : ∀ ef ∈ metadata.ef_grid, -(2 ^ 31 : Int) ≤ ef ∧ ef < 2 ^ 31
  failed_count : metadata.failed_count < 2 ^ 64
  measured_count : metadata.measured_count < 2 ^ 64
  computed_at_us : metadata.computed_at_us < 2 ^ 64

/-- Metadata that was written is accepted on reading, with the values written. -/
theorem written_metadata_reads {metadata : IntermediateMetadata} (fits : MetadataFits metadata) (schema : String) :
    read_metadata (metadata_key_values metadata ++ [("ARROW:schema", some schema)]) = .ok metadata := by
  have distinct : ((metadata_key_values metadata ++ [("ARROW:schema", some schema)]).map Prod.fst).Nodup := by
    simp [metadata_key_values]
  have fresh : ∀ key ∈ (metadata_key_values metadata ++ [("ARROW:schema", some schema)]).map Prod.fst,
      key ∉ (∅ : BTreeMap String String) := by simp
  obtain ⟨values, collected⟩ := collect_values_succeeds distinct fresh
  have stored : ∀ (key value : String), (key, some value) ∈ metadata_key_values metadata → values[key]? = some value :=
    fun key value member => (collect_values_ok collected).2 key value (List.mem_append_left _ member)
  have number : ∀ {bound count : Nat} (key : String), (key, some (toString count)) ∈ metadata_key_values metadata →
      count < bound → parse_metadata (parse_unsigned bound) values key = .ok count :=
    fun key member fits => parse_metadata_written (stored key _ member) fits
  have text : ∀ key value : String, (key, some value) ∈ metadata_key_values metadata → metadata_value values key = .ok value :=
    fun key value member => metadata_value_ok.mpr (stored key value member)
  simp only [read_metadata, Results.bind_ok]
  exact ⟨values, collected, _, number "format_version" (by simp [metadata_key_values]) fits.format_version,
    _, text "cohort" metadata.cohort (by simp [metadata_key_values]),
    _, text "part_ulid" metadata.part_ulid (by simp [metadata_key_values]),
    _, number "window_start" (by simp [metadata_key_values]) fits.window_start,
    _, number "window_seconds" (by simp [metadata_key_values]) fits.window_seconds,
    _, number "received_frame_count" (by simp [metadata_key_values]) fits.received_frame_count,
    _, number "record_count" (by simp [metadata_key_values]) fits.record_count,
    _, text "index" metadata.index (by simp [metadata_key_values]),
    _, text "table" metadata.table (by simp [metadata_key_values]),
    _, text "column" metadata.column (by simp [metadata_key_values]),
    _, text "key" metadata.key (by simp [metadata_key_values]),
    _, number "k" (by simp [metadata_key_values]) fits.k,
    _, text "ef_grid" (join ',' (metadata.ef_grid.map toString)) (by simp [metadata_key_values]),
    _, parse_ef_grid_written fits.ef_grid,
    _, number "failed_count" (by simp [metadata_key_values]) fits.failed_count,
    _, number "measured_count" (by simp [metadata_key_values]) fits.measured_count,
    _, number "computed_at_us" (by simp [metadata_key_values]) fits.computed_at_us, rfl⟩

/-! ### Rows -/

/-- The sample of a truth row before its sweep rows are joined. -/
def bare_sample (row : TruthMeasurement) : MeasuredSample :=
  { record_index := row.record_index, vector_hash := row.vector_hash, dup_count := row.dup_count,
    ground_truth_latency_ms := row.latency_ms, sweeps := ∅ }
def observation (row : SweepMeasurementRow) : SweepMeasurement := ⟨row.recall, row.latency_ms⟩

theorem insert_truth_rows_succeeds {rows : List TruthMeasurement} {samples : BTreeMap Int MeasuredSample}
    (distinct : (rows.map (·.record_index)).Nodup) (fresh : ∀ row ∈ rows, row.record_index ∉ samples) :
    ∃ result, insert_truth_rows rows samples = .ok result ∧
      (∀ row ∈ rows, result[row.record_index]? = some (bare_sample row)) ∧
      ∀ index : Int, index ∉ rows.map (·.record_index) → result[index]? = samples[index]? := by
  induction rows generalizing samples with
  | nil => exact ⟨samples, rfl, by simp, by simp⟩
  | cons row rest ih =>
    rw [List.map_cons, List.nodup_cons] at distinct
    obtain ⟨absent, othersFresh⟩ := List.forall_mem_cons.mp fresh
    have still : ∀ other ∈ rest, other.record_index ∉ samples.insert row.record_index (bare_sample row) := by
      intro other member present
      rw [Std.ExtTreeMap.mem_insert, Std.LawfulEqCmp.compare_eq_iff_eq] at present
      rcases present with same | already
      · exact distinct.1 (List.mem_map.mpr ⟨other, member, same.symm⟩)
      · exact othersFresh other member already
    obtain ⟨result, inserted, own, kept⟩ := ih distinct.2 still
    refine ⟨result, ?_, List.forall_mem_cons.mpr ⟨?_, own⟩, fun index outside => ?_⟩
    · rw [insert_truth_rows, if_neg absent]
      exact inserted
    · rw [kept _ distinct.1, SortedMaps.lookup_insert, if_pos rfl]
    · rw [List.map_cons, List.mem_cons, not_or] at outside
      rw [kept index outside.2, SortedMaps.lookup_insert, if_neg (Ne.symm outside.1)]

/-- The sweeps of a sample after rows were joined to it. -/
def Joined (rows : List SweepMeasurementRow) (index : Int) (before after : BTreeMap Int SweepMeasurement) : Prop :=
  ∀ (ef : Int) (observed : SweepMeasurement), after[ef]? = some observed ↔
    before[ef]? = some observed ∨ ∃ row ∈ rows, row.record_index = index ∧ row.ef = ef ∧ observation row = observed

theorem insert_sweep_rows_succeeds {rows : List SweepMeasurementRow} {samples : BTreeMap Int MeasuredSample}
    (distinct : (sweep_keys rows).Nodup) (owned : ∀ key ∈ sweep_keys rows, ¬Occupied samples key ∧ key.1 ∈ samples) :
    ∃ result, insert_sweep_rows rows samples = .ok result ∧
      ∀ (index : Int) (sample : MeasuredSample), samples[index]? = some sample →
        ∃ sweeps, result[index]? = some { sample with sweeps } ∧ Joined rows index sample.sweeps sweeps := by
  induction rows generalizing samples with
  | nil => exact ⟨samples, rfl, fun index sample found => ⟨sample.sweeps, found, by simp [Joined]⟩⟩
  | cons row rest ih =>
    have keys : sweep_keys (row :: rest) = (row.record_index, row.ef) :: sweep_keys rest := rfl
    rw [keys, List.nodup_cons] at distinct
    rw [keys] at owned
    obtain ⟨⟨free, present⟩, others⟩ := List.forall_mem_cons.mp owned
    obtain ⟨sample, held⟩ := Option.isSome_iff_exists.mp (Std.ExtTreeMap.mem_iff_isSome_getElem?.mp present)
    have new : row.ef ∉ sample.sweeps := fun taken => free ⟨sample, held, taken⟩
    -- the row's own sample gets one sweep more, and every other one stays
    have later : ∀ key ∈ sweep_keys rest, ¬Occupied (samples.insert row.record_index
        { sample with sweeps := sample.sweeps.insert row.ef (observation row) }) key ∧
        key.1 ∈ samples.insert row.record_index { sample with sweeps := sample.sweeps.insert row.ef (observation row) } := by
      rintro ⟨index, ef⟩ member
      obtain ⟨unoccupied, inside⟩ := others _ member
      refine ⟨?_, Std.ExtTreeMap.mem_insert.mpr (.inr inside)⟩
      rintro ⟨other, found, taken⟩
      rw [SortedMaps.lookup_insert] at found
      by_cases same : row.record_index = index
      · subst same
        rw [if_pos rfl] at found
        obtain rfl := Option.some.inj found
        rw [Std.ExtTreeMap.mem_insert, Std.LawfulEqCmp.compare_eq_iff_eq] at taken
        rcases taken with rfl | earlier
        · exact distinct.1 member
        · exact unoccupied ⟨sample, held, earlier⟩
      · rw [if_neg same] at found
        exact unoccupied ⟨other, found, taken⟩
    obtain ⟨result, inserted, joined⟩ := ih distinct.2 later
    refine ⟨result, ?_, fun index found foundHere => ?_⟩
    · rw [insert_sweep_rows, held]
      simp only [if_neg new]
      exact inserted
    · by_cases same : row.record_index = index
      · subst same
        obtain rfl := Option.some.inj (held.symm.trans foundHere)
        obtain ⟨sweeps, there, all⟩ := joined row.record_index _ (by rw [SortedMaps.lookup_insert, if_pos rfl])
        refine ⟨sweeps, there, fun ef observed => (all ef observed).trans ?_⟩
        rw [SortedMaps.lookup_insert]
        by_cases own : row.ef = ef
        · subst own
          rw [if_pos rfl]
          have nothing : sample.sweeps[row.ef]? = none := Std.ExtTreeMap.getElem?_eq_none new
          simp [nothing, eq_comm]
        · rw [if_neg own]
          simp [own]
      · obtain ⟨sweeps, there, all⟩ := joined index found (by rw [SortedMaps.lookup_insert, if_neg same, foundHere])
        refine ⟨sweeps, there, fun ef observed => (all ef observed).trans ?_⟩
        simp [same]

/-- A map that holds one value for each item of an ordered list lists its values in that order. -/
theorem values_of_ordered {κ ν α : Type} [Ord κ] [Std.TransOrd κ] [Std.LawfulEqOrd κ] {entries : Std.ExtTreeMap κ ν}
    {items : List α} {key : α → κ} {R : α → ν → Prop}
    (ordered : items.Pairwise fun left right => compare (key left) (key right) = .lt)
    (covered : ∀ k, k ∈ entries → k ∈ items.map key)
    (held : ∀ item ∈ items, ∃ value, entries[key item]? = some value ∧ R item value) :
    List.Forall₂ R items (entries.toList.map Prod.snd) := by
  have each : ∀ item : {item // item ∈ items}, ∃ value, entries[key item.1]? = some value ∧ R item.1 value :=
    fun item => held item.1 item.2
  choose value chosen using each
  have listing : entries.toList = items.attach.map fun item => (key item.1, value item) := by
    refine SortedMaps.toList_eq_of_ordered ?_ fun k stored => ⟨fun member => ?_, fun found => ?_⟩
    · refine List.pairwise_map.mpr ?_
      rw [← List.attach_map_subtype_val items, List.pairwise_map] at ordered
      exact ordered
    · obtain ⟨item, _, same⟩ := List.mem_map.mp member
      obtain ⟨rfl, rfl⟩ := Prod.mk.inj same
      exact (chosen item).1
    · have present : k ∈ entries := by
        rw [Std.ExtTreeMap.mem_iff_isSome_getElem?, found]
        rfl
      obtain ⟨item, member, rfl⟩ := List.mem_map.mp (covered k present)
      refine List.mem_map.mpr ⟨⟨item, member⟩, List.mem_attach _ _, ?_⟩
      rw [(chosen ⟨item, member⟩).1] at found
      rw [Option.some.inj found]
  rw [listing, List.map_map, List.forall₂_map_right_iff]
  have own : List.Forall₂ (fun (left : {item // item ∈ items}) right => R left.1 (value right)) items.attach items.attach :=
    List.forall₂_same.mpr fun item _ => (chosen item).2
  have mapped : List.Forall₂ (fun item other => R item (value other)) (items.attach.map Subtype.val) items.attach :=
    List.forall₂_map_left_iff.mpr own
  rw [List.attach_map_subtype_val] at mapped
  exact mapped

/-- A sample that holds what its truth row and its sweep rows say. -/
structure Restored (sweep_rows : List SweepMeasurementRow) (row : TruthMeasurement) (sample : MeasuredSample) : Prop where
  record_index : sample.record_index = row.record_index
  vector_hash : sample.vector_hash = row.vector_hash
  dup_count : sample.dup_count = row.dup_count
  latency : sample.ground_truth_latency_ms = row.latency_ms
  sweeps : ∀ (ef : Int) (observed : SweepMeasurement), sample.sweeps[ef]? = some observed ↔
    ∃ sweep ∈ sweep_rows, sweep.record_index = row.record_index ∧ sweep.ef = ef ∧ observation sweep = observed

/-- Truth rows in order and sweep rows that belong to them under keys of their own. -/
structure Joinable (truth_rows : List TruthMeasurement) (sweep_rows : List SweepMeasurementRow) : Prop where
  ordered : truth_rows.Pairwise fun left right => left.record_index < right.record_index
  distinct : (sweep_keys sweep_rows).Nodup
  owned : ∀ row ∈ sweep_rows, row.record_index ∈ truth_rows.map (·.record_index)

theorem Joinable.nodup {truth_rows : List TruthMeasurement} {sweep_rows : List SweepMeasurementRow}
    (joinable : Joinable truth_rows sweep_rows) : (truth_rows.map (·.record_index)).Nodup :=
  List.pairwise_map.mpr (joinable.ordered.imp fun less => ne_of_lt less)

/-- The rows are joined again: one sample for each truth row, in its order, with its sweep rows. -/
theorem joined_again {truth_rows : List TruthMeasurement} {sweep_rows : List SweepMeasurementRow}
    (joinable : Joinable truth_rows sweep_rows) :
    ∃ truths samples, insert_truth_rows truth_rows ∅ = .ok truths ∧ truths.size = truth_rows.length ∧
      insert_sweep_rows sweep_rows truths = .ok samples ∧
      List.Forall₂ (Restored sweep_rows) truth_rows (samples.toList.map Prod.snd) := by
  obtain ⟨truths, inserted, own, _⟩ := insert_truth_rows_succeeds joinable.nodup
    (fun row _ => (Std.ExtTreeMap.not_mem_empty : row.record_index ∉ (∅ : BTreeMap Int MeasuredSample)))
  obtain ⟨_, _, truthKeys, bare, size⟩ := insert_truth_rows_ok inserted
  have free : ∀ key ∈ sweep_keys sweep_rows, ¬Occupied truths key ∧ key.1 ∈ truths := by
    intro key member
    obtain ⟨row, present, rfl⟩ := List.mem_map.mp member
    refine ⟨fun taken => ?_, (truthKeys _).mpr (.inr (joinable.owned row present))⟩
    obtain ⟨other, there, _⟩ := bare _ taken
    simp at there
  obtain ⟨samples, joined, contents⟩ := insert_sweep_rows_succeeds joinable.distinct free
  obtain ⟨_, _, sameKeys, _, _⟩ := insert_sweep_rows_ok joined
  have ordered : truth_rows.Pairwise fun left right => compare left.record_index right.record_index = .lt :=
    joinable.ordered.imp fun less => compare_lt_iff_lt.mpr less
  have covered : ∀ index, index ∈ samples → index ∈ truth_rows.map (·.record_index) := by
    intro index present
    rcases (truthKeys index).mp ((sameKeys index).mp present) with nothing | row
    · exact absurd nothing Std.ExtTreeMap.not_mem_empty
    · exact row
  refine ⟨truths, samples, inserted, by rw [size, Std.ExtTreeMap.size_empty, Nat.zero_add], joined,
    values_of_ordered ordered covered fun row member => ?_⟩
  obtain ⟨sweeps, there, all⟩ := contents _ _ (own row member)
  refine ⟨_, there, ⟨rfl, rfl, rfl, rfl, fun ef observed => (all ef observed).trans ?_⟩⟩
  simp [bare_sample]

end VectorSeam.Storage
