import VectorSeam.Model
import VectorSeam.SortedMaps
import VectorSeam.Results

/-!
Durable truth/sweep pairs. The parquet and JSON libraries are a parameter: a `Codec`
turns the data the program hands to them into an object body and back. `ParquetLaws`
states that parquet files read back as they were written, `CodecLaws` that round records
do as well. A parquet body is seen as its key-value metadata and its rows; a writer's own
metadata follows the program's.
-/

namespace VectorSeam.Intermediate
open VectorSeam.Model VectorSeam.Text

structure TruthMeasurement where
  record_index : Int
  vector_hash : UInt64
  dup_count : Int
  receive_time_us : Int
  latency_ms : Float
  gt_keys : List Int
  gt_distances : List Float
deriving DecidableEq

structure SweepMeasurementRow where
  record_index : Int
  ef : Int
  returned_keys : List Int
  «recall» : Float
  latency_ms : Float
  result_count : Int
deriving DecidableEq

/-- The rows of a parquet file, under one of the two frozen schemas or another one. -/
inductive Table where
  | truth (rows : List TruthMeasurement)
  | sweep (rows : List SweepMeasurementRow)
  | other
deriving DecidableEq

structure ParquetFile where
  key_values : List (String × Option String)
  table : Table
deriving DecidableEq

/-- The serialisers, over object bodies `B`; `content` is the body as the segment reader sees it. -/
structure Codec (B : Type) where
  content : B → List UInt8
  to_vec : RoundOutput → Except String B
  from_slice : B → Except String RoundOutput
  write_parquet : ParquetFile → Except String B
  read_key_values : B → Except String (List (String × Option String))
  read_table : B → Except String Table

/-- A parquet file is read back as written; the writer adds its encoded Arrow schema. -/
structure ParquetLaws {B : Type} (codec : Codec B) : Prop where
  key_values : ∀ {file body}, codec.write_parquet file = .ok body →
    ∃ schema, codec.read_key_values body = .ok (file.key_values ++ [("ARROW:schema", some schema)])
  table : ∀ {file body}, codec.write_parquet file = .ok body → codec.read_table body = .ok file.table

/-- A round record too is read back as written, to the last digit of its numbers. -/
structure CodecLaws {B : Type} (codec : Codec B) : Prop extends ParquetLaws codec where
  json : ∀ {round body}, codec.to_vec round = .ok body → codec.from_slice body = .ok round

inductive IntermediateError where
  | Parquet (message : String)
  | Schema (kind : String)
  | MissingMetadata (key : String)
  | DuplicateMetadata (key : String)
  | InvalidMetadata (key value : String)
  | MetadataMismatch
  | DuplicateTruthRecord (record_index : Int)
  | MeasuredCountMismatch (metadata_count truth_row_count : Nat)
  | OrphanSweepRecord (record_index : Int)
  | DuplicateSweep (record_index ef : Int)
deriving DecidableEq

/-! ### Metadata -/

/-- The entries with a value, by key; a repeated key is an error. -/
def collect_values : List (String × Option String) → BTreeMap String String →
    Except IntermediateError (BTreeMap String String)
  | [], values => .ok values
  | (_, none) :: rest, values => collect_values rest values
  | (key, some value) :: rest, values =>
    if key ∈ values then .error (.DuplicateMetadata key) else collect_values rest (values.insert key value)

def metadata_value (values : BTreeMap String String) (key : String) : Except IntermediateError String :=
  match values[key]? with
  | some value => .ok value
  | none => .error (.MissingMetadata key)

/-- A value read by `parse`, which stands for the integer type's own parser. -/
def parse_metadata {α : Type} (parse : String → Option α) (values : BTreeMap String String) (key : String) :
    Except IntermediateError α := do
  let value ← metadata_value values key
  match parse value with
  | some parsed => .ok parsed
  | none => .error (.InvalidMetadata key value)

def parse_ef_grid (value : String) : Except IntermediateError (List Int) :=
  if value = "" then .ok []
  else (split_on ',' value).mapM fun item =>
    match parse_signed (2 ^ 31) item with
    | some ef => .ok ef
    | none => .error (.InvalidMetadata "ef_grid" value)

def parse_u32 : String → Option Nat := parse_unsigned (2 ^ 32)
def parse_u64 : String → Option Nat := parse_unsigned (2 ^ 64)

def read_metadata (key_values : List (String × Option String)) : Except IntermediateError IntermediateMetadata := do
  let values ← collect_values key_values ∅
  let format_version ← parse_metadata parse_u32 values "format_version"
  let cohort ← metadata_value values "cohort"
  let part_ulid ← metadata_value values "part_ulid"
  let window_start ← parse_metadata parse_u64 values "window_start"
  let window_seconds ← parse_metadata parse_u32 values "window_seconds"
  let received_frame_count ← parse_metadata parse_u64 values "received_frame_count"
  let record_count ← parse_metadata parse_u64 values "record_count"
  let index ← metadata_value values "index"
  let table ← metadata_value values "table"
  let column ← metadata_value values "column"
  let key ← metadata_value values "key"
  let k ← parse_metadata parse_u32 values "k"
  let grid ← metadata_value values "ef_grid"
  let ef_grid ← parse_ef_grid grid
  let failed_count ← parse_metadata parse_u64 values "failed_count"
  let measured_count ← parse_metadata parse_u64 values "measured_count"
  let computed_at_us ← parse_metadata parse_u64 values "computed_at_us"
  return { format_version, cohort, part_ulid, window_start, window_seconds, received_frame_count, record_count, index,
           table, column, key, k, ef_grid, failed_count, measured_count, computed_at_us }

def metadata_key_values (metadata : IntermediateMetadata) : List (String × Option String) :=
  [("format_version", some (toString metadata.format_version)),
   ("cohort", some metadata.cohort),
   ("part_ulid", some metadata.part_ulid),
   ("window_start", some (toString metadata.window_start)),
   ("window_seconds", some (toString metadata.window_seconds)),
   ("received_frame_count", some (toString metadata.received_frame_count)),
   ("record_count", some (toString metadata.record_count)),
   ("index", some metadata.index),
   ("table", some metadata.table),
   ("column", some metadata.column),
   ("key", some metadata.key),
   ("k", some (toString metadata.k)),
   ("ef_grid", some (join ',' (metadata.ef_grid.map toString))),
   ("failed_count", some (toString metadata.failed_count)),
   ("measured_count", some (toString metadata.measured_count)),
   ("computed_at_us", some (toString metadata.computed_at_us))]

/-! ### Rows -/

def insert_truth_rows : List TruthMeasurement → BTreeMap Int MeasuredSample →
    Except IntermediateError (BTreeMap Int MeasuredSample)
  | [], samples => .ok samples
  | row :: rest, samples =>
    if row.record_index ∈ samples then .error (.DuplicateTruthRecord row.record_index)
    else insert_truth_rows rest (samples.insert row.record_index
      { record_index := row.record_index, vector_hash := row.vector_hash, dup_count := row.dup_count,
        ground_truth_latency_ms := row.latency_ms, sweeps := ∅ })

def insert_sweep_rows : List SweepMeasurementRow → BTreeMap Int MeasuredSample →
    Except IntermediateError (BTreeMap Int MeasuredSample)
  | [], samples => .ok samples
  | row :: rest, samples =>
    match samples[row.record_index]? with
    | none => .error (.OrphanSweepRecord row.record_index)
    | some sample =>
      if row.ef ∈ sample.sweeps then .error (.DuplicateSweep row.record_index row.ef)
      else insert_sweep_rows rest (samples.insert row.record_index
        { sample with sweeps := sample.sweeps.insert row.ef ⟨row.recall, row.latency_ms⟩ })

def read_truth_rows (table : Table) : Except IntermediateError (BTreeMap Int MeasuredSample) :=
  match table with
  | .truth rows => insert_truth_rows rows ∅
  | _ => .error (.Schema "truth")

def read_sweep_rows (table : Table) (samples : BTreeMap Int MeasuredSample) :
    Except IntermediateError (BTreeMap Int MeasuredSample) :=
  match table with
  | .sweep rows => insert_sweep_rows rows samples
  | _ => .error (.Schema "sweep")

/-! ### Pairs -/

section Pairs
variable {B : Type} (codec : Codec B)

/-- Errors of the parquet library. -/
def parquet {α : Type} : Except String α → Except IntermediateError α
  | .ok value => .ok value
  | .error message => .error (.Parquet message)

def read_intermediate_pair_bytes (truth sweep : B) : Except IntermediateError IntermediatePart := do
  let truth_entries ← parquet (codec.read_key_values truth)
  let truth_metadata ← read_metadata truth_entries
  let sweep_entries ← parquet (codec.read_key_values sweep)
  let sweep_metadata ← read_metadata sweep_entries
  if truth_metadata ≠ sweep_metadata then throw .MetadataMismatch
  let truth_table ← parquet (codec.read_table truth)
  let samples ← read_truth_rows truth_table
  if truth_metadata.measured_count ≠ samples.size then
    throw (.MeasuredCountMismatch truth_metadata.measured_count samples.size)
  let sweep_table ← parquet (codec.read_table sweep)
  let samples ← read_sweep_rows sweep_table samples
  return { metadata := truth_metadata, samples := samples.toList.map Prod.snd }

def truth_file (metadata : IntermediateMetadata) (truth_rows : List TruthMeasurement) : ParquetFile :=
  ⟨metadata_key_values metadata, .truth truth_rows⟩
def sweep_file (metadata : IntermediateMetadata) (sweep_rows : List SweepMeasurementRow) : ParquetFile :=
  ⟨metadata_key_values metadata, .sweep sweep_rows⟩

def encode_intermediate_pair (metadata : IntermediateMetadata) (truth_rows : List TruthMeasurement)
    (sweep_rows : List SweepMeasurementRow) : Except IntermediateError (B × B) := do
  let truth ← parquet (codec.write_parquet (truth_file metadata truth_rows))
  let sweep ← parquet (codec.write_parquet (sweep_file metadata sweep_rows))
  return (truth, sweep)

end Pairs

/-! ### Written metadata is read back -/

/-- Entries already collected stay, and every entry with a value is collected. -/
theorem collect_values_ok {entries : List (String × Option String)} {values result : BTreeMap String String}
    (found : collect_values entries values = .ok result) :
    (∀ (key value : String), values[key]? = some value → result[key]? = some value) ∧
      ∀ (key value : String), (key, some value) ∈ entries → result[key]? = some value := by
  induction entries generalizing values with
  | nil =>
    obtain rfl := Except.ok.inj found
    exact ⟨fun _ _ present => present, fun _ _ member => absurd member List.not_mem_nil⟩
  | cons entry rest ih =>
    obtain ⟨key, stored⟩ := entry
    cases stored with
    | none =>
      obtain ⟨kept, collected⟩ := ih found
      refine ⟨kept, fun other value member => collected other value ?_⟩
      simpa using member
    | some value =>
      unfold collect_values at found
      by_cases repeated : key ∈ values
      · rw [if_pos repeated] at found
        cases found
      rw [if_neg repeated] at found
      obtain ⟨kept, collected⟩ := ih found
      have filed : result[key]? = some value := kept key value (by simp)
      refine ⟨fun other present found => ?_, fun other present member => ?_⟩
      · refine kept other present ?_
        have different : key ≠ other := by
          rintro rfl
          exact repeated (Std.ExtTreeMap.mem_iff_isSome_getElem?.mpr (by rw [found]; rfl))
        rw [SortedMaps.lookup_insert, if_neg different, found]
      · rcases List.mem_cons.mp member with same | later
        · obtain ⟨rfl, rfl⟩ : other = key ∧ present = value := by simpa using same
          exact filed
        · exact collected other present later

theorem metadata_value_ok {values : BTreeMap String String} {key value : String} :
    metadata_value values key = .ok value ↔ values[key]? = some value := by
  unfold metadata_value
  cases values[key]? with
  | none => simp
  | some stored => simp

/-- A number that was printed and is accepted by a bounded parser is that number. -/
theorem parse_metadata_toString {bound number parsed : Nat} {values : BTreeMap String String} {key : String}
    (stored : values[key]? = some (toString number))
    (found : parse_metadata (parse_unsigned bound) values key = .ok parsed) : parsed = number := by
  obtain ⟨value, read, rest⟩ := Results.bind_ok.mp found
  obtain rfl : toString number = value := Option.some.inj (stored.symm.trans (metadata_value_ok.mp read))
  rw [parse_unsigned_toString] at rest
  by_cases fits : number < bound
  · rw [if_pos fits] at rest
    exact (Except.ok.inj rest).symm
  · rw [if_neg fits] at rest
    cases rest

theorem parse_ef_grid_join {grid parsed : List Int}
    (found : parse_ef_grid (join ',' (grid.map toString)) = .ok parsed) : parsed = grid := by
  unfold parse_ef_grid at found
  by_cases empty : grid = []
  · subst empty
    rw [if_pos (by decide)] at found
    exact (Except.ok.inj found).symm
  have clean : ∀ piece ∈ grid.map (toString : Int → String), ',' ∉ piece.toList := by
    intro piece member
    obtain ⟨ef, _, rfl⟩ := List.mem_map.mp member
    exact not_mem_toString ef (by decide) (by decide)
  have pieces := split_on_join (by simpa using empty) clean
  have nonempty : join ',' (grid.map (toString : Int → String)) ≠ "" := by
    intro blank
    rw [blank] at pieces
    obtain ⟨ef, rest, rfl⟩ := List.exists_cons_of_ne_nil empty
    have printed : toString ef = "" := (List.cons.inj pieces).1.symm
    have reread := parse_signed_toString (ef.natAbs + 1) ef
    rw [printed, if_pos (by omega)] at reread
    cases reread
  rw [if_neg nonempty, pieces, Results.mapM_ok, List.forall₂_map_left_iff] at found
  have same : List.Forall₂ (· = ·) grid parsed := by
    refine found.imp fun ef item read => ?_
    rw [parse_signed_toString] at read
    by_cases fits : -((2 ^ 31 : Nat) : Int) ≤ ef ∧ ef < (2 ^ 31 : Nat)
    · rw [if_pos fits] at read
      exact Except.ok.inj read
    · rw [if_neg fits] at read
      cases read
  exact (List.forall₂_eq_eq_eq ▸ same : grid = parsed).symm

private theorem metadata_value_written {values : BTreeMap String String} {key written read : String}
    (stored : values[key]? = some written) (found : metadata_value values key = .ok read) : read = written :=
  Option.some.inj ((metadata_value_ok.mp found).symm.trans stored)

/-- Metadata that was written and is accepted on reading is the metadata written. -/
theorem read_metadata_written {written read : IntermediateMetadata} {schema : String}
    (found : read_metadata (metadata_key_values written ++ [("ARROW:schema", some schema)]) = .ok read) :
    read = written := by
  simp only [read_metadata, Results.bind_ok] at found
  obtain ⟨values, collected, format_version, h₁, cohort, h₂, part_ulid, h₃, window_start, h₄, window_seconds, h₅,
    received_frame_count, h₆, record_count, h₇, index, h₈, table, h₉, column, h₁₀, key, h₁₁, k, h₁₂, grid, h₁₃,
    ef_grid, h₁₄, failed_count, h₁₅, measured_count, h₁₆, computed_at_us, h₁₇, built⟩ := found
  have stored : ∀ (key value : String), (key, some value) ∈ metadata_key_values written → values[key]? = some value :=
    fun key value member => (collect_values_ok collected).2 key value (List.mem_append_left _ member)
  obtain rfl := Except.ok.inj built
  obtain rfl := metadata_value_written (stored "ef_grid" (join ',' (written.ef_grid.map toString)) (by simp [metadata_key_values])) h₁₃
  obtain rfl := parse_metadata_toString (stored "format_version" (toString written.format_version) (by simp [metadata_key_values])) h₁
  obtain rfl := metadata_value_written (stored "cohort" written.cohort (by simp [metadata_key_values])) h₂
  obtain rfl := metadata_value_written (stored "part_ulid" written.part_ulid (by simp [metadata_key_values])) h₃
  obtain rfl := parse_metadata_toString (stored "window_start" (toString written.window_start) (by simp [metadata_key_values])) h₄
  obtain rfl := parse_metadata_toString (stored "window_seconds" (toString written.window_seconds) (by simp [metadata_key_values])) h₅
  obtain rfl := parse_metadata_toString (stored "received_frame_count" (toString written.received_frame_count) (by simp [metadata_key_values])) h₆
  obtain rfl := parse_metadata_toString (stored "record_count" (toString written.record_count) (by simp [metadata_key_values])) h₇
  obtain rfl := metadata_value_written (stored "index" written.index (by simp [metadata_key_values])) h₈
  obtain rfl := metadata_value_written (stored "table" written.table (by simp [metadata_key_values])) h₉
  obtain rfl := metadata_value_written (stored "column" written.column (by simp [metadata_key_values])) h₁₀
  obtain rfl := metadata_value_written (stored "key" written.key (by simp [metadata_key_values])) h₁₁
  obtain rfl := parse_metadata_toString (stored "k" (toString written.k) (by simp [metadata_key_values])) h₁₂
  obtain rfl := parse_ef_grid_join h₁₄
  obtain rfl := parse_metadata_toString (stored "failed_count" (toString written.failed_count) (by simp [metadata_key_values])) h₁₅
  obtain rfl := parse_metadata_toString (stored "measured_count" (toString written.measured_count) (by simp [metadata_key_values])) h₁₆
  obtain rfl := parse_metadata_toString (stored "computed_at_us" (toString written.computed_at_us) (by simp [metadata_key_values])) h₁₇
  rfl

/-! ### Written pairs -/

/-- The samples of a pair: its truth rows in record order, each with its sweep rows. -/
def join_rows (truth_rows : List TruthMeasurement) (sweep_rows : List SweepMeasurementRow) :
    Except IntermediateError (List MeasuredSample) := do
  let samples ← insert_truth_rows truth_rows ∅
  let samples ← insert_sweep_rows sweep_rows samples
  return samples.toList.map Prod.snd

theorem parquet_ok {α : Type} {result : Except String α} {value : α} : parquet result = .ok value ↔ result = .ok value := by
  cases result with
  | ok found => simp [parquet]
  | error error => simp [parquet]

/-- Two written files read as a pair only when one is a truth file, the other a sweep file, and both carry the same metadata. -/
theorem read_pair_written {B : Type} {codec : Codec B} (laws : ParquetLaws codec) {truth sweep : B}
    {first second : IntermediateMetadata} {left right : Table} {part : IntermediatePart}
    (truthWritten : codec.write_parquet ⟨metadata_key_values first, left⟩ = .ok truth)
    (sweepWritten : codec.write_parquet ⟨metadata_key_values second, right⟩ = .ok sweep)
    (found : read_intermediate_pair_bytes codec truth sweep = .ok part) :
    first = second ∧ part.metadata = first ∧
      ∃ truth_rows sweep_rows, left = .truth truth_rows ∧ right = .sweep sweep_rows ∧
        join_rows truth_rows sweep_rows = .ok part.samples := by
  obtain ⟨truthSchema, truthEntries⟩ := laws.key_values truthWritten
  obtain ⟨sweepSchema, sweepEntries⟩ := laws.key_values sweepWritten
  obtain ⟨entries, read, found⟩ := Results.bind_ok.mp found
  obtain rfl := Except.ok.inj (truthEntries.symm.trans (parquet_ok.mp read))
  obtain ⟨metadata, truthRead, found⟩ := Results.bind_ok.mp found
  have truthSame := read_metadata_written truthRead
  obtain ⟨entries, read, found⟩ := Results.bind_ok.mp found
  obtain rfl := Except.ok.inj (sweepEntries.symm.trans (parquet_ok.mp read))
  obtain ⟨other, sweepRead, found⟩ := Results.bind_ok.mp found
  have sweepSame := read_metadata_written sweepRead
  by_cases differ : metadata ≠ other
  · rw [if_pos differ] at found
    cases found
  rw [if_neg differ] at found
  obtain ⟨table, read, found⟩ := Results.bind_ok.mp found
  obtain rfl := Except.ok.inj ((laws.table truthWritten).symm.trans (parquet_ok.mp read))
  obtain ⟨samples, rows, found⟩ := Results.bind_ok.mp found
  by_cases miscounted : metadata.measured_count ≠ samples.size
  · rw [if_pos miscounted] at found
    cases found
  rw [if_neg miscounted] at found
  obtain ⟨table, read, found⟩ := Results.bind_ok.mp found
  obtain rfl := Except.ok.inj ((laws.table sweepWritten).symm.trans (parquet_ok.mp read))
  obtain ⟨joined, sweeps, built⟩ := Results.bind_ok.mp found
  obtain rfl := Except.ok.inj built
  cases left with
  | sweep rows' => cases rows
  | other => cases rows
  | truth truth_rows =>
    cases right with
    | truth rows' => cases sweeps
    | other => cases sweeps
    | sweep sweep_rows =>
      refine ⟨truthSame.symm.trans ((not_not.mp differ).trans sweepSame), truthSame, truth_rows, sweep_rows, rfl, rfl, ?_⟩
      change insert_truth_rows truth_rows ∅ = .ok samples at rows
      change insert_sweep_rows sweep_rows samples = .ok joined at sweeps
      rw [join_rows, rows]
      change (insert_sweep_rows sweep_rows samples >>= _) = _
      rw [sweeps]
      rfl

/-! ### A small codec -/

/-- Object bodies that keep what was serialised. -/
inductive Body where
  | segment (bytes : List UInt8)
  | round (output : RoundOutput)
  | parquet (file : ParquetFile)

def smallCodec : Codec Body where
  content
    | .segment bytes => bytes
    | _ => []
  to_vec output := .ok (.round output)
  from_slice
    | .round output => .ok output
    | _ => .error "expected value at line 1 column 1"
  write_parquet file := .ok (.parquet file)
  read_key_values
    | .parquet file => .ok (file.key_values ++ [("ARROW:schema", some "")])
    | _ => .error "Invalid Parquet file. Corrupt footer"
  read_table
    | .parquet file => .ok file.table
    | _ => .error "Invalid Parquet file. Corrupt footer"

theorem smallCodec_laws : CodecLaws smallCodec where
  key_values := by rintro file body ⟨⟩; exact ⟨"", rfl⟩
  table := by rintro file body ⟨⟩; rfl
  json := by rintro round body ⟨⟩; rfl

end VectorSeam.Intermediate
