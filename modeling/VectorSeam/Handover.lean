import VectorSeam.IntactParts
import VectorSeam.Scope
import VectorSeam.Aliases
import VectorSeam.FirstRecords
import VectorSeam.Failures

/-!
From the collector to the tuner. Every object that a run of the collector has put is
listed in the round windows it belongs to and in no other, keeps its identifier, is
accepted with the counts of its header, and gives each valid vector back bit for bit.
-/

namespace VectorSeam.Handover
open VectorSeam.LittleEndian VectorSeam.Cohort VectorSeam.Window VectorSeam.Segments VectorSeam.Model VectorSeam.Calendar
open VectorSeam.ObjectStore VectorSeam.Keys VectorSeam.Strays VectorSeam.Pipeline VectorSeam.SourceParts VectorSeam.Intermediate
open VectorSeam.Measure VectorSeam.Occurrences VectorSeam.FirstRecords VectorSeam.SegmentFormat VectorSeam.Isolation
open VectorSeam.Effects hiding Upload
open VectorSeam.Programs VectorSeam.Requests VectorSeam.Aliases VectorSeam.Text VectorSeam.Accounting
open VectorSeam.Writer VectorSeam.Machines VectorSeam.Collector VectorSeam.Custody VectorSeam.Conservation VectorSeam.IntactParts

/-! ### Bits -/

/-- The bytes of 32-bit values. -/
def bits_bytes (bits : List UInt32) : Bytes := bits.flatMap fun value => to_le_bytes 4 value.toNat

/-- Whole values lose none of their bits. -/
theorem bits_bytes_f32_bits {count : Nat} {vector : Bytes} (whole : vector.length = 4 * count) :
    bits_bytes (f32_bits vector) = vector := by
  induction count generalizing vector with
  | zero =>
    obtain rfl := List.length_eq_zero_iff.mp whole
    rfl
  | succ count ih =>
    obtain ⟨a, b, c, d, rest, rfl⟩ : ∃ a b c d rest, vector = a :: b :: c :: d :: rest := by
      match vector, whole with
      | a :: b :: c :: d :: rest, _ => exact ⟨a, b, c, d, rest, rfl⟩
    have shorter : rest.length = 4 * count := by
      simp only [List.length_cons] at whole
      omega
    have small : from_le_bytes [a, b, c, d] < 2 ^ 32 := (from_le_bytes_lt [a, b, c, d]).trans_eq (by norm_num)
    have value : (UInt32.ofNat (from_le_bytes [a, b, c, d])).toNat = from_le_bytes [a, b, c, d] :=
      UInt32.toNat_ofNat_of_lt small
    have bytes : to_le_bytes 4 (from_le_bytes [a, b, c, d]) = [a, b, c, d] := to_from_le_bytes [a, b, c, d]
    rw [f32_bits, bits_bytes, List.flatMap_cons, value, bytes, ← bits_bytes, ih shorter]
    rfl

/-! ### Where a part is found -/

section Parts
variable {limits : Limits} {upload : Upload}

/-- Where the store keeps a part. -/
def part_path (upload : Upload) : Path := Path.from_text upload.key
/-- The records of a part as its segment holds them. -/
def part_records (upload : Upload) : List SegmentRecord := upload.batch.records.map segment_record

theorem part_located (delivered : Delivered limits upload) : ∃ timestamp,
    format_window_timestamp upload.batch.header.window_start = .ok timestamp ∧
      (part_path upload).parts = window_parts "cohorts" upload.batch.header.cohort timestamp
        ["part-" ++ upload.part.to_string ++ ".vseam"] :=
  object_key_parts delivered.named

theorem part_named (delivered : Delivered limits upload) : Named (part_path upload) upload.part.to_string := by
  obtain ⟨timestamp, -, parts⟩ := part_located delivered
  have last : window_parts "cohorts" upload.batch.header.cohort timestamp ["part-" ++ upload.part.to_string ++ ".vseam"] =
      window_parts "cohorts" upload.batch.header.cohort timestamp [] ++ ["part-" ++ upload.part.to_string ++ ".vseam"] := by
    simp [window_parts]
  rw [Named, Path.filename, parts, last, List.getLast?_concat]

/-- The identifier of a part is read off its name. -/
theorem part_identified (delivered : Delivered limits upload) :
    source_part_ulid (part_path upload) = some upload.part.to_string :=
  source_part_ulid_iff.mpr ⟨_, upload.part, (part_named delivered), Ulids.parse_to_string _, rfl⟩

/-- A stored part is listed for its own cohort and window, and for no other. -/
theorem part_listed {B : Type} {objects : Objects B} {cohort : CohortName} {window_start : Nat}
    (delivered : Delivered limits upload) (minutes : 60 ∣ limits.writer.window_seconds) (minute : window_start % 60 = 0)
    (early : window_start < YEAR_10000) (part_early : upload.batch.header.window_start < YEAR_10000) :
    part_path upload ∈ source_paths objects cohort.name window_start ↔
      (lookup objects (part_path upload)).isSome ∧ cohort = upload.batch.header.cohort ∧
        window_start = upload.batch.header.window_start := by
  obtain ⟨timestamp, formatted, parts⟩ := part_located delivered
  have part_minute : upload.batch.header.window_start % 60 = 0 := by
    rcases delivered.aligned.2 with whole | last
    · exact Nat.mod_eq_zero_of_dvd (minutes.trans whole)
    · rw [last] at part_early
      exact absurd part_early (by decide)
  constructor
  · intro member
    cases found : format_window_timestamp window_start with
    | error error => simp [source_paths, found] at member
    | ok other =>
      obtain ⟨stored, below, -⟩ := (mem_source_paths found).mp member
      obtain ⟨rest, whole⟩ := (below_iff.mp below).1
      rw [window_path_parts cohorts_segment found, parts] at whole
      have same : window_parts "cohorts" cohort other rest =
          window_parts "cohorts" upload.batch.header.cohort timestamp ["part-" ++ upload.part.to_string ++ ".vseam"] := by
        rw [← whole]
        simp [window_parts]
      obtain ⟨-, cohorts, rfl, -⟩ := window_parts_injective same
      exact ⟨stored, cohorts, format_window_timestamp_injective minute part_minute early part_early found formatted⟩
  · rintro ⟨stored, rfl, rfl⟩
    refine (mem_source_paths formatted).mpr ⟨stored, ?_, extension_of_named (part_named delivered)⟩
    refine below_iff.mpr ⟨⟨["part-" ++ upload.part.to_string ++ ".vseam"], ?_⟩, ?_⟩
    · rw [window_path_parts cohorts_segment formatted, parts]
      simp [window_parts]
    · rw [window_path_parts cohorts_segment formatted, parts]
      simp [window_parts]

/-! ### What is read -/

theorem part_accepted (delivered : Delivered limits upload) :
    (∃ prepared, prepare_segment upload.segment upload.batch.header.cohort.name upload.batch.header.window_start
      limits.writer.window_seconds = .ok prepared) ↔ Countable (part_records upload) := by
  have whole := delivered.intact.whole_accepted
  rwa [delivered.window_seconds] at whole

theorem part_countable (delivered : Delivered limits upload)
    (small : limits.writer.per_cohort_memory_bytes < 36 * 2 ^ 31) : Countable (part_records upload) := by
  have records := delivered.records
  refine TornSegments.countable_of_few ?_
  rw [part_records, List.length_map]
  simp only [Frame.FIXED_FRAME_HEADER_LEN, I32_MAX] at records ⊢
  omega

/-- A valid record, with no invalid one of the same vector bytes, has a sample with its bits. -/
theorem valid_record_read {expected_cohort : String} {records : List SegmentRecord} {entries : Entries} {record : SegmentRecord}
    (held : Deduplicated expected_cohort records entries) (member : record ∈ records)
    (valid : ∀ other ∈ records, payload other = payload record → Valid expected_cohort other) :
    ∃ sample ∈ entries.map Prod.snd, query sample = some (f32_bits (payload record)) ∧
      bits_bytes (f32_bits (payload record)) = payload record := by
  have first : ∃ index first, Least records index first ∧ payload first = payload record ∧ Valid expected_cohort first := by
    obtain ⟨entry, present, same⟩ := List.mem_map.mp (held.covered record member)
    obtain ⟨before, first, header, found, rfl⟩ := held.stands entry present
    exact ⟨before.length, first, found.least, same, valid first (found.present.subset (by simp)) same⟩
  obtain ⟨sample, present, -, asked⟩ := (reaches_iff held member).mpr first
  obtain ⟨header, -, -, -, -, size⟩ := (valid record member rfl).frame
  exact ⟨sample, present, asked, bits_bytes_f32_bits size.symm⟩

/-- What the tuner makes of a part: its counts, and every valid vector. -/
structure Read (upload : Upload) (prepared : PreparedPart) : Prop where
  record_count : prepared.record_count = upload.batch.records.length
  received_frame_count : prepared.received_frame_count = upload.batch.header.received_frame_count
  partitioned : (prepared.samples.map (·.dup_count)).sum = upload.batch.records.length
  vectors : ∀ record ∈ part_records upload,
    (∀ other ∈ part_records upload, payload other = payload record → Valid upload.batch.header.cohort.name other) →
      ∃ sample ∈ prepared.samples, query sample = some (f32_bits (payload record)) ∧
        bits_bytes (f32_bits (payload record)) = payload record

theorem part_read (delivered : Delivered limits upload) {window_start width : Nat} {prepared : PreparedPart}
    (found : prepare_segment upload.segment upload.batch.header.cohort.name window_start width = .ok prepared) :
    Read upload prepared := by
  have whole : read_segment upload.segment = .ok { header := upload.batch.header, records := part_records upload } :=
    written_segment_reads delivered.intact.header_fits delivered.intact.times_fit delivered.intact.written
  obtain ⟨segment, entries, read, counted, -, samples, held⟩ := prepared_records found
  obtain rfl := Except.ok.inj (read.symm.trans whole)
  have received : prepared.received_frame_count = upload.batch.header.received_frame_count := by
    unfold prepare_segment at found
    rw [whole] at found
    obtain ⟨-, found⟩ := Results.check_ok.mp found
    obtain ⟨_, -, built⟩ := Results.bind_ok.mp found
    exact Except.ok.inj built ▸ rfl
  have record_count := delivered.intact.record_count
  rw [List.length_map] at record_count
  refine ⟨counted.trans record_count, received, ?_, fun record member valid => ?_⟩
  · rw [samples, List.map_map]
    have total := held.total
    simp only [part_records, List.length_map] at total
    exact total
  · rw [samples]
    exact valid_record_read held member valid

end Parts

/-- Every object that a run of the collector puts is listed by the rounds whose scope has its window, and for that window
    only; it keeps its identifier, and is accepted with true counts and all bits of its valid vectors. -/
theorem collected_parts_read (configured : Config) (limits : Limits) (validated : run_with_store configured = .ok limits)
    (minutes : 60 ∣ configured.window_seconds) (now : Nat) (shown : now / 1000000 ≤ U64_MAX) (begun : State)
    (started : start limits now = .ok begun) (state : State) (reached : Reached (step limits) Readable begun state)
    (upload : Upload) (member : upload ∈ state.journal.uploads)
    (early : upload.batch.header.window_start < YEAR_10000) :
    (∀ (B : Type) (objects : Objects B) (duration round_end : Nat) (window_starts : List Nat),
      in_scope_window_starts round_end duration configured.window_seconds = .ok window_starts → round_end < YEAR_10000 →
      (lookup objects (part_path upload)).isSome → ∀ cohort window_start,
        (window_start, part_path upload) ∈ source_objects objects cohort.name window_starts ↔
          cohort = upload.batch.header.cohort ∧ window_start = upload.batch.header.window_start ∧
            window_start ∈ window_starts) ∧
      source_part_ulid (part_path upload) = some upload.part.to_string ∧
      ((∃ prepared, prepare_segment upload.segment upload.batch.header.cohort.name upload.batch.header.window_start
        configured.window_seconds = .ok prepared) ↔ Countable (part_records upload)) ∧
      (configured.per_cohort_memory_bytes < 36 * 2 ^ 31 → Countable (part_records upload)) ∧
      ∀ prepared, prepare_segment upload.segment upload.batch.header.cohort.name upload.batch.header.window_start
        configured.window_seconds = .ok prepared → Read upload prepared := by
  have delivered := uploads_delivered validated shown started reached upload member
  have width := (run_with_store_ok validated).window_seconds
  have cap := (run_with_store_ok validated).per_cohort
  rw [← width] at minutes ⊢
  rw [← cap]
  refine ⟨fun B objects duration round_end window_starts scope late stored cohort window_start => ?_,
    part_identified delivered, part_accepted delivered, part_countable delivered, fun prepared => part_read delivered⟩
  have inside : window_start ∈ window_starts → window_start % 60 = 0 ∧ window_start < YEAR_10000 := fun here => by
    obtain ⟨whole, -, below⟩ := (mem_in_scope_window_starts scope window_start).mp here
    exact ⟨Nat.mod_eq_zero_of_dvd (minutes.trans whole), by omega⟩
  rw [mem_source_objects]
  constructor
  · rintro ⟨here, listed⟩
    obtain ⟨minute, soon⟩ := inside here
    obtain ⟨-, cohorts, windows⟩ := (part_listed delivered minutes minute soon early).mp listed
    exact ⟨cohorts, windows, here⟩
  · rintro ⟨cohorts, windows, here⟩
    obtain ⟨minute, soon⟩ := inside here
    exact ⟨here, (part_listed delivered minutes minute soon early).mpr ⟨stored, cohorts, windows⟩⟩

/-- A run in which no time passes. -/
def still (_ : State) : Action → Bool
  | .Tick _ _ => false
  | _ => true

theorem readable_of_still {state : State} {action : Action} (passes : still state action = true) : Readable state action := by
  rintro micros clock rfl
  cases passes

theorem whole_run_read : ∃ begun state upload, start tightLimits 0 = .ok begun ∧ Reached (step tightLimits) Readable begun state ∧
    state.journal.uploads = [upload] ∧ upload.batch.records.length = 1 ∧
    source_part_ulid (part_path upload) = some upload.part.to_string ∧
    ∃ prepared, prepare_segment upload.segment upload.batch.header.cohort.name upload.batch.header.window_start 60 = .ok prepared ∧
      Read upload prepared := by
  have outcome : (checked tightLimits still 0 wholeRun).map (fun state => state.journal.uploads.map fun upload =>
      (upload.batch.header.window_start, upload.batch.records.length)) = some [(0, 1)] := by
    decide +kernel
  obtain ⟨state, ran, values⟩ := Option.map_eq_some_iff.mp outcome
  obtain ⟨begun, started, reached⟩ := checked_reached ran
  have reached : Reached (step tightLimits) Readable begun state := reached.mono fun _ _ passes => readable_of_still passes
  obtain ⟨upload, one, fields⟩ := List.map_eq_singleton_iff.mp values
  obtain ⟨window, length⟩ := Prod.mk.inj fields
  obtain ⟨-, named, accepted, countable, read⟩ := collected_parts_read tightConfig tightLimits tight_started (by decide) 0
    (by decide) begun started state reached upload (by rw [one]; exact List.mem_singleton.mpr rfl) (by rw [window]; decide)
  obtain ⟨prepared, found⟩ := accepted.mpr (countable (by decide))
  exact ⟨begun, state, upload, started, reached, one, length, named, prepared, found, read prepared found⟩

/-! ### The headers of a round -/

section Stock
variable {B : Type} {codec : Codec B} {objects : Objects B} {width : Nat} {uploads : List Upload}

/-- A failed request to the store. -/
def StorageFault (error : PipelineError) : Prop := ∃ operation path source, error = .Storage operation path source

/-- An object that some collector with windows of the given width has put. -/
def Collected (width : Nat) (upload : Upload) : Prop :=
  ∃ configured limits now begun state, run_with_store configured = .ok limits ∧ configured.window_seconds = width ∧
    configured.per_cohort_memory_bytes < 36 * 2 ^ 31 ∧ now / 1000000 ≤ U64_MAX ∧ start limits now = .ok begun ∧
    Reached (step limits) Readable begun state ∧ upload ∈ state.journal.uploads ∧
    upload.batch.header.window_start < YEAR_10000

theorem Collected.delivered {upload : Upload} (collected : Collected width upload) : ∃ limits, Delivered limits upload ∧
    limits.writer.window_seconds = width ∧ Countable (part_records upload) ∧
    upload.batch.header.window_start < YEAR_10000 := by
  obtain ⟨configured, limits, now, begun, state, validated, same, cap, shown, started, reached, member, early⟩ := collected
  have delivered := uploads_delivered validated shown started reached upload member
  have settings := run_with_store_ok validated
  exact ⟨limits, delivered, settings.window_seconds.trans same, part_countable delivered (settings.per_cohort ▸ cap), early⟩

/-- A store in which whatever has the name of a part is one of the given parts, which have different identifiers. -/
structure Stock (codec : Codec B) (objects : Objects B) (width : Nat) (uploads : List Upload) : Prop where
  collected : ∀ upload ∈ uploads, Collected width upload
  parts : ∀ path body part_ulid, lookup objects path = some body → source_part_ulid path = some part_ulid →
    ∃ upload ∈ uploads, path = part_path upload ∧ codec.content body = upload.segment
  distinct : ∀ left ∈ uploads, ∀ right ∈ uploads, left.part = right.part → left = right

/-- What a round keeps of the header of a part. -/
def part_entry (upload : Upload) : ListedPart :=
  { part_ulid := upload.part.to_string
    window_start := upload.batch.header.window_start
    window_seconds := upload.batch.header.window_seconds
    received_frame_count := upload.batch.header.received_frame_count
    record_count := upload.batch.records.length }

/-- An object in a listing that is one of the parts, and a part of the cohort. -/
structure Lists (codec : Codec B) (objects : Objects B) (cohort : CohortName) (object : Nat × Path) (upload : Upload) : Prop where
  path : object.2 = part_path upload
  window : object.1 = upload.batch.header.window_start
  cohort : upload.batch.header.cohort = cohort
  stored : ∃ body, lookup objects (part_path upload) = some body ∧ codec.content body = upload.segment

theorem Stock.listed (stock : Stock codec objects width uploads) (minutes : 60 ∣ width) {duration round_end : Nat}
    {window_starts : List Nat} (scope : in_scope_window_starts round_end duration width = .ok window_starts)
    (early : round_end < YEAR_10000) {cohort : CohortName} {object : Nat × Path}
    (member : object ∈ source_objects objects cohort.name window_starts) {part_ulid : String}
    (named : source_part_ulid object.2 = some part_ulid) : ∃ upload ∈ uploads, Lists codec objects cohort object upload := by
  obtain ⟨window_start, path⟩ := object
  obtain ⟨here, listed⟩ := mem_source_objects.mp member
  obtain ⟨whole, -, below⟩ := (mem_in_scope_window_starts scope window_start).mp here
  have stored : ∃ body, lookup objects path = some body := by
    cases found : format_window_timestamp window_start with
    | error error => simp [source_paths, found] at listed
    | ok timestamp => exact Option.isSome_iff_exists.mp ((mem_source_paths found).mp listed).1
  obtain ⟨body, stored⟩ := stored
  obtain ⟨upload, present, rfl, content⟩ := stock.parts path body part_ulid stored named
  obtain ⟨limits, delivered, rfl, -, part_early⟩ := (stock.collected upload present).delivered
  obtain ⟨-, cohorts, windows⟩ := (part_listed delivered minutes (Nat.mod_eq_zero_of_dvd (minutes.trans whole)) (by omega)
    part_early).mp listed
  exact ⟨upload, present, rfl, windows, cohorts.symm, body, stored, content⟩

/-- What is read of a listed part. -/
theorem Stock.prepared (stock : Stock codec objects width uploads) {cohort : CohortName} {object : Nat × Path} {upload : Upload}
    (present : upload ∈ uploads) (lists : Lists codec objects cohort object upload) {body : B}
    (stored : lookup objects object.2 = some body) :
    ∃ prepared, prepare_segment (codec.content body) cohort.name object.1 width = .ok prepared ∧
      (source_part object.2 upload.part.to_string prepared).listed = part_entry upload := by
  obtain ⟨path, window, rfl, body', stored', content⟩ := lists
  obtain ⟨limits, delivered, rfl, countable, -⟩ := (stock.collected upload present).delivered
  rw [path] at stored
  obtain rfl := Option.some.inj (stored.symm.trans stored')
  rw [content, window]
  obtain ⟨prepared, found⟩ := (part_accepted delivered).mpr countable
  obtain ⟨-, window_start, window_seconds⟩ := prepare_segment_ok found
  have read := part_read delivered found
  refine ⟨prepared, found, ?_⟩
  simp only [source_part, part_entry, window_start, window_seconds, read.record_count, read.received_frame_count,
    delivered.window_seconds]

theorem get_bytes_raises (path : Path) : Raises StorageFault (get_bytes path : Program B PipelineError B) := by
  refine raises_bind raises_perform fun reply => ?_
  cases reply with
  | found body => trivial
  | body_failed message => exact ⟨_, _, _, rfl⟩
  | not_found => exact ⟨_, _, _, rfl⟩
  | failed message => exact ⟨_, _, _, rfl⟩

/-- The loop over listed parts fails by a request only. -/
theorem load_headers_fails (stock : Stock codec objects width uploads) {cohort : CohortName} {listed : List (Nat × Path)}
    (lists : ∀ object ∈ listed, ∀ part_ulid, source_part_ulid object.2 = some part_ulid →
      ∃ upload ∈ uploads, Lists codec objects cohort object upload)
    (distinct : (canonical_ulids listed).Nodup) {by_ulid : BTreeMap String SourcePart}
    (fresh : ∀ part_ulid ∈ canonical_ulids listed, part_ulid ∉ by_ulid) {world world' : World B}
    (same : world.objects = objects) {error : PipelineError}
    (run : Runs answer (load_headers codec cohort.name width listed by_ulid) world (.failed error) world') :
    StorageFault error := by
  induction listed generalizing world by_ulid with
  | nil => cases (runs_pure.mp run).1
  | cons object rest ih =>
    obtain ⟨window_start, path⟩ := object
    have later : ∀ object ∈ rest, ∀ part_ulid, source_part_ulid object.2 = some part_ulid →
        ∃ upload ∈ uploads, Lists codec objects cohort object upload :=
      fun object member => lists object (List.mem_cons_of_mem _ member)
    unfold load_headers at run
    cases named : source_part_ulid path with
    | none =>
      have skipped : canonical_ulids ((window_start, path) :: rest) = canonical_ulids rest := by
        simp [canonical_ulids, named]
      rw [skipped] at distinct fresh
      rw [named] at run
      exact ih later distinct fresh same run
    | some part_ulid =>
      have taken : canonical_ulids ((window_start, path) :: rest) = part_ulid :: canonical_ulids rest := by
        simp [canonical_ulids, named]
      rw [taken] at distinct fresh
      obtain ⟨unrepeated, distinct⟩ := List.nodup_cons.mp distinct
      rw [named] at run
      rcases runs_bind.mp run with ⟨bytes, middle, read, rest_run⟩ | ⟨raised, read, failed⟩ | ⟨-, stopped⟩
      · obtain ⟨stored, rfl⟩ := runs_get_bytes.mp read
        obtain ⟨upload, present, listing⟩ := lists _ List.mem_cons_self part_ulid named
        rw [same] at stored
        obtain ⟨prepared, found, -⟩ := stock.prepared present listing stored
        rcases runs_bind_wrap.mp rest_run with ⟨value, checked, rest_run⟩ | ⟨wrong, checked, -, -⟩
        · rw [if_neg (fresh part_ulid List.mem_cons_self)] at rest_run
          have kept : (world.record (.got path (.found bytes))).objects = objects := same
          refine ih later distinct (fun other member => ?_) kept rest_run
          rw [Std.ExtTreeMap.mem_insert]
          rintro (equal | before)
          · exact unrepeated (compare_eq_iff_eq.mp equal ▸ member)
          · exact fresh other (List.mem_cons_of_mem _ member) before
        · cases checked.symm.trans found
      · obtain rfl := Outcome.failed.inj failed
        exact (get_bytes_raises path).runs read
      · cases stopped

theorem list_source_objects_raises (cohort : String) {window_starts : List Nat}
    (bounded : ∀ window_start ∈ window_starts, window_start < 2 ^ 64) :
    Raises StorageFault (list_source_objects cohort window_starts : Program B PipelineError (List (Nat × Path))) := by
  refine raises_bind ?_ fun objects => raises_pure
  induction window_starts with
  | nil => trivial
  | cons window_start rest ih =>
    obtain ⟨here, later⟩ := List.forall_mem_cons.mp bounded
    obtain ⟨timestamp, formatted⟩ := format_window_timestamp_ok here
    refine raises_bind (Failures.raises_wrap fun error failed => ?_) fun timestamp => ?_
    · cases failed.symm.trans formatted
    · refine raises_bind (raises_bind raises_perform fun reply => Failures.raises_wrap fun error _ => ⟨_, _, _, rfl⟩) fun listed => ?_
      exact raises_bind (ih later) fun objects => raises_pure

theorem window_starts_nodup {duration round_end : Nat} {window_starts : List Nat}
    (scope : in_scope_window_starts round_end duration width = .ok window_starts) : window_starts.Nodup := by
  unfold in_scope_window_starts at scope
  by_cases zero : width = 0
  · rw [if_pos zero] at scope
    cases scope
  by_cases unaligned : round_end % width ≠ 0
  · rw [if_neg zero, if_pos unaligned] at scope
    cases scope
  rw [if_neg zero, if_neg unaligned] at scope
  obtain ⟨lower, -, listing⟩ := Results.bind_ok.mp scope
  obtain rfl := Except.ok.inj listing
  refine List.nodup_reverse.mpr ?_
  exact (Scope.starts_below_descending (Nat.pos_of_ne_zero zero) _ _).imp fun above => Nat.ne_of_gt above

theorem source_objects_nodup {cohort : String} {window_starts : List Nat} (distinct : window_starts.Nodup) :
    (source_objects objects cohort window_starts).Nodup := by
  refine List.nodup_flatMap.mpr ⟨fun window_start _ => ?_, distinct.imp fun different => ?_⟩
  · refine List.Nodup.map (fun _ _ same => (Prod.mk.inj same).2) ?_
    unfold source_paths
    cases format_window_timestamp window_start with
    | error error => exact List.nodup_nil
    | ok timestamp => exact (nodup_listing _ _).filter _
  · intro object left right
    obtain ⟨_, -, rfl⟩ := List.mem_map.mp left
    obtain ⟨_, -, same⟩ := List.mem_map.mp right
    exact different (Prod.mk.inj same).1.symm

/-- Whatever is listed as a part has an identifier of its own. -/
theorem Stock.identifiers (stock : Stock codec objects width uploads) (minutes : 60 ∣ width) {duration round_end : Nat}
    {window_starts : List Nat} (scope : in_scope_window_starts round_end duration width = .ok window_starts)
    (early : round_end < YEAR_10000) (cohort : CohortName) :
    (canonical_ulids (source_objects objects cohort.name window_starts)).Nodup := by
  have distinct : (source_objects objects cohort.name window_starts).Nodup :=
    source_objects_nodup (window_starts_nodup scope)
  refine List.pairwise_filterMap.mpr (distinct.imp_of_mem fun {left right} here there different text named text' named' same => ?_)
  subst same
  obtain ⟨upload, present, lists⟩ := stock.listed minutes scope early here named
  obtain ⟨upload', present', lists'⟩ := stock.listed minutes scope early there named'
  have identified : ∀ {object : Nat × Path} {upload : Upload}, upload ∈ uploads → Lists codec objects cohort object upload →
      source_part_ulid object.2 = some text → upload.part.to_string = text := fun {object upload} present lists named => by
    obtain ⟨limits, delivered, -⟩ := (stock.collected upload present).delivered
    rw [lists.path, part_identified delivered] at named
    exact Option.some.inj named
  have parts := Ulids.to_string_injective ((identified present lists named).trans (identified present' lists' named').symm)
  obtain rfl := stock.distinct upload present upload' present' parts
  exact different (Prod.ext (lists.window.trans lists'.window.symm) (lists.path.trans lists'.path.symm))

end Stock

/-- A round over a store of collected parts finds every part of its cohort that is in scope, once and as it was counted, and
    nothing but a failing request can keep it from that. -/
theorem collected_headers_load (B : Type) (codec : Codec B) (cohort : CohortName) (config : AggregationConfig)
    (of : config.cohort = cohort.name) (minutes : 60 ∣ config.storage_window_seconds) (round_end : Nat)
    (early : round_end < YEAR_10000) (window_starts : List Nat)
    (scope : in_scope_window_starts round_end config.window_duration_seconds config.storage_window_seconds = .ok window_starts)
    (uploads : List Upload) (world world' : World B)
    (stock : Stock codec world.objects config.storage_window_seconds uploads)
    (outcome : Outcome PipelineError (List SourcePart))
    (run : Runs answer (do
      let objects ← list_source_objects config.cohort window_starts
      load_source_headers codec config.cohort config.storage_window_seconds objects) world outcome world') :
    (∀ error, outcome = .failed error → StorageFault error) ∧
      ∀ sources, outcome = .returned sources → (sources.map ulid_of).Nodup ∧
        ∀ listed, listed ∈ sources.map SourcePart.listed ↔ ∃ upload ∈ uploads, listed = part_entry upload ∧
          upload.batch.header.cohort = cohort ∧ upload.batch.header.window_start ∈ window_starts ∧
          ∃ body, lookup world.objects (part_path upload) = some body ∧ codec.content body = upload.segment := by
  have inside : ∀ window_start ∈ window_starts, window_start % 60 = 0 ∧ window_start < YEAR_10000 := fun window_start member => by
    obtain ⟨whole, -, below⟩ := (mem_in_scope_window_starts scope window_start).mp member
    exact ⟨Nat.mod_eq_zero_of_dvd (minutes.trans whole), by omega⟩
  have bounded : ∀ window_start ∈ window_starts, window_start < 2 ^ 64 := fun window_start member =>
    (inside window_start member).2.trans (by decide)
  rcases runs_bind.mp run with ⟨objects, middle, listing, loading⟩ | ⟨error, listing, rfl⟩ | ⟨-, rfl⟩
  · obtain ⟨permuted, kept⟩ := runs_list_source_objects listing
    rw [← kept] at stock permuted ⊢
    have distinct := stock.identifiers minutes scope early cohort
    have listed : ∀ object ∈ objects, ∀ part_ulid, source_part_ulid object.2 = some part_ulid →
        ∃ upload ∈ uploads, Lists codec middle.objects cohort object upload := fun object member part_ulid named => by
      have here := permuted.mem_iff.mp member
      rw [of] at here
      exact stock.listed minutes scope early here named
    refine ⟨fun error failed => ?_, fun sources returned => ?_⟩
    · subst failed
      rcases runs_bind.mp loading with ⟨by_ulid, last, -, rest⟩ | ⟨raised, headers, same⟩ | ⟨-, same⟩
      · cases (runs_pure.mp rest).1
      · obtain rfl := Outcome.failed.inj same
        rw [of] at headers permuted
        exact load_headers_fails stock listed ((permuted.filterMap _).nodup_iff.mpr distinct) (by simp) rfl headers
      · cases same
    · subst returned
      have found := runs_load_source_headers permuted loading
      have each : ∀ source ∈ sources, ∃ upload ∈ uploads, source.listed = part_entry upload ∧
          upload.batch.header.cohort = cohort ∧ upload.batch.header.window_start ∈ window_starts ∧
          ∃ body, lookup middle.objects (part_path upload) = some body ∧ codec.content body = upload.segment := by
        intro source present
        obtain ⟨window_start, here, path, part_ulid, body, prepared, named, stored, prepares, same⟩ := found.loaded source present
        have object : (window_start, source.path) ∈ objects := permuted.mem_iff.mpr (mem_source_objects.mpr ⟨here, path⟩)
        obtain ⟨upload, sent, lists⟩ := listed _ object part_ulid named
        obtain ⟨prepared', prepares', entry⟩ := stock.prepared sent lists stored
        obtain ⟨limits, delivered, -⟩ := (stock.collected upload sent).delivered
        rw [of] at prepares
        obtain rfl := Except.ok.inj (prepares.symm.trans prepares')
        have path : source.path = part_path upload := lists.path
        rw [path, part_identified delivered] at named
        obtain rfl := Option.some.inj named
        have window : window_start = upload.batch.header.window_start := lists.window
        refine ⟨upload, sent, ?_, lists.cohort, window ▸ here, lists.stored⟩
        rw [same]
        exact entry
      refine ⟨found.distinct, fun entry => ⟨fun member => ?_, ?_⟩⟩
      · obtain ⟨source, present, rfl⟩ := List.mem_map.mp member
        exact each source present
      · rintro ⟨upload, sent, rfl, rfl, here, body, stored, content⟩
        obtain ⟨limits, delivered, width, -, part_early⟩ := (stock.collected upload sent).delivered
        obtain ⟨minute, soon⟩ := inside _ here
        have path : part_path upload ∈ source_paths middle.objects config.cohort upload.batch.header.window_start := by
          rw [of]
          exact (part_listed delivered (width ▸ minutes) minute soon part_early).mpr ⟨by rw [stored]; rfl, rfl, rfl⟩
        have identifier : upload.part.to_string ∈ sources.map ulid_of :=
          found.ulids.mem_iff.mpr (List.mem_filterMap.mpr ⟨_, mem_source_objects.mpr ⟨here, path⟩, part_identified delivered⟩)
        obtain ⟨source, present, same⟩ := List.mem_map.mp identifier
        obtain ⟨other, present', entry, -⟩ := each source present
        have parts : other.part.to_string = upload.part.to_string := by
          rw [← same, ulid_of, entry]
          rfl
        obtain rfl := stock.distinct other present' upload sent (Ulids.to_string_injective parts)
        exact List.mem_map.mpr ⟨source, present, entry⟩
  · refine ⟨fun other same => ?_, by simp⟩
    exact Outcome.failed.inj same ▸ (list_source_objects_raises config.cohort bounded).runs listing
  · exact ⟨by simp, by simp⟩

/-- A connection takes a frame for the cohort of the given name, and sends it on. -/
def send (name : String) : List Action := [.Stamp 0 (bareFrame name), .Turn 0, .Turn 0, .Turn 0]

/-- The writer puts a part of one record. -/
def put (part : Ulids.Ulid) : List Action :=
  [.Write .Proceed, .Write .Proceed, .Write .Proceed, .Write .Proceed, .Write .Proceed, .Write .Proceed, .Write (.Put part .Ok),
    .Write .Proceed]

def identifier (number : Fin 3) : Ulids.Ulid := ⟨number, by omega⟩

/-- The second of two frames for a cohort spills the first, the frame of another one presses the second out, and the collector
    shuts down; the later part has the lower identifier. -/
def threePartRun : List Action :=
  [.Accept 0] ++ send "a" ++
    [.Write .Proceed, .Write .Receive, .Write .Proceed, .Write .Proceed, .Write .Proceed, .Write .Proceed, .Write .Proceed] ++
    send "a" ++ [.Write .Proceed, .Write .Receive, .Write .Proceed, .Write .Proceed, .Write .Proceed] ++
    put (identifier 1) ++ [.Write .Proceed, .Write .Proceed] ++
    send "b" ++ [.Write .Proceed, .Write .Receive, .Write .Proceed, .Write .Proceed, .Write .Proceed, .Write (.Largest a)] ++
    put (identifier 0) ++ [.Write .Proceed, .Disconnect 0, .HangUp, .Write .Proceed, .Write .Receive, .Write (.Keys [b])] ++
    put (identifier 2)

/-- The parts of that run, in a store. -/
def threeUploads : List Upload := ((checked pairLimits still 0 threePartRun).map fun state => state.journal.uploads).getD []
def threeStore : World Body := ⟨threeUploads.map fun upload => (part_path upload, .segment upload.segment), []⟩
def cohortScope : AggregationConfig := { Aggregate.smallConfig with cohort := "a" }
def cohortHeaders : Outcome PipelineError (List SourcePart) × World Body :=
  (do
    let objects ← list_source_objects cohortScope.cohort [0]
    load_source_headers smallCodec cohortScope.cohort cohortScope.storage_window_seconds objects :
      Program Body PipelineError (List SourcePart)).exec answer threeStore [smallChoice, smallChoice, smallChoice]

theorem three_parts : threeUploads.map (fun upload => (upload.batch.header.window_start, upload.batch.header.cohort.name,
    upload.part.value)) = [(0, "a", 1), (0, "a", 0), (0, "b", 2)] := by
  decide +kernel

theorem three_uploads_collected : ∀ upload ∈ threeUploads, Collected 60 upload := by
  intro upload member
  have windows : threeUploads.map (fun upload => upload.batch.header.window_start) = [0, 0, 0] :=
    List.map_map.symm.trans (congrArg (List.map Prod.fst) three_parts)
  unfold threeUploads at member windows
  cases ran : checked pairLimits still 0 threePartRun with
  | none => simp [ran] at member
  | some state =>
    rw [ran] at member windows
    obtain ⟨begun, started, reached⟩ := checked_reached ran
    refine ⟨pairConfig, pairLimits, 0, begun, state, pair_started, rfl, by decide, by decide, started,
      reached.mono fun _ _ passes => readable_of_still passes, member, ?_⟩
    have here : upload.batch.header.window_start ∈ [0, 0, 0] := windows ▸ List.mem_map_of_mem member
    have zero : upload.batch.header.window_start = 0 := by simpa using here
    rw [zero]
    decide

/-- What is found in a store of parts is one of them. -/
theorem lookup_parts {uploads : List Upload} {path : Path} {body : Body}
    (stored : lookup (uploads.map fun upload => (part_path upload, Body.segment upload.segment)) path = some body) :
    ∃ upload ∈ uploads, path = part_path upload ∧ body = .segment upload.segment := by
  induction uploads with
  | nil => cases stored
  | cons upload uploads ih =>
    by_cases same : part_path upload = path
    · rw [List.map_cons, lookup, if_pos same] at stored
      exact ⟨upload, List.mem_cons_self, same.symm, (Option.some.inj stored).symm⟩
    · rw [List.map_cons, lookup, if_neg same] at stored
      obtain ⟨other, member, found⟩ := ih stored
      exact ⟨other, List.mem_cons_of_mem _ member, found⟩

theorem three_stock : Stock smallCodec threeStore.objects 60 threeUploads where
  collected := three_uploads_collected
  parts path body part_ulid stored _ := by
    obtain ⟨upload, member, here, rfl⟩ := lookup_parts stored
    exact ⟨upload, member, here, rfl⟩
  distinct left here right there same := by
    have values : threeUploads.map (fun upload => upload.part.value) = [1, 0, 2] := by
      have every := congrArg (List.map fun part : Nat × String × Nat => part.2.2) three_parts
      rw [List.map_map] at every
      exact every
    have apart : (threeUploads.map fun upload => upload.part.value).Nodup := by
      rw [values]
      decide
    exact List.inj_on_of_nodup_map apart here there (congrArg Ulids.Ulid.value same)

/-- The sources of an outcome, by their identifiers and counts. -/
def source_counts : Outcome PipelineError (List SourcePart) → Option (List (String × Nat))
  | .returned sources => some (sources.map fun source => (ulid_of source, source.listed.record_count))
  | _ => none

/-- Both parts of the cohort are found, the lower identifier first. -/
theorem three_headers_load : ∃ sources, cohortHeaders.1 = .returned sources ∧
    sources.map (fun source => (ulid_of source, source.listed.record_count)) =
      [("00000000000000000000000000", 1), ("00000000000000000000000001", 1)] ∧
    ∀ listed, listed ∈ sources.map SourcePart.listed ↔ ∃ upload ∈ threeUploads, listed = part_entry upload ∧
      upload.batch.header.cohort = a ∧ upload.batch.header.window_start ∈ [0] ∧
      ∃ body, lookup threeStore.objects (part_path upload) = some body ∧ smallCodec.content body = upload.segment := by
  have counts : source_counts cohortHeaders.1 =
      some [("00000000000000000000000000", 1), ("00000000000000000000000001", 1)] := by
    unfold cohortHeaders
    rw [list_source_objects_inserts]
    decide +kernel
  obtain ⟨-, loads⟩ := collected_headers_load Body smallCodec a cohortScope rfl (by decide) 60 (by decide) [0] (by decide)
    threeUploads threeStore cohortHeaders.2 three_stock cohortHeaders.1
    ⟨[smallChoice, smallChoice, smallChoice], Prod.mk.eta.symm⟩
  cases outcome : cohortHeaders.1 with
  | returned sources =>
    rw [outcome] at counts
    exact ⟨sources, rfl, Option.some.inj counts, (loads sources outcome).2⟩
  | failed error =>
    rw [outcome] at counts
    cases counts
  | stopped =>
    rw [outcome] at counts
    cases counts

end VectorSeam.Handover
