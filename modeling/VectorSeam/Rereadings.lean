import VectorSeam.Provenance

/-!
Effective recommendations as a JSON reader brings them back. A number with a fraction need
not be read as it was written, only as some number that the reader makes of it; everything
else is read as written. A block that is carried through several records has been read once
for each of them, and so have the settings that it was carried under.
-/

namespace VectorSeam.Rereadings
open VectorSeam.Model VectorSeam.Aggregate VectorSeam.Intermediate VectorSeam.Effects VectorSeam.Pipeline
open VectorSeam.Publishing VectorSeam.Records VectorSeam.Provenance

variable {B : Type}

/-! ### Records that are read back -/

/-- What the carry rule looks at, in a record and in what was read back of it. -/
structure Rereads (reread : Float → Float → Prop) (round again : RoundOutput) : Prop where
  cohort : again.cohort = round.cohort
  index : again.index = round.index
  ef_grid : again.ef_grid = round.ef_grid
  k : again.target.k = round.target.k
  value : reread round.target.value again.target.value
  percentile : reread round.target.percentile again.target.percentile
  selection_confidence : reread round.target.selection_confidence again.target.selection_confidence
  approval_confidence : reread round.target.approval_confidence again.target.approval_confidence
  effective : ∀ block, again.effective = some block → ∃ written, round.effective = some written ∧
    block.recommended_ef = written.recommended_ef ∧ reread written.confidence block.confidence ∧
    block.source_round = written.source_round

/-- Whatever the reader makes of a written record is that record, up to its numbers with a fraction. -/
def ReadsBack (codec : Codec B) (reread : Float → Float → Prop) : Prop :=
  ∀ {round body again}, codec.to_vec round = .ok body → codec.from_slice body = .ok again → Rereads reread round again

/-- The number has been read one or more times. -/
abbrev Reread (reread : Float → Float → Prop) : Float → Float → Prop := Relation.TransGen reread

/-- A reader without any loss. -/
theorem reads_exactly {codec : Codec B} (laws : CodecLaws codec) : ReadsBack codec (· = ·) := by
  intro round body again written read
  obtain rfl : round = again := Except.ok.inj ((laws.json written).symm.trans read)
  exact ⟨rfl, rfl, rfl, rfl, rfl, rfl, rfl, rfl, fun block found => ⟨block, found, rfl, rfl, rfl⟩⟩

/-! ### Blocks that are carried -/

/-- The settings of the earlier record, read once for each record on the way to the later one. -/
structure CarriedSettings (reread : Float → Float → Prop) (source output : RoundOutput) : Prop where
  cohort : source.cohort = output.cohort
  index : source.index = output.index
  ef_grid : source.ef_grid = output.ef_grid
  k : source.target.k = output.target.k
  value : Reread reread source.target.value output.target.value
  percentile : Reread reread source.target.percentile output.target.percentile
  selection_confidence : Reread reread source.target.selection_confidence output.target.selection_confidence
  approval_confidence : Reread reread source.target.approval_confidence output.target.approval_confidence

/-- The approved record recommends what the block says, with a confidence that has been read on the way. -/
structure Recommends (reread : Float → Float → Prop) (source : RoundOutput) (effective : EffectiveRecommendation) : Prop where
  approved : Approved source
  recommended_ef : source.recommended_ef = some effective.recommended_ef
  source_round : source.window.finish = effective.source_round
  confidence : ∃ written, source.confidence = some written ∧ Reread reread written effective.confidence

/-- The block is the record's own, or comes from an approved record that was stored before, through records of the same
    settings. -/
structure Carried (codec : Codec B) (reread : Float → Float → Prop) (before : List (Event B)) (output : RoundOutput)
    (effective : EffectiveRecommendation) : Prop where
  in_grid : effective.recommended_ef ∈ output.ef_grid
  origin : (Approved output ∧ Produces output effective) ∨
    ∃ source, Stored codec before source ∧ Recommends reread source effective ∧ CarriedSettings reread source output
  fresh_iff : effective.carried = false ↔ Approved output ∧ Produces output effective

section Carrying
variable {codec : Codec B} {beta_reg : Float → Float → Float → Float} {reread : Float → Float → Prop} {cohort : String}
  {source output round : RoundOutput} {before later : List (Event B)} {effective written block : EffectiveRecommendation}

theorem Carried.mono (carried : Carried codec reread before output effective) (extends' : ∀ event ∈ before, event ∈ later) :
    Carried codec reread later output effective := by
  refine ⟨carried.in_grid, carried.origin.imp id ?_, carried.fresh_iff⟩
  rintro ⟨source, ⟨path, body, reply, member, root, serialised⟩, recommends, settings⟩
  exact ⟨source, ⟨path, body, reply, extends' _ member, root, serialised⟩, recommends, settings⟩

/-- Settings of a record that was read once and then found to be those of another. -/
theorem Rereads.settings (rereads : Rereads reread source round) (same : SameFingerprint round output) :
    CarriedSettings reread source output where
  cohort := rereads.cohort.symm.trans same.cohort
  index := rereads.index.symm.trans same.index
  ef_grid := rereads.ef_grid.symm.trans same.ef_grid
  k := rereads.k.symm.trans same.k
  value := .single (same.value ▸ rereads.value)
  percentile := .single (same.percentile ▸ rereads.percentile)
  selection_confidence := .single (same.selection_confidence ▸ rereads.selection_confidence)
  approval_confidence := .single (same.approval_confidence ▸ rereads.approval_confidence)

theorem CarriedSettings.trans {first second third : RoundOutput} (left : CarriedSettings reread first second)
    (right : CarriedSettings reread second third) : CarriedSettings reread first third where
  cohort := left.cohort.trans right.cohort
  index := left.index.trans right.index
  ef_grid := left.ef_grid.trans right.ef_grid
  k := left.k.trans right.k
  value := left.value.trans right.value
  percentile := left.percentile.trans right.percentile
  selection_confidence := left.selection_confidence.trans right.selection_confidence
  approval_confidence := left.approval_confidence.trans right.approval_confidence

/-- A block that is read once more still comes from where it came from. -/
theorem Carried.further (carried : Carried codec reread before source written) (stored : Stored codec before source)
    (ef : block.recommended_ef = written.recommended_ef) (confidence : reread written.confidence block.confidence)
    (source_round : block.source_round = written.source_round) (settings : CarriedSettings reread source output) :
    ∃ first, Stored codec before first ∧ Recommends reread first block ∧ CarriedSettings reread first output := by
  rcases carried.origin with ⟨approved, recommended, confident, finish⟩ | ⟨first, storedFirst, recommends, earlier⟩
  · exact ⟨source, stored, ⟨approved, recommended.trans (congrArg some ef.symm), finish.trans source_round.symm,
      ⟨_, confident, .single confidence⟩⟩, settings⟩
  · obtain ⟨value, confident, chain⟩ := recommends.confidence
    exact ⟨first, storedFirst, ⟨recommends.approved, recommends.recommended_ef.trans (congrArg some ef.symm),
      recommends.source_round.trans source_round.symm, ⟨value, confident, chain.tail confidence⟩⟩, earlier.trans settings⟩

/-- A record of the cohort whose effective block is accounted for. -/
def Vouches (codec : Codec B) (beta_reg : Float → Float → Float → Float) (reread : Float → Float → Prop) (cohort : String)
    (before : List (Event B)) (output : RoundOutput) : Prop :=
  (∃ input, input.config.cohort = cohort ∧ aggregate beta_reg input = .ok output) ∧
    ∀ effective, output.effective = some effective → Carried codec reread before output effective

theorem vouches_lasts : Lasting (Vouches codec beta_reg reread cohort) :=
  fun extends' holds => ⟨holds.1, fun effective block => (holds.2 effective block).mono extends'⟩

/-- The record of a round is vouched for by the records before it. -/
theorem vouches_voucher (reads : ReadsBack codec reread) :
    Voucher codec beta_reg cohort (Vouches codec beta_reg reread cohort) where
  lasts := vouches_lasts
  prepared := by
    intro world ending paths reply output body own accounted prepared
    obtain ⟨previous_round, read, aggregated⟩ := prepared.aggregated
    refine ⟨⟨_, own, aggregated⟩, fun effective block => ?_⟩
    have recorded := aggregate_recorded aggregated
    rcases recorded.effective with ⟨approved, fresh, found, carried, in_grid, _, produces⟩ | ⟨rejected, found⟩
    · obtain rfl := Option.some.inj (block.symm.trans found)
      exact ⟨in_grid, .inl ⟨approved, produces⟩, iff_of_true carried ⟨approved, produces⟩⟩
    · rw [block, eq_comm, Option.map_eq_some_iff] at found
      obtain ⟨earlier, carried, rfl⟩ := found
      rw [previous_effective, Option.bind_eq_some_iff] at carried
      obtain ⟨round, accepted, earlierBlock⟩ := carried
      obtain ⟨previous, fingerprint⟩ := Option.filter_eq_some_iff.mp accepted
      change previous_round = some round at previous
      subst previous
      obtain ⟨stored, rfl, parsed⟩ := previous_of_some read
      obtain ⟨source, serialised, storedSource, _, traced⟩ :=
        accounted.record vouches_lasts (round_paths_root prepared.named).2 prepared.readable
      have rereads := reads serialised parsed
      obtain ⟨written, writtenBlock, ef, confidence, source_round⟩ := rereads.effective earlier earlierBlock
      have before := traced written writtenBlock
      have same := recorded.same_fingerprint fingerprint
      refine ⟨?_, .inr (before.further storedSource ef confidence source_round (rereads.settings same)),
        iff_of_false (by simp) fun produced => rejected produced.1⟩
      rw [← same.ef_grid, rereads.ef_grid]
      exact ef ▸ before.in_grid

end Carrying

end VectorSeam.Rereadings
