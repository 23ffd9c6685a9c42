import VectorSeam.Isolation
import VectorSeam.Rounds

/-!
What a round does to the calibrations. It leaves them alone, or it has aggregated one record
under a valid configuration and puts that under the dated key and then under the latest one;
a round that is interrupted there has put the dated record first.
-/

namespace VectorSeam.Calibrations
open VectorSeam.Model VectorSeam.Cohort VectorSeam.ObjectStore VectorSeam.Aggregate VectorSeam.Intermediate VectorSeam.Effects
open VectorSeam.Programs VectorSeam.Pipeline VectorSeam.Requests VectorSeam.Publishing VectorSeam.Rounds

variable {B : Type} {codec : Codec B} {beta_reg : Float → Float → Float → Float} {world world' : World B}

/-- A record of a round, with the keys that it goes to. -/
structure Kept (codec : Codec B) (beta_reg : Float → Float → Float → Float) (config : AggregationConfig) (round_end : Nat)
    (computed_at : String) (paths : Path × Path) (body : B) (output : RoundOutput) : Prop where
  named : round_paths config.cohort round_end = .ok paths
  made : ∃ input, input.config = config ∧ input.round_end = round_end ∧ input.computed_at = computed_at ∧
    aggregate beta_reg input = .ok output
  serialised : codec.to_vec output = .ok body

/-- The calibrations after some of the uploads of a record, the second never without the first. -/
structure Placed (paths : Path × Path) (body : B) (objects objects' : Objects B) : Prop where
  only : ∀ path, path.root = some "calibrations" → lookup objects' path = lookup objects path ∨
    (path = paths.1 ∨ path = paths.2) ∧ lookup objects' path = some body
  ordered : lookup objects' paths.2 = lookup objects paths.2 ∨ lookup objects' paths.1 = some body

section Placed
variable {paths : Path × Path} {body : B} {objects objects' : Objects B}

theorem placed_none (same : ∀ path, path.root = some "calibrations" → lookup objects' path = lookup objects path)
    (root : paths.2.root = some "calibrations") : Placed paths body objects objects' :=
  ⟨fun path found => .inl (same path found), .inl (same _ root)⟩

theorem placed_first (reply : Except String Unit) (stored : Bool) :
    Placed paths body world.objects (world.upload paths.1 body reply stored).objects := by
  cases stored with
  | false => exact ⟨fun _ _ => .inl rfl, .inl rfl⟩
  | true =>
    refine ⟨fun path _ => ?_, .inr ?_⟩
    · by_cases here : paths.1 = path
      · exact .inr ⟨.inl here.symm, by simp [World.upload, here]⟩
      · exact .inl (by simp [World.upload, here])
    · simp [World.upload]

/-- The second upload, after the first was stored. -/
theorem placed_second (reply : Except String Unit) (stored : Bool) :
    Placed paths body world.objects
      ((world.upload paths.1 body (.ok ()) true).upload paths.2 body reply stored).objects := by
  have first : Placed paths body world.objects (world.upload paths.1 body (.ok ()) true).objects := placed_first _ true
  cases stored with
  | false => exact ⟨first.only, first.ordered⟩
  | true =>
    refine ⟨fun path root => ?_, .inr ?_⟩
    · by_cases here : paths.2 = path
      · exact .inr ⟨.inr here.symm, by simp [World.upload, here]⟩
      · have same : lookup ((world.upload paths.1 body (.ok ()) true).upload paths.2 body reply true).objects path =
            lookup (world.upload paths.1 body (.ok ()) true).objects path := by
          simp [World.upload, here]
        rw [same]
        exact first.only path root
    · by_cases here : paths.2 = paths.1
      · simp [World.upload, here]
      · simp [World.upload, here]

theorem Placed.of_eq {other : Objects B} (placed : Placed paths body objects objects')
    (same : ∀ path, path.root = some "calibrations" → lookup objects path = lookup other path)
    (root : paths.2.root = some "calibrations") : Placed paths body other objects' :=
  ⟨fun path found => same path found ▸ placed.only path found, same _ root ▸ placed.ordered⟩

end Placed

/-- A round leaves the calibrations alone, or puts a record of its own. -/
theorem round_calibrations {config : AggregationConfig} {round_end computed_at_us : Nat} {computed_at : String}
    {outcome : Outcome PipelineError CohortRoundOutcome}
    (run : Runs answer (run_cohort_round codec beta_reg config round_end computed_at computed_at_us) world outcome world') :
    ((∀ output, outcome ≠ .returned (.Published output)) ∧
      ∀ path, path.root = some "calibrations" → lookup world'.objects path = lookup world.objects path) ∨
    ∃ paths body output, Kept codec beta_reg config round_end computed_at paths body output ∧
      Placed paths body world.objects world'.objects ∧ ∀ record, outcome = .returned (.Published record) →
        record = output ∧ lookup world'.objects paths.1 = some body ∧ lookup world'.objects paths.2 = some body := by
  have outside : ∀ {middle : World B}, Gathered world middle → ∀ path, path.root = some "calibrations" →
      lookup middle.objects path = lookup world.objects path := fun gathered path root =>
    gathered.objects path fun other => not_calibration other root
  rcases runs_round run with ⟨gathered, unpublished⟩ | ⟨ending, middle, rfl, rfl, rfl, _, gathered, finish⟩
  · exact .inl ⟨unpublished, outside gathered⟩
  rcases runs_finish finish with withheld | ⟨paths, reply, output, body, prepared, puts⟩
  · exact .inl ⟨withheld.unpublished, fun path root => by rw [withheld.objects, outside gathered path root]⟩
  obtain ⟨previous_round, _, aggregated⟩ := prepared.aggregated
  have root := (round_paths_root prepared.named).2
  refine .inr ⟨paths, body, output, ⟨prepared.named, ⟨_, rfl, rfl, rfl, aggregated⟩, prepared.serialised⟩, ?_⟩
  have begun : ∀ path, path.root = some "calibrations" →
      lookup (fetched middle paths.2 reply).objects path = lookup world.objects path :=
    fun path root => outside gathered path root
  rcases runs_put_round.mp puts with ⟨rfl, rfl⟩ | ⟨message, stored, rfl, rfl⟩ | ⟨rfl, rfl⟩ | ⟨message, stored, rfl, rfl⟩ |
    ⟨rfl, rfl⟩
  · exact ⟨placed_none begun root, fun _ other => by cases other⟩
  · exact ⟨(placed_first (.error message) stored).of_eq begun root, fun _ other => by cases other⟩
  · exact ⟨(placed_first (.ok ()) true).of_eq begun root, fun _ other => by cases other⟩
  · exact ⟨(placed_second (.error message) stored).of_eq begun root, fun _ other => by cases other⟩
  · refine ⟨(placed_second (.ok ()) true).of_eq begun root, ?_⟩
    rintro record same
    cases same
    refine ⟨rfl, ?_, ?_⟩
    · by_cases here : paths.2 = paths.1
      · simp [World.upload, here]
      · simp [World.upload, here]
    · simp [World.upload]

/-- Both keys of a record belong to its cohort. -/
theorem Kept.owned {cohort : CohortName} {config : AggregationConfig} {round_end : Nat} {computed_at : String}
    {paths : Path × Path} {body : B} {output : RoundOutput}
    (kept : Kept codec beta_reg config round_end computed_at paths body output) (of : config.cohort = cohort.name) :
    Isolation.Owned cohort paths.1 ∧ Isolation.Owned cohort paths.2 := by
  have named := kept.named
  rw [of] at named
  obtain ⟨timestamp, _, first, second⟩ := Keys.round_paths_parts named
  exact ⟨.inr ⟨_, first⟩, .inr ⟨_, second⟩⟩

end VectorSeam.Calibrations
