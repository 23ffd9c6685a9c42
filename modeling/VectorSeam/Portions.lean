import VectorSeam.Isolation

/-!
The portion of the store that belongs to a cohort. A round of the cohort runs alike over two
stores that agree on it: whatever it does over one it can do over the other, request by
request, with the same outcome, and what the other cohorts keep there stays as it is.
-/

namespace VectorSeam.Portions
open VectorSeam.Model VectorSeam.Cohort VectorSeam.ObjectStore VectorSeam.Intermediate VectorSeam.Effects VectorSeam.Programs
open VectorSeam.Pipeline VectorSeam.Isolation

variable {B ε α : Type} {cohort other : CohortName} {left right : World B}

/-- The stores have the same objects under the keys of the cohort. -/
def Agrees (cohort : CohortName) (left right : Objects B) : Prop :=
  ∀ path, Owned cohort path → lookup left path = lookup right path

theorem Agrees.refl (objects : Objects B) : Agrees cohort objects objects := fun _ _ => rfl
theorem Agrees.symm {left right : Objects B} (agrees : Agrees cohort left right) : Agrees cohort right left :=
  fun path owned => (agrees path owned).symm
theorem Agrees.trans {left right last : Objects B} (first : Agrees cohort left right) (second : Agrees cohort right last) :
    Agrees cohort left last := fun path owned => (first path owned).trans (second path owned)

theorem Agrees.store {left right : Objects B} (agrees : Agrees cohort left right) (path : Path) (body : B) :
    Agrees cohort (store left path body) (store right path body) := by
  intro other owned
  rw [lookup_store, lookup_store]
  by_cases here : path = other
  · rw [if_pos here, if_pos here]
  · rw [if_neg here, if_neg here]
    exact agrees other owned

/-- A listing within the portion has the same paths. -/
theorem Agrees.listing {left right : Objects B} (agrees : Agrees cohort left right) {lead : Path}
    (within : ∀ path, lead.below path = true → Owned cohort path) : (listing left lead).Perm (listing right lead) := by
  refine (List.perm_ext_iff_of_nodup (nodup_listing left lead) (nodup_listing right lead)).mpr fun path => ?_
  rw [mem_listing, mem_listing]
  refine and_congr_left fun below => ?_
  rw [agrees path (within path below)]

/-- One request answered alike over two stores. -/
structure Alike (cohort : CohortName) (left right left' right' : World B) : Prop where
  agrees : Agrees cohort left'.objects right'.objects
  log : ∃ event, left'.log = left.log ++ [event] ∧ right'.log = right.log ++ [event]
  /-- What the cohort does not own is left alone. -/
  others : ∀ path, ¬Owned cohort path → lookup right'.objects path = lookup right.objects path

theorem answer_alike {effect : Effect B} (within : Within cohort effect) (agrees : Agrees cohort left.objects right.objects)
    (choice : Choice) : ∃ choice', (answer right choice' effect).1 = (answer left choice effect).1 ∧
      Alike cohort left right (answer left choice effect).2 (answer right choice' effect).2 := by
  cases effect with
  | list lead =>
    have same : (listing left.objects lead).Perm (listing right.objects lead) := agrees.listing within
    cases ordered : choice.listed with
    | error message =>
      refine ⟨choice, ?_, agrees, ⟨.listed lead (.error message), ?_, ?_⟩, fun _ _ => rfl⟩
      · simp only [answer, ordered, list_reply]
      · simp only [answer, World.record, ordered, list_reply]
      · simp only [answer, World.record, ordered, list_reply]
    | ok order =>
      obtain ⟨paths, replied⟩ : ∃ paths, list_reply left.objects lead choice.listed = .ok paths := by
        rw [ordered]
        exact ⟨_, rfl⟩
      have perm : paths.Perm (listing right.objects lead) := by
        rw [ordered, list_reply] at replied
        obtain rfl := Except.ok.inj replied
        split
        · rename_i fits
          exact (List.isPerm_iff.mp fits).trans same
        · exact same
      have reply : list_reply right.objects lead (.ok paths) = .ok paths := by
        rw [list_reply, if_pos (List.isPerm_iff.mpr perm)]
      refine ⟨{ choice with listed := .ok paths }, ?_, agrees, ⟨.listed lead (.ok paths), ?_, ?_⟩, fun _ _ => rfl⟩
      · simp only [answer, reply, replied]
      · simp only [answer, World.record, replied]
      · simp only [answer, World.record, reply]
  | get path =>
    have same : get_reply right.objects path choice.fetch = get_reply left.objects path choice.fetch := by
      unfold get_reply
      rw [agrees path (within path rfl)]
    refine ⟨choice, same, agrees, ⟨.got path (get_reply left.objects path choice.fetch), rfl, ?_⟩, fun _ _ => rfl⟩
    simp only [answer, World.record, same]
  | put path body =>
    refine ⟨choice, rfl, ?_, ⟨.uploaded path body _ _, rfl, rfl⟩, ?_⟩
    · simp only [answer, World.upload]
      split
      · exact agrees.store path body
      · exact agrees
    · intro other foreign
      simp only [answer, World.upload]
      split
      · exact lookup_store_of_ne fun same => foreign (same ▸ within path rfl)
      · rfl
  | measure_sample vector config => exact ⟨choice, rfl, agrees, ⟨.measured vector config choice.measured, rfl, rfl⟩, fun _ _ => rfl⟩
  | is_cancelled => exact ⟨choice, rfl, agrees, ⟨.polled choice.cancelled, rfl, rfl⟩, fun _ _ => rfl⟩

/-- A program that stays with the cohort runs alike over stores that agree on the cohort's portion. -/
theorem runs_alike {program : Program B ε α} {post : α → Prop} {outcome : Outcome ε α} {left' : World B}
    (stays : Stays cohort post program) (run : Runs answer program left outcome left')
    (agrees : Agrees cohort left.objects right.objects) :
    ∃ right', Runs answer program right outcome right' ∧ Agrees cohort left'.objects right'.objects ∧
      (∃ block, left'.log = left.log ++ block ∧ right'.log = right.log ++ block) ∧
      ∀ path, ¬Owned cohort path → lookup right'.objects path = lookup right.objects path := by
  induction program generalizing left right with
  | done value =>
    obtain ⟨rfl, rfl⟩ := runs_done.mp run
    exact ⟨right, runs_done.mpr ⟨rfl, rfl⟩, agrees, ⟨[], by simp, by simp⟩, fun _ _ => rfl⟩
  | fail error =>
    obtain ⟨rfl, rfl⟩ := runs_fail.mp run
    exact ⟨right, runs_fail.mpr ⟨rfl, rfl⟩, agrees, ⟨[], by simp, by simp⟩, fun _ _ => rfl⟩
  | ask effect next ih =>
    rcases runs_ask.mp run with ⟨rfl, rfl⟩ | ⟨choice, later⟩
    · exact ⟨right, runs_ask.mpr (.inl ⟨rfl, rfl⟩), agrees, ⟨[], by simp, by simp⟩, fun _ _ => rfl⟩
    · obtain ⟨choice', same, alike⟩ := answer_alike stays.1 agrees choice
      obtain ⟨right', rest, agrees', ⟨block, logged, logged'⟩, others⟩ :=
        ih _ (stays.2 _ (answer_possible left choice effect)) later alike.agrees
      obtain ⟨event, asked, asked'⟩ := alike.log
      refine ⟨right', runs_ask.mpr (.inr ⟨choice', same ▸ rest⟩), agrees', ⟨event :: block, ?_, ?_⟩, ?_⟩
      · rw [logged, asked, List.append_assoc]
        rfl
      · rw [logged', asked', List.append_assoc]
        rfl
      · exact fun path foreign => (others path foreign).trans (alike.others path foreign)

section Rounds
variable {codec : Codec B} {beta_reg : Float → Float → Float → Float} {config : AggregationConfig}
  {round_end computed_at_us : Nat} {computed_at : String} {outcome : Outcome PipelineError CohortRoundOutcome}
  {left' : World B}

/-- A round of the cohort over another store that agrees on its portion. -/
theorem round_alike (of : config.cohort = cohort.name)
    (run : Runs answer (run_cohort_round codec beta_reg config round_end computed_at computed_at_us) left outcome left')
    (agrees : Agrees cohort left.objects right.objects) :
    ∃ right', Runs answer (run_cohort_round codec beta_reg config round_end computed_at computed_at_us) right outcome right' ∧
      Agrees cohort left'.objects right'.objects ∧
      (∃ block, left'.log = left.log ++ block ∧ right'.log = right.log ++ block) ∧
      ∀ path, ¬Owned cohort path → lookup right'.objects path = lookup right.objects path :=
  runs_alike (stays_run_cohort_round codec config of beta_reg round_end computed_at computed_at_us) run agrees

/-- A round leaves the portions of the other cohorts as they are. -/
theorem round_others (of : config.cohort = cohort.name) (different : other ≠ cohort)
    (run : Runs answer (run_cohort_round codec beta_reg config round_end computed_at computed_at_us) left outcome left') :
    Agrees other left'.objects left.objects := by
  have kept : ∀ path, ¬Owned cohort path → lookup left'.objects path = lookup left.objects path := by
    intro path foreign
    refine ((stays_run_cohort_round codec config of beta_reg round_end computed_at computed_at_us).runs answer_possible
      (fun world => lookup world.objects path = lookup left.objects path) ?_ run rfl).1
    intro world choice effect within same
    rw [← same]
    cases effect with
    | put stored body =>
      simp only [answer, World.upload]
      split
      · exact lookup_store_of_ne fun here => foreign (here ▸ within stored rfl)
      · rfl
    | list lead => rfl
    | get found => rfl
    | measure_sample vector config => rfl
    | is_cancelled => rfl
  exact fun path owned => kept path fun owned' => different (owned_unique owned owned')

end Rounds

end VectorSeam.Portions
