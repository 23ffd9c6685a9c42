import VectorSeam.Requests
import VectorSeam.Measure

/-!
What a completed measurement of samples did: one poll for every sample, one question for
every sample that has a query vector, and what each answer added to the rows.
-/

namespace VectorSeam.Measurements
open VectorSeam.Programs VectorSeam.Effects VectorSeam.Requests VectorSeam.Model VectorSeam.Intermediate
open VectorSeam.Frame VectorSeam.Measure

variable {B : Type} {config : AggregationConfig}

/-- The samples taken in turn, the requests they led to and the rows before and after. -/
inductive Taken (config : AggregationConfig) :
    List PreparedSample → Measuring → List (Event B) → Measuring → Prop where
  | done (measuring : Measuring) : Taken config [] measuring [] measuring
  /-- Without a receive time and a query vector the measurer is not asked. -/
  | unasked {sample rest measuring block finish}
      (unmeasurable : ∀ receive_time_us vector, sample.receive_time_us = .ok receive_time_us → sample.vector ≠ .ok vector)
      (later : Taken config rest { measuring with failed_count := measuring.failed_count + 1 } block finish) :
      Taken config (sample :: rest) measuring (.polled false :: block) finish
  | failed {sample rest measuring block finish receive_time_us vector} (message : String)
      (time : sample.receive_time_us = .ok receive_time_us) (query : sample.vector = .ok vector)
      (later : Taken config rest { measuring with failed_count := measuring.failed_count + 1 } block finish) :
      Taken config (sample :: rest) measuring
        (.polled false :: .measured vector config (.error (.Database message)) :: block) finish
  | answered {sample rest measuring block finish receive_time_us vector measured next}
      (time : sample.receive_time_us = .ok receive_time_us) (query : sample.vector = .ok vector)
      (took : take_measurement config sample receive_time_us measured measuring = .ok next)
      (later : Taken config rest next block finish) :
      Taken config (sample :: rest) measuring (.polled false :: .measured vector config (.ok measured) :: block) finish

theorem measure_samples_complete {part : PreparedPart} {part_ulid : String} {computed_at_us : Nat}
    {samples : List PreparedSample} {measuring : Measuring} {measured : MeasuredPart} {world world' : World B}
    (run : Runs answer (measure_samples part part_ulid config computed_at_us samples measuring) world
      (.returned (.Complete measured)) world') :
    ∃ block finish, world'.log = world.log ++ block ∧ measured = measured_part part part_ulid config computed_at_us finish ∧
      Taken config samples measuring block finish := by
  induction samples generalizing world measuring with
  | nil =>
    obtain ⟨same, rfl⟩ := runs_pure.mp run
    cases same
    exact ⟨[], measuring, (List.append_nil _).symm, rfl, .done measuring⟩
  | cons sample rest ih =>
    unfold measure_samples at run
    rcases runs_bind_is_cancelled.mp run with ⟨same, _⟩ | ⟨cancelled, afterPoll⟩
    · cases same
    cases cancelled with
    | true => cases (runs_pure.mp afterPoll).1
    | false =>
      simp only [Bool.false_eq_true, ↓reduceIte] at afterPoll
      split at afterPoll
      · rename_i receive_time_us vector time query
        rcases runs_bind_measure_sample.mp afterPoll with ⟨same, _⟩ | ⟨reply, afterReply⟩
        · cases same
        rcases reply with (_ | _ | _ | _) | sampled
        · obtain ⟨block, finish, logged, same, later⟩ := ih afterReply
          exact ⟨_, finish, by simpa [World.record] using logged, same, .failed _ time query later⟩
        · cases (runs_pure.mp afterReply).1
        · cases (runs_pure.mp afterReply).1
        · cases (runs_pure.mp afterReply).1
        · obtain ⟨taken, last, takeRun, restRun⟩ := runs_bind_returned.mp afterReply
          obtain ⟨rfl, ⟨value, took, same⟩ | ⟨_, _, same⟩⟩ := runs_lift.mp takeRun
          · cases same
            obtain ⟨block, finish, logged, same, later⟩ := ih restRun
            exact ⟨_, finish, by simpa [World.record] using logged, same, .answered time query took later⟩
          · cases same
      · rename_i unmeasurable
        obtain ⟨block, finish, logged, same, later⟩ := ih afterPoll
        exact ⟨_, finish, by simpa [World.record] using logged, same,
          .unasked (fun receive_time_us vector time query => unmeasurable _ _ time query) later⟩

end VectorSeam.Measurements
