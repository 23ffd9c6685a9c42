import VectorSeam.WindingDown

/-!
How the collector ends. A watched task shows in its result whether it has panicked, and is
aborted only after its time. The main task returns well exactly when no task has panicked;
then it was asked to stop, and every frame is accounted for unless the writer outstayed its
time.
-/

namespace VectorSeam.Shutdowns
open VectorSeam.Tables VectorSeam.Machines VectorSeam.Transitions VectorSeam.Conservation VectorSeam.Supervision
open VectorSeam.WindingDown
open VectorSeam.Serving (JoinSet Orderly)

variable {setup : Setup} {begun : Collector.State} {host host' : Host}

/-! ### What becomes of the tasks -/

/-- The writer has gone through its own end. -/
def Finished (host : Host) : Prop := host.crashed = false ∧ host.collector.buffers.control = .Returned

structure Watching (setup : Setup) (host : Host) : Prop where
  writer : Watch .Writer host.journal id host.writer host.writer_result
  summary : Watch .Summary host.journal id host.summary host.summary_result
  served : setup.recommendation_server.isSome →
    Watch .Recommendation host.journal .ok (host.recommendation.getD .Joined) host.recommendation_result
  unserved : setup.recommendation_server = none → host.recommendation = none ∧ ¬Panicked .Recommendation host.journal ∧
    ∀ result, host.recommendation_result = some result → result = .ok ()
  writer_in : 6 ≤ stage host.control → host.writer_result.isSome
  summary_in : 7 ≤ stage host.control → host.summary_result.isSome
  recommendation_in : 8 ≤ stage host.control → host.recommendation_result.isSome
  /-- The loop is left on request, or for a task that has panicked. -/
  cause : 1 ≤ stage host.control → host.requested = true ∨ ∃ part, Panicked part host.journal
  crash : host.crashed = true → Panicked .Writer host.journal ∨ Aborted .Writer host.journal
  ended : ∀ value, host.writer = .Over (.ok value) → Finished host
  concluded : host.writer_result = some (.ok ()) → Aborted .Writer host.journal ∨ Finished host
  /-- The recommendation server returns only when it was told to. -/
  stopped : ∀ value, host.recommendation = some (.Over (.ok value)) → host.cancelled = true

/-- The tasks and their results, as the invariant reads them. -/
def tasks_view (host : Host) : Journal × Bool × Collector.Control × JoinHandle (Except Error Unit) × Option (Except Error Unit) ×
    JoinHandle (Except Error Unit) × Option (Except Error Unit) × Option (JoinHandle Unit) × Option (Except Error Unit) :=
  (host.journal, host.crashed, host.collector.buffers.control, host.writer, host.writer_result, host.summary,
    host.summary_result, host.recommendation, host.recommendation_result)

/-- Only the main task has moved, and not past a result that is still out. -/
theorem Watching.move (watching : Watching setup host) (same : tasks_view host' = tasks_view host)
    (near : stage host'.control ≤ 5 ∨ stage host'.control ≤ stage host.control)
    (cause : 1 ≤ stage host'.control → host'.requested = true ∨ 1 ≤ stage host.control)
    (requested : host.requested = true → host'.requested = true) (told : host.cancelled = true → host'.cancelled = true) :
    Watching setup host' := by
  simp only [tasks_view, Prod.mk.injEq] at same
  obtain ⟨journal, crashed, control, writer, writer_result, summary, summary_result, recommendation, recommendation_result⟩ := same
  have finished : Finished host' ↔ Finished host := by rw [Finished, Finished, crashed, control]
  constructor
  · rw [journal, writer, writer_result]
    exact watching.writer
  · rw [journal, summary, summary_result]
    exact watching.summary
  · rw [journal, recommendation, recommendation_result]
    exact watching.served
  · rw [journal, recommendation, recommendation_result]
    exact watching.unserved
  · rw [writer_result]
    exact fun late => watching.writer_in (by omega)
  · rw [summary_result]
    exact fun late => watching.summary_in (by omega)
  · rw [recommendation_result]
    exact fun late => watching.recommendation_in (by omega)
  · rw [journal]
    intro left
    rcases cause left with now | before
    · exact .inl now
    · exact (watching.cause before).imp requested id
  · rw [journal, crashed]
    exact watching.crash
  · rw [writer, finished]
    exact watching.ended
  · rw [writer_result, journal, finished]
    exact watching.concluded
  · rw [recommendation]
    exact fun value ended => told (watching.stopped value ended)

/-- While the main task still accepts, the writer can only have panicked. -/
theorem writer_panicked {joined : Except JoinError (Except Error Unit)} {now : Nat}
    (started : Collector.start setup.limits now = .ok begun) (supervised : Supervised setup begun host)
    (told : Told setup host) (watching : Watching setup host) (early : stage host.control = 0) (ended : host.writer = .Over joined) :
    ∃ text, joined = .error { is_cancelled := false, text } ∧ (Part.Writer, text) ∈ host.journal.panics := by
  have watch := watching.writer
  rw [ended] at watch
  cases joined with
  | ok value =>
    obtain ⟨alive, returned⟩ := watching.ended value ended
    have hung_up := ((reached_ending started supervised.followed).returned returned).1.hung_up
    have accepting := (supervised.sender alive).mpr (by omega)
    rw [hung_up] at accepting
    cases accepting
  | error error =>
    generalize host.writer_result = result at watch
    cases watch with
    | cancelled text sound aborted =>
      obtain ⟨time, member⟩ := aborted
      exact (no_aborts told (by omega) member).elim
    | panicked text member => exact ⟨text, rfl, member⟩

theorem recommendation_panicked {joined : Except JoinError Unit} (told : Told setup host) (watching : Watching setup host)
    (early : stage host.control = 0) (ended : host.recommendation = some (.Over joined)) :
    setup.recommendation_server.isSome ∧ ∃ text, joined = .error { is_cancelled := false, text } ∧
      (Part.Recommendation, text) ∈ host.journal.panics := by
  have enabled : setup.recommendation_server.isSome := by
    cases enabled : setup.recommendation_server with
    | some config => rfl
    | none =>
      rw [(watching.unserved enabled).1] at ended
      cases ended
  have watch := watching.served enabled
  rw [ended] at watch
  refine ⟨enabled, ?_⟩
  cases joined with
  | ok value =>
    have cancelled := watching.stopped value ended
    rw [told.token, early] at cancelled
    simp at cancelled
  | error error =>
    simp only [Option.getD_some] at watch
    generalize host.recommendation_result = result at watch
    cases watch with
    | cancelled text sound aborted =>
      obtain ⟨time, member⟩ := aborted
      exact (no_aborts told (by omega) member).elim
    | panicked text member => exact ⟨text, rfl, member⟩

/-- An abort before its time has come would show in the place of the main task. -/
theorem not_aborted {part : Part} {control : Control} (told : Told setup host) (here : host.control = control)
    (early : may_abort part control = false) : ¬Aborted part host.journal := by
  intro ⟨time, member⟩
  have after := told.aborts part time member
  rw [here, early] at after
  cases after

/-- The journal has a further abort. -/
theorem watch_aborting {part watched : Part} {ρ : Type} {output : ρ → Except Error Unit} {task : JoinHandle ρ}
    {result : Option (Except Error Unit)} (watch : Watch watched host.journal output task result) :
    Watch watched (host.aborting part).journal output task result :=
  watch.mono (fun _ => Iff.rfl) fun ⟨time, member⟩ => ⟨time, List.mem_append_left _ member⟩

theorem watch_aborted {part : Part} {ρ : Type} {output : ρ → Except Error Unit} {aborted : Bool}
    {result : Option (Except Error Unit)} (watch : Watch part host.journal output (.Running aborted) result) :
    Watch part (host.aborting part).journal output (.Running true) result := by
  cases watch with
  | running _ sound told =>
    exact .running true sound fun _ => ⟨host.elapsed, List.mem_append_right _ (List.mem_singleton.mpr rfl)⟩

/-- A task that is still running is aborted. -/
theorem Watching.aborting (watching : Watching setup host) (part : Part) :
    Watching setup (host.aborting part) where
  writer := watch_aborting watching.writer
  summary := watch_aborting watching.summary
  served enabled := watch_aborting (watching.served enabled)
  unserved := watching.unserved
  writer_in := watching.writer_in
  summary_in := watching.summary_in
  recommendation_in := watching.recommendation_in
  cause := watching.cause
  crash crashed := (watching.crash crashed).imp id fun ⟨time, member⟩ => ⟨time, List.mem_append_left _ member⟩
  ended := watching.ended
  concluded well := (watching.concluded well).imp (fun ⟨time, member⟩ => ⟨time, List.mem_append_left _ member⟩) id
  stopped := watching.stopped

/-- The conclusion about the writer: it was aborted, or has gone through its own end. -/
theorem writer_concluded {wait : Wait} {joined : Except JoinError (Except Error Unit)} (watching : Watching setup host)
    (ended : host.writer = .Over joined) (well : conclusion id Part.Writer.task_name wait joined = .ok ()) :
    Aborted .Writer host.journal ∨ Finished host := by
  have watch := watching.writer
  rw [ended] at watch
  generalize host.writer_result = result at watch
  cases watch with
  | returned value sound fine => exact .inr (watching.ended value ended)
  | cancelled text sound told => exact .inl told
  | panicked text member => cases wait <;> simp [conclusion] at well

/-- The recommendation server is next, if it has to be awaited. -/
theorem Watching.await_recommendation {wait : Wait} (watching : Watching setup host) (waiting : host.control = .AwaitingSummary wait)
    (summarized : host.summary_result.isSome) : Watching setup (host.await_recommendation setup) := by
  have written := watching.writer_in (by simp [waiting, stage])
  have cause := watching.cause (by simp [waiting, stage])
  unfold Host.await_recommendation
  split
  · rename_i result present
    exact { watching with
      writer_in := fun _ => written
      summary_in := fun _ => summarized
      recommendation_in := fun _ => by simp [present]
      cause := fun _ => cause }
  · exact { watching with
      writer_in := fun _ => written
      summary_in := fun _ => summarized
      recommendation_in := by simp [stage]
      cause := fun _ => cause }
  · rename_i missing nothing
    exact { watching with
      served := fun enabled => by
        have watch := watching.served enabled
        rw [missing, nothing] at watch
        cases watch
      unserved := fun disabled => ⟨(watching.unserved disabled).1, (watching.unserved disabled).2.1, by simp⟩
      writer_in := fun _ => written
      summary_in := fun _ => summarized
      recommendation_in := by simp
      cause := fun _ => cause }

theorem Watching.main {now : Nat} (started : Collector.start setup.limits now = .ok begun)
    (supervised : Supervised setup begun host) (told : Told setup host) (watching : Watching setup host)
    (advanced : Advanced setup host host') : Watching setup host' := by
  cases advanced with
  | head control loop open_ room => exact watching.move rfl (.inl (by simp [open_])) (by simp [open_]) id id
  | rejoin connections limit joined => exact watching.move rfl (.inl (by simp [stage])) (by simp [stage]) id id
  | requested early => exact watching.move rfl (.inl (by simp [stage])) (fun _ => .inl rfl) (fun _ => rfl) id
  | writer_ended joined early ended =>
    obtain ⟨text, rfl, member⟩ := writer_panicked started supervised told watching early ended
    exact { watching with
      writer := .failed _ text member (.inl rfl)
      writer_in := by simp
      summary_in := by simp [stage]
      recommendation_in := by simp [stage]
      cause := fun _ => .inr ⟨_, text, member⟩
      ended := by simp
      concluded := by simp [unexpected_task_result] }
  | recommendation_ended joined early ended =>
    obtain ⟨enabled, text, rfl, member⟩ := recommendation_panicked told watching early ended
    exact { watching with
      served := fun _ => .failed _ text member (.inl rfl)
      unserved := fun disabled => by simp [disabled] at enabled
      writer_in := by simp [stage]
      summary_in := by simp [stage]
      recommendation_in := by simp
      cause := fun _ => .inr ⟨_, text, member⟩
      stopped := by simp }
  | accept connection collector accepting spawned =>
    have same : collector.buffers.control = host.collector.buffers.control := by
      split at spawned
      · rw [spawned]
      · obtain ⟨-, spawned⟩ := Option.ite_none_right_eq_some.mp spawned
        obtain rfl := Option.some.inj spawned
        rfl
    exact watching.move (by simp [tasks_view, same]) (.inl (by simp [stage])) (by simp [stage]) id id
  | accept_error deadline accepting => exact watching.move rfl (.inl (by simp [stage])) (by simp [stage]) id id
  | retry deadline backing => exact watching.move rfl (.inl (by simp [stage])) (by simp [stage]) id id
  | tell deadline stopping =>
    have untold : host.cancelled = false := by simp [told.token, stopping, stage]
    exact watching.move rfl (.inl (by simp [stage])) (fun _ => .inr (by simp [stopping, stage])) id
      fun cancelled => by simp [untold] at cancelled
  | drain connections draining left joined => exact watching.move rfl (.inr le_rfl) (fun late => .inr late) id id
  | close deadline draining =>
    exact watching.move rfl (.inl (by simp [Host.close, stage])) (fun _ => .inr (by simp [draining, stage])) id id
  | closed deadline closing =>
    exact watching.move rfl (.inl (by simp [stage])) (fun _ => .inr (by simp [closing, stage])) id id
  | abort deadline closing =>
    exact watching.move rfl (.inl (by simp [stage])) (fun _ => .inr (by simp [closing, stage])) id id
  | hang_up collector control joining nothing next dropped =>
    have same : collector.buffers.control = host.collector.buffers.control := by
      split at dropped
      · rw [dropped]
      · obtain ⟨-, dropped⟩ := Option.ite_none_right_eq_some.mp dropped
        obtain rfl := Option.some.inj dropped
        rfl
    have finished : Finished host → Finished { host with
        collector, control, journal := { host.journal with hung_up := some host.elapsed } } :=
      fun finished => ⟨finished.1, same.trans finished.2⟩
    have middle : stage control ≤ 6 ∧ (6 ≤ stage control → host.writer_result.isSome) := by
      rw [next]
      cases host.writer_result <;> simp [stage]
    exact { watching with
      writer := watching.writer.mono (fun _ => Iff.rfl) id
      summary := watching.summary.mono (fun _ => Iff.rfl) id
      served := fun enabled => (watching.served enabled).mono (fun _ => Iff.rfl) id
      writer_in := middle.2
      summary_in := fun late => by
        dsimp only at late
        omega
      recommendation_in := fun late => by
        dsimp only at late
        omega
      cause := fun _ => watching.cause (by simp [joining, stage])
      ended := fun value ended => finished (watching.ended value ended)
      concluded := fun well => (watching.concluded well).imp id finished }
  | abort_writer deadline aborted waiting running late =>
    have sound := watching.writer
    rw [running] at sound
    have aborting := watching.aborting .Writer
    exact { aborting with
      writer := watch_aborted sound
      writer_in := by simp [stage]
      summary_in := by simp [stage]
      recommendation_in := by simp [stage]
      cause := fun _ => watching.cause (by simp [waiting, stage])
      ended := by simp }
  | writer wait joined deadline waiting ended =>
    have watch := watching.writer
    rw [ended] at watch
    have concluded : conclusion id Part.Writer.task_name wait joined = .ok () → Aborted .Writer host.journal ∨ Finished host :=
      writer_concluded watching ended
    exact { watching with
      writer := watch.concludes fun deadline within => not_aborted told waiting (by rw [within]; rfl)
      writer_in := by simp
      summary_in := by simp [stage]
      recommendation_in := by simp [stage]
      cause := fun _ => watching.cause (by simp [waiting, stage])
      ended := by simp
      concluded := fun well => concluded (Option.some.inj well) }
  | abort_summary deadline aborted waiting running =>
    have sound := watching.summary
    rw [running] at sound
    have aborting := watching.aborting .Summary
    exact { aborting with
      summary := watch_aborted sound
      writer_in := fun _ => watching.writer_in (by simp [waiting, stage])
      summary_in := by simp [stage]
      recommendation_in := by simp [stage]
      cause := fun _ => watching.cause (by simp [waiting, stage]) }
  | summary wait joined waiting ended =>
    have watch := watching.summary
    rw [ended] at watch
    have concluded : Watching setup { host with
        summary := .Joined, summary_result := some (conclusion id Part.Summary.task_name wait joined) } := { watching with
      summary := watch.concludes fun deadline within => not_aborted told waiting (by rw [within]; rfl)
      summary_in := by simp }
    exact concluded.await_recommendation waiting rfl
  | abort_recommendation deadline aborted waiting running =>
    have aborting := watching.aborting .Recommendation
    exact { aborting with
      served := fun enabled => by
        have sound := watching.served enabled
        rw [running] at sound
        exact watch_aborted sound
      unserved := fun disabled => by
        have nothing := (watching.unserved disabled).1
        rw [running] at nothing
        cases nothing
      writer_in := fun _ => watching.writer_in (by simp [waiting, stage])
      summary_in := fun _ => watching.summary_in (by simp [waiting, stage])
      recommendation_in := by simp [stage]
      cause := fun _ => watching.cause (by simp [waiting, stage])
      stopped := by simp }
  | recommendation wait joined waiting ended =>
    exact { watching with
      served := fun enabled => by
        have watch := watching.served enabled
        rw [ended] at watch
        exact watch.concludes fun deadline within => not_aborted told waiting (by rw [within]; rfl)
      unserved := fun disabled => by
        have nothing := (watching.unserved disabled).1
        rw [ended] at nothing
        cases nothing
      writer_in := fun _ => watching.writer_in (by simp [waiting, stage])
      summary_in := fun _ => watching.summary_in (by simp [waiting, stage])
      recommendation_in := by simp
      cause := fun _ => watching.cause (by simp [waiting, stage])
      stopped := by simp }
  | clean_up cleaning =>
    exact { watching with
      writer_in := fun _ => watching.writer_in (by simp [cleaning, stage])
      summary_in := fun _ => watching.summary_in (by simp [cleaning, stage])
      recommendation_in := fun _ => watching.recommendation_in (by simp [cleaning, stage])
      cause := fun _ => watching.cause (by simp [cleaning, stage]) }

/-! ### Steps of the tasks -/

theorem returned_stays {limits : Writer.Limits} {state state' : Collector.State} {action : Collector.Action}
    (taken : Collector.step limits state action = some state') (returned : state.buffers.control = .Returned) :
    state'.buffers.control = .Returned := by
  cases step_cases taken with
  | write wrote => cases wrote <;> simp_all
  | _ => exact returned

theorem Watching.work {action : Collector.Action} (watching : Watching setup host)
    (worked : host.work setup.limits action = some host') : Watching setup host' := by
  obtain ⟨collector, stepped, worked⟩ := Option.bind_eq_some_iff.mp worked
  obtain ⟨connections, ended, rfl⟩ := Option.map_eq_some_iff.mp worked
  have finished : Finished host → Finished { host with collector, connections } :=
    fun finished => ⟨finished.1, returned_stays stepped finished.2⟩
  exact { watching with
    ended := fun value ended => finished (watching.ended value ended)
    concluded := fun well => (watching.concluded well).imp id finished }

theorem Watching.returns {part : Part} (told : Told setup host) (watching : Watching setup host)
    (returned : host.returns part = some host') : Watching setup host' := by
  cases part with
  | Writer =>
    obtain ⟨finished, returned⟩ := Option.ite_none_right_eq_some.mp returned
    obtain ⟨writer, joined, rfl⟩ := Option.map_eq_some_iff.mp returned
    exact { watching with
      writer := watching.writer.returns rfl joined
      ended := fun _ _ => finished }
  | Summary =>
    obtain ⟨sent, returned⟩ := Option.ite_none_right_eq_some.mp returned
    obtain ⟨summary, joined, rfl⟩ := Option.map_eq_some_iff.mp returned
    exact { watching with summary := watching.summary.returns rfl joined }
  | Recommendation =>
    obtain ⟨stopped, returned⟩ := Option.ite_none_right_eq_some.mp returned
    obtain ⟨task, joined, rfl⟩ := Option.map_eq_some_iff.mp returned
    obtain ⟨before, present, joined⟩ := Option.bind_eq_some_iff.mp joined
    exact { watching with
      served := fun enabled => by
        have watch := watching.served enabled
        rw [present] at watch
        exact watch.returns rfl joined
      unserved := fun disabled => by
        have nothing := (watching.unserved disabled).1
        rw [present] at nothing
        cases nothing
      stopped := fun _ _ => by
        cases enabled : setup.recommendation_server with
        | none =>
          have nothing := (watching.unserved enabled).1
          rw [present] at nothing
          cases nothing
        | some config => exact (told.server config enabled).told (by rw [stopped]; rfl) }

theorem Watching.cancels {part : Part} {text : String} (watching : Watching setup host)
    (cancelled : host.cancels part text = some host') : Watching setup host' := by
  cases part with
  | Writer =>
    obtain ⟨writer, dropped, rfl⟩ := Option.map_eq_some_iff.mp cancelled
    obtain ⟨running, rfl⟩ := cancel_some dropped
    have watch := watching.writer.cancels dropped
    have aborted : Aborted .Writer host.journal := by
      generalize host.writer_result = result at watch
      cases watch with
      | cancelled _ sound told => exact told
    exact { watching with
      writer := watching.writer.cancels dropped
      crash := fun _ => .inr aborted
      ended := by simp
      concluded := fun _ => .inl aborted }
  | Summary =>
    obtain ⟨summary, dropped, rfl⟩ := Option.map_eq_some_iff.mp cancelled
    exact { watching with summary := watching.summary.cancels dropped }
  | Recommendation =>
    obtain ⟨task, dropped, rfl⟩ := Option.map_eq_some_iff.mp cancelled
    obtain ⟨before, present, dropped⟩ := Option.bind_eq_some_iff.mp dropped
    obtain ⟨running, rfl⟩ := cancel_some dropped
    exact { watching with
      served := fun enabled => by
        have watch := watching.served enabled
        rw [present] at watch
        exact watch.cancels dropped
      unserved := fun disabled => by
        have nothing := (watching.unserved disabled).1
        rw [present] at nothing
        cases nothing
      stopped := by simp }

theorem panicked_other {part other : Part} {text text' : String} {journal : Journal} (different : other ≠ part) :
    (other, text') ∈ journal.panics ++ [(part, text)] ↔ (other, text') ∈ journal.panics := by
  simp [different]

theorem Watching.panics {part : Part} {text : String} (watching : Watching setup host)
    (panicked : host.panics part text = some host') : Watching setup host' := by
  have here : (part, text) ∈ host.journal.panics ++ [(part, text)] := List.mem_append_right _ (List.mem_singleton.mpr rfl)
  have cause : ∃ part', Panicked part' { host.journal with panics := host.journal.panics ++ [(part, text)] } :=
    ⟨part, text, here⟩
  have crash : host.crashed = true → Panicked .Writer { host.journal with panics := host.journal.panics ++ [(part, text)] } ∨
      Aborted .Writer host.journal := fun crashed =>
    (watching.crash crashed).imp (fun ⟨text, member⟩ => ⟨text, List.mem_append_left _ member⟩) id
  have unserved : setup.recommendation_server = none → part ≠ .Recommendation → host.recommendation = none ∧
      ¬Panicked .Recommendation { host.journal with panics := host.journal.panics ++ [(part, text)] } ∧
      ∀ result, host.recommendation_result = some result → result = .ok () := by
    intro disabled other
    obtain ⟨nothing, sound, well⟩ := watching.unserved disabled
    exact ⟨nothing, fun ⟨text, member⟩ => sound ⟨text, (panicked_other other.symm).mp member⟩, well⟩
  cases part with
  | Writer =>
    obtain ⟨writer, over_, rfl⟩ := Option.map_eq_some_iff.mp panicked
    obtain ⟨⟨aborted, running⟩, rfl⟩ := finish_some over_
    exact { watching with
      writer := watching.writer.panics over_ here
      summary := watching.summary.mono (fun _ => panicked_other (by simp)) id
      served := fun enabled => (watching.served enabled).mono (fun _ => panicked_other (by simp)) id
      unserved := fun disabled => unserved disabled (by simp)
      cause := fun _ => .inr cause
      crash := fun _ => .inl ⟨text, here⟩
      ended := by simp
      concluded := fun well => by
        have watch := watching.writer
        rw [running, show host.writer_result = some (.ok ()) from well] at watch
        cases watch }
  | Summary =>
    obtain ⟨summary, over_, rfl⟩ := Option.map_eq_some_iff.mp panicked
    exact { watching with
      writer := watching.writer.mono (fun _ => panicked_other (by simp)) id
      summary := watching.summary.panics over_ here
      served := fun enabled => (watching.served enabled).mono (fun _ => panicked_other (by simp)) id
      unserved := fun disabled => unserved disabled (by simp)
      cause := fun _ => .inr cause
      crash := crash }
  | Recommendation =>
    obtain ⟨task, over_, rfl⟩ := Option.map_eq_some_iff.mp panicked
    obtain ⟨before, present, over_⟩ := Option.bind_eq_some_iff.mp over_
    obtain ⟨⟨aborted, running⟩, rfl⟩ := finish_some over_
    exact { watching with
      writer := watching.writer.mono (fun _ => panicked_other (by simp)) id
      summary := watching.summary.mono (fun _ => panicked_other (by simp)) id
      served := fun enabled => by
        have watch := watching.served enabled
        rw [present] at watch
        exact watch.panics over_ here
      unserved := fun disabled => by
        have nothing := (watching.unserved disabled).1
        rw [present] at nothing
        cases nothing
      cause := fun _ => .inr cause
      crash := crash
      stopped := by simp }

/-- All that holds in every state. -/
structure Sound (setup : Setup) (begun : Collector.State) (host : Host) : Prop where
  supervised : Supervised setup begun host
  told : Told setup host
  watching : Watching setup host

theorem Sound.step {now : Nat} {action : Action} (started : Collector.start setup.limits now = .ok begun)
    (sound : Sound setup begun host) (taken : step setup host action = some host') : Sound setup begun host' := by
  obtain ⟨supervised, told, watching⟩ := sound
  cases action with
  | Work action =>
    obtain ⟨own, worked⟩ := Option.ite_none_right_eq_some.mp taken
    refine ⟨supervised.work own worked, ?_, watching.work worked⟩
    obtain ⟨collector, stepped, worked⟩ := Option.bind_eq_some_iff.mp worked
    obtain ⟨connections, ended, rfl⟩ := Option.map_eq_some_iff.mp worked
    exact told.quiet rfl rfl told.server
  | End =>
    obtain ⟨crashed, ended⟩ := Option.ite_none_right_eq_some.mp taken
    obtain ⟨connections, finished, rfl⟩ := Option.map_eq_some_iff.mp ended
    exact ⟨supervised.end crashed finished, told.quiet rfl rfl told.server, watching.move rfl (.inr le_rfl) .inr id id⟩
  | Serve action =>
    simp only [Supervision.step, Host.serves] at taken
    split at taken
    · rename_i config aborted enabled running
      obtain ⟨server, served, rfl⟩ := Option.map_eq_some_iff.mp taken
      refine ⟨supervised.quiet rfl (.inl rfl) rfl rfl rfl rfl, told.quiet rfl rfl fun other same => ?_,
        watching.move rfl (.inr le_rfl) .inr id id⟩
      rw [enabled] at same
      obtain rfl := Option.some.inj same
      exact (told.server config enabled).step (Serving.serve_cases served)
    · cases taken
  | Return part =>
    refine ⟨?_, ?_, watching.returns told taken⟩
    all_goals
      simp only [Supervision.step, Host.returns] at taken
      cases part
      all_goals
        obtain ⟨-, taken⟩ := Option.ite_none_right_eq_some.mp taken
        obtain ⟨task, finished, rfl⟩ := Option.map_eq_some_iff.mp taken
    · exact supervised.quiet rfl (.inl rfl) rfl rfl rfl rfl
    · exact supervised.quiet rfl (.inl rfl) rfl rfl rfl rfl
    · exact supervised.quiet rfl (.inl rfl) rfl rfl rfl rfl
    · exact told.quiet rfl rfl told.server
    · exact told.quiet rfl rfl told.server
    · exact told.quiet rfl rfl told.server
  | Panic part text =>
    refine ⟨?_, ?_, watching.panics taken⟩
    all_goals
      simp only [Supervision.step, Host.panics] at taken
      cases part
      all_goals obtain ⟨task, finished, rfl⟩ := Option.map_eq_some_iff.mp taken
    · exact supervised.quiet rfl (.inr rfl) rfl rfl rfl rfl
    · exact supervised.quiet rfl (.inl rfl) rfl rfl rfl rfl
    · exact supervised.quiet rfl (.inl rfl) rfl rfl rfl rfl
    · exact told.quiet rfl rfl told.server
    · exact told.quiet rfl rfl told.server
    · exact told.quiet rfl rfl told.server
  | Cancel part text =>
    refine ⟨?_, ?_, watching.cancels taken⟩
    all_goals
      simp only [Supervision.step, Host.cancels] at taken
      cases part
      all_goals obtain ⟨task, finished, rfl⟩ := Option.map_eq_some_iff.mp taken
    · exact supervised.quiet rfl (.inr rfl) rfl rfl rfl rfl
    · exact supervised.quiet rfl (.inl rfl) rfl rfl rfl rfl
    · exact supervised.quiet rfl (.inl rfl) rfl rfl rfl rfl
    · exact told.quiet rfl rfl told.server
    · exact told.quiet rfl rfl told.server
    · exact told.quiet rfl rfl told.server
  | Main choice =>
    have advanced := main_cases taken
    exact ⟨supervised.main advanced, told.main advanced, watching.main started supervised told advanced⟩

theorem start_sound {now : Nat} (started : Collector.start setup.limits now = .ok begun) : Sound setup begun (start setup begun) where
  supervised := start_supervised started
  told := {
    sent := by simp [start, stage]
    token := by simp [start, stage]
    server := fun config _ => Serving.orderly_start config _
    returned := by simp [start]
    aborts := by simp [start]
    hung_up := by simp [start, stage]
    waits := by simp [start]
    waited := by simp [start] }
  watching := {
    writer := .running false (by simp [Panicked, start]) (by simp)
    summary := .running false (by simp [Panicked, start]) (by simp)
    served := fun enabled => by
      obtain ⟨config, enabled⟩ := Option.isSome_iff_exists.mp enabled
      simp only [start, enabled, Option.map_some, Option.getD_some]
      exact .running false (by simp [Panicked]) (by simp)
    unserved := fun disabled => ⟨by simp [start, disabled], by simp [Panicked, start], by simp [start]⟩
    writer_in := by simp [start, stage]
    summary_in := by simp [start, stage]
    recommendation_in := by simp [start, stage]
    cause := by simp [start, stage]
    crash := by simp [start]
    ended := by simp [start, JoinHandle.start]
    concluded := by simp [start]
    stopped := fun value ended => by
      cases enabled : setup.recommendation_server <;> simp [start, enabled, JoinHandle.start] at ended }

theorem reached_sound {now : Nat} (started : Collector.start setup.limits now = .ok begun)
    (reached : Reached (step setup) Any (start setup begun) host) : Sound setup begun host :=
  reached.invariant (start_sound started) fun _ _ _ _ sound _ taken => sound.step started taken

/-! ### The whole collector -/

/-- Whatever the tasks do, the collector within takes the steps of its own model, no more connections are open than
configured, and every accepted connection is still open or has been joined. -/
theorem collector_supervised (setup : Setup) (now : Nat) (begun : Collector.State)
    (started : Collector.start setup.limits now = .ok begun) (host : Host)
    (reached : Reached (step setup) Any (start setup begun) host) :
    Reached (Collector.step setup.limits) Any begun host.collector ∧
      host.connections.len ≤ setup.limits.max_connections ∧
      host.connections_accepted = host.connections_joined + host.connections.len ∧
      (host.crashed = false → host.collector.connections.entries.length = host.connections.running ∧
        (host.collector.accepting = true ↔ host.journal.hung_up = none)) ∧
      ∀ config, setup.recommendation_server = some config → host.server.connections.len ≤ config.max_connections := by
  obtain ⟨supervised, told, watching⟩ := reached_sound started reached
  refine ⟨supervised.followed, supervised.limit, supervised.accounts, fun alive => ⟨(supervised.tasks alive).symm, ?_⟩,
    fun config enabled => (told.server config enabled).limit⟩
  have hung_up := told.hung_up
  rw [supervised.sender alive, ← Option.not_isSome_iff_eq_none, hung_up]
  omega

/-- Nothing is left open, and the headers of the parts count every frame that was received. -/
structure Settled (collector : Collector.State) : Prop where
  joined : collector.connections.entries = []
  drained : collector.shared.channel = []
  counted : collector.journal.received.length < 2 ^ 64 → ∀ cohort,
    collector.journal.received.countP (of_cohort cohort) = taken_count cohort collector.journal.taken

theorem returned_settled {now : Nat} {limits : Writer.Limits} {collector : Collector.State}
    (started : Collector.start limits now = .ok begun) (reached : Reached (Collector.step limits) Any begun collector)
    (returned : collector.buffers.control = .Returned) : Settled collector := by
  obtain ⟨drained, empty, nothing⟩ := (reached_ending started reached).returned returned
  refine ⟨drained.joined, drained.drained, fun few cohort => ?_⟩
  obtain ⟨-, all, balanced⟩ := reached_accounts started reached
  have balance := (balanced few).balance cohort
  have here := all (of_cohort cohort)
  have carried : carried cohort collector.connections = 0 := by rw [carried, total, drained.joined]; rfl
  have left : pending cohort collector.shared.pending_cohort_drops = 0 := by rw [empty]; rfl
  rw [counted, nothing_open (nothing cohort), left] at balance
  rw [located_settled, carried, drained.drained, returned] at here
  simp only [Custody.hand, List.countP_nil] at here
  omega

/-- The result of a task that was joined tells whether it has panicked. -/
theorem watch_result {part : Part} {journal : Journal} {ρ : Type} {output : ρ → Except Error Unit} {task : JoinHandle ρ}
    {result : Except Error Unit} (watch : Watch part journal output task (some result)) :
    task = .Joined ∧ (result = .ok () ∧ ¬Panicked part journal ∨
      ∃ error text, result = .error error ∧ (part, text) ∈ journal.panics ∧ tells part text error) := by
  cases watch with
  | joined sound => exact ⟨rfl, .inl ⟨rfl, sound⟩⟩
  | failed error text member names => exact ⟨rfl, .inr ⟨error, text, rfl, member, names⟩⟩

/-- What the results of the tasks come to. -/
theorem results {setup : Setup} {host : Host} (watching : Watching setup host) (late : 8 ≤ stage host.control) :
    host.writer = .Joined ∧ host.summary = .Joined ∧ (host.recommendation = none ∨ host.recommendation = some .Joined) ∧
      (host.result = .ok () ∧ host.writer_result = some (.ok ()) ∧ host.journal.panics = [] ∨
        ∃ error part text, host.result = .error error ∧ (part, text) ∈ host.journal.panics ∧ tells part text error) := by
  obtain ⟨written, writer_result⟩ := Option.isSome_iff_exists.mp (watching.writer_in (by omega))
  obtain ⟨summarized, summary_result⟩ := Option.isSome_iff_exists.mp (watching.summary_in (by omega))
  obtain ⟨served, recommendation_result⟩ := Option.isSome_iff_exists.mp (watching.recommendation_in late)
  have writer := watching.writer
  have summary := watching.summary
  rw [writer_result] at writer
  rw [summary_result] at summary
  have recommendation : (host.recommendation = none ∨ host.recommendation = some .Joined) ∧
      (served = .ok () ∧ ¬Panicked .Recommendation host.journal ∨
        ∃ error text, served = .error error ∧ (Part.Recommendation, text) ∈ host.journal.panics ∧
          tells .Recommendation text error) := by
    cases enabled : setup.recommendation_server with
    | none =>
      obtain ⟨nothing, sound, well⟩ := watching.unserved enabled
      exact ⟨.inl nothing, .inl ⟨well served recommendation_result, sound⟩⟩
    | some config =>
      have watch := watching.served (by rw [enabled]; rfl)
      rw [recommendation_result] at watch
      obtain ⟨joined, told⟩ := watch_result watch
      refine ⟨?_, told⟩
      cases present : host.recommendation with
      | none => exact .inl rfl
      | some task =>
        rw [present] at joined
        exact .inr (congrArg some joined)
  obtain ⟨writer_joined, writer⟩ := watch_result writer
  obtain ⟨summary_joined, summary⟩ := watch_result summary
  obtain ⟨recommendation_joined, recommendation⟩ := recommendation
  refine ⟨writer_joined, summary_joined, recommendation_joined, ?_⟩
  have result : host.result = (do written; summarized; served) := by
    rw [Host.result, writer_result, summary_result, recommendation_result]
    rfl
  rw [result, writer_result]
  rcases writer with ⟨rfl, writer_sound⟩ | ⟨error, text, rfl, member, names⟩
  · rcases summary with ⟨rfl, summary_sound⟩ | ⟨error, text, rfl, member, names⟩
    · rcases recommendation with ⟨rfl, sound⟩ | ⟨error, text, rfl, member, names⟩
      · refine .inl ⟨rfl, rfl, List.eq_nil_iff_forall_not_mem.mpr fun ⟨part, text⟩ member => ?_⟩
        cases part with
        | Writer => exact writer_sound ⟨text, member⟩
        | Summary => exact summary_sound ⟨text, member⟩
        | Recommendation => exact sound ⟨text, member⟩
      · exact .inr ⟨error, .Recommendation, text, rfl, member, names⟩
    · exact .inr ⟨error, .Summary, text, rfl, member, names⟩
  · exact .inr ⟨error, .Writer, text, rfl, member, names⟩

/-- Before the main task returns, every task is joined. It returns well exactly when none of those it watches has
panicked; then it was asked to, and the writer has settled everything or was aborted after its time. -/
theorem collector_winds_down (setup : Setup) (now : Nat) (begun : Collector.State)
    (started : Collector.start setup.limits now = .ok begun) (host : Host)
    (reached : Reached (step setup) Any (start setup begun) host) (result : Except Error Unit)
    (returned : host.control = .Returned result) :
    host.connections.len = 0 ∧ host.connections_joined = host.connections_accepted ∧ host.writer = .Joined ∧
      host.summary = .Joined ∧ (host.recommendation = none ∨ host.recommendation = some .Joined) ∧
      host.shutdown_sent = true ∧ host.cleaned = true ∧
      (result = .ok () ↔ host.journal.panics = []) ∧
      (∀ error, result = .error error → ∃ part text, (part, text) ∈ host.journal.panics ∧ tells part text error) ∧
      (result = .ok () → host.requested = true ∧ (host.crashed = false ∧ Settled host.collector ∨
        ∃ since time, host.journal.hung_up = some since ∧ (Part.Writer, time) ∈ host.journal.aborts ∧
          since + WRITER_SHUTDOWN_TIMEOUT ≤ time)) := by
  obtain ⟨supervised, told, watching⟩ := reached_sound started reached
  have late : stage host.control = 9 := by rw [returned]; rfl
  obtain ⟨rfl, cleaned⟩ := told.returned result returned
  have nothing := supervised.emptied (by omega)
  have accounts := supervised.accounts
  obtain ⟨writer, summary, recommendation, results⟩ := results watching (by omega)
  refine ⟨nothing, by omega, writer, summary, recommendation, told.sent.mpr (by omega), cleaned, ?_, ?_, fun well => ?_⟩
  · rcases results with ⟨well, -, calm⟩ | ⟨error, part, text, failed, member, -⟩
    · exact iff_of_true well calm
    · refine iff_of_false (by rw [failed]; simp) fun calm => ?_
      rw [calm] at member
      cases member
  · intro error failed
    rcases results with ⟨well, -⟩ | ⟨other, part, text, failed', member, names⟩
    · rw [well] at failed
      cases failed
    · obtain rfl := Except.error.inj (failed'.symm.trans failed)
      exact ⟨part, text, member, names⟩
  · rcases results with ⟨-, written, calm⟩ | ⟨error, part, text, failed, -⟩
    · refine ⟨?_, ?_⟩
      · rcases watching.cause (by omega) with requested | ⟨part, text, member⟩
        · exact requested
        · rw [calm] at member
          cases member
      · rcases watching.concluded written with ⟨time, aborted⟩ | ⟨alive, finished⟩
        · obtain ⟨since, hung_up, passed⟩ := told.waited time aborted
          exact .inr ⟨since, time, hung_up, aborted, passed⟩
        · exact .inl ⟨alive, returned_settled started supervised.followed finished⟩
    · rw [well] at failed
      cases failed

/-! ### A whole life -/

def tightSetup : Setup :=
  { limits := tightLimits, recommendation_server := some { max_connections := 1, shutdown_drain_timeout_seconds := 5 } }

/-- One connection sends a frame and closes; then the collector is asked to stop. -/
def wholeLife : List Action :=
  [.Main .Proceed, .Main (.Accept 0)] ++ ((wholeRun.drop 1).take 5).map .Work ++
    [.Main .Proceed, .Main .Shutdown, .Main .Proceed, .Main .Proceed, .Main .Proceed, .Main .Proceed] ++
    (wholeRun.drop 7).map .Work ++
    [.Return .Writer, .Main .Proceed, .Return .Summary, .Main .Proceed, .Serve .Proceed, .Serve .Shutdown, .Serve .Proceed,
      .Serve .Proceed, .Return .Recommendation, .Main .Proceed, .Main .Proceed]

/-- The collector after some actions. -/
def life (actions : List Action) : Option Host :=
  (Collector.start tightLimits 0).toOption.bind fun begun => run (step tightSetup) (start tightSetup begun) actions

theorem life_reached {actions : List Action} {host : Host} (ran : life actions = some host) : ∃ begun,
    Collector.start tightSetup.limits 0 = .ok begun ∧ Reached (step tightSetup) Any (start tightSetup begun) host := by
  obtain ⟨begun, started, ran⟩ := Option.bind_eq_some_iff.mp ran
  exact ⟨begun, toOption_started started, run_reaches ran⟩

theorem whole_life_supervised : ∃ begun host, Reached (step tightSetup) Any (start tightSetup begun) host ∧
    host.connections.len = 1 ∧ host.connections_accepted = host.connections_joined + 1 := by
  have outcome : (life (wholeLife.take 4)).map (fun host => host.connections.len) = some 1 := by decide +kernel
  obtain ⟨host, ran, one⟩ := Option.map_eq_some_iff.mp outcome
  obtain ⟨begun, started, reached⟩ := life_reached ran
  obtain ⟨-, -, accounts, -⟩ := collector_supervised tightSetup 0 begun started host reached
  exact ⟨begun, host, reached, one, one ▸ accounts⟩

theorem whole_life_winds_down : ∃ begun host, Reached (step tightSetup) Any (start tightSetup begun) host ∧
    host.control = .Returned (.ok ()) ∧ host.collector.journal.received.length = 1 ∧ Settled host.collector := by
  have outcome : (life wholeLife).map (fun host => (host.control, host.collector.journal.received.length, host.journal.aborts)) =
      some (.Returned (.ok ()), 1, []) := by decide +kernel
  obtain ⟨host, ran, values⟩ := Option.map_eq_some_iff.mp outcome
  obtain ⟨begun, started, reached⟩ := life_reached ran
  obtain ⟨returned, received, aborts⟩ := by simpa only [Prod.mk.injEq] using values
  obtain ⟨-, -, -, -, -, -, -, -, -, well⟩ := collector_winds_down tightSetup 0 begun started host reached (.ok ()) returned
  rcases (well rfl).2 with ⟨-, settled⟩ | ⟨since, time, -, member, -⟩
  · exact ⟨begun, host, reached, returned, received, settled⟩
  · rw [aborts] at member
    cases member

end VectorSeam.Shutdowns
