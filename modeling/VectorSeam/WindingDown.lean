import VectorSeam.Supervision

/-!
What a step of the main task can do, and what each step keeps. Whatever its tasks do, the
collector's connections and writer take the steps of the collector's own model, no more
connections are open than configured, and the stages of the shutdown come in their order.
-/

namespace VectorSeam.WindingDown
open VectorSeam.Tables VectorSeam.Machines VectorSeam.Transitions VectorSeam.Conservation VectorSeam.Supervision
open VectorSeam.Serving (JoinSet Orderly)

/-! ### Stages of the main task -/

/-- How far the main task has come; nothing before a stage happens again once it is entered. -/
def stage : Control → Nat
  | .Loop | .AtLimit | .Accepting | .BackingOff _ => 0
  | .Stopping => 1
  | .Draining _ => 2
  | .Closing _ => 3
  | .Joining => 4
  | .AwaitingWriter _ => 5
  | .AwaitingSummary _ => 6
  | .AwaitingRecommendation _ => 7
  | .CleaningUp => 8
  | .Returned _ => 9

/-- The abort of the part lies behind, if there was one. -/
def may_abort : Part → Control → Bool
  | .Writer, .AwaitingWriter .Aborted => true
  | .Summary, .AwaitingSummary .Aborted => true
  | .Recommendation, .AwaitingRecommendation .Aborted => true
  | .Writer, control => 6 ≤ stage control
  | .Summary, control => 7 ≤ stage control
  | .Recommendation, control => 8 ≤ stage control

/-! ### Tasks that are watched -/

def Panicked (part : Part) (journal : Journal) : Prop := ∃ text, (part, text) ∈ journal.panics
def Aborted (part : Part) (journal : Journal) : Prop := ∃ time, (part, time) ∈ journal.aborts

/-- The errors that tell of a panic. -/
def tells (part : Part) (text : String) (error : Error) : Prop :=
  error = anyhow (part.task_name ++ " task failed: " ++ text) ∨
    error = anyhow (part.task_name ++ " task failed after abort: " ++ text)

/-- A task and its result, as the journal has it. -/
inductive Watch (part : Part) (journal : Journal) {ρ : Type} (output : ρ → Except Error Unit) :
    JoinHandle ρ → Option (Except Error Unit) → Prop where
  | running (aborted : Bool) (sound : ¬Panicked part journal) (told : aborted = true → Aborted part journal) :
      Watch part journal output (.Running aborted) none
  | returned (value : ρ) (sound : ¬Panicked part journal) (well : output value = .ok ()) :
      Watch part journal output (.Over (.ok value)) none
  | cancelled (text : String) (sound : ¬Panicked part journal) (told : Aborted part journal) :
      Watch part journal output (.Over (.error { is_cancelled := true, text })) none
  | panicked (text : String) (member : (part, text) ∈ journal.panics) :
      Watch part journal output (.Over (.error { is_cancelled := false, text })) none
  | joined (sound : ¬Panicked part journal) : Watch part journal output .Joined (some (.ok ()))
  | failed (error : Error) (text : String) (member : (part, text) ∈ journal.panics) (names : tells part text error) :
      Watch part journal output .Joined (some (.error error))

section Watches
variable {part : Part} {journal journal' : Journal} {ρ : Type} {output : ρ → Except Error Unit}
  {task task' : JoinHandle ρ} {result : Option (Except Error Unit)}

/-- A journal that tells the same panics of the part, and at least as many aborts. -/
theorem Watch.mono (watch : Watch part journal output task result)
    (same : ∀ text, (part, text) ∈ journal'.panics ↔ (part, text) ∈ journal.panics)
    (more : Aborted part journal → Aborted part journal') : Watch part journal' output task result := by
  have sound : ¬Panicked part journal → ¬Panicked part journal' := fun sound ⟨text, member⟩ => sound ⟨text, (same text).mp member⟩
  cases watch with
  | running aborted calm told => exact .running aborted (sound calm) fun aborted => more (told aborted)
  | returned value calm well => exact .returned value (sound calm) well
  | cancelled text calm told => exact .cancelled text (sound calm) (more told)
  | panicked text member => exact .panicked text ((same text).mpr member)
  | joined calm => exact .joined (sound calm)
  | failed error text member names => exact .failed error text ((same text).mpr member) names

theorem finish_some {joined : Except JoinError ρ} (finished : task.finish joined = some task') :
    (∃ aborted, task = .Running aborted) ∧ task' = .Over joined := by
  cases task with
  | Running aborted => exact ⟨⟨aborted, rfl⟩, (Option.some.inj finished).symm⟩
  | Over joined => simp [JoinHandle.finish] at finished
  | Joined => simp [JoinHandle.finish] at finished

theorem cancel_some {text : String} (cancelled : task.cancel text = some task') :
    task = .Running true ∧ task' = .Over (.error { is_cancelled := true, text }) := by
  cases task with
  | Running aborted =>
    cases aborted with
    | false => simp [JoinHandle.cancel] at cancelled
    | true => exact ⟨rfl, (Option.some.inj cancelled).symm⟩
  | Over joined => simp [JoinHandle.cancel] at cancelled
  | Joined => simp [JoinHandle.cancel] at cancelled

theorem ended_some {joined : Except JoinError ρ} (ended : task.ended = some joined) : task = .Over joined := by
  cases task with
  | Over joined => exact congrArg _ (Option.some.inj ended)
  | Running aborted => simp [JoinHandle.ended] at ended
  | Joined => simp [JoinHandle.ended] at ended

theorem Watch.returns {value : ρ} (watch : Watch part journal output task result) (well : output value = .ok ())
    (finished : task.finish (.ok value) = some task') : Watch part journal output task' result := by
  obtain ⟨⟨aborted, rfl⟩, rfl⟩ := finish_some finished
  cases watch with
  | running _ sound told => exact .returned value sound well

theorem Watch.panics {text : String} (watch : Watch part journal output task result)
    (finished : task.finish (.error { is_cancelled := false, text }) = some task') (member : (part, text) ∈ journal'.panics) :
    Watch part journal' output task' result := by
  obtain ⟨⟨aborted, rfl⟩, rfl⟩ := finish_some finished
  cases watch with
  | running _ sound told => exact .panicked text member

theorem Watch.cancels {text : String} (watch : Watch part journal output task result)
    (cancelled : task.cancel text = some task') : Watch part journal output task' result := by
  obtain ⟨rfl, rfl⟩ := cancel_some cancelled
  cases watch with
  | running _ sound told => exact .cancelled text sound (told rfl)

/-- What `await_shutdown` makes of a task that is over. -/
def conclusion (output : ρ → Except Error Unit) (task_name : String) : Wait → Except JoinError ρ → Except Error Unit
  | _, .ok value => output value
  | .Within _, .error error => .error (anyhow (task_name ++ " task failed: " ++ error.text))
  | .Aborted, .error error =>
    if error.is_cancelled then .ok () else .error (anyhow (task_name ++ " task failed after abort: " ++ error.text))

/-- A poll of a handle aborts its task when the time is up, or takes its result. -/
theorem await_cases {task_name : String} {elapsed : Nat} {wait : Wait} {next : Wait ⊕ Except Error Unit}
    (awaited : await_shutdown output task_name elapsed wait task = some (task', next)) :
    (∃ deadline aborted, wait = .Within deadline ∧ task = .Running aborted ∧ deadline ≤ elapsed ∧ task' = .Running true ∧
      next = .inl .Aborted) ∨
    ∃ joined, task = .Over joined ∧ task' = .Joined ∧ next = .inr (conclusion output task_name wait joined) := by
  cases task with
  | Joined => cases wait <;> simp [await_shutdown] at awaited
  | Running aborted =>
    cases wait with
    | Aborted => simp [await_shutdown] at awaited
    | Within deadline =>
      obtain ⟨late, awaited⟩ := Option.ite_none_right_eq_some.mp awaited
      obtain ⟨rfl, rfl⟩ := Prod.mk.inj (Option.some.inj awaited)
      exact .inl ⟨deadline, aborted, rfl, rfl, late, rfl, rfl⟩
  | Over joined =>
    refine .inr ⟨joined, rfl, ?_⟩
    cases joined with
    | ok value => cases wait <;> simp_all [await_shutdown, conclusion]
    | error error =>
      cases wait with
      | Within deadline => simp_all [await_shutdown, conclusion]
      | Aborted => by_cases gone : error.is_cancelled <;> simp_all [await_shutdown, conclusion]

/-- A cancelled task is awaited only after it was aborted. -/
theorem Watch.concludes {wait : Wait} {joined : Except JoinError ρ} (watch : Watch part journal output (.Over joined) result)
    (early : ∀ deadline, wait = .Within deadline → ¬Aborted part journal) :
    Watch part journal output .Joined (some (conclusion output part.task_name wait joined)) := by
  cases watch with
  | returned value sound well =>
    have same : conclusion output part.task_name wait (.ok value) = .ok () := by cases wait <;> exact well
    rw [same]
    exact .joined sound
  | cancelled text sound told =>
    cases wait with
    | Within deadline => exact absurd told (early deadline rfl)
    | Aborted => exact .joined sound
  | panicked text member =>
    cases wait with
    | Within deadline => exact .failed _ text member (.inl rfl)
    | Aborted => exact .failed _ text member (.inr rfl)

end Watches

/-! ### Steps of the main task -/

/-- What a step of the main task leaves. -/
inductive Advanced (setup : Setup) (host : Host) : Host → Prop where
  | head (control : Control) (loop : host.control = .Loop) (open_ : stage control = 0)
      (room : control = .Accepting → host.connections.running < setup.limits.max_connections) :
      Advanced setup host { host.reap_finished_connections with control }
  | rejoin (connections : JoinSet) (limit : host.control = .AtLimit) (joined : host.connections.join_next = some connections) :
      Advanced setup host { host with
        connections, control := .Loop
        connections_joined := host.connections_joined + (host.connections.len - connections.len) }
  | requested (watching : stage host.control = 0) : Advanced setup host { host with requested := true, control := .Stopping }
  | writer_ended (joined : Except JoinError (Except Error Unit)) (watching : stage host.control = 0)
      (ended : host.writer = .Over joined) :
      Advanced setup host { host with
        writer := .Joined, writer_result := some (unexpected_task_result joined Part.Writer.task_name), control := .Stopping }
  | recommendation_ended (joined : Except JoinError Unit) (watching : stage host.control = 0)
      (ended : host.recommendation = some (.Over joined)) :
      Advanced setup host { host with
        recommendation := none
        recommendation_result := some (unexpected_unit_task_result joined Part.Recommendation.task_name)
        control := .Stopping }
  | accept (connection : Nat) (collector : Collector.State) (accepting : host.control = .Accepting)
      (spawned : if host.crashed then collector = host.collector
        else Collector.step setup.limits host.collector (.Accept connection) = some collector) :
      Advanced setup host { host with
        collector, connections := host.connections.spawn.reap, control := .Loop
        connections_accepted := host.connections_accepted + 1
        connections_joined := host.connections_joined + host.connections.finished }
  | accept_error (deadline : Nat) (accepting : host.control = .Accepting) :
      Advanced setup host { host with accept_errors := host.accept_errors + 1, control := .BackingOff deadline }
  | retry (deadline : Nat) (backing : host.control = .BackingOff deadline) :
      Advanced setup host { host with control := .Loop }
  | tell (deadline : Nat) (stopping : host.control = .Stopping) :
      Advanced setup host { host with cancelled := setup.recommendation_server.isSome, control := .Draining deadline }
  | drain (connections : JoinSet) (draining : 2 ≤ stage host.control ∧ stage host.control ≤ 4)
      (left : host.connections.len ≠ 0) (joined : host.connections.join_next = some connections) :
      Advanced setup host { host with
        connections, connections_joined := host.connections_joined + (host.connections.len - connections.len) }
  | close (deadline : Nat) (draining : host.control = .Draining deadline) : Advanced setup host host.close
  | closed (deadline : Nat) (closing : host.control = .Closing deadline) :
      Advanced setup host { host with control := .Joining }
  | abort (deadline : Nat) (closing : host.control = .Closing deadline) :
      Advanced setup host { host with connections := host.connections.abort_all, control := .Joining }
  | hang_up (collector : Collector.State) (control : Control) (joining : host.control = .Joining)
      (nothing : host.connections.len = 0)
      (next : control = match host.writer_result with
        | some _ => .AwaitingSummary (.Within (host.elapsed + SUMMARY_SHUTDOWN_TIMEOUT))
        | none => .AwaitingWriter (.Within (host.elapsed + WRITER_SHUTDOWN_TIMEOUT)))
      (dropped : if host.crashed then collector = host.collector
        else Collector.step setup.limits host.collector .HangUp = some collector) :
      Advanced setup host { host with collector, control, journal := { host.journal with hung_up := some host.elapsed } }
  | abort_writer (deadline : Nat) (aborted : Bool) (waiting : host.control = .AwaitingWriter (.Within deadline))
      (running : host.writer = .Running aborted) (late : deadline ≤ host.elapsed) :
      Advanced setup host { host.aborting .Writer with writer := .Running true, control := .AwaitingWriter .Aborted }
  | writer (wait : Wait) (joined : Except JoinError (Except Error Unit)) (deadline : Nat)
      (waiting : host.control = .AwaitingWriter wait) (ended : host.writer = .Over joined) :
      Advanced setup host { host with
        writer := .Joined, writer_result := some (conclusion id Part.Writer.task_name wait joined)
        control := .AwaitingSummary (.Within deadline) }
  | abort_summary (deadline : Nat) (aborted : Bool) (waiting : host.control = .AwaitingSummary (.Within deadline))
      (running : host.summary = .Running aborted) :
      Advanced setup host { host.aborting .Summary with summary := .Running true, control := .AwaitingSummary .Aborted }
  | summary (wait : Wait) (joined : Except JoinError (Except Error Unit))
      (waiting : host.control = .AwaitingSummary wait) (ended : host.summary = .Over joined) :
      Advanced setup host ({ host with
        summary := .Joined, summary_result := some (conclusion id Part.Summary.task_name wait joined) }.await_recommendation setup)
  | abort_recommendation (deadline : Nat) (aborted : Bool)
      (waiting : host.control = .AwaitingRecommendation (.Within deadline)) (running : host.recommendation = some (.Running aborted)) :
      Advanced setup host { host.aborting .Recommendation with
        recommendation := some (.Running true), control := .AwaitingRecommendation .Aborted }
  | recommendation (wait : Wait) (joined : Except JoinError Unit) (waiting : host.control = .AwaitingRecommendation wait)
      (ended : host.recommendation = some (.Over joined)) :
      Advanced setup host { host with
        recommendation := some .Joined
        recommendation_result := some (conclusion .ok Part.Recommendation.task_name wait joined)
        control := .CleaningUp }
  | clean_up (cleaning : host.control = .CleaningUp) :
      Advanced setup host { host with cleaned := true, control := .Returned host.result }

variable {setup : Setup} {begun : Collector.State} {host host' : Host} {choice : Choice}

theorem select_cases (watching : stage host.control = 0) (selected : host.select choice = some host') :
    Advanced setup host host' := by
  cases choice with
  | Shutdown =>
    obtain rfl := Option.some.inj selected
    exact .requested watching
  | Writer =>
    obtain ⟨joined, ended, rfl⟩ := Option.map_eq_some_iff.mp selected
    exact .writer_ended joined watching (ended_some ended)
  | Recommendation =>
    obtain ⟨joined, ended, rfl⟩ := Option.map_eq_some_iff.mp selected
    obtain ⟨task, present, ended⟩ := Option.bind_eq_some_iff.mp ended
    exact .recommendation_ended joined watching (present.trans (congrArg some (ended_some ended)))
  | Proceed => cases selected
  | Join => cases selected
  | Accept connection => cases selected
  | AcceptError => cases selected
  | Elapsed => cases selected

theorem drain_cases {control : Control} (same : host.control = control)
    (draining : 2 ≤ stage control ∧ stage control ≤ 4)
    (joined : (if host.connections.is_empty then none else host.join control) = some host') : Advanced setup host host' := by
  obtain ⟨left, joined⟩ := Option.ite_none_left_eq_some.mp joined
  obtain ⟨connections, next, rfl⟩ := Option.map_eq_some_iff.mp joined
  subst same
  exact .drain connections draining (mt JoinSet.is_empty_iff.mpr left) next

theorem main_cases (advanced : host.main setup choice = some host') : Advanced setup host host' := by
  unfold Host.main at advanced
  split at advanced
  next loop =>
    split at advanced
    · obtain rfl := Option.some.inj advanced
      by_cases full : setup.limits.max_connections ≤ host.connections.running
      · have limited : Advanced setup host { host.reap_finished_connections with control := .AtLimit } :=
          .head .AtLimit loop rfl (by simp)
        simpa [Host.reap_finished_connections, full] using limited
      · have accepting : Advanced setup host { host.reap_finished_connections with control := .Accepting } :=
          .head .Accepting loop rfl fun _ => Nat.not_le.mp full
        simpa [Host.reap_finished_connections, full] using accepting
    · cases advanced
  next limit =>
    split at advanced
    · obtain ⟨connections, joined, rfl⟩ := Option.map_eq_some_iff.mp advanced
      exact .rejoin connections limit joined
    · exact select_cases (by rw [limit]; rfl) advanced
  next accepting =>
    split at advanced
    · rename_i connection
      obtain ⟨spawned, accepted, rfl⟩ := Option.map_eq_some_iff.mp advanced
      simp only [Host.spawn_connection] at accepted
      split at accepted
      · rename_i crashed
        obtain rfl := Option.some.inj accepted
        exact .accept connection host.collector accepting (by rw [if_pos crashed])
      · rename_i alive
        obtain ⟨collector, stepped, rfl⟩ := Option.map_eq_some_iff.mp accepted
        exact .accept connection collector accepting (by rw [if_neg alive]; exact stepped)
    · obtain rfl := Option.some.inj advanced
      exact .accept_error _ accepting
    · exact select_cases (by rw [accepting]; rfl) advanced
  next deadline backing =>
    split at advanced
    · obtain ⟨-, advanced⟩ := Option.ite_none_right_eq_some.mp advanced
      obtain rfl := Option.some.inj advanced
      exact .retry deadline backing
    · cases advanced
  next stopping =>
    split at advanced
    · obtain rfl := Option.some.inj advanced
      exact .tell _ stopping
    · cases advanced
  next deadline draining =>
    split at advanced
    · obtain ⟨-, advanced⟩ := Option.ite_none_right_eq_some.mp advanced
      obtain rfl := Option.some.inj advanced
      exact .close deadline draining
    · exact drain_cases draining (by simp [stage]) advanced
    · obtain ⟨-, advanced⟩ := Option.ite_none_left_eq_some.mp advanced
      obtain rfl := Option.some.inj advanced
      exact .close deadline draining
    · cases advanced
  next deadline closing =>
    split at advanced
    · obtain ⟨-, advanced⟩ := Option.ite_none_right_eq_some.mp advanced
      obtain rfl := Option.some.inj advanced
      exact .closed deadline closing
    · exact drain_cases closing (by simp [stage]) advanced
    · obtain ⟨-, advanced⟩ := Option.ite_none_left_eq_some.mp advanced
      obtain rfl := Option.some.inj advanced
      exact .abort deadline closing
    · cases advanced
  next joining =>
    split at advanced
    · obtain ⟨nothing, advanced⟩ := Option.ite_none_right_eq_some.mp advanced
      simp only [Host.hang_up] at advanced
      split at advanced
      · rename_i crashed
        obtain rfl := Option.some.inj advanced
        exact .hang_up host.collector _ joining (JoinSet.is_empty_iff.mp nothing) rfl (by rw [if_pos crashed])
      · rename_i alive
        obtain ⟨collector, stepped, rfl⟩ := Option.map_eq_some_iff.mp advanced
        exact .hang_up collector _ joining (JoinSet.is_empty_iff.mp nothing) rfl (by rw [if_neg alive]; exact stepped)
    · exact drain_cases joining (by simp [stage]) advanced
    · cases advanced
  next wait waiting =>
    split at advanced
    · obtain ⟨⟨writer, next⟩, awaited, rfl⟩ := Option.map_eq_some_iff.mp advanced
      rcases await_cases awaited with ⟨deadline, aborted, rfl, running, late, rfl, rfl⟩ | ⟨joined, ended, rfl, rfl⟩
      · exact .abort_writer deadline aborted waiting running late
      · exact .writer wait joined _ waiting ended
    · cases advanced
  next wait waiting =>
    split at advanced
    · obtain ⟨⟨summary, next⟩, awaited, rfl⟩ := Option.map_eq_some_iff.mp advanced
      rcases await_cases awaited with ⟨deadline, aborted, rfl, running, late, rfl, rfl⟩ | ⟨joined, ended, rfl, rfl⟩
      · exact .abort_summary deadline aborted waiting running
      · exact .summary wait joined waiting ended
    · cases advanced
  next wait waiting =>
    split at advanced
    · obtain ⟨task, present, advanced⟩ := Option.bind_eq_some_iff.mp advanced
      obtain ⟨⟨task', next⟩, awaited, rfl⟩ := Option.map_eq_some_iff.mp advanced
      rcases await_cases awaited with ⟨deadline, aborted, rfl, rfl, late, rfl, rfl⟩ | ⟨joined, rfl, rfl, rfl⟩
      · exact .abort_recommendation deadline aborted waiting present
      · exact .recommendation wait joined waiting present
    · cases advanced
  next cleaning =>
    split at advanced
    · obtain rfl := Option.some.inj advanced
      exact .clean_up cleaning
    · cases advanced
  next => cases advanced

/-! ### The collector within -/

theorem length_insert {K V : Type} [DecidableEq K] {table : Table K V} {key : K} {value value' : V}
    (found : table.lookup key = some value') : (table.insert key value).entries.length = table.entries.length := by
  have inserted := total_insert (fun _ _ => 1) key value table
  rw [share_eq found, total_one, total_one] at inserted
  omega

theorem length_insert_new {K V : Type} [DecidableEq K] {table : Table K V} {key : K} {value : V}
    (fresh : table.lookup key = none) : (table.insert key value).entries.length = table.entries.length + 1 := by
  have inserted := total_insert (fun _ _ => 1) key value table
  rwa [share_none fresh, total_one, total_one, Nat.add_zero] at inserted

theorem length_erase {K V : Type} [DecidableEq K] {table : Table K V} {key : K} {value : V}
    (found : table.lookup key = some value) : (table.erase key).entries.length + 1 = table.entries.length := by
  have erased := total_erase (fun _ _ => 1) key table
  rwa [share_eq found, total_one, total_one] at erased

/-- What is left to the tasks neither opens a connection nor drops the main task's sender. -/
theorem work_cases {crashed : Bool} {limits : Writer.Limits} {state state' : Collector.State} {action : Collector.Action}
    (own : follows crashed action = true) (taken : Collector.step limits state action = some state') :
    state'.accepting = state.accepting ∧ (state'.connections.entries.length = state.connections.entries.length ∨
      crashed = false ∧ state'.connections.entries.length + 1 = state.connections.entries.length) := by
  cases action with
  | Tick micros clock =>
    obtain rfl := Option.some.inj taken
    exact ⟨rfl, .inl rfl⟩
  | Accept connection => cases own
  | HangUp => cases own
  | Disconnect connection =>
    obtain ⟨reading, taken⟩ := Option.ite_none_right_eq_some.mp taken
    obtain rfl := Option.some.inj taken
    exact ⟨rfl, .inr ⟨by simpa [follows] using own, length_erase reading⟩⟩
  | Stamp connection frame =>
    obtain ⟨reading, taken⟩ := Option.ite_none_right_eq_some.mp taken
    obtain ⟨event, stamped, rfl⟩ := Option.map_eq_some_iff.mp taken
    exact ⟨rfl, .inl (length_insert reading)⟩
  | Turn connection =>
    obtain ⟨pass, here, taken⟩ := Option.bind_eq_some_iff.mp taken
    obtain ⟨⟨shared, dropped, pass'⟩, turned, rfl⟩ := Option.map_eq_some_iff.mp taken
    cases pass' with
    | none => exact ⟨rfl, .inr ⟨by simpa [follows] using own, length_erase here⟩⟩
    | some pass' => exact ⟨rfl, .inl (length_insert here)⟩
  | Write choice =>
    obtain ⟨⟨shared, buffers, journal⟩, written, rfl⟩ := Option.map_eq_some_iff.mp taken
    exact ⟨rfl, .inl rfl⟩

/-- The main task, its connections and the collector's own model go together. -/
structure Supervised (setup : Setup) (begun : Collector.State) (host : Host) : Prop where
  followed : Reached (Collector.step setup.limits) Any begun host.collector
  tasks : host.crashed = false → host.connections.running = host.collector.connections.entries.length
  sender : host.crashed = false → (host.collector.accepting = true ↔ stage host.control ≤ 4)
  limit : host.connections.len ≤ setup.limits.max_connections
  room : host.control = .Accepting → host.connections.len < setup.limits.max_connections
  accounts : host.connections_accepted = host.connections_joined + host.connections.len
  emptied : 5 ≤ stage host.control → host.connections.len = 0

/-- Nothing that the invariant looks at has changed. -/
theorem Supervised.quiet (supervised : Supervised setup begun host)
    (collector : host'.collector = host.collector) (crashed : host'.crashed = host.crashed ∨ host'.crashed = true)
    (connections : host'.connections = host.connections)
    (accepted : host'.connections_accepted = host.connections_accepted)
    (joined : host'.connections_joined = host.connections_joined) (control : host'.control = host.control) :
    Supervised setup begun host' := by
  obtain ⟨followed, tasks, sender, limit, room, accounts, emptied⟩ := supervised
  have alive : host'.crashed = false → host.crashed = false := by
    intro alive
    rcases crashed with same | gone
    · exact same ▸ alive
    · rw [gone] at alive
      cases alive
  refine ⟨collector ▸ followed, fun living => ?_, fun living => ?_, connections ▸ limit, ?_, ?_, ?_⟩
  · rw [connections, collector]
    exact tasks (alive living)
  · rw [collector, control]
    exact sender (alive living)
  · rw [control, connections]
    exact room
  · rw [accepted, joined, connections]
    exact accounts
  · rw [control, connections]
    exact emptied

theorem Supervised.work {action : Collector.Action} (supervised : Supervised setup begun host)
    (own : follows host.crashed action = true) (worked : host.work setup.limits action = some host') :
    Supervised setup begun host' := by
  obtain ⟨collector, stepped, worked⟩ := Option.bind_eq_some_iff.mp worked
  obtain ⟨connections, ended, rfl⟩ := Option.map_eq_some_iff.mp worked
  obtain ⟨accepting, entries⟩ := work_cases own stepped
  have counted : connections.len = host.connections.len ∧ (host.crashed = false →
      connections.running = collector.connections.entries.length) := by
    rcases entries with same | ⟨alive, fewer⟩
    · rw [if_neg (by omega)] at ended
      obtain rfl := Option.some.inj ended
      exact ⟨rfl, fun alive => same ▸ supervised.tasks alive⟩
    · rw [if_pos (by omega)] at ended
      obtain ⟨running, same⟩ := JoinSet.finish_some ended
      have tasks := supervised.tasks alive
      exact ⟨same, fun _ => by omega⟩
  obtain ⟨same, running⟩ := counted
  exact {
    followed := .step action supervised.followed trivial stepped
    tasks := running
    sender := fun alive => by rw [accepting]; exact supervised.sender alive
    limit := same ▸ supervised.limit
    room := fun accepting => same ▸ supervised.room accepting
    accounts := same ▸ supervised.accounts
    emptied := fun late => same ▸ supervised.emptied late }

theorem Supervised.end {connections : JoinSet} (supervised : Supervised setup begun host)
    (crashed : host.crashed = true) (finished : host.connections.finish = some connections) :
    Supervised setup begun { host with connections } := by
  have same := (JoinSet.finish_some finished).2
  exact {
    followed := supervised.followed
    tasks := fun alive => by simp [crashed] at alive
    sender := supervised.sender
    limit := same ▸ supervised.limit
    room := fun accepting => same ▸ supervised.room accepting
    accounts := same ▸ supervised.accounts
    emptied := fun late => same ▸ supervised.emptied late }

/-- An accepted connection is the collector's as long as that is followed. -/
theorem accepted_collector {connection : Nat} {collector : Collector.State}
    (spawned : if host.crashed then collector = host.collector
      else Collector.step setup.limits host.collector (.Accept connection) = some collector)
    (followed : Reached (Collector.step setup.limits) Any begun host.collector) :
    Reached (Collector.step setup.limits) Any begun collector ∧ (host.crashed = false →
      collector.accepting = host.collector.accepting ∧
        collector.connections.entries.length = host.collector.connections.entries.length + 1) := by
  split at spawned
  · rename_i crashed
    exact ⟨spawned ▸ followed, fun alive => by simp [crashed] at alive⟩
  · refine ⟨.step _ followed trivial spawned, fun _ => ?_⟩
    obtain ⟨may, spawned⟩ := Option.ite_none_right_eq_some.mp spawned
    obtain rfl := Option.some.inj spawned
    exact ⟨rfl, length_insert_new (Option.isNone_iff_eq_none.mp may.2.1)⟩

theorem dropped_collector {collector : Collector.State}
    (dropped : if host.crashed then collector = host.collector
      else Collector.step setup.limits host.collector .HangUp = some collector)
    (followed : Reached (Collector.step setup.limits) Any begun host.collector) :
    Reached (Collector.step setup.limits) Any begun collector ∧ (host.crashed = false →
      collector.accepting = false ∧ collector.connections = host.collector.connections) := by
  split at dropped
  · rename_i crashed
    exact ⟨dropped ▸ followed, fun alive => by simp [crashed] at alive⟩
  · refine ⟨.step _ followed trivial dropped, fun _ => ?_⟩
    obtain ⟨-, dropped⟩ := Option.ite_none_right_eq_some.mp dropped
    obtain rfl := Option.some.inj dropped
    exact ⟨rfl, rfl⟩

theorem await_recommendation_same (setup : Setup) (host : Host) :
    (host.await_recommendation setup).collector = host.collector ∧ (host.await_recommendation setup).crashed = host.crashed ∧
      (host.await_recommendation setup).connections = host.connections ∧
      (host.await_recommendation setup).connections_accepted = host.connections_accepted ∧
      (host.await_recommendation setup).connections_joined = host.connections_joined ∧
      7 ≤ stage (host.await_recommendation setup).control ∧ stage (host.await_recommendation setup).control ≤ 8 := by
  unfold Host.await_recommendation
  split <;> simp [stage]

theorem await_recommendation_told (setup : Setup) (host : Host) :
    (host.await_recommendation setup).journal = host.journal ∧
      (host.await_recommendation setup).shutdown_sent = host.shutdown_sent ∧
      (host.await_recommendation setup).cancelled = host.cancelled ∧
      (host.await_recommendation setup).server = host.server ∧
      ((host.await_recommendation setup).control = .CleaningUp ∨
        ∃ deadline, (host.await_recommendation setup).control = .AwaitingRecommendation (.Within deadline)) := by
  unfold Host.await_recommendation
  split <;> simp

/-- Only the place of the main task has changed, and no stage before the drain was skipped. -/
theorem Supervised.move (supervised : Supervised setup begun host) (collector : host'.collector = host.collector)
    (crashed : host'.crashed = host.crashed) (connections : host'.connections.running = host.connections.running ∧
      host'.connections.len = host.connections.len)
    (accepted : host'.connections_accepted = host.connections_accepted)
    (joined : host'.connections_joined = host.connections_joined) (waits : host'.control ≠ .Accepting)
    (side : stage host'.control ≤ 4 ↔ stage host.control ≤ 4) : Supervised setup begun host' := by
  obtain ⟨followed, tasks, sender, limit, room, accounts, emptied⟩ := supervised
  refine ⟨collector ▸ followed, fun alive => ?_, fun alive => ?_, ?_, fun accepting => absurd accepting waits, ?_, fun late => ?_⟩
  · rw [connections.1, collector]
    exact tasks (crashed ▸ alive)
  · rw [collector, side]
    exact sender (crashed ▸ alive)
  · rw [connections.2]
    exact limit
  · rw [accepted, joined, connections.2]
    exact accounts
  · rw [connections.2]
    exact emptied (by omega)

theorem Supervised.main (supervised : Supervised setup begun host) (advanced : Advanced setup host host') :
    Supervised setup begun host' := by
  have ⟨followed, tasks, sender, limit, room, accounts, emptied⟩ := supervised
  cases advanced with
  | head control loop open_ free =>
    refine ⟨followed, tasks, fun alive => ?_, ?_, fun accepting => free accepting, ?_, fun late => ?_⟩
    · have before := sender alive
      rw [loop] at before
      exact before.trans (iff_of_true (Nat.zero_le _) (by rw [open_]; exact Nat.zero_le _))
    · exact (Nat.le_add_right _ _).trans limit
    · simp only [Host.reap_finished_connections, JoinSet.len_reap]
      simp only [JoinSet.len] at accounts
      omega
    · simp [open_] at late
  | rejoin connections full joined =>
    obtain ⟨running, fewer, -⟩ := JoinSet.join_next_some joined
    refine ⟨followed, fun alive => running.trans (tasks alive), fun alive => ?_, fewer.trans limit, by simp, ?_, by simp [stage]⟩
    · simpa [full, stage] using sender alive
    · dsimp only
      omega
  | requested watching => exact supervised.move rfl rfl ⟨rfl, rfl⟩ rfl rfl (by simp) (by rw [watching]; simp [stage])
  | writer_ended joined watching ended =>
    exact supervised.move rfl rfl ⟨rfl, rfl⟩ rfl rfl (by simp) (by rw [watching]; simp [stage])
  | recommendation_ended joined watching ended =>
    exact supervised.move rfl rfl ⟨rfl, rfl⟩ rfl rfl (by simp) (by rw [watching]; simp [stage])
  | accept connection collector accepting spawned =>
    obtain ⟨followed, grown⟩ := accepted_collector spawned followed
    have free := room accepting
    have more : host.connections.len = host.connections.running + host.connections.finished := rfl
    refine ⟨followed, fun alive => ?_, fun alive => ?_, ?_, by simp, ?_, by simp [stage]⟩
    · obtain ⟨-, longer⟩ := grown alive
      exact (congrArg (· + 1) (tasks alive)).trans longer.symm
    · rw [(grown alive).1]
      simpa [accepting, stage] using sender alive
    · simp only [JoinSet.len_reap, JoinSet.spawn]
      omega
    · simp only [JoinSet.len_reap, JoinSet.spawn]
      omega
  | accept_error deadline accepting => exact supervised.move rfl rfl ⟨rfl, rfl⟩ rfl rfl (by simp) (by simp [accepting, stage])
  | retry deadline backing => exact supervised.move rfl rfl ⟨rfl, rfl⟩ rfl rfl (by simp) (by simp [backing, stage])
  | tell deadline stopping => exact supervised.move rfl rfl ⟨rfl, rfl⟩ rfl rfl (by simp) (by simp [stopping, stage])
  | drain connections draining left joined =>
    obtain ⟨running, fewer, -⟩ := JoinSet.join_next_some joined
    refine ⟨followed, fun alive => running.trans (tasks alive), sender, fewer.trans limit, fun accepting => ?_, ?_, fun late => ?_⟩
    · rw [show host.control = .Accepting from accepting] at draining
      exact absurd draining.1 (by decide)
    · dsimp only
      omega
    · dsimp only at late
      omega
  | close deadline draining =>
    exact supervised.move rfl rfl ⟨rfl, rfl⟩ rfl rfl (by simp [Host.close]) (by simp [Host.close, draining, stage])
  | closed deadline closing => exact supervised.move rfl rfl ⟨rfl, rfl⟩ rfl rfl (by simp) (by simp [closing, stage])
  | abort deadline closing => exact supervised.move rfl rfl ⟨rfl, rfl⟩ rfl rfl (by simp) (by simp [closing, stage])
  | hang_up collector control joining nothing next dropped =>
    obtain ⟨followed, gone⟩ := dropped_collector dropped followed
    have past : 5 ≤ stage control := by
      rw [next]
      split <;> simp [stage]
    refine ⟨followed, fun alive => ?_, fun alive => ?_, limit, fun accepting => ?_, accounts, fun _ => nothing⟩
    · rw [(gone alive).2]
      exact tasks alive
    · simp only [(gone alive).1]
      exact iff_of_false (by simp) (by omega)
    · rw [show control = .Accepting from accepting] at past
      exact absurd past (by decide)
  | abort_writer deadline aborted waiting running late =>
    exact supervised.move rfl rfl ⟨rfl, rfl⟩ rfl rfl (by simp) (by simp [waiting, stage])
  | writer wait joined deadline waiting ended =>
    exact supervised.move rfl rfl ⟨rfl, rfl⟩ rfl rfl (by simp) (by simp [waiting, stage])
  | abort_summary deadline aborted waiting running =>
    exact supervised.move rfl rfl ⟨rfl, rfl⟩ rfl rfl (by simp) (by simp [waiting, stage])
  | summary wait joined waiting ended =>
    obtain ⟨collector, crashed, connections, accepted, joined, late, -⟩ := await_recommendation_same setup
      { host with summary := .Joined, summary_result := some (conclusion id Part.Summary.task_name wait joined) }
    refine supervised.move collector crashed ⟨congrArg _ connections, congrArg _ connections⟩ accepted joined ?_ ?_
    · intro accepting
      simp [accepting, stage] at late
    · have before : stage host.control = 6 := by rw [waiting]; rfl
      omega
  | abort_recommendation deadline aborted waiting running =>
    exact supervised.move rfl rfl ⟨rfl, rfl⟩ rfl rfl (by simp) (by simp [waiting, stage])
  | recommendation wait joined waiting ended =>
    exact supervised.move rfl rfl ⟨rfl, rfl⟩ rfl rfl (by simp) (by simp [waiting, stage])
  | clean_up cleaning => exact supervised.move rfl rfl ⟨rfl, rfl⟩ rfl rfl (by simp) (by simp [cleaning, stage])

theorem start_supervised {now : Nat} (started : Collector.start setup.limits now = .ok begun) :
    Supervised setup begun (start setup begun) := by
  have accepting : begun.accepting = true := by
    obtain ⟨window_start, aligned, started⟩ := Results.bind_ok.mp started
    obtain rfl := Except.ok.inj started
    rfl
  obtain ⟨connections, -⟩ := start_ok started
  refine ⟨.start, fun _ => ?_, fun _ => ?_, Nat.zero_le _, by simp [start], rfl, by simp [start, stage]⟩
  · simp only [start, connections]
    rfl
  · simp [start, accepting, stage]

/-! ### What the main task has told -/

structure Told (setup : Setup) (host : Host) : Prop where
  sent : host.shutdown_sent = true ↔ 3 ≤ stage host.control
  token : host.cancelled = (decide (2 ≤ stage host.control) && setup.recommendation_server.isSome)
  server : ∀ config, setup.recommendation_server = some config → Orderly config host.cancelled host.server
  returned : ∀ result, host.control = .Returned result → result = host.result ∧ host.cleaned = true
  aborts : ∀ part time, (part, time) ∈ host.journal.aborts → may_abort part host.control = true
  hung_up : host.journal.hung_up.isSome ↔ 5 ≤ stage host.control
  /-- The writer is given its time from the moment its last sender is gone. -/
  waits : ∀ deadline, host.control = .AwaitingWriter (.Within deadline) →
    ∃ since, host.journal.hung_up = some since ∧ deadline = since + WRITER_SHUTDOWN_TIMEOUT
  waited : ∀ time, (Part.Writer, time) ∈ host.journal.aborts →
    ∃ since, host.journal.hung_up = some since ∧ since + WRITER_SHUTDOWN_TIMEOUT ≤ time

/-- What the invariant reads besides the place of the main task and the server. -/
def told_view (host : Host) : List (Part × Nat) × Option Nat × Bool × Bool × Bool × Except Error Unit :=
  (host.journal.aborts, host.journal.hung_up, host.shutdown_sent, host.cancelled, host.cleaned, host.result)

/-- The tasks leave the main task where it is. -/
theorem Told.quiet (told : Told setup host) (same : told_view host' = told_view host) (control : host'.control = host.control)
    (server : ∀ config, setup.recommendation_server = some config → Orderly config host'.cancelled host'.server) :
    Told setup host' := by
  simp only [told_view, Prod.mk.injEq] at same
  obtain ⟨aborts, hung_up, sent, cancelled, cleaned, result⟩ := same
  constructor
  · rw [sent, control]
    exact told.sent
  · rw [cancelled, control]
    exact told.token
  · exact server
  · rw [control, result, cleaned]
    exact told.returned
  · rw [aborts, control]
    exact told.aborts
  · rw [control, hung_up]
    exact told.hung_up
  · rw [control, hung_up]
    exact told.waits
  · rw [aborts, hung_up]
    exact told.waited

/-- The main task goes on between two stages at which nothing is told. -/
theorem Told.move (told : Told setup host) (aborts : host'.journal = host.journal) (sent : host'.shutdown_sent = host.shutdown_sent)
    (cancelled : host'.cancelled = host.cancelled) (server : host'.server = host.server)
    (sends : 3 ≤ stage host'.control ↔ 3 ≤ stage host.control) (tells : 2 ≤ stage host'.control ↔ 2 ≤ stage host.control)
    (stays : ∀ result, host'.control ≠ .Returned result)
    (later : ∀ part, may_abort part host.control = true → may_abort part host'.control = true)
    (hangs : 5 ≤ stage host'.control ↔ 5 ≤ stage host.control)
    (waits : ∀ deadline, host'.control ≠ .AwaitingWriter (.Within deadline)) : Told setup host' where
  sent := by
    rw [sent, sends]
    exact told.sent
  token := by
    rw [cancelled, told.token]
    congr 1
    exact decide_eq_decide.mpr tells.symm
  server := by
    rw [cancelled, server]
    exact told.server
  returned result returned := absurd returned (stays result)
  aborts part time member := later part (told.aborts part time (aborts ▸ member))
  hung_up := by
    rw [aborts, hangs]
    exact told.hung_up
  waits deadline waiting := absurd waiting (waits deadline)
  waited := by
    rw [aborts]
    exact told.waited

theorem may_abort_early {part : Part} {control : Control} (early : stage control ≤ 4) : may_abort part control = false := by
  cases control <;> simp [stage] at early <;> cases part <;> simp [may_abort, stage]

/-- Nothing is told before the drain, and nothing awaited before it is over. -/
theorem Told.early (told : Told setup host) (journal : host'.journal = host.journal) (sent : host'.shutdown_sent = host.shutdown_sent)
    (cancelled : host'.cancelled = host.cancelled) (server : host'.server = host.server) (before : stage host.control ≤ 4)
    (after : stage host'.control ≤ 4) (sends : 3 ≤ stage host'.control ↔ 3 ≤ stage host.control)
    (tells : 2 ≤ stage host'.control ↔ 2 ≤ stage host.control) : Told setup host' := by
  refine told.move journal sent cancelled server sends tells (fun result returned => ?_) (fun part aborted => ?_)
    (iff_of_false (by omega) (by omega)) fun deadline waiting => ?_
  · rw [returned] at after
    exact absurd after (by simp [stage])
  · rw [may_abort_early before] at aborted
    cases aborted
  · rw [waiting] at after
    exact absurd after (by simp [stage])

theorem no_aborts (told : Told setup host) (early : stage host.control ≤ 4) {part : Part} {time : Nat}
    (member : (part, time) ∈ host.journal.aborts) : False := by
  have after := told.aborts part time member
  rw [may_abort_early early] at after
  cases after

theorem Told.main (told : Told setup host) (advanced : Advanced setup host host') : Told setup host' := by
  cases advanced with
  | head control loop open_ room =>
    have began : stage host.control = 0 := by
      rw [loop]
      rfl
    exact told.early rfl rfl rfl rfl (by omega) (by simp [open_]) (by simp [open_, began]) (by simp [open_, began])
  | rejoin connections limit joined =>
    exact told.early rfl rfl rfl rfl (by simp [limit, stage]) (by simp [stage]) (by simp [limit, stage]) (by simp [limit, stage])
  | requested watching =>
    exact told.early rfl rfl rfl rfl (by omega) (by simp [stage]) (by rw [watching]; simp [stage]) (by rw [watching]; simp [stage])
  | writer_ended joined watching ended =>
    exact told.early rfl rfl rfl rfl (by omega) (by simp [stage]) (by rw [watching]; simp [stage]) (by rw [watching]; simp [stage])
  | recommendation_ended joined watching ended =>
    exact told.early rfl rfl rfl rfl (by omega) (by simp [stage]) (by rw [watching]; simp [stage]) (by rw [watching]; simp [stage])
  | accept connection collector accepting spawned =>
    exact told.early rfl rfl rfl rfl (by simp [accepting, stage]) (by simp [stage]) (by simp [accepting, stage])
      (by simp [accepting, stage])
  | accept_error deadline accepting =>
    exact told.early rfl rfl rfl rfl (by simp [accepting, stage]) (by simp [stage]) (by simp [accepting, stage])
      (by simp [accepting, stage])
  | retry deadline backing =>
    exact told.early rfl rfl rfl rfl (by simp [backing, stage]) (by simp [stage]) (by simp [backing, stage])
      (by simp [backing, stage])
  | tell deadline stopping =>
    have untold : host.cancelled = false := by simp [told.token, stopping, stage]
    have unsent : ¬host.shutdown_sent = true := by simp [told.sent, stopping, stage]
    exact {
      sent := by simp [unsent, stage]
      token := by simp [stage]
      server := fun config enabled => (told.server config enabled).cancel fun cancelled => by simp [untold] at cancelled
      returned := by simp
      aborts := fun part time member => (no_aborts told (by simp [stopping, stage]) member).elim
      hung_up := by simpa [stopping, stage] using told.hung_up
      waits := by simp
      waited := told.waited }
  | drain connections draining left joined =>
    exact told.early rfl rfl rfl rfl draining.2 draining.2 Iff.rfl Iff.rfl
  | close deadline draining =>
    exact {
      sent := by simp [Host.close, stage]
      token := by simpa [Host.close, draining, stage] using told.token
      server := told.server
      returned := by simp [Host.close]
      aborts := fun part time member => (no_aborts told (by simp [draining, stage]) member).elim
      hung_up := by simpa [Host.close, draining, stage] using told.hung_up
      waits := by simp [Host.close]
      waited := told.waited }
  | closed deadline closing =>
    exact told.early rfl rfl rfl rfl (by simp [closing, stage]) (by simp [stage]) (by simp [closing, stage]) (by simp [closing, stage])
  | abort deadline closing =>
    exact told.early rfl rfl rfl rfl (by simp [closing, stage]) (by simp [stage]) (by simp [closing, stage]) (by simp [closing, stage])
  | hang_up collector control joining nothing next dropped =>
    have past : 5 ≤ stage control := by
      rw [next]
      split <;> simp [stage]
    have early : ∀ part time, (part, time) ∉ host.journal.aborts := fun part time member =>
      no_aborts told (by simp [joining, stage]) member
    exact {
      sent := by
        have sent := told.sent.mpr (by simp [joining, stage])
        exact iff_of_true sent (by dsimp only; omega)
      token := by
        have token := told.token
        simp only [joining, stage, Nat.reduceLeDiff, decide_true, Bool.true_and] at token
        simp only [token, show 2 ≤ stage control by omega, decide_true, Bool.true_and]
      server := told.server
      returned := fun result returned => by
        dsimp only at returned
        rw [next] at returned
        split at returned <;> cases returned
      aborts := fun part time member => absurd member (early part time)
      hung_up := iff_of_true rfl past
      waits := fun deadline waiting => by
        dsimp only at waiting
        rw [next] at waiting
        split at waiting
        · cases waiting
        · exact ⟨_, rfl, (Wait.Within.inj (Control.AwaitingWriter.inj waiting)).symm⟩
      waited := fun time member => absurd member (early _ time) }
  | abort_writer deadline aborted waiting running late =>
    obtain ⟨since, hung, same⟩ := told.waits deadline waiting
    exact {
      sent := by simpa [Host.aborting, waiting, stage] using told.sent
      token := by simpa [Host.aborting, waiting, stage] using told.token
      server := told.server
      returned := by simp
      aborts := fun part time member => by
        rcases List.mem_append.mp member with before | new
        · have after := told.aborts part time before
          rw [waiting] at after
          cases part <;> simp [may_abort, stage] at after
        · obtain ⟨rfl, -⟩ := Prod.mk.inj (List.mem_singleton.mp new)
          rfl
      hung_up := by simp [Host.aborting, hung, stage]
      waits := by simp
      waited := fun time member => by
        rcases List.mem_append.mp member with before | new
        · exact told.waited time before
        · obtain ⟨-, rfl⟩ := Prod.mk.inj (List.mem_singleton.mp new)
          exact ⟨since, hung, same ▸ late⟩ }
  | writer wait joined deadline waiting ended =>
    refine told.move rfl rfl rfl rfl (by simp [waiting, stage]) (by simp [waiting, stage]) (by simp) (fun part aborted => ?_)
      (by simp [waiting, stage]) (by simp)
    cases part <;> simp_all [may_abort, stage]
  | abort_summary deadline aborted waiting running =>
    have hung := told.hung_up.mpr (by simp [waiting, stage])
    exact {
      sent := by simpa [Host.aborting, waiting, stage] using told.sent
      token := by simpa [Host.aborting, waiting, stage] using told.token
      server := told.server
      returned := by simp
      aborts := fun part time member => by
        rcases List.mem_append.mp member with before | new
        · have after := told.aborts part time before
          rw [waiting] at after
          cases part <;> simp_all [may_abort, stage]
        · obtain ⟨rfl, -⟩ := Prod.mk.inj (List.mem_singleton.mp new)
          rfl
      hung_up := iff_of_true hung (by simp [stage])
      waits := by simp
      waited := fun time member => by
        rcases List.mem_append.mp member with before | new
        · exact told.waited time before
        · cases (Prod.mk.inj (List.mem_singleton.mp new)).1 }
  | summary wait joined waiting ended =>
    obtain ⟨journal, sent, cancelled, server, control⟩ := await_recommendation_told setup
      { host with summary := .Joined, summary_result := some (conclusion id Part.Summary.task_name wait joined) }
    refine told.move journal sent cancelled server ?_ ?_ ?_ (fun part aborted => ?_) ?_ ?_
    all_goals rcases control with control | ⟨deadline, control⟩ <;> simp_all [stage]
    all_goals cases part <;> simp_all [may_abort, stage]
  | abort_recommendation deadline aborted waiting running =>
    have hung := told.hung_up.mpr (by simp [waiting, stage])
    exact {
      sent := by simpa [Host.aborting, waiting, stage] using told.sent
      token := by simpa [Host.aborting, waiting, stage] using told.token
      server := told.server
      returned := by simp
      aborts := fun part time member => by
        rcases List.mem_append.mp member with before | new
        · have after := told.aborts part time before
          rw [waiting] at after
          cases part <;> simp_all [may_abort, stage]
        · obtain ⟨rfl, -⟩ := Prod.mk.inj (List.mem_singleton.mp new)
          rfl
      hung_up := iff_of_true hung (by simp [stage])
      waits := by simp
      waited := fun time member => by
        rcases List.mem_append.mp member with before | new
        · exact told.waited time before
        · cases (Prod.mk.inj (List.mem_singleton.mp new)).1 }
  | recommendation wait joined waiting ended =>
    refine told.move rfl rfl rfl rfl (by simp [waiting, stage]) (by simp [waiting, stage]) (by simp) (fun part aborted => ?_)
      (by simp [waiting, stage]) (by simp)
    cases part <;> simp_all [may_abort, stage]
  | clean_up cleaning =>
    exact {
      sent := by simpa [cleaning, stage] using told.sent
      token := by simpa [cleaning, stage] using told.token
      server := told.server
      returned := fun result returned => ⟨(Control.Returned.inj returned).symm, rfl⟩
      aborts := fun part time member => by cases part <;> rfl
      hung_up := iff_of_true (told.hung_up.mpr (by simp [cleaning, stage])) (by simp [stage])
      waits := by simp
      waited := told.waited }

end VectorSeam.WindingDown
