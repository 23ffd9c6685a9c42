import VectorSeam.Shutdowns

/-!
The end is always within reach. Once the main task has left its loop, it takes no more steps
than a fixed number and one for each connection; and from every state of the collector, some
run brings it to return: no await of the shutdown waits for something that cannot come.
-/

namespace VectorSeam.Completion
open VectorSeam.Tables VectorSeam.Machines VectorSeam.Collector VectorSeam.Conservation VectorSeam.WindingDown VectorSeam.Shutdowns
open VectorSeam.Serving (JoinSet)
open VectorSeam.Supervision hiding step start Control Choice Action Journal

variable {setup : Setup} {begun : Collector.State} {host host' : Host}

/-! ### Steps that are left -/

/-- The steps from a place on, without the joins. -/
def weight : Supervision.Control → Nat
  | .Returned _ => 0
  | .CleaningUp => 1
  | .AwaitingRecommendation .Aborted => 2
  | .AwaitingRecommendation (.Within _) => 3
  | .AwaitingSummary .Aborted => 4
  | .AwaitingSummary (.Within _) => 5
  | .AwaitingWriter .Aborted => 6
  | .AwaitingWriter (.Within _) => 7
  | .Joining => 8
  | .Closing _ => 9
  | .Draining _ => 10
  | .Stopping => 11
  | .Loop | .AtLimit | .Accepting | .BackingOff _ => 12

/-- The steps of the main task that are left, once it has left its loop. -/
def remaining (host : Host) : Nat := weight host.control + host.connections.len

/-- The main task comes closer to its end with each step. -/
theorem main_lowers (advanced : Advanced setup host host') (left : 1 ≤ stage host.control) :
    1 ≤ stage host'.control ∧ remaining host' < remaining host := by
  cases advanced with
  | head control loop => simp [loop, stage] at left
  | rejoin connections limit => simp [limit, stage] at left
  | requested early => omega
  | writer_ended joined early => omega
  | recommendation_ended joined early => omega
  | accept connection collector accepting => simp [accepting, stage] at left
  | accept_error deadline accepting => simp [accepting, stage] at left
  | retry deadline backing => simp [backing, stage] at left
  | tell deadline stopping => simp [remaining, stopping, weight, stage]
  | drain connections draining some_left joined =>
    have fewer := (JoinSet.join_next_some joined).2.2 some_left
    refine ⟨left, ?_⟩
    simp only [remaining]
    omega
  | close deadline draining => simp [remaining, Host.close, draining, weight, stage]
  | closed deadline closing => simp [remaining, closing, weight, stage]
  | abort deadline closing => simp [remaining, closing, weight, stage]
  | hang_up collector control joining nothing next dropped =>
    subst next
    cases host.writer_result <;> simp [remaining, joining, weight, stage]
  | abort_writer deadline aborted waiting running late => simp [remaining, Host.aborting, waiting, weight, stage]
  | writer wait joined deadline waiting ended => cases wait <;> simp [remaining, waiting, weight, stage]
  | abort_summary deadline aborted waiting running => simp [remaining, Host.aborting, waiting, weight, stage]
  | summary wait joined waiting ended =>
    unfold Host.await_recommendation
    split <;> cases wait <;> simp [remaining, waiting, weight, stage]
  | abort_recommendation deadline aborted waiting running => simp [remaining, Host.aborting, waiting, weight, stage]
  | recommendation wait joined waiting ended => cases wait <;> simp [remaining, waiting, weight, stage]
  | clean_up cleaning => simp [remaining, cleaning, weight, stage]

/-- The tasks leave the main task where it is, and no connection is joined or added behind its back. -/
theorem tasks_keep {action : Supervision.Action} (taken : Supervision.step setup host action = some host')
    (own : ∀ choice, action ≠ .Main choice) : host'.control = host.control ∧ host'.connections.len = host.connections.len := by
  cases action with
  | Main choice => exact absurd rfl (own choice)
  | Work action =>
    obtain ⟨-, worked⟩ := Option.ite_none_right_eq_some.mp taken
    obtain ⟨collector, stepped, worked⟩ := Option.bind_eq_some_iff.mp worked
    obtain ⟨connections, ended, rfl⟩ := Option.map_eq_some_iff.mp worked
    refine ⟨rfl, ?_⟩
    split at ended
    · exact (JoinSet.finish_some ended).2
    · rw [← Option.some.inj ended]
  | End =>
    obtain ⟨-, ended⟩ := Option.ite_none_right_eq_some.mp taken
    obtain ⟨connections, finished, rfl⟩ := Option.map_eq_some_iff.mp ended
    exact ⟨rfl, (JoinSet.finish_some finished).2⟩
  | Serve action =>
    simp only [Supervision.step, Host.serves] at taken
    split at taken
    · obtain ⟨server, served, rfl⟩ := Option.map_eq_some_iff.mp taken
      exact ⟨rfl, rfl⟩
    · cases taken
  | Return part =>
    simp only [Supervision.step, Host.returns] at taken
    cases part
    all_goals
      obtain ⟨-, taken⟩ := Option.ite_none_right_eq_some.mp taken
      obtain ⟨task, finished, rfl⟩ := Option.map_eq_some_iff.mp taken
      exact ⟨rfl, rfl⟩
  | Panic part text =>
    simp only [Supervision.step, Host.panics] at taken
    cases part
    all_goals
      obtain ⟨task, finished, rfl⟩ := Option.map_eq_some_iff.mp taken
      exact ⟨rfl, rfl⟩
  | Cancel part text =>
    simp only [Supervision.step, Host.cancels] at taken
    cases part
    all_goals
      obtain ⟨task, finished, rfl⟩ := Option.map_eq_some_iff.mp taken
      exact ⟨rfl, rfl⟩

def is_main : Supervision.Action → Bool
  | .Main _ => true
  | _ => false

theorem step_lowers {action : Supervision.Action} (left : 1 ≤ stage host.control)
    (taken : Supervision.step setup host action = some host') :
    1 ≤ stage host'.control ∧ remaining host' + (if is_main action then 1 else 0) ≤ remaining host := by
  cases action with
  | Main choice =>
    obtain ⟨still, less⟩ := main_lowers (main_cases taken) left
    exact ⟨still, less⟩
  | _ =>
    obtain ⟨control, len⟩ := tasks_keep taken (by simp)
    rw [remaining, remaining, control, len]
    exact ⟨left, le_rfl⟩

/-- Once it has left its loop, the main task takes at most eleven steps, and one for each connection it still has. -/
theorem shutdown_bounded (setup : Setup) (now : Nat) (begun : Collector.State)
    (started : Collector.start setup.limits now = .ok begun) (host host' : Host)
    (reached : Reached (Supervision.step setup) Any (Supervision.start setup begun) host) (left : 1 ≤ stage host.control)
    (actions : List Supervision.Action) (ran : run (Supervision.step setup) host actions = some host') :
    actions.countP is_main ≤ 11 + host.connections.len ∧ actions.countP is_main ≤ 11 + setup.limits.max_connections := by
  have bounded : actions.countP is_main + remaining host' ≤ remaining host :=
    run_bounded (fun _ _ _ held taken => step_lowers held taken) left ran
  have limit := (reached_sound started reached).supervised.limit
  have begins : weight host.control ≤ 11 := by
    cases control : host.control with
    | AwaitingWriter wait => cases wait <;> simp [weight]
    | AwaitingSummary wait => cases wait <;> simp [weight]
    | AwaitingRecommendation wait => cases wait <;> simp [weight]
    | _ => simp_all [weight, stage]
  simp only [remaining] at bounded
  omega

/-- The shutdown of a whole life. -/
theorem whole_life_bounded : ∃ host host', 1 ≤ stage host.control ∧
    run (Supervision.step tightSetup) host (wholeLife.drop 9) = some host' ∧ (wholeLife.drop 9).countP is_main ≤ 12 := by
  have outcome : (life (wholeLife.take 9)).map (fun host =>
      (stage host.control, (run (Supervision.step tightSetup) host (wholeLife.drop 9)).isSome)) = some (1, true) := by
    decide +kernel
  obtain ⟨host, ran, values⟩ := Option.map_eq_some_iff.mp outcome
  obtain ⟨left, further⟩ := Prod.mk.inj values
  obtain ⟨host', further⟩ := Option.isSome_iff_exists.mp further
  obtain ⟨begun, started, reached⟩ := life_reached ran
  exact ⟨host, host', left.ge, further,
    (shutdown_bounded tightSetup 0 begun started host host' reached left.ge (wholeLife.drop 9) further).2⟩

/-! ### What is awaited -/

/-- The task has not been aborted, and still runs. -/
def Unaborted {ρ : Type} (task : JoinHandle ρ) : Prop := task = .Running false

/-- A handle is awaited only before it was joined, and without a deadline only after an abort. -/
structure Awaiting (host : Host) : Prop where
  writer : ∀ wait, host.control = .AwaitingWriter wait → host.writer_result = none ∧ (wait = .Aborted → ¬Unaborted host.writer)
  summary : stage host.control ≤ 6 → host.summary_result = none
  summary_aborted : host.control = .AwaitingSummary .Aborted → ¬Unaborted host.summary
  recommendation : ∀ wait, host.control = .AwaitingRecommendation wait → host.recommendation_result = none ∧
    ∃ task, host.recommendation = some task ∧ (wait = .Aborted → ¬Unaborted task)

/-- A step of a task starts nothing again. -/
theorem Awaiting.quiet (awaiting : Awaiting host) (control : host'.control = host.control)
    (writer_result : host'.writer_result = host.writer_result) (summary_result : host'.summary_result = host.summary_result)
    (recommendation_result : host'.recommendation_result = host.recommendation_result)
    (writer : Unaborted host'.writer → Unaborted host.writer) (summary : Unaborted host'.summary → Unaborted host.summary)
    (recommendation : ∀ task, host.recommendation = some task → ∃ task', host'.recommendation = some task' ∧
      (Unaborted task' → Unaborted task)) : Awaiting host' where
  writer wait waiting := by
    rw [control] at waiting
    obtain ⟨missing, aborted⟩ := awaiting.writer wait waiting
    exact ⟨writer_result.trans missing, fun same => mt writer (aborted same)⟩
  summary early := by
    rw [control] at early
    exact summary_result.trans (awaiting.summary early)
  summary_aborted waiting := by
    rw [control] at waiting
    exact mt summary (awaiting.summary_aborted waiting)
  recommendation wait waiting := by
    rw [control] at waiting
    obtain ⟨missing, task, present, aborted⟩ := awaiting.recommendation wait waiting
    obtain ⟨task', present', running⟩ := recommendation task present
    exact ⟨recommendation_result.trans missing, task', present', fun same => mt running (aborted same)⟩

/-- Nothing is awaited yet. -/
theorem awaiting_early (early : stage host.control ≤ 4) (missing : host.summary_result = none) : Awaiting host where
  writer wait waiting := by simp [waiting, stage] at early
  summary _ := missing
  summary_aborted waiting := by simp [waiting, stage] at early
  recommendation wait waiting := by simp [waiting, stage] at early

theorem Awaiting.main (awaiting : Awaiting host) (advanced : Advanced setup host host') : Awaiting host' := by
  cases advanced with
  | head control loop open_ room => exact awaiting_early (by simp [open_]) (awaiting.summary (by simp [loop, stage]))
  | rejoin connections limit joined => exact awaiting_early (by simp [stage]) (awaiting.summary (by simp [limit, stage]))
  | requested early => exact awaiting_early (by simp [stage]) (awaiting.summary (by omega))
  | writer_ended joined early ended => exact awaiting_early (by simp [stage]) (awaiting.summary (by omega))
  | recommendation_ended joined early ended => exact awaiting_early (by simp [stage]) (awaiting.summary (by omega))
  | accept connection collector accepting spawned =>
    exact awaiting_early (by simp [stage]) (awaiting.summary (by simp [accepting, stage]))
  | accept_error deadline accepting => exact awaiting_early (by simp [stage]) (awaiting.summary (by simp [accepting, stage]))
  | retry deadline backing => exact awaiting_early (by simp [stage]) (awaiting.summary (by simp [backing, stage]))
  | tell deadline stopping => exact awaiting_early (by simp [stage]) (awaiting.summary (by simp [stopping, stage]))
  | drain connections draining left joined => exact awaiting_early draining.2 (awaiting.summary (by omega))
  | close deadline draining =>
    exact awaiting_early (by simp [Host.close, stage]) (awaiting.summary (by simp [draining, stage]))
  | closed deadline closing => exact awaiting_early (by simp [stage]) (awaiting.summary (by simp [closing, stage]))
  | abort deadline closing => exact awaiting_early (by simp [stage]) (awaiting.summary (by simp [closing, stage]))
  | hang_up collector control joining nothing next dropped =>
    have missing := awaiting.summary (by simp [joining, stage])
    subst next
    cases written : host.writer_result with
    | none =>
      refine ⟨fun wait waiting => ⟨rfl, fun aborted => ?_⟩, fun _ => missing, by simp, by simp⟩
      subst aborted
      cases waiting
    | some result => exact ⟨by simp, fun _ => missing, by simp, by simp⟩
  | abort_writer deadline aborted waiting running late =>
    obtain ⟨missing, -⟩ := awaiting.writer _ waiting
    exact ⟨fun wait _ => ⟨missing, by simp [Unaborted]⟩, fun _ => awaiting.summary (by simp [waiting, stage]), by simp, by simp⟩
  | writer wait joined deadline waiting ended =>
    exact ⟨by simp, fun _ => awaiting.summary (by simp [waiting, stage]), by simp, by simp⟩
  | abort_summary deadline aborted waiting running =>
    exact ⟨by simp, fun _ => awaiting.summary (by simp [waiting, stage]), by simp [Unaborted], by simp⟩
  | summary wait joined waiting ended =>
    unfold Host.await_recommendation
    split
    · exact ⟨by simp, by simp [stage], by simp, by simp⟩
    · rename_i task missing present
      exact ⟨by simp, by simp [stage], by simp, fun wait same => ⟨missing, task, present, fun aborted => by simp_all⟩⟩
    · exact ⟨by simp, by simp [stage], by simp, by simp⟩
  | abort_recommendation deadline aborted waiting running =>
    obtain ⟨missing, -⟩ := awaiting.recommendation _ waiting
    exact ⟨by simp, by simp [stage], by simp, fun wait _ => ⟨missing, _, rfl, by simp [Unaborted]⟩⟩
  | recommendation wait joined waiting ended => exact ⟨by simp, by simp [stage], by simp, by simp⟩
  | clean_up cleaning => exact ⟨by simp, by simp [stage], by simp, by simp⟩

theorem Awaiting.step {action : Supervision.Action} (awaiting : Awaiting host)
    (taken : Supervision.step setup host action = some host') : Awaiting host' := by
  have same : ∀ task, host.recommendation = some task → ∃ task', host.recommendation = some task' ∧
      (Unaborted task' → Unaborted task) := fun task present => ⟨task, present, id⟩
  cases action with
  | Main choice => exact awaiting.main (main_cases taken)
  | Work action =>
    obtain ⟨-, worked⟩ := Option.ite_none_right_eq_some.mp taken
    obtain ⟨collector, stepped, worked⟩ := Option.bind_eq_some_iff.mp worked
    obtain ⟨connections, ended, rfl⟩ := Option.map_eq_some_iff.mp worked
    exact awaiting.quiet rfl rfl rfl rfl id id same
  | End =>
    obtain ⟨-, ended⟩ := Option.ite_none_right_eq_some.mp taken
    obtain ⟨connections, finished, rfl⟩ := Option.map_eq_some_iff.mp ended
    exact awaiting.quiet rfl rfl rfl rfl id id same
  | Serve action =>
    simp only [Supervision.step, Host.serves] at taken
    split at taken
    · obtain ⟨server, served, rfl⟩ := Option.map_eq_some_iff.mp taken
      exact awaiting.quiet rfl rfl rfl rfl id id same
    · cases taken
  | Return part =>
    cases part with
    | Writer =>
      obtain ⟨-, taken⟩ := Option.ite_none_right_eq_some.mp taken
      obtain ⟨task, finished, rfl⟩ := Option.map_eq_some_iff.mp taken
      obtain ⟨-, rfl⟩ := finish_some finished
      exact awaiting.quiet rfl rfl rfl rfl (by simp [Unaborted]) id same
    | Summary =>
      obtain ⟨-, taken⟩ := Option.ite_none_right_eq_some.mp taken
      obtain ⟨task, finished, rfl⟩ := Option.map_eq_some_iff.mp taken
      obtain ⟨-, rfl⟩ := finish_some finished
      exact awaiting.quiet rfl rfl rfl rfl id (by simp [Unaborted]) same
    | Recommendation =>
      obtain ⟨-, taken⟩ := Option.ite_none_right_eq_some.mp taken
      obtain ⟨task, finished, rfl⟩ := Option.map_eq_some_iff.mp taken
      obtain ⟨before, present, finished⟩ := Option.bind_eq_some_iff.mp finished
      obtain ⟨-, rfl⟩ := finish_some finished
      exact awaiting.quiet rfl rfl rfl rfl id id fun _ _ => ⟨_, rfl, by simp [Unaborted]⟩
  | Panic part text =>
    cases part with
    | Writer =>
      obtain ⟨task, finished, rfl⟩ := Option.map_eq_some_iff.mp taken
      obtain ⟨-, rfl⟩ := finish_some finished
      exact awaiting.quiet rfl rfl rfl rfl (by simp [Unaborted]) id same
    | Summary =>
      obtain ⟨task, finished, rfl⟩ := Option.map_eq_some_iff.mp taken
      obtain ⟨-, rfl⟩ := finish_some finished
      exact awaiting.quiet rfl rfl rfl rfl id (by simp [Unaborted]) same
    | Recommendation =>
      obtain ⟨task, finished, rfl⟩ := Option.map_eq_some_iff.mp taken
      obtain ⟨before, present, finished⟩ := Option.bind_eq_some_iff.mp finished
      obtain ⟨-, rfl⟩ := finish_some finished
      exact awaiting.quiet rfl rfl rfl rfl id id fun _ _ => ⟨_, rfl, by simp [Unaborted]⟩
  | Cancel part text =>
    cases part with
    | Writer =>
      obtain ⟨task, dropped, rfl⟩ := Option.map_eq_some_iff.mp taken
      obtain ⟨-, rfl⟩ := cancel_some dropped
      exact awaiting.quiet rfl rfl rfl rfl (by simp [Unaborted]) id same
    | Summary =>
      obtain ⟨task, dropped, rfl⟩ := Option.map_eq_some_iff.mp taken
      obtain ⟨-, rfl⟩ := cancel_some dropped
      exact awaiting.quiet rfl rfl rfl rfl id (by simp [Unaborted]) same
    | Recommendation =>
      obtain ⟨task, dropped, rfl⟩ := Option.map_eq_some_iff.mp taken
      obtain ⟨before, present, dropped⟩ := Option.bind_eq_some_iff.mp dropped
      obtain ⟨-, rfl⟩ := cancel_some dropped
      exact awaiting.quiet rfl rfl rfl rfl id id fun _ _ => ⟨_, rfl, by simp [Unaborted]⟩

/-! ### A connection comes to its end -/

/-- The steps that bring a connection back to its stream, when nothing else moves. -/
def pass_rank (used_bytes : Nat) : Pass → Nat
  | .Reading => 0
  | .Refused _ => 1
  | .Releasing release _ => if release.current = some used_bytes then 1 else 2
  | .Unsent _ _ => 3
  | .Reserved _ => 4
  | .Loaded _ current => if current = used_bytes then 5 else 6
  | .Stamped _ => 6

theorem turn_lowers (limits : Writer.Limits) (gone : Bool) (shared : Shared) (dropped : List Reader.FrameEvent) {pass : Pass}
    (busy : pass ≠ .Reading) : ∃ shared' dropped' pass', turn limits gone shared dropped pass = some (shared', dropped', pass') ∧
      ∀ next, pass' = some next → pass_rank shared'.memory.used_bytes next < pass_rank shared.memory.used_bytes pass := by
  cases pass with
  | Reading => exact absurd rfl busy
  | Stamped event => exact ⟨_, _, _, rfl, by simp [pass_rank]⟩
  | Refused event => exact ⟨_, _, _, rfl, by simp [pass_rank]⟩
  | Unsent event closed =>
    refine ⟨_, _, _, rfl, ?_⟩
    simp [pass_rank, Release.new]
  | Reserved event =>
    by_cases closed : gone = true
    · exact ⟨shared, dropped, some (.Unsent event true), by simp [turn, closed], by simp [pass_rank]⟩
    · by_cases room : shared.channel.length < limits.channel_capacity
      · exact ⟨{ shared with channel := shared.channel ++ [event] }, dropped, some .Reading, by simp [turn, closed, room],
          by simp [pass_rank]⟩
      · exact ⟨shared, dropped, some (.Unsent event false), by simp [turn, closed, room], by simp [pass_rank]⟩
  | Loaded event current =>
    cases fits : Reader.try_reserve current event.memory limits.reader.live_memory_bytes with
    | none =>
      refine ⟨shared, dropped, some (.Refused event), by simp [turn, fits], ?_⟩
      rintro next ⟨⟩
      simp only [pass_rank]
      split <;> omega
    | some reserved =>
      by_cases same : shared.memory.used_bytes = current
      · exact ⟨{ shared with memory := { shared.memory with used_bytes := reserved } }, dropped, some (.Reserved event),
          by simp [turn, fits, same], by simp [pass_rank, same]⟩
      · exact ⟨shared, dropped, some (.Loaded event shared.memory.used_bytes), by simp [turn, fits, same],
          by simp [pass_rank, Ne.symm same]⟩
  | Releasing release closed =>
    cases loaded : release.current with
    | none =>
      exact ⟨shared, dropped, some (.Releasing { release with current := some shared.memory.used_bytes } closed),
        by simp [turn, Release.turn, loaded], by simp [pass_rank, loaded]⟩
    | some current =>
      by_cases same : shared.memory.used_bytes = current
      · refine ⟨_, _, _, by simp only [turn, Release.turn, loaded, same, ↓reduceIte]; rfl, ?_⟩
        cases closed <;> simp [pass_rank, loaded, same]
      · refine ⟨_, _, _, by simp only [turn, Release.turn, loaded, same, ↓reduceIte]; rfl, ?_⟩
        simp [pass_rank, loaded, Ne.symm same]

/-- No task panics. -/
def Calm (_ : Host) (action : Supervision.Action) : Prop := ∀ part text, action ≠ .Panic part text

/-- What a task's step of the collector makes of the host. -/
theorem work_some {action : Collector.Action} {collector : Collector.State} {connections : JoinSet}
    (own : follows host.crashed action = true) (stepped : Collector.step setup.limits host.collector action = some collector)
    (ended : (if collector.connections.entries.length < host.collector.connections.entries.length then host.connections.finish
      else some host.connections) = some connections) :
    Reached (Supervision.step setup) Calm host { host with collector, connections } := by
  refine .step (.Work action) .start (by simp [Calm]) ?_
  simp only [Supervision.step, own, ↓reduceIte, Host.work, stepped, Option.bind_some, ended, Option.map_some]

theorem finish_running {tasks : JoinSet} (running : tasks.running ≠ 0) : ∃ tasks' : JoinSet, tasks.finish = some tasks' ∧
    tasks'.len = tasks.len ∧ tasks'.finished = tasks.finished + 1 := by
  cases tasks with
  | mk active finished aborted =>
    cases active with
    | zero => exact absurd rfl running
    | succ active => exact ⟨{ running := active, finished := finished + 1, aborted }, rfl, (JoinSet.finish_some rfl).2, rfl⟩

/-- A connection that nothing interferes with comes to its end. -/
theorem connection_ends {connection : Nat} {pass : Pass} (alive : host.crashed = false)
    (tasks : host.connections.running = host.collector.connections.entries.length)
    (here : host.collector.connections.lookup connection = some pass) : ∃ host',
      Reached (Supervision.step setup) Calm host host' ∧ host'.control = host.control ∧
        host'.connections.len = host.connections.len ∧ host'.connections.finished = host.connections.finished + 1 := by
  induction rank : pass_rank host.collector.shared.memory.used_bytes pass using Nat.strong_induction_on generalizing host pass with
  | _ bound ih =>
    have some_running : host.connections.running ≠ 0 := by
      intro none
      rw [tasks] at none
      exact not_joined here (List.length_eq_zero_iff.mp none)
    obtain ⟨connections, finished, len, one⟩ := finish_running some_running
    have fewer := length_erase here
    by_cases reading : pass = .Reading
    · subst reading
      have stepped : Collector.step setup.limits host.collector (.Disconnect connection) =
          some { host.collector with connections := host.collector.connections.erase connection } := by
        simp [Collector.step, here]
      refine ⟨_, work_some (by simp [follows, alive]) stepped ?_, rfl, len, one⟩
      rw [if_pos (by dsimp only; omega)]
      exact finished
    · obtain ⟨shared, dropped, pass', turned, less⟩ := turn_lowers setup.limits
        (decide (host.collector.buffers.control = .Returned)) host.collector.shared host.collector.journal.dropped reading
      cases pass' with
      | none =>
        have stepped : Collector.step setup.limits host.collector (.Turn connection) = some { host.collector with
            connections := host.collector.connections.erase connection, shared
            journal := { host.collector.journal with dropped } } := by
          simp [Collector.step, here, turned]
        refine ⟨_, work_some (by simp [follows, alive]) stepped ?_, rfl, len, one⟩
        rw [if_pos (by dsimp only; omega)]
        exact finished
      | some next =>
        have stepped : Collector.step setup.limits host.collector (.Turn connection) = some { host.collector with
            connections := host.collector.connections.insert connection next, shared
            journal := { host.collector.journal with dropped } } := by
          simp [Collector.step, here, turned]
        have same : (host.collector.connections.insert connection next).entries.length =
            host.collector.connections.entries.length := length_insert here
        have first := work_some (by simp [follows, alive]) stepped (if_neg (by dsimp only; omega))
        obtain ⟨host', further, control, len, one⟩ := @ih _ (rank ▸ less next rfl) { host with
          collector := { host.collector with
            connections := host.collector.connections.insert connection next, shared
            journal := { host.collector.journal with dropped } } } next alive (tasks.trans same.symm) (AList.lookup_insert _) rfl
        exact ⟨host', first.trans further, control, len, one⟩

/-! ### The main task goes on -/

/-- The host when a deadline has passed. -/
def later (host : Host) (deadline : Nat) : Host :=
  { host with collector := { host.collector with elapsed := host.collector.elapsed + (deadline - host.elapsed) } }

theorem time_passes (setup : Setup) (host : Host) (deadline : Nat) :
    Reached (Supervision.step setup) Calm host (later host deadline) ∧ deadline ≤ (later host deadline).elapsed := by
  have ticked : Collector.step setup.limits host.collector (.Tick (deadline - host.elapsed) host.collector.clock) =
      some (later host deadline).collector := rfl
  refine ⟨work_some rfl ticked (if_neg (lt_irrefl _)), ?_⟩
  simp only [later, Host.elapsed]
  omega

theorem main_goes (choice : Supervision.Choice) (advanced : host.main setup choice = some host') :
    Reached (Supervision.step setup) Calm host host' := .step (.Main choice) .start (by simp [Calm]) advanced

/-- Some run that is calm brings the main task closer to its end. -/
def Progress (setup : Setup) (host : Host) : Prop :=
  ∃ host', Reached (Supervision.step setup) Calm host host' ∧ remaining host' < remaining host

theorem Progress.after (progress : Progress setup host') (first : Reached (Supervision.step setup) Calm host host')
    (same : remaining host' ≤ remaining host) : Progress setup host := by
  obtain ⟨last, further, less⟩ := progress
  exact ⟨last, first.trans further, by omega⟩

/-- A request to stop is heard in both of the `select!`s. -/
theorem select_progress (selecting : host.control = .AtLimit ∨ host.control = .Accepting) : Progress setup host := by
  refine ⟨{ host with requested := true, control := .Stopping }, main_goes .Shutdown ?_, ?_⟩
  · rcases selecting with control | control <;> unfold Host.main <;> rw [control] <;> rfl
  · rcases selecting with control | control <;> simp [remaining, control, weight]

theorem loop_progress (loop : host.control = .Loop) : Progress setup host := by
  have advanced : host.main setup .Proceed = some { host.reap_finished_connections with
      control := if setup.limits.max_connections ≤ host.reap_finished_connections.connections.len then .AtLimit else .Accepting } := by
    unfold Host.main
    rw [loop]
  refine (select_progress ?_).after (main_goes .Proceed advanced) ?_
  · by_cases full : setup.limits.max_connections ≤ host.reap_finished_connections.connections.len <;> simp [full]
  · have fewer : host.connections.reap.len ≤ host.connections.len := Nat.add_le_add_left (Nat.zero_le _) _
    simp only [remaining, loop, Host.reap_finished_connections]
    split <;> simp only [weight] <;> omega

/-- A handle whose task is over gives its result. -/
theorem await_over {ρ : Type} (output : ρ → Except Supervision.Error Unit) (task_name : String) (elapsed : Nat) (wait : Wait)
    (joined : Except JoinError ρ) : await_shutdown output task_name elapsed wait (.Over joined) =
      some (.Joined, .inr (conclusion output task_name wait joined)) := by
  cases joined with
  | ok value => cases wait <;> rfl
  | error error =>
    cases wait with
    | Within deadline => rfl
    | Aborted => by_cases gone : error.is_cancelled <;> simp [await_shutdown, conclusion, gone]

theorem watch_pending {part : Part} {journal : Supervision.Journal} {ρ : Type} {output : ρ → Except Supervision.Error Unit}
    {task : JoinHandle ρ} (watch : Watch part journal output task none) :
    (∃ aborted, task = .Running aborted) ∨ ∃ joined, task = .Over joined := by
  cases watch with
  | running aborted sound told => exact .inl ⟨aborted, rfl⟩
  | returned value sound well => exact .inr ⟨_, rfl⟩
  | cancelled text sound told => exact .inr ⟨_, rfl⟩
  | panicked text member => exact .inr ⟨_, rfl⟩

/-- What the main task can do after its loop brings it closer to its end. -/
theorem goes_progress (choice : Supervision.Choice) (left : 1 ≤ stage host.control)
    (enabled : (host.main setup choice).isSome) : Progress setup host := by
  obtain ⟨host', advanced⟩ := Option.isSome_iff_exists.mp enabled
  exact ⟨host', main_goes choice advanced, (main_lowers (main_cases advanced) left).2⟩

/-- Before the sender is dropped, a connection is joined, if need be after it was brought to its end. -/
theorem join_progress (supervised : Supervised setup begun host) (joining : host.control = .Joining)
    (left : host.connections.len ≠ 0) : Progress setup host := by
  have joins : ∀ {host : Host}, host.control = .Joining → host.connections.finished ≠ 0 → Progress setup host := by
    intro host joining finished
    have some_left : ¬host.connections.is_empty = true := by
      rw [JoinSet.is_empty_iff, JoinSet.len]
      omega
    have joined : host.connections.join_next.isSome := by
      unfold JoinSet.join_next
      split
      · contradiction
      · rfl
    refine goes_progress .Join (by simp [joining, stage]) ?_
    unfold Host.main
    rw [joining]
    simp only [some_left, Bool.false_eq_true, ↓reduceIte, Host.join, Option.isSome_map, joined]
  by_cases finished : host.connections.finished = 0
  · have running : host.connections.running ≠ 0 := by
      simp only [JoinSet.len] at left
      omega
    by_cases crashed : host.crashed = true
    · obtain ⟨connections, ended, len, one⟩ := finish_running running
      have first : Reached (Supervision.step setup) Calm host { host with connections } :=
        .step .End .start (by simp [Calm]) (by simp [Supervision.step, crashed, ended])
      have further : Progress setup { host with connections } := joins joining (by dsimp only; omega)
      exact further.after first (by rw [remaining, remaining, len])
    · have tasks := supervised.tasks (by simpa using crashed)
      obtain ⟨connection, pass, here⟩ : ∃ connection pass, host.collector.connections.lookup connection = some pass := by
        cases entries : host.collector.connections.entries with
        | nil => simp [tasks, entries] at running
        | cons entry rest =>
          exact ⟨entry.1, entry.2, AList.mem_lookup_iff.mpr (by rw [entries]; exact List.mem_cons_self)⟩
      obtain ⟨host', reached, control, len, one⟩ := connection_ends (by simpa using crashed) tasks here
      refine Progress.after (joins (control.trans joining) (by omega)) reached ?_
      rw [remaining, remaining, control, len]
  · exact joins joining finished

/-- A handle that is awaited can be polled: at its deadline, or when its task is over, which an abort brings about. -/
theorem await_ready {part : Part} {journal : Supervision.Journal} {ρ : Type} {output : ρ → Except Supervision.Error Unit}
    {task : JoinHandle ρ} {wait : Wait} (watch : Watch part journal output task none) (task_name : String) (elapsed : Nat)
    (aborted : wait = .Aborted → ¬Unaborted task) :
    (await_shutdown output task_name elapsed wait task).isSome ∨
      (∃ deadline, wait = .Within deadline ∧ ∀ later, deadline ≤ later →
        (await_shutdown output task_name later wait task).isSome) ∨
      ∃ task', task.cancel "" = some task' ∧ (await_shutdown output task_name elapsed wait task').isSome := by
  rcases watch_pending watch with ⟨told, rfl⟩ | ⟨joined, rfl⟩
  · cases wait with
    | Within deadline => exact .inr (.inl ⟨deadline, rfl, fun later late => by simp [await_shutdown, late]⟩)
    | Aborted =>
      cases told with
      | false => exact absurd rfl (aborted rfl)
      | true => exact .inr (.inr ⟨_, rfl, by rw [await_over]; rfl⟩)
  · exact .inl (by rw [await_over]; rfl)

/-- The main task awaits the handle of one of the parts. -/
theorem await_progress {part : Part} {journal : Supervision.Journal} {ρ : Type} {output : ρ → Except Supervision.Error Unit}
    {task : JoinHandle ρ} {wait : Wait} (watch : Watch part journal output task none) (task_name : String)
    (aborted : wait = .Aborted → ¬Unaborted task) (left : 1 ≤ stage host.control)
    (polls : ∀ elapsed, (await_shutdown output task_name elapsed wait task).isSome →
      ∀ collector : Collector.State, collector.elapsed = elapsed → (Host.main setup { host with collector } .Proceed).isSome)
    (cancels : ∀ task', task.cancel "" = some task' → ∃ host', host.cancels part "" = some host' ∧
      remaining host' = remaining host ∧ 1 ≤ stage host'.control ∧
      ((await_shutdown output task_name host.elapsed wait task').isSome → (host'.main setup .Proceed).isSome)) :
    Progress setup host := by
  rcases await_ready watch task_name host.elapsed aborted with ready | ⟨deadline, -, ready⟩ | ⟨task', cancelled, ready⟩
  · exact goes_progress .Proceed left (polls host.elapsed ready host.collector rfl)
  · obtain ⟨passed, late⟩ := time_passes setup host deadline
    have goes : Progress setup (later host deadline) := goes_progress .Proceed left (polls _ (ready _ late) _ rfl)
    exact goes.after passed le_rfl
  · obtain ⟨host', dropped, same, left', goes⟩ := cancels task' cancelled
    have first : Reached (Supervision.step setup) Calm host host' := .step (.Cancel part "") .start (by simp [Calm]) dropped
    exact (goes_progress .Proceed left' (goes ready)).after first same.le

theorem writer_progress {wait : Wait} (watching : Watching setup host) (awaiting : Awaiting host)
    (waiting : host.control = .AwaitingWriter wait) : Progress setup host := by
  obtain ⟨missing, aborted⟩ := awaiting.writer wait waiting
  have watch := watching.writer
  rw [missing] at watch
  have left : 1 ≤ stage host.control := by simp [waiting, stage]
  refine await_progress watch Part.Writer.task_name aborted left ?_ ?_
  · rintro elapsed ready collector rfl
    unfold Host.main
    dsimp only
    rw [waiting]
    simp only [await_task_shutdown, Option.isSome_map]
    exact ready
  · intro writer cancelled
    refine ⟨{ host with writer, crashed := true }, by simp [Host.cancels, cancelled], rfl, left, fun ready => ?_⟩
    unfold Host.main
    dsimp only
    rw [waiting]
    simp only [await_task_shutdown, Option.isSome_map]
    exact ready

theorem summary_progress {wait : Wait} (watching : Watching setup host) (awaiting : Awaiting host)
    (waiting : host.control = .AwaitingSummary wait) : Progress setup host := by
  have watch := watching.summary
  rw [awaiting.summary (by simp [waiting, stage])] at watch
  have left : 1 ≤ stage host.control := by simp [waiting, stage]
  have aborted : wait = .Aborted → ¬Unaborted host.summary := by
    rintro rfl
    exact awaiting.summary_aborted waiting
  refine await_progress watch Part.Summary.task_name aborted left ?_ ?_
  · rintro elapsed ready collector rfl
    unfold Host.main
    dsimp only
    rw [waiting]
    simp only [await_task_shutdown, Option.isSome_map]
    exact ready
  · intro summary cancelled
    refine ⟨{ host with summary }, by simp [Host.cancels, cancelled], rfl, left, fun ready => ?_⟩
    unfold Host.main
    dsimp only
    rw [waiting]
    simp only [await_task_shutdown, Option.isSome_map]
    exact ready

theorem recommendation_progress {wait : Wait} (watching : Watching setup host) (awaiting : Awaiting host)
    (waiting : host.control = .AwaitingRecommendation wait) : Progress setup host := by
  obtain ⟨missing, task, present, aborted⟩ := awaiting.recommendation wait waiting
  have enabled : setup.recommendation_server.isSome := by
    cases enabled : setup.recommendation_server with
    | some config => rfl
    | none =>
      rw [(watching.unserved enabled).1] at present
      cases present
  have watch := watching.served enabled
  rw [missing, present, Option.getD_some] at watch
  have left : 1 ≤ stage host.control := by simp [waiting, stage]
  refine await_progress watch Part.Recommendation.task_name aborted left ?_ ?_
  · rintro elapsed ready collector rfl
    unfold Host.main
    dsimp only
    rw [waiting]
    simp only [present, Option.bind_some, await_unit_task_shutdown, Option.isSome_map]
    exact ready
  · intro task' cancelled
    refine ⟨{ host with recommendation := some task' }, by simp [Host.cancels, present, cancelled], rfl, left, fun ready => ?_⟩
    unfold Host.main
    dsimp only
    rw [waiting]
    simp only [Option.bind_some, await_unit_task_shutdown, Option.isSome_map]
    exact ready

/-- From every state in which the main task has not returned, a calm run brings it closer to that. -/
theorem progress (supervised : Supervised setup begun host) (watching : Watching setup host) (awaiting : Awaiting host)
    (going : ∀ result, host.control ≠ .Returned result) : Progress setup host := by
  have goes : ∀ (host : Host) (choice : Supervision.Choice), 1 ≤ stage host.control → (host.main setup choice).isSome →
      Progress setup host := fun host choice left enabled => goes_progress choice left enabled
  cases control : host.control with
  | Loop => exact loop_progress control
  | AtLimit => exact select_progress (.inl control)
  | Accepting => exact select_progress (.inr control)
  | BackingOff deadline =>
    obtain ⟨passed, late⟩ := time_passes setup host deadline
    have retried : (later host deadline).main setup .Elapsed = some { later host deadline with control := .Loop } := by
      unfold Host.main
      rw [show (later host deadline).control = .BackingOff deadline from control]
      exact if_pos late
    have again : Progress setup { later host deadline with control := .Loop } := loop_progress rfl
    refine again.after (passed.trans (main_goes .Elapsed retried)) ?_
    simp [remaining, later, control, weight]
  | Stopping =>
    refine goes host .Proceed (by simp [control, stage]) ?_
    unfold Host.main
    rw [control]
    rfl
  | Draining deadline =>
    by_cases nothing : host.connections.is_empty = true
    · refine goes host .Proceed (by simp [control, stage]) ?_
      unfold Host.main
      rw [control]
      simp [nothing]
    · obtain ⟨passed, late⟩ := time_passes setup host deadline
      refine (goes (later host deadline) .Elapsed (by simp [later, control, stage]) ?_).after passed le_rfl
      unfold Host.main
      rw [show (later host deadline).control = .Draining deadline from control]
      rw [show (later host deadline).connections = host.connections from rfl]
      simp [nothing, Nat.not_lt.mpr late]
  | Closing deadline =>
    by_cases nothing : host.connections.is_empty = true
    · refine goes host .Proceed (by simp [control, stage]) ?_
      unfold Host.main
      rw [control]
      simp [nothing]
    · obtain ⟨passed, late⟩ := time_passes setup host deadline
      refine (goes (later host deadline) .Elapsed (by simp [later, control, stage]) ?_).after passed le_rfl
      unfold Host.main
      rw [show (later host deadline).control = .Closing deadline from control]
      rw [show (later host deadline).connections = host.connections from rfl]
      simp [nothing, Nat.not_lt.mpr late]
  | Joining =>
    by_cases nothing : host.connections.len = 0
    · refine goes host .Proceed (by simp [control, stage]) ?_
      unfold Host.main
      rw [control]
      simp only [JoinSet.is_empty_iff.mpr nothing, ↓reduceIte, Host.hang_up]
      by_cases crashed : host.crashed = true
      · simp [crashed]
      · have alive : host.crashed = false := by simpa using crashed
        have accepting := (supervised.sender alive).mpr (by simp [control, stage])
        have entries : host.collector.connections.entries = [] := by
          have tasks := supervised.tasks alive
          simp only [JoinSet.len] at nothing
          exact List.length_eq_zero_iff.mp (by omega)
        simp [alive, Collector.step, accepting, entries]
    · exact join_progress supervised control nothing
  | AwaitingWriter wait => exact writer_progress watching awaiting control
  | AwaitingSummary wait => exact summary_progress watching awaiting control
  | AwaitingRecommendation wait => exact recommendation_progress watching awaiting control
  | CleaningUp =>
    refine goes host .Proceed (by simp [control, stage]) ?_
    unfold Host.main
    rw [control]
    rfl
  | Returned result => exact absurd control (going result)

/-! ### The end is within reach -/

/-- Only a panic is told as one. -/
theorem calm_step {action : Supervision.Action} (calm : Calm host action)
    (taken : Supervision.step setup host action = some host') : host'.journal.panics = host.journal.panics := by
  cases action with
  | Panic part text => exact absurd rfl (calm part text)
  | Main choice =>
    cases main_cases taken with
    | summary wait joined waiting ended => rw [(await_recommendation_told setup _).1]
    | _ => rfl
  | Work action =>
    obtain ⟨-, worked⟩ := Option.ite_none_right_eq_some.mp taken
    obtain ⟨collector, stepped, worked⟩ := Option.bind_eq_some_iff.mp worked
    obtain ⟨connections, ended, rfl⟩ := Option.map_eq_some_iff.mp worked
    rfl
  | End =>
    obtain ⟨-, ended⟩ := Option.ite_none_right_eq_some.mp taken
    obtain ⟨connections, finished, rfl⟩ := Option.map_eq_some_iff.mp ended
    rfl
  | Serve action =>
    simp only [Supervision.step, Host.serves] at taken
    split at taken
    · obtain ⟨server, served, rfl⟩ := Option.map_eq_some_iff.mp taken
      rfl
    · cases taken
  | Return part =>
    simp only [Supervision.step, Host.returns] at taken
    cases part
    all_goals
      obtain ⟨-, taken⟩ := Option.ite_none_right_eq_some.mp taken
      obtain ⟨task, finished, rfl⟩ := Option.map_eq_some_iff.mp taken
      rfl
  | Cancel part text =>
    simp only [Supervision.step, Host.cancels] at taken
    cases part
    all_goals
      obtain ⟨task, finished, rfl⟩ := Option.map_eq_some_iff.mp taken
      rfl

theorem calm_panics (reached : Reached (Supervision.step setup) Calm host host') :
    host'.journal.panics = host.journal.panics := by
  induction reached with
  | start => rfl
  | step action earlier calm taken ih => exact (calm_step calm taken).trans ih

/-- From every state the collector comes to, it can be brought to return without a further panic, and well if there was none
before. -/
theorem never_stuck (setup : Setup) (now : Nat) (begun : Collector.State)
    (started : Collector.start setup.limits now = .ok begun) (host : Host)
    (reached : Reached (Supervision.step setup) Any (Supervision.start setup begun) host) :
    ∃ host' result, Reached (Supervision.step setup) Calm host host' ∧ host'.control = .Returned result ∧
      (host.journal.panics = [] → result = .ok ()) := by
  have initial : Sound setup begun host ∧ Awaiting host := by
    refine ⟨reached_sound started reached, reached.invariant ?_ fun _ _ _ _ awaiting _ taken => awaiting.step taken⟩
    exact awaiting_early (by simp [Supervision.start, stage]) rfl
  have kept : ∀ host host', Sound setup begun host ∧ Awaiting host → Reached (Supervision.step setup) Calm host host' →
      Sound setup begun host' ∧ Awaiting host' := by
    intro host host' held further
    induction further with
    | start => exact held
    | step action earlier calm taken ih => exact ⟨ih.1.step started taken, ih.2.step taken⟩
  have going : ∀ host, Sound setup begun host ∧ Awaiting host → (¬∃ result, host.control = .Returned result) →
      Progress setup host := fun host held going =>
    progress held.1.supervised held.1.watching held.2 fun result returned => going ⟨result, returned⟩
  obtain ⟨host', further, result, returned⟩ := reaches_end remaining kept going host initial
  refine ⟨host', result, further, returned, fun calm => ?_⟩
  have sound := (kept host host' initial further).1
  obtain ⟨same, -⟩ := sound.told.returned result returned
  obtain ⟨-, -, -, ⟨well, -, -⟩ | ⟨error, part, text, -, member, -⟩⟩ := results sound.watching (by rw [returned]; simp [stage])
  · exact same.trans well
  · rw [calm_panics further, calm] at member
    cases member

/-- A collector whose only connection is in the middle of a frame. -/
theorem whole_life_never_stuck : ∃ begun host host', Reached (Supervision.step tightSetup) Any (Supervision.start tightSetup begun) host ∧
    host.connections.len = 1 ∧ Reached (Supervision.step tightSetup) Calm host host' ∧ host'.control = .Returned (.ok ()) := by
  have outcome : (life (wholeLife.take 4)).map (fun host => (host.connections.len, host.journal.panics)) = some (1, []) := by
    decide +kernel
  obtain ⟨host, ran, values⟩ := Option.map_eq_some_iff.mp outcome
  obtain ⟨one, calm⟩ := Prod.mk.inj values
  obtain ⟨begun, started, reached⟩ := life_reached ran
  obtain ⟨host', result, further, returned, well⟩ := never_stuck tightSetup 0 begun started host reached
  exact ⟨begun, host, host', reached, one, further, well calm ▸ returned⟩

end VectorSeam.Completion
