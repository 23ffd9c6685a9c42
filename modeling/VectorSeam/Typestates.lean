import VectorSeam.Handlers

/-!
Protocols of effects. A typestate advances with every exchange of an effect for its answer,
and an exchange that it has no step for is forbidden. A program that follows a typestate
does so in every environment, and an interpreted one does when its handler does; the log
that its runs leave is then accepted, exchange after exchange. Where only some exchanges
spoil the end of a program, it is known for the runs whose logs have none of them.
-/

namespace VectorSeam.Typestates
open VectorSeam.Programs VectorSeam.Handlers

variable {E F : Type} {R : E → Type} {Q : F → Type} {ε δ α β G S W D : Type}

/-- An effect with its answer. -/
structure Exchange (R : E → Type) where
  effect : E
  reply : R effect

/-- The states after exchanges, where none of them is forbidden. -/
def accepts (advance : G → (effect : E) → R effect → Option G) : G → List (Exchange R) → Option G
  | phase, [] => some phase
  | phase, exchange :: later => (advance phase exchange.effect exchange.reply).bind fun phase => accepts advance phase later

theorem accepts_append {advance : G → (effect : E) → R effect → Option G} {phase : G} (first second : List (Exchange R)) :
    accepts advance phase (first ++ second) = (accepts advance phase first).bind fun phase => accepts advance phase second := by
  induction first generalizing phase with
  | nil => rfl
  | cons exchange later ih =>
    rw [List.cons_append, accepts, accepts, Option.bind_assoc]
    exact congrArg _ (funext fun phase => ih)

/-- Whatever it is answered, the program makes exchanges that the typestate has steps for, and ends as specified. -/
def Follows (advance : G → (effect : E) → R effect → Option G) (post : Except ε α → G → Prop) : G → Prog E R ε α → Prop
  | phase, .done value => post (.ok value) phase
  | phase, .fail error => post (.error error) phase
  | phase, .ask effect next => ∀ reply, ∃ phase', advance phase effect reply = some phase' ∧
      Follows advance post phase' (next reply)

section Follows
variable {advance : G → (effect : E) → R effect → Option G} {post post' : Except ε α → G → Prop} {phase : G}
  {program : Prog E R ε α}

theorem follows_pure {value : α} (holds : post (.ok value) phase) :
    Follows advance post phase (pure value : Prog E R ε α) := holds

theorem follows_fail {error : ε} (holds : post (.error error) phase) :
    Follows advance post phase (.fail error : Prog E R ε α) := holds

theorem follows_lift {result : Except ε α} (holds : post result phase) :
    Follows advance post phase (Prog.lift result : Prog E R ε α) := by
  cases result with
  | ok value => exact holds
  | error error => exact holds

theorem follows_perform_bind {effect : E} {next : R effect → Prog E R ε α}
    (each : ∀ reply, ∃ phase', advance phase effect reply = some phase' ∧ Follows advance post phase' (next reply)) :
    Follows advance post phase ((Prog.perform effect : Prog E R ε (R effect)) >>= next) := each

theorem Follows.mono (follows : Follows advance post phase program)
    (weaker : ∀ result phase, post result phase → post' result phase) : Follows advance post' phase program := by
  induction program generalizing phase with
  | done value => exact weaker _ _ follows
  | fail error => exact weaker _ _ follows
  | ask effect next ih =>
    intro reply
    obtain ⟨phase', stepped, later⟩ := follows reply
    exact ⟨phase', stepped, ih reply later⟩

/-- The bind rule; `middle` is what holds between the two parts. -/
theorem follows_bind {after : Except ε β → G → Prop} {next : α → Prog E R ε β} (middle : Except ε α → G → Prop)
    (first : Follows advance middle phase program)
    (failed : ∀ error phase, middle (.error error) phase → after (.error error) phase)
    (second : ∀ value phase, middle (.ok value) phase → Follows advance after phase (next value)) :
    Follows advance after phase (program >>= next) := by
  change Follows advance after phase (program.bind next)
  induction program generalizing phase with
  | done value => exact second value phase first
  | fail error => exact failed error phase first
  | ask effect later ih =>
    intro reply
    obtain ⟨phase', stepped, rest⟩ := first reply
    exact ⟨phase', stepped, ih reply rest⟩

theorem follows_attempt {ε' : Type} {caught : Except ε' (Except ε α) → G → Prop} (follows : Follows advance post phase program)
    (holds : ∀ result phase, post result phase → caught (.ok result) phase) :
    Follows advance caught phase (program.attempt : Prog E R ε' (Except ε α)) := by
  induction program generalizing phase with
  | done value => exact holds _ _ follows
  | fail error => exact holds _ _ follows
  | ask effect next ih =>
    intro reply
    obtain ⟨phase', stepped, later⟩ := follows reply
    exact ⟨phase', stepped, ih reply later⟩

/-- Exchanges that leave the typestate where it is. -/
theorem follows_unmoved (performs : Performs (fun effect => ∀ reply, advance phase effect reply = some phase) program)
    (ends : ∀ result, post result phase) : Follows advance post phase program := by
  induction program with
  | done value => exact ends _
  | fail error => exact ends _
  | ask effect next ih => exact fun reply => ⟨phase, performs.1 reply, ih reply (performs.2 reply)⟩

/-- Exchanges that leave the typestate where it is, with what is known of the value. -/
theorem follows_unmoved_safe {holds : α → Prop}
    (performs : Performs (fun effect => ∀ reply, advance phase effect reply = some phase) program)
    (safe : Safe (fun _ _ => True) (fun _ => True) holds program) (failed : ∀ error, post (.error error) phase)
    (ends : ∀ value, holds value → post (.ok value) phase) : Follows advance post phase program := by
  induction program with
  | done value => exact ends value safe
  | fail error => exact failed error
  | ask effect next ih =>
    exact fun reply => ⟨phase, performs.1 reply, ih reply (performs.2 reply) (safe.2 reply trivial)⟩

/-- An interpreted program follows a typestate when the handler does, its state linked to the typestate's. -/
theorem follows_serve {handler : S → (effect : F) → Prog E R δ (Q effect × S)} (linked : S → G → Prop)
    {served : Except δ (Except ε α × S) → G → Prop} {allowed : F → Prop} {program : Prog F Q ε α}
    (performs : Performs allowed program)
    (each : ∀ state phase effect, allowed effect → linked state phase →
      Follows advance (fun result phase => match result with
        | .ok answered => linked answered.2 phase
        | .error error => served (.error error) phase) phase (handler state effect))
    (ends : ∀ result state phase, linked state phase → served (.ok (result, state)) phase) (state : S)
    (start : linked state phase) : Follows advance served phase (serve handler program state) := by
  induction program generalizing state phase with
  | done value => exact ends _ _ _ start
  | fail error => exact ends _ _ _ start
  | ask effect next ih =>
    refine follows_bind _ (each state phase effect performs.1 start) (fun _ _ holds => holds) ?_
    intro answered phase' holds
    exact ih answered.1 (performs.2 answered.1) answered.2 holds

/-- What a program follows through a handler that passes its effects on. -/
theorem follows_passed {G' : Type} {advance' : G' → (effect : F) → Q effect → Option G'}
    {handler : S → (effect : F) → Prog E R δ (Q effect × S)} (linked : G' → G → Prop) {ended : Except ε α → G' → Prop}
    {served : Except δ (Except ε α × S) → G → Prop} {program : Prog F Q ε α} {phase' : G'} (state : S)
    (follows : Follows advance' ended phase' program)
    (each : ∀ state phase phase' effect, linked phase' phase → (∀ reply, ∃ later', advance' phase' effect reply = some later') →
      Follows advance (fun result later => match result with
        | .ok answered => ∀ later', advance' phase' effect answered.1 = some later' → linked later' later
        | .error error => served (.error error) later) phase (handler state effect))
    (ends : ∀ result state phase' phase, ended result phase' → linked phase' phase → served (.ok (result, state)) phase)
    (start : linked phase' phase) : Follows advance served phase (serve handler program state) := by
  induction program generalizing state phase phase' with
  | done value => exact ends _ _ _ _ follows start
  | fail error => exact ends _ _ _ _ follows start
  | ask effect next ih =>
    have steps : ∀ reply, ∃ later', advance' phase' effect reply = some later' := by
      intro reply
      obtain ⟨later', stepped, _⟩ := follows reply
      exact ⟨later', stepped⟩
    refine follows_bind _ (each state phase phase' effect start steps) (fun _ _ holds => holds) ?_
    intro answered between holds
    obtain ⟨later', stepped, rest⟩ := follows answered.1
    exact ih answered.1 answered.2 rest (holds later' stepped)

end Follows

/-! ### Marked exchanges -/

/-- Barring exchanges that are marked, the program ends as specified. -/
def Barring (marked : (effect : E) → R effect → Prop) (post : Except ε α → Prop) : Prog E R ε α → Prop
  | .done value => post (.ok value)
  | .fail error => post (.error error)
  | .ask effect next => ∀ reply, ¬marked effect reply → Barring marked post (next reply)

section Barring
variable {marked : (effect : E) → R effect → Prop} {post post' : Except ε α → Prop} {program : Prog E R ε α}

theorem barring_lift {result : Except ε α} (holds : post result) : Barring marked post (Prog.lift result : Prog E R ε α) := by
  cases result with
  | ok value => exact holds
  | error error => exact holds

theorem barring_bind {after : Except ε β → Prop} {next : α → Prog E R ε β} (middle : Except ε α → Prop)
    (first : Barring marked middle program) (failed : ∀ error, middle (.error error) → after (.error error))
    (second : ∀ value, middle (.ok value) → Barring marked after (next value)) : Barring marked after (program >>= next) := by
  change Barring marked after (program.bind next)
  induction program with
  | done value => exact second value first
  | fail error => exact failed error first
  | ask effect later ih => exact fun reply clean => ih reply (first reply clean)

theorem barring_any (program : Prog E R ε α) (ends : ∀ result, post result) : Barring marked post program := by
  induction program with
  | done value => exact ends _
  | fail error => exact ends _
  | ask effect next ih => exact fun reply _ => ih reply

theorem Barring.mono (barring : Barring marked post program) (weaker : ∀ result, post result → post' result) :
    Barring marked post' program := by
  induction program with
  | done value => exact weaker _ barring
  | fail error => exact weaker _ barring
  | ask effect next ih => exact fun reply clean => ih reply (barring reply clean)

theorem barring_attempt {ε' : Type} {caught : Except ε' (Except ε α) → Prop} (barring : Barring marked post program)
    (holds : ∀ result, post result → caught (.ok result)) :
    Barring marked caught (program.attempt : Prog E R ε' (Except ε α)) := by
  induction program with
  | done value => exact holds _ barring
  | fail error => exact holds _ barring
  | ask effect next ih => exact fun reply clean => ih reply (barring reply clean)

/-- The state of a handler keeps what each of its answers keeps. -/
theorem barring_serve {handler : S → (effect : F) → Prog E R δ (Q effect × S)} (linked : S → Prop)
    (each : ∀ state effect, linked state → Barring marked (fun result => ∀ answered, result = .ok answered → linked answered.2)
      (handler state effect)) (program : Prog F Q ε α) (state : S) (start : linked state) :
    Barring marked (fun result => ∀ answered, result = .ok answered → linked answered.2) (serve handler program state) := by
  induction program generalizing state with
  | done value =>
    rintro answered same
    exact Except.ok.inj same ▸ start
  | fail error =>
    rintro answered same
    exact Except.ok.inj same ▸ start
  | ask effect next ih =>
    refine barring_bind _ (each state effect start) (fun error _ answered same => by cases same) ?_
    intro answered kept
    exact ih answered.1 answered.2 (kept answered rfl)

/-- A handler whose answers are marked only through marked exchanges of its own. -/
theorem barring_passed {marked' : (effect : F) → Q effect → Prop} {handler : S → (effect : F) → Prog E R δ (Q effect × S)}
    {ended : Except ε α → Prop} {program : Prog F Q ε α} (barring : Barring marked' ended program)
    (each : ∀ state effect, Barring marked (fun result => ∀ answered, result = .ok answered → ¬marked' effect answered.1)
      (handler state effect)) (state : S) :
    Barring marked (fun result => ∀ answered, result = .ok answered → ended answered.1) (serve handler program state) := by
  induction program generalizing state with
  | done value =>
    rintro answered same
    exact Except.ok.inj same ▸ barring
  | fail error =>
    rintro answered same
    exact Except.ok.inj same ▸ barring
  | ask effect next ih =>
    refine barring_bind _ (each state effect) (fun error _ answered same => by cases same) ?_
    intro answered clean
    exact ih answered.1 (barring answered.1 (clean answered rfl)) answered.2

end Barring

/-! ### Logs -/

/-- An environment that writes every exchange down. -/
def Journaled (answer : W → D → (effect : E) → R effect × W) (log : W → List (Exchange R)) : Prop :=
  ∀ world choice effect, log (answer world choice effect).2 = log world ++ [⟨effect, (answer world choice effect).1⟩]

section Logs
variable {advance : G → (effect : E) → R effect → Option G} {post : Except ε α → G → Prop} {phase : G}
  {program : Prog E R ε α} {answer : W → D → (effect : E) → R effect × W} {log : W → List (Exchange R)}

/-- The exchanges of any run are accepted, and a run that is not stopped ends as the program does. -/
theorem Follows.accepted (journaled : Journaled answer log) (follows : Follows advance post phase program) {world world' : W}
    {outcome : Outcome ε α} (run : Runs answer program world outcome world') :
    ∃ block phase', log world' = log world ++ block ∧ accepts advance phase block = some phase' ∧
      (∀ value, outcome = .returned value → post (.ok value) phase') ∧
      ∀ error, outcome = .failed error → post (.error error) phase' := by
  induction program generalizing world phase with
  | done value =>
    obtain ⟨rfl, rfl⟩ := runs_done.mp run
    refine ⟨[], phase, by simp, rfl, ?_, by simp⟩
    rintro other same
    exact Outcome.returned.inj same ▸ follows
  | fail error =>
    obtain ⟨rfl, rfl⟩ := runs_fail.mp run
    refine ⟨[], phase, by simp, rfl, by simp, ?_⟩
    rintro other same
    exact Outcome.failed.inj same ▸ follows
  | ask effect next ih =>
    rcases runs_ask.mp run with ⟨rfl, rfl⟩ | ⟨choice, later⟩
    · exact ⟨[], phase, by simp, rfl, by simp, by simp⟩
    · obtain ⟨between, stepped, rest⟩ := follows (answer world choice effect).1
      obtain ⟨block, phase', logged, accepted, ended⟩ := ih _ rest later
      refine ⟨⟨effect, (answer world choice effect).1⟩ :: block, phase', ?_, ?_, ended⟩
      · rw [logged, journaled, List.append_assoc]
        rfl
      · rw [accepts, stepped]
        exact accepted

/-- The log of any run grows by exchanges of effects that the program can perform. -/
theorem performs_exchanges {allowed : E → Prop} (journaled : Journaled answer log) (performs : Performs allowed program)
    {world world' : W} {outcome : Outcome ε α} (run : Runs answer program world outcome world') :
    ∃ block, log world' = log world ++ block ∧ ∀ exchange ∈ block, allowed exchange.effect := by
  refine performs.preserves (fun state => ∃ block, log state = log world ++ block ∧ ∀ exchange ∈ block, allowed exchange.effect)
    ?_ run ⟨[], by simp⟩
  rintro state choice effect permitted ⟨block, logged, fine⟩
  refine ⟨block ++ [⟨effect, (answer state choice effect).1⟩], by rw [journaled, logged, List.append_assoc], ?_⟩
  intro exchange member
  rcases List.mem_append.mp member with earlier | last
  · exact fine exchange earlier
  · rw [List.mem_singleton.mp last]
    exact permitted

/-- A run without marked exchanges ends as the program does then. -/
theorem Barring.runs {marked : (effect : E) → R effect → Prop} {ends : Except ε α → Prop} (journaled : Journaled answer log)
    (barring : Barring marked ends program) {world world' : W} {outcome : Outcome ε α}
    (run : Runs answer program world outcome world') : ∃ block, log world' = log world ++ block ∧
      ((∀ exchange ∈ block, ¬marked exchange.effect exchange.reply) → ∀ value, outcome = .returned value → ends (.ok value)) := by
  induction program generalizing world with
  | done value =>
    obtain ⟨rfl, rfl⟩ := runs_done.mp run
    refine ⟨[], by simp, fun _ other same => ?_⟩
    exact Outcome.returned.inj same ▸ barring
  | fail error =>
    obtain ⟨rfl, rfl⟩ := runs_fail.mp run
    exact ⟨[], by simp, by simp⟩
  | ask effect next ih =>
    rcases runs_ask.mp run with ⟨rfl, rfl⟩ | ⟨choice, later⟩
    · exact ⟨[], by simp, by simp⟩
    · by_cases noted : marked effect (answer world choice effect).1
      · obtain ⟨block, logged, _⟩ := performs_exchanges journaled (performs_any (next (answer world choice effect).1)) later
        refine ⟨⟨effect, (answer world choice effect).1⟩ :: block, ?_, fun clean => ?_⟩
        · rw [logged, journaled, List.append_assoc]
          rfl
        · exact absurd noted (clean _ List.mem_cons_self)
      · obtain ⟨block, logged, ended⟩ := ih _ (barring _ noted) later
        refine ⟨⟨effect, (answer world choice effect).1⟩ :: block, ?_, fun clean => ended ?_⟩
        · rw [logged, journaled, List.append_assoc]
          rfl
        · exact fun exchange member => clean exchange (List.mem_cons_of_mem _ member)

end Logs

end VectorSeam.Typestates
