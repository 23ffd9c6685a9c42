import VectorSeam.Programs

/-!
Programs interpreted by programs. A handler answers the effects of one program by programs
over other effects, and carries a state along. A triple says how the runs of a program end.
What every answer of a handler keeps, the interpreted program keeps; and where every answer
is one that another environment could have given, the interpreted program simulates the
program in that environment.
-/

namespace VectorSeam.Handlers
open VectorSeam.Programs

variable {E F : Type} {R : E → Type} {Q : F → Type} {ε δ α β S W A C D : Type}

/-- Interprets a program from a state of the handler; its failure becomes a value. -/
def serve (handler : S → (effect : E) → Prog F Q δ (R effect × S)) : Prog E R ε α → S → Prog F Q δ (Except ε α × S)
  | .done value, state => pure (.ok value, state)
  | .fail error, state => pure (.error error, state)
  | .ask effect next, state => do
    let answered ← handler state effect
    serve handler (next answered.1) answered.2

/-! ### Triples -/

/-- How a run ends: with a value as specified, or before that in a state that is kept. -/
def Ends (post : α → W → Prop) (kept : W → Prop) : Outcome δ α → W → Prop
  | .returned value, state => post value state
  | .failed _, state => kept state
  | .stopped, state => kept state

def Triple (answer : W → D → (effect : F) → Q effect × W) (pre : W → Prop) (program : Prog F Q δ α)
    (post : α → W → Prop) (kept : W → Prop) : Prop :=
  ∀ state outcome state', pre state → Runs answer program state outcome state' → Ends post kept outcome state'

section Triples
variable {answer : W → D → (effect : F) → Q effect × W} {pre pre' kept kept' : W → Prop} {post post' : α → W → Prop}
  {program : Prog F Q δ α}

theorem ends_of {outcome : Outcome δ α} {state : W} (value : ∀ value, outcome = .returned value → post value state)
    (early : kept state) : Ends post kept outcome state := by
  cases outcome with
  | returned returned => exact value returned rfl
  | failed error => exact early
  | stopped => exact early

theorem Ends.mono {outcome : Outcome δ α} {state : W} (ends : Ends post kept outcome state)
    (value : ∀ value state, post value state → post' value state) (early : ∀ state, kept state → kept' state) :
    Ends post' kept' outcome state := by
  cases outcome with
  | returned returned => exact value returned state ends
  | failed error => exact early state ends
  | stopped => exact early state ends

theorem Triple.weaken (triple : Triple answer pre program post kept) (before : ∀ state, pre' state → pre state)
    (value : ∀ value state, post value state → post' value state) (early : ∀ state, kept state → kept' state) :
    Triple answer pre' program post' kept' := by
  intro state outcome state' start run
  exact (triple state outcome state' (before state start) run).mono value early

/-- A triple may be proved for each state that it starts from. -/
theorem triple_from (each : ∀ state, pre state → Triple answer (· = state) program post kept) :
    Triple answer pre program post kept := by
  intro state outcome state' start run
  exact each state start state outcome state' rfl run

theorem triple_pure {value : α} (holds : ∀ state, pre state → post value state) :
    Triple answer pre (pure value : Prog F Q δ α) post kept := by
  intro state outcome state' start run
  obtain ⟨rfl, rfl⟩ := runs_pure.mp run
  exact holds _ start

theorem triple_perform {effect : F} {post : Q effect → W → Prop} (stays : ∀ state, pre state → kept state)
    (holds : ∀ state choice, pre state → post (answer state choice effect).1 (answer state choice effect).2) :
    Triple answer pre (Prog.perform effect : Prog F Q δ (Q effect)) post kept := by
  intro state outcome state' start run
  rcases runs_perform.mp run with ⟨rfl, rfl⟩ | ⟨choice, rfl, rfl⟩
  · exact stays _ start
  · exact holds state choice start

/-- The bind rule; `middle` is what holds between the two parts. -/
theorem triple_bind {after : β → W → Prop} {next : α → Prog F Q δ β} (middle : α → W → Prop)
    (first : Triple answer pre program middle kept) (second : ∀ value, Triple answer (middle value) (next value) after kept) :
    Triple answer pre (program >>= next) after kept := by
  intro state outcome state' start run
  rcases runs_bind.mp run with ⟨value, between, early, late⟩ | ⟨error, early, rfl⟩ | ⟨early, rfl⟩
  · exact second value between outcome state' (first state _ between start early) late
  · exact first state _ state' start early
  · exact first state _ state' start early

end Triples

theorem performs_attempt {ε' : Type} {allowed : F → Prop} {program : Prog F Q ε α} (performs : Performs allowed program) :
    Performs allowed (program.attempt : Prog F Q ε' (Except ε α)) := by
  induction program with
  | done value => trivial
  | fail error => trivial
  | ask effect next ih => exact ⟨performs.1, fun reply => ih reply (performs.2 reply)⟩

/-! ### Interpreted programs -/

section Served
variable {handler : S → (effect : E) → Prog F Q δ (R effect × S)} {answer : W → D → (effect : F) → Q effect × W}

/-- An interpreted program performs what its handler performs. -/
theorem performs_serve {reached : F → Prop} {allowed : E → Prop} {program : Prog E R ε α} (performs : Performs allowed program)
    (each : ∀ state effect, allowed effect → Performs reached (handler state effect)) (state : S) :
    Performs reached (serve handler program state) := by
  induction program generalizing state with
  | done value => trivial
  | fail error => trivial
  | ask effect next ih =>
    exact performs_bind (each state effect performs.1) fun answered => ih answered.1 (performs.2 answered.1) answered.2

/-- The outcome that a result stands for. -/
def ending : Except ε α → Outcome ε α
  | .ok value => .returned value
  | .error error => .failed error

/-- A program interpreted in one environment is a run of the program in another, as far as it gets. -/
theorem serve_simulates {answer' : A → C → (effect : E) → R effect × A} (related : S → W → A → Prop) {kept : W → A → Prop}
    (each : ∀ state effect world image, related state world image →
      Triple answer (· = world) (handler state effect)
        (fun answered world' => ∃ choice, (answer' image choice effect).1 = answered.1 ∧
          related answered.2 world' (answer' image choice effect).2)
        (kept · image))
    (program : Prog E R ε α) (state : S) {world : W} {image : A} (start : related state world image) :
    Triple answer (· = world) (serve handler program state)
      (fun result world' => ∃ image', Runs answer' program image (ending result.1) image' ∧ related result.2 world' image')
      (fun world' => ∃ image', Runs answer' program image .stopped image' ∧ kept world' image') := by
  induction program generalizing state world image with
  | done value =>
    refine triple_pure ?_
    rintro _ rfl
    exact ⟨image, runs_done.mpr ⟨rfl, rfl⟩, start⟩
  | fail error =>
    refine triple_pure ?_
    rintro _ rfl
    exact ⟨image, runs_fail.mpr ⟨rfl, rfl⟩, start⟩
  | ask effect next ih =>
    refine triple_bind _ ((each state effect world image start).weaken (fun _ here => here) (fun _ _ holds => holds) ?_) ?_
    · intro world' holds
      exact ⟨image, runs_ask.mpr (.inl ⟨rfl, rfl⟩), holds⟩
    · intro answered
      refine triple_from ?_
      rintro between ⟨choice, same, later⟩
      refine (ih answered.1 answered.2 later).weaken (fun _ here => here) ?_ ?_
      · rintro result world' ⟨image', run, ended⟩
        exact ⟨image', runs_ask.mpr (.inr ⟨choice, same ▸ run⟩), ended⟩
      · rintro world' ⟨image', run, ended⟩
        exact ⟨image', runs_ask.mpr (.inr ⟨choice, same ▸ run⟩), ended⟩

end Served

end VectorSeam.Handlers
