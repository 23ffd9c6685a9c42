import Mathlib

/-!
Sequential programs over an environment that answers their effects. A schedule fixes
the environment's choices, one for each effect; when it runs out, the program has
been stopped there, which is how a crash between two effects is modelled. Runs are
taken apart by the bind rule, and `Performs` bounds the effects a program can reach.
-/

namespace VectorSeam.Programs

/-- A program over effects `E` answered in `R`, failing with `ε` or returning `α`. -/
inductive Prog (E : Type) (R : E → Type) (ε α : Type) where
  | done (value : α)
  | fail (error : ε)
  | ask (effect : E) (next : R effect → Prog E R ε α)

/-- How a run ended. -/
inductive Outcome (ε α : Type) where
  | returned (value : α)
  | failed (error : ε)
  | stopped
deriving DecidableEq

variable {E : Type} {R : E → Type} {ε α β S C : Type}

namespace Prog

def bind : Prog E R ε α → (α → Prog E R ε β) → Prog E R ε β
  | done value, next => next value
  | fail error, _ => fail error
  | ask effect after, next => ask effect fun reply => (after reply).bind next

instance : Monad (Prog E R ε) where
  pure := done
  bind := bind

theorem bind_done (program : Prog E R ε α) : program.bind done = program := by
  induction program with
  | done value => rfl
  | fail error => rfl
  | ask effect after ih => exact congrArg (ask effect) (funext ih)

theorem bind_bind {γ : Type} (program : Prog E R ε α) (next : α → Prog E R ε β) (last : β → Prog E R ε γ) :
    (program.bind next).bind last = program.bind fun value => (next value).bind last := by
  induction program with
  | done value => rfl
  | fail error => rfl
  | ask effect after ih => exact congrArg (ask effect) (funext ih)

instance : LawfulMonad (Prog E R ε) := LawfulMonad.mk' _ bind_done (fun _ _ => rfl) bind_bind

/-- One effect. -/
def perform (effect : E) : Prog E R ε (R effect) := ask effect done
/-- A pure computation. -/
def lift : Except ε α → Prog E R ε α
  | .ok value => done value
  | .error error => fail error

/-- The program with its failures renamed. -/
def mapError {ε' : Type} (rename : ε → ε') : Prog E R ε α → Prog E R ε' α
  | done value => done value
  | fail error => fail (rename error)
  | ask effect next => ask effect fun reply => (next reply).mapError rename

/-- The program with its failure as a value. -/
def attempt {ε' : Type} : Prog E R ε α → Prog E R ε' (Except ε α)
  | done value => done (.ok value)
  | fail error => done (.error error)
  | ask effect next => ask effect fun reply => (next reply).attempt

/-- Runs a program against an environment, one choice for each effect. -/
def exec (answer : S → C → (effect : E) → R effect × S) : Prog E R ε α → S → List C → Outcome ε α × S
  | done value, state, _ => (.returned value, state)
  | fail error, state, _ => (.failed error, state)
  | ask _ _, state, [] => (.stopped, state)
  | ask effect next, state, choice :: choices =>
    exec answer (next (answer state choice effect).1) (answer state choice effect).2 choices

end Prog

open Prog

/-- Some schedule takes the program from `state` to `outcome` and `state'`. -/
def Runs (answer : S → C → (effect : E) → R effect × S) (program : Prog E R ε α) (state : S) (outcome : Outcome ε α)
    (state' : S) : Prop := ∃ choices, program.exec answer state choices = (outcome, state')

section Runs
variable {answer : S → C → (effect : E) → R effect × S} {state state' : S} {outcome : Outcome ε β}

theorem runs_done {value : β} : Runs answer (done value) state outcome state' ↔
    outcome = .returned value ∧ state' = state := by
  constructor
  · rintro ⟨choices, run⟩
    cases run
    exact ⟨rfl, rfl⟩
  · rintro ⟨rfl, rfl⟩
    exact ⟨[], rfl⟩

theorem runs_pure {value : β} : Runs answer (pure value) state outcome state' ↔
    outcome = .returned value ∧ state' = state := runs_done

theorem runs_fail {error : ε} : Runs answer (fail error : Prog E R ε β) state outcome state' ↔
    outcome = .failed error ∧ state' = state := by
  constructor
  · rintro ⟨choices, run⟩
    cases run
    exact ⟨rfl, rfl⟩
  · rintro ⟨rfl, rfl⟩
    exact ⟨[], rfl⟩

/-- A program about to perform an effect is stopped there, or goes on from some answer. -/
theorem runs_ask {effect : E} {next : R effect → Prog E R ε β} :
    Runs answer (ask effect next) state outcome state' ↔
      outcome = .stopped ∧ state' = state ∨
        ∃ choice, Runs answer (next (answer state choice effect).1) (answer state choice effect).2 outcome state' := by
  constructor
  · rintro ⟨choices, run⟩
    cases choices with
    | nil => cases run; exact .inl ⟨rfl, rfl⟩
    | cons choice choices => exact .inr ⟨choice, choices, run⟩
  · rintro (⟨rfl, rfl⟩ | ⟨choice, choices, run⟩)
    · exact ⟨[], rfl⟩
    · exact ⟨choice :: choices, run⟩

theorem runs_lift {result : Except ε β} : Runs answer (lift result) state outcome state' ↔
    state' = state ∧ ((∃ value, result = .ok value ∧ outcome = .returned value) ∨
      ∃ error, result = .error error ∧ outcome = .failed error) := by
  cases result with
  | ok value => rw [lift, runs_done]; simp [and_comm]
  | error error => rw [lift, runs_fail]; simp [and_comm]

theorem runs_perform {effect : E} {outcome : Outcome ε (R effect)} :
    Runs answer (perform effect : Prog E R ε (R effect)) state outcome state' ↔
      outcome = .stopped ∧ state' = state ∨
        ∃ choice, outcome = .returned (answer state choice effect).1 ∧ state' = (answer state choice effect).2 := by
  simp only [perform, runs_ask, runs_done]

/-- The bind rule: the first part returns and the second runs on, or the first part ends the run. -/
theorem runs_bind {program : Prog E R ε α} {next : α → Prog E R ε β} :
    Runs answer (program >>= next) state outcome state' ↔
      (∃ value middle, Runs answer program state (.returned value) middle ∧
        Runs answer (next value) middle outcome state') ∨
      (∃ error, Runs answer program state (.failed error) state' ∧ outcome = .failed error) ∨
      (Runs answer program state .stopped state' ∧ outcome = .stopped) := by
  change Runs answer (program.bind next) state outcome state' ↔ _
  induction program generalizing state with
  | done value => simp [Prog.bind, runs_done]
  | fail error => simp [Prog.bind, runs_fail, and_comm]
  | ask effect after ih =>
    simp only [Prog.bind, runs_ask, ih, reduceCtorEq, false_and, false_or, true_and]
    constructor
    · rintro (⟨rfl, rfl⟩ | ⟨choice, ⟨value, middle, first, second⟩ | ⟨error, first, rfl⟩ | ⟨first, rfl⟩⟩)
      · exact .inr (.inr ⟨.inl rfl, rfl⟩)
      · exact .inl ⟨value, middle, ⟨choice, first⟩, second⟩
      · exact .inr (.inl ⟨error, ⟨choice, first⟩, rfl⟩)
      · exact .inr (.inr ⟨.inr ⟨choice, first⟩, rfl⟩)
    · rintro (⟨value, middle, ⟨choice, first⟩, second⟩ | ⟨error, ⟨choice, first⟩, rfl⟩ | ⟨rfl | ⟨choice, first⟩, rfl⟩)
      · exact .inr ⟨choice, .inl ⟨value, middle, first, second⟩⟩
      · exact .inr ⟨choice, .inr (.inl ⟨error, first, rfl⟩)⟩
      · exact .inl ⟨rfl, rfl⟩
      · exact .inr ⟨choice, .inr (.inr ⟨first, rfl⟩)⟩

/-- Both parts of a sequence that returned have returned. -/
theorem runs_bind_returned {program : Prog E R ε α} {next : α → Prog E R ε β} {value : β} :
    Runs answer (program >>= next) state (.returned value) state' ↔
      ∃ first middle, Runs answer program state (.returned first) middle ∧
        Runs answer (next first) middle (.returned value) state' := by
  rw [runs_bind]
  simp

theorem runs_mapError {ε' : Type} {rename : ε → ε'} {program : Prog E R ε β} {outcome : Outcome ε' β} :
    Runs answer (program.mapError rename) state outcome state' ↔
      (∃ value, Runs answer program state (.returned value) state' ∧ outcome = .returned value) ∨
      (∃ error, Runs answer program state (.failed error) state' ∧ outcome = .failed (rename error)) ∨
      (Runs answer program state .stopped state' ∧ outcome = .stopped) := by
  induction program generalizing state with
  | done value => simp [mapError, runs_done, and_comm]
  | fail error => simp [mapError, runs_fail, and_comm]
  | ask effect next ih =>
    simp only [mapError, runs_ask, ih, reduceCtorEq, false_and, false_or, true_and]
    constructor
    · rintro (⟨rfl, rfl⟩ | ⟨choice, ⟨value, run, rfl⟩ | ⟨error, run, rfl⟩ | ⟨run, rfl⟩⟩)
      · exact .inr (.inr ⟨.inl rfl, rfl⟩)
      · exact .inl ⟨value, ⟨choice, run⟩, rfl⟩
      · exact .inr (.inl ⟨error, ⟨choice, run⟩, rfl⟩)
      · exact .inr (.inr ⟨.inr ⟨choice, run⟩, rfl⟩)
    · rintro (⟨value, ⟨choice, run⟩, rfl⟩ | ⟨error, ⟨choice, run⟩, rfl⟩ | ⟨rfl | ⟨choice, run⟩, rfl⟩)
      · exact .inr ⟨choice, .inl ⟨value, run, rfl⟩⟩
      · exact .inr ⟨choice, .inr (.inl ⟨error, run, rfl⟩)⟩
      · exact .inl ⟨rfl, rfl⟩
      · exact .inr ⟨choice, .inr (.inr ⟨run, rfl⟩)⟩

end Runs

/-! ### Effects a program can reach -/

/-- Every effect the program can perform, whatever it is answered, satisfies `allowed`. -/
def Performs (allowed : E → Prop) : Prog E R ε α → Prop
  | done _ => True
  | fail _ => True
  | ask effect next => allowed effect ∧ ∀ reply, Performs allowed (next reply)

section Performs
variable {allowed : E → Prop}

theorem performs_pure {value : α} : Performs allowed (pure value : Prog E R ε α) := trivial

theorem performs_lift {result : Except ε α} : Performs allowed (lift result : Prog E R ε α) := by
  cases result <;> trivial

theorem performs_perform {effect : E} (holds : allowed effect) :
    Performs allowed (perform effect : Prog E R ε (R effect)) := ⟨holds, fun _ => trivial⟩

theorem performs_bind {program : Prog E R ε α} {next : α → Prog E R ε β} (first : Performs allowed program)
    (second : ∀ value, Performs allowed (next value)) : Performs allowed (program >>= next) := by
  change Performs allowed (program.bind next)
  induction program with
  | done value => exact second value
  | fail error => trivial
  | ask effect after ih => exact ⟨first.1, fun reply => ih reply (first.2 reply)⟩

theorem performs_mapError {ε' : Type} {rename : ε → ε'} {program : Prog E R ε α} (performs : Performs allowed program) :
    Performs allowed (program.mapError rename) := by
  induction program with
  | done value => trivial
  | fail error => trivial
  | ask effect after ih => exact ⟨performs.1, fun reply => ih reply (performs.2 reply)⟩

theorem Performs.mono {allowed' : E → Prop} {program : Prog E R ε α} (performs : Performs allowed program)
    (weaker : ∀ effect, allowed effect → allowed' effect) : Performs allowed' program := by
  induction program with
  | done value => trivial
  | fail error => trivial
  | ask effect after ih => exact ⟨weaker effect performs.1, fun reply => ih reply (performs.2 reply)⟩

theorem performs_any (program : Prog E R ε α) : Performs (fun _ => True) program := by
  induction program with
  | done value => trivial
  | fail error => trivial
  | ask effect after ih => exact ⟨trivial, ih⟩

/-- A relation between the states before and after that every allowed effect extends holds across a run. -/
theorem Performs.preserves {answer : S → C → (effect : E) → R effect × S} {program : Prog E R ε α} {state state' : S}
    {outcome : Outcome ε α} (performs : Performs allowed program) (invariant : S → Prop)
    (step : ∀ state choice effect, allowed effect → invariant state → invariant (answer state choice effect).2)
    (run : Runs answer program state outcome state') (start : invariant state) : invariant state' := by
  induction program generalizing state with
  | done value => obtain ⟨_, rfl⟩ := runs_done.mp run; exact start
  | fail error => obtain ⟨_, rfl⟩ := runs_fail.mp run; exact start
  | ask effect after ih =>
    rcases runs_ask.mp run with ⟨_, rfl⟩ | ⟨choice, later⟩
    · exact start
    · exact ih _ (performs.2 _) later (step state choice effect performs.1 start)

end Performs

/-! ### Errors a program can raise -/

/-- Every error the program can fail with, whatever it is answered, satisfies `allowed`. -/
def Raises (allowed : ε → Prop) : Prog E R ε α → Prop
  | done _ => True
  | fail error => allowed error
  | ask _ next => ∀ reply, Raises allowed (next reply)

section Raises
variable {allowed : ε → Prop}

theorem raises_pure {value : α} : Raises allowed (pure value : Prog E R ε α) := trivial

theorem raises_perform {effect : E} : Raises allowed (perform effect : Prog E R ε (R effect)) := fun _ => trivial

theorem raises_bind {program : Prog E R ε α} {next : α → Prog E R ε β} (first : Raises allowed program)
    (second : ∀ value, Raises allowed (next value)) : Raises allowed (program >>= next) := by
  change Raises allowed (program.bind next)
  induction program with
  | done value => exact second value
  | fail error => exact first
  | ask effect after ih => exact fun reply => ih reply (first reply)

theorem raises_mapError {ε' : Type} {allowed' : ε' → Prop} {rename : ε → ε'} (program : Prog E R ε α)
    (each : ∀ error, allowed' (rename error)) : Raises allowed' (program.mapError rename) := by
  induction program with
  | done value => trivial
  | fail error => exact each error
  | ask effect after ih => exact ih

/-- A run that failed did so with an error that the program can raise. -/
theorem Raises.runs {answer : S → C → (effect : E) → R effect × S} {program : Prog E R ε α} {state state' : S} {error : ε}
    (raises : Raises allowed program) (run : Runs answer program state (.failed error) state') : allowed error := by
  induction program generalizing state with
  | done value => cases (runs_done.mp run).1
  | fail raised =>
    cases (runs_fail.mp run).1
    exact raises
  | ask effect after ih =>
    rcases runs_ask.mp run with ⟨same, _⟩ | ⟨choice, later⟩
    · cases same
    · exact ih _ (raises _) later

end Raises

/-! ### Effects and results under possible replies -/

/-- As long as replies are possible, every effect is allowed and a returned value satisfies `post`. -/
def Safe (possible : (effect : E) → R effect → Prop) (allowed : E → Prop) (post : α → Prop) : Prog E R ε α → Prop
  | done value => post value
  | fail _ => True
  | ask effect next => allowed effect ∧ ∀ reply, possible effect reply → Safe possible allowed post (next reply)

section Safe
variable {possible : (effect : E) → R effect → Prop} {allowed : E → Prop} {post : α → Prop} {program : Prog E R ε α}

theorem safe_pure {value : α} (holds : post value) : Safe possible allowed post (pure value : Prog E R ε α) := holds

theorem safe_lift {result : Except ε α} (holds : ∀ value, result = .ok value → post value) :
    Safe possible allowed post (lift result : Prog E R ε α) := by
  cases result with
  | ok value => exact holds value rfl
  | error error => trivial

theorem safe_bind {middle : α → Prop} {after : β → Prop} {next : α → Prog E R ε β} (first : Safe possible allowed middle program)
    (second : ∀ value, middle value → Safe possible allowed after (next value)) :
    Safe possible allowed after (program >>= next) := by
  change Safe possible allowed after (program.bind next)
  induction program with
  | done value => exact second value first
  | fail error => trivial
  | ask effect later ih => exact ⟨first.1, fun reply fine => ih reply (first.2 reply fine)⟩

theorem safe_perform_bind {after : β → Prop} {effect : E} {next : R effect → Prog E R ε β} (holds : allowed effect)
    (second : ∀ reply, possible effect reply → Safe possible allowed after (next reply)) :
    Safe possible allowed after ((perform effect : Prog E R ε (R effect)) >>= next) := ⟨holds, second⟩

theorem safe_mapError {ε' : Type} {rename : ε → ε'} (safe : Safe possible allowed post program) :
    Safe possible allowed post (program.mapError rename) := by
  induction program with
  | done value => exact safe
  | fail error => trivial
  | ask effect later ih => exact ⟨safe.1, fun reply fine => ih reply (safe.2 reply fine)⟩

theorem safe_attempt {ε' : Type} (safe : Safe possible allowed post program) :
    Safe possible allowed (fun result => ∀ value, result = .ok value → post value)
      (program.attempt : Prog E R ε' (Except ε α)) := by
  induction program with
  | done value =>
    intro other same
    obtain rfl := Except.ok.inj same
    exact safe
  | fail error =>
    intro other same
    cases same
  | ask effect later ih => exact ⟨safe.1, fun reply fine => ih reply (safe.2 reply fine)⟩

theorem Performs.safe (performs : Performs allowed program) : Safe possible allowed (fun _ => True) program := by
  induction program with
  | done value => trivial
  | fail error => trivial
  | ask effect later ih => exact ⟨performs.1, fun reply _ => ih reply (performs.2 reply)⟩

/-- A run that only gets possible replies keeps what the allowed effects keep, and returns a value as specified. -/
theorem Safe.runs {answer : S → C → (effect : E) → R effect × S} {state state' : S} {outcome : Outcome ε α}
    (safe : Safe possible allowed post program) (replies : ∀ state choice effect, possible effect (answer state choice effect).1)
    (invariant : S → Prop)
    (step : ∀ state choice effect, allowed effect → invariant state → invariant (answer state choice effect).2)
    (run : Runs answer program state outcome state') (start : invariant state) :
    invariant state' ∧ ∀ value, outcome = .returned value → post value := by
  induction program generalizing state with
  | done value =>
    obtain ⟨rfl, rfl⟩ := runs_done.mp run
    exact ⟨start, fun other same => Outcome.returned.inj same ▸ safe⟩
  | fail error =>
    obtain ⟨rfl, rfl⟩ := runs_fail.mp run
    exact ⟨start, fun other same => nomatch same⟩
  | ask effect later ih =>
    rcases runs_ask.mp run with ⟨rfl, rfl⟩ | ⟨choice, rest⟩
    · exact ⟨start, fun other same => nomatch same⟩
    · exact ih _ (safe.2 _ (replies state choice effect)) rest (step state choice effect safe.1 start)

end Safe
end VectorSeam.Programs
