import Mathlib

/-!
State machines whose steps are chosen by an environment. `Reached` collects the states
of all runs in which every step was allowed; what holds at the start and is kept by
each allowed step holds in every one of them.
-/

namespace VectorSeam.Machines

variable {S A : Type}

/-- The states of the runs from a start in which each step was allowed where it was taken. -/
inductive Reached (step : S → A → Option S) (allowed : S → A → Prop) (start : S) : S → Prop where
  | start : Reached step allowed start start
  | step {state state' : S} (action : A) (earlier : Reached step allowed start state) (fits : allowed state action)
      (taken : step state action = some state') : Reached step allowed start state'

/-- Every step is allowed. -/
def Any : S → A → Prop := fun _ _ => True

/-- The state after a list of actions, if each of them can be taken. -/
def run (step : S → A → Option S) : S → List A → Option S
  | state, [] => some state
  | state, action :: actions =>
    match step state action with
    | none => none
    | some state' => run step state' actions

variable {step : S → A → Option S} {allowed allowed' : S → A → Prop} {start state state' : S}

/-- The rule of invariants; what was shown before may be used at each step. -/
theorem Reached.invariant {holds : S → Prop} (reached : Reached step allowed start state) (initial : holds start)
    (kept : ∀ state action state', Reached step allowed start state → holds state → allowed state action →
      step state action = some state' → holds state') : holds state := by
  induction reached with
  | start => exact initial
  | step action earlier fits taken ih => exact kept _ action _ earlier ih fits taken

theorem Reached.mono (reached : Reached step allowed start state) (weaker : ∀ state action, allowed state action →
    allowed' state action) : Reached step allowed' start state := by
  induction reached with
  | start => exact .start
  | step action earlier fits taken ih => exact .step action ih (weaker _ _ fits) taken

theorem Reached.any (reached : Reached step allowed start state) : Reached step Any start state :=
  reached.mono fun _ _ _ => trivial

theorem Reached.trans {middle : S} (first : Reached step allowed start middle)
    (second : Reached step allowed middle state) : Reached step allowed start state := by
  induction second with
  | start => exact first
  | step action earlier fits taken ih => exact .step action ih fits taken

/-- A list of actions that can be taken leads to a reached state. -/
theorem run_reaches {actions : List A} (ran : run step start actions = some state) : Reached step Any start state := by
  induction actions generalizing start with
  | nil =>
    obtain rfl := Option.some.inj ran
    exact .start
  | cons action actions ih =>
    unfold run at ran
    cases taken : step start action with
    | none => simp [taken] at ran
    | some middle =>
      rw [taken] at ran
      exact (Reached.step action .start trivial taken).trans (ih ran)

/-- Steps that also pass a check. -/
def guarded (step : S → A → Option S) (check : S → A → Bool) (state : S) (action : A) : Option S :=
  if check state action then step state action else none

/-- A run of checked steps is a run in which each step was allowed. -/
theorem guarded_reaches {check : S → A → Bool} {actions : List A} (ran : run (guarded step check) start actions = some state) :
    Reached step (fun state action => check state action = true) start state := by
  have reached := run_reaches ran
  clear ran
  induction reached with
  | start => exact .start
  | step action earlier _ taken ih =>
    obtain ⟨passes, taken⟩ := Option.ite_none_right_eq_some.mp taken
    exact .step action ih passes taken

/-! ### Measures -/

/-- What no step raises, and some steps lower, bounds how often these are taken. -/
theorem run_bounded {measure : S → Nat} {holds : S → Prop} {lowers : A → Bool}
    (kept : ∀ state action state', holds state → step state action = some state' →
      holds state' ∧ measure state' + (if lowers action then 1 else 0) ≤ measure state)
    {actions : List A} (initial : holds start) (ran : run step start actions = some state) :
    actions.countP lowers + measure state ≤ measure start := by
  induction actions generalizing start with
  | nil =>
    obtain rfl := Option.some.inj ran
    simp
  | cons action actions ih =>
    unfold run at ran
    cases taken : step start action with
    | none => simp [taken] at ran
    | some middle =>
      rw [taken] at ran
      obtain ⟨held, fewer⟩ := kept start action middle initial taken
      have rest := ih held ran
      rw [List.countP_cons]
      omega

/-- Where a run can always lower a measure, a run leads to the end. -/
theorem reaches_end {holds ended : S → Prop} (measure : S → Nat)
    (kept : ∀ state state', holds state → Reached step allowed state state' → holds state')
    (progress : ∀ state, holds state → ¬ended state → ∃ state', Reached step allowed state state' ∧ measure state' < measure state)
    (state : S) (initial : holds state) : ∃ state', Reached step allowed state state' ∧ ended state' := by
  induction lower : measure state using Nat.strong_induction_on generalizing state with
  | _ bound ih =>
    by_cases over_ : ended state
    · exact ⟨state, .start, over_⟩
    · obtain ⟨middle, reached, less⟩ := progress state initial over_
      obtain ⟨last, further, over_⟩ := ih (measure middle) (lower ▸ less) middle (kept state middle initial reached) rfl
      exact ⟨last, reached.trans further, over_⟩

end VectorSeam.Machines
