import Mathlib

/-!
Computations that can also panic: reading a range of a list that is not inside it, or
running out of the turns a loop was given. `Agrees` says that such a computation never
panics and that it returns what a plain one returns.
-/

namespace VectorSeam.Panics

variable {α β γ ε : Type}

/-- A fallible computation that panics as `none`. -/
abbrev Panicking (ε α : Type) := ExceptT ε Option α

/-- The end of a computation that does not return. -/
def panicked : Panicking ε α := ExceptT.mk none
def plain (outcome : Except ε α) : Panicking ε α := ExceptT.mk (some outcome)
/-- The elements from one index up to another, which must be ordered and inside the list. -/
def index_range (items : List α) (start finish : Nat) : Panicking ε (List α) :=
  if start ≤ finish ∧ finish ≤ items.length then pure ((items.take finish).drop start) else panicked

/-- The computation does not panic and has the given outcome. -/
def Agrees (computed : Panicking ε α) (outcome : Except ε α) : Prop := computed = plain outcome

theorem agrees_plain (outcome : Except ε α) : Agrees (plain outcome) outcome := rfl

theorem agrees_pure (value : α) : Agrees (pure value : Panicking ε α) (pure value) := rfl

theorem agrees_throw (error : ε) : Agrees (throw error : Panicking ε α) (throw error) := rfl

theorem agrees_bind {first : Panicking ε α} {outcome : Except ε α} {next : α → Panicking ε β} {later : α → Except ε β}
    (before : Agrees first outcome) (after : ∀ value, outcome = .ok value → Agrees (next value) (later value)) :
    Agrees (first >>= next) (outcome >>= later) := by
  unfold Agrees at before
  subst before
  cases outcome with
  | error error => rfl
  | ok value => exact after value rfl

/-- A range inside the list is read like any other value. -/
theorem agrees_index {items : List γ} {start finish : Nat} {next : List γ → Panicking ε β} {outcome : Except ε β}
    (ordered : start ≤ finish) (inside : finish ≤ items.length)
    (after : Agrees (next ((items.take finish).drop start)) outcome) :
    Agrees (index_range items start finish >>= next) outcome := by
  rw [index_range, if_pos ⟨ordered, inside⟩, pure_bind]
  exact after

theorem agrees_guard {condition : Prop} [Decidable condition] {error : ε} {next : Panicking ε β} {later : Except ε β}
    (after : ¬condition → Agrees next later) :
    Agrees (if condition then (throw error >>= fun _ : PUnit => next) else next)
      (if condition then (throw error >>= fun _ : PUnit => later) else later) := by
  by_cases thrown : condition
  · rw [if_pos thrown, if_pos thrown]
    rfl
  · rw [if_neg thrown, if_neg thrown]
    exact after thrown

end VectorSeam.Panics
