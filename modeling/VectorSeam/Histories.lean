import Mathlib

/-!
Logs read as histories. `Always good log` says that every event was good given the
events before it; it is built up one event, or one block of events, at a time.
-/

namespace VectorSeam.Histories

variable {E : Type}

/-- Every event of the log was good when it was appended. -/
def Always (good : List E → E → Prop) (log : List E) : Prop :=
  ∀ before event after, log = before ++ event :: after → good before event

variable {good good' : List E → E → Prop}

theorem always_nil : Always good [] := by
  intro before event after split
  cases before <;> cases split

theorem always_snoc {log : List E} {event : E} : Always good (log ++ [event]) ↔ Always good log ∧ good log event := by
  constructor
  · intro always
    refine ⟨fun before other after split => ?_, always log event [] rfl⟩
    exact always before other (after ++ [event]) (by simp [split])
  · rintro ⟨always, last⟩ before other after split
    rcases List.eq_nil_or_concat after with rfl | ⟨front, final, rfl⟩
    · obtain ⟨rfl, same⟩ := List.append_inj' split rfl
      obtain rfl := (List.cons.inj same).1
      exact last
    · have shape : log ++ [event] = (before ++ other :: front) ++ [final] := by simpa using split
      obtain ⟨same, _⟩ := List.append_inj' shape rfl
      exact always before other front same

/-- A block of events each of which is good after any log. -/
theorem Always.append {log block : List E} (always : Always good log)
    (fine : ∀ event ∈ block, ∀ before, log <+: before → good before event) : Always good (log ++ block) := by
  induction block using List.reverseRecOn with
  | nil => simpa using always
  | append_singleton front event ih =>
    rw [← List.append_assoc, always_snoc]
    refine ⟨ih fun other member => fine other (by simp [member]), fine event (by simp) _ (List.prefix_append _ _)⟩

theorem Always.mono {log : List E} (always : Always good log) (weaker : ∀ before event, good before event → good' before event) :
    Always good' log :=
  fun before event after split => weaker before event (always before event after split)

end VectorSeam.Histories
