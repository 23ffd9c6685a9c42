import VectorSeam.Programs

/-!
Two programs over two environments, run side by side. A program simulates another when
each run of the first is matched by one of the second that ends alike, from related
states to related states. Programs that only perform effects which both environments
answer the same simulate themselves.
-/

namespace VectorSeam.Simulations
open VectorSeam.Programs

variable {E : Type} {R : E → Type} {ε α β α' β' S C S' C' : Type}

/-- Both returned related values, failed with one error, or were stopped. -/
inductive Alike (post : α → β → Prop) : Outcome ε α → Outcome ε β → Prop where
  | returned {value : α} {value' : β} (same : post value value') : Alike post (.returned value) (.returned value')
  | failed (error : ε) : Alike post (.failed error) (.failed error)
  | stopped : Alike post .stopped .stopped

theorem Alike.eq {outcome outcome' : Outcome ε α} (alike : Alike Eq outcome outcome') : outcome = outcome' := by
  cases alike with
  | returned same => rw [same]
  | failed error => rfl
  | stopped => rfl

/-- Each run of the first program is matched by a run of the second. -/
def Simulates (answer : S → C → (effect : E) → R effect × S) (answer' : S' → C' → (effect : E) → R effect × S')
    (related : S → S' → Prop) (post : α → β → Prop) (program : Prog E R ε α) (program' : Prog E R ε β) : Prop :=
  ∀ state other outcome state', related state other → Runs answer program state outcome state' →
    ∃ outcome' other', Runs answer' program' other outcome' other' ∧ related state' other' ∧ Alike post outcome outcome'

section Rules
variable {answer : S → C → (effect : E) → R effect × S} {answer' : S' → C' → (effect : E) → R effect × S'}
  {related : S → S' → Prop} {post : α → β → Prop}

theorem simulates_pure {value : α} {value' : β} (same : post value value') :
    Simulates answer answer' related post (pure value : Prog E R ε α) (pure value') := by
  intro state other outcome state' start run
  obtain ⟨rfl, rfl⟩ := runs_pure.mp run
  exact ⟨_, _, runs_pure.mpr ⟨rfl, rfl⟩, start, .returned same⟩

theorem simulates_fail {error : ε} :
    Simulates answer answer' related post (Prog.fail error : Prog E R ε α) (Prog.fail error) := by
  intro state other outcome state' start run
  obtain ⟨rfl, rfl⟩ := runs_fail.mp run
  exact ⟨_, _, runs_fail.mpr ⟨rfl, rfl⟩, start, .failed error⟩

theorem simulates_bind {program : Prog E R ε α} {program' : Prog E R ε β} {next : α → Prog E R ε α'}
    {next' : β → Prog E R ε β'} {after : α' → β' → Prop} (first : Simulates answer answer' related post program program')
    (second : ∀ value value', post value value' → Simulates answer answer' related after (next value) (next' value')) :
    Simulates answer answer' related after (program >>= next) (program' >>= next') := by
  intro state other outcome state' start run
  rcases runs_bind.mp run with ⟨value, middle, head, tail⟩ | ⟨error, head, rfl⟩ | ⟨head, rfl⟩
  · obtain ⟨_, between, head', related', alike⟩ := first _ _ _ _ start head
    cases alike with
    | returned same =>
      obtain ⟨outcome', other', tail', last, ends⟩ := second _ _ same _ _ _ _ related' tail
      exact ⟨outcome', other', runs_bind.mpr (.inl ⟨_, between, head', tail'⟩), last, ends⟩
  · obtain ⟨_, other', head', related', alike⟩ := first _ _ _ _ start head
    cases alike with
    | failed => exact ⟨_, other', runs_bind.mpr (.inr (.inl ⟨error, head', rfl⟩)), related', .failed error⟩
  · obtain ⟨_, other', head', related', alike⟩ := first _ _ _ _ start head
    cases alike with
    | stopped => exact ⟨_, other', runs_bind.mpr (.inr (.inr ⟨head', rfl⟩)), related', .stopped⟩

theorem Simulates.mono {weaker : α → β → Prop} {program : Prog E R ε α} {program' : Prog E R ε β}
    (simulates : Simulates answer answer' related post program program')
    (weaken : ∀ value value', post value value' → weaker value value') :
    Simulates answer answer' related weaker program program' := by
  intro state other outcome state' start run
  obtain ⟨outcome', other', run', last, alike⟩ := simulates _ _ _ _ start run
  refine ⟨outcome', other', run', last, ?_⟩
  cases alike with
  | returned same => exact .returned (weaken _ _ same)
  | failed error => exact .failed error
  | stopped => exact .stopped

/-- Answers to one effect that can be given together. -/
def Answers (answer : S → C → (effect : E) → R effect × S) (answer' : S' → C' → (effect : E) → R effect × S')
    (related : S → S' → Prop) (effect : E) (same : R effect → R effect → Prop) : Prop :=
  ∀ state other choice, related state other → ∃ choice', related (answer state choice effect).2 (answer' other choice' effect).2 ∧
    same (answer state choice effect).1 (answer' other choice' effect).1

theorem simulates_perform {effect : E} {same : R effect → R effect → Prop}
    (answers : Answers answer answer' related effect same) :
    Simulates answer answer' related same (Prog.perform effect : Prog E R ε (R effect)) (Prog.perform effect) := by
  intro state other outcome state' start run
  rcases runs_perform.mp run with ⟨rfl, rfl⟩ | ⟨choice, rfl, rfl⟩
  · exact ⟨_, _, runs_perform.mpr (.inl ⟨rfl, rfl⟩), start, .stopped⟩
  · obtain ⟨choice', after, replies⟩ := answers state other choice start
    exact ⟨_, _, runs_perform.mpr (.inr ⟨choice', rfl, rfl⟩), after, .returned replies⟩

/-- A program whose effects are all answered the same simulates itself. -/
theorem simulates_safe {allowed : E → Prop} {holds : α → Prop} {program : Prog E R ε α}
    (safe : Safe (fun _ _ => True) allowed holds program)
    (answers : ∀ effect, allowed effect → Answers answer answer' related effect Eq) :
    Simulates answer answer' related (fun value value' => value = value' ∧ holds value) program program := by
  induction program with
  | done value => exact simulates_pure ⟨rfl, safe⟩
  | fail error => exact simulates_fail
  | ask effect later ih =>
    intro state other outcome state' start run
    rcases runs_ask.mp run with ⟨rfl, rfl⟩ | ⟨choice, rest⟩
    · exact ⟨_, _, runs_ask.mpr (.inl ⟨rfl, rfl⟩), start, .stopped⟩
    · obtain ⟨choice', after, same⟩ := answers effect safe.1 state other choice start
      obtain ⟨outcome', other', rest', last, ends⟩ := ih _ (safe.2 _ trivial) _ _ _ _ after rest
      rw [same] at rest'
      exact ⟨outcome', other', runs_ask.mpr (.inr ⟨choice', rest'⟩), last, ends⟩

end Rules
end VectorSeam.Simulations
