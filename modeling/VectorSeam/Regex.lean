import Mathlib

/-!
Backtracking regular expressions with look-ahead. `ends` lists where a match may end,
in the order in which a backtracking matcher tries them: greedy repetition first tries
one more turn. A pattern matches a whole text when some end is the end of the text.
-/

namespace VectorSeam.Regex

/-- A place in a text: the number of characters passed and the characters to come. -/
abbrev Place := Nat × List Char

inductive Pattern where
  | empty
  | one (accepts : Char → Bool)
  | seq (first second : Pattern)
  | alt (first second : Pattern)
  /-- Greedy repetition of at least `least` turns, and of at most `most` where that is given. -/
  | repeats (least : Nat) (most : Option Nat) (body : Pattern)
  /-- `(?=body)` -/
  | ahead (body : Pattern)
  /-- `(?!body)` -/
  | not_ahead (body : Pattern)
  /-- `\A` -/
  | start
  /-- `\Z` -/
  | finish

/-- The same characters one after the other. -/
def literal (text : List Char) : Pattern := text.foldr (fun char rest => .seq (.one (· == char)) rest) .empty

section Repetition
variable (step : Place → List Place)

/-- Exactly the given number of turns. -/
def times : Nat → Place → List Place
  | 0, place => [place]
  | turns + 1, place => (step place).flatMap (times turns)

/-- At most the given number of further turns, the longest attempts first; a turn that does not move on
    is not followed by another one. -/
def at_most : Nat → Place → List Place
  | 0, place => [place]
  | turns + 1, place =>
    (step place).flatMap (fun next => if next.2.length < place.2.length then at_most turns next else []) ++ [place]

end Repetition

def ends : Pattern → Place → List Place
  | .empty, place => [place]
  | .one accepts, place =>
    match place.2 with
    | char :: rest => if accepts char then [(place.1 + 1, rest)] else []
    | [] => []
  | .seq first second, place => (ends first place).flatMap (ends second)
  | .alt first second, place => ends first place ++ ends second place
  | .repeats least most body, place =>
    (times (ends body) least place).flatMap fun next =>
      at_most (ends body) ((most.map (· - least)).getD next.2.length) next
  | .ahead body, place => if (ends body place).isEmpty then [] else [place]
  | .not_ahead body, place => if (ends body place).isEmpty then [place] else []
  | .start, place => if place.1 = 0 then [place] else []
  | .finish, place => if place.2.isEmpty then [place] else []

/-- Whether the pattern matches all of the text. -/
def fullmatch (pattern : Pattern) (text : String) : Bool := (ends pattern (0, text.toList)).any (·.2.isEmpty)

/-! ### Where the operators end -/

variable {place after : Place}

section Operators
attribute [local simp] ends

@[simp] theorem mem_ends_empty : after ∈ ends .empty place ↔ after = place := by
  simp

theorem mem_ends_one {accepts : Char → Bool} :
    after ∈ ends (.one accepts) place ↔
      ∃ char, accepts char ∧ place.2 = char :: after.2 ∧ after.1 = place.1 + 1 := by
  obtain ⟨passed, rest⟩ := place
  obtain ⟨later, left⟩ := after
  cases rest with
  | nil => simp
  | cons char rest =>
    simp only [ends]
    by_cases accepted : accepts char
    · rw [if_pos accepted, List.mem_singleton]
      constructor
      · rintro ⟨⟩
        exact ⟨char, accepted, rfl, rfl⟩
      · rintro ⟨other, _, ⟨⟩, rfl⟩
        rfl
    · rw [if_neg accepted]
      constructor
      · intro member
        exact absurd member List.not_mem_nil
      · rintro ⟨other, otherAccepted, ⟨⟩, _⟩
        exact absurd otherAccepted accepted

@[simp] theorem mem_ends_seq {first second : Pattern} :
    after ∈ ends (.seq first second) place ↔ ∃ middle ∈ ends first place, after ∈ ends second middle := by
  simp [List.mem_flatMap]

@[simp] theorem mem_ends_alt {first second : Pattern} :
    after ∈ ends (.alt first second) place ↔ after ∈ ends first place ∨ after ∈ ends second place := by
  simp

@[simp] theorem mem_ends_ahead {body : Pattern} :
    after ∈ ends (.ahead body) place ↔ after = place ∧ ∃ inner, inner ∈ ends body place := by
  simp only [ends]
  by_cases nothing : (ends body place).isEmpty
  · rw [if_pos nothing]
    rw [List.isEmpty_iff] at nothing
    simp [nothing]
  · rw [if_neg nothing, List.mem_singleton]
    rw [List.isEmpty_iff] at nothing
    exact ⟨fun same => ⟨same, List.exists_mem_of_ne_nil _ nothing⟩, And.left⟩

@[simp] theorem mem_ends_not_ahead {body : Pattern} :
    after ∈ ends (.not_ahead body) place ↔ after = place ∧ ∀ inner, inner ∉ ends body place := by
  simp only [ends]
  by_cases nothing : (ends body place).isEmpty
  · rw [if_pos nothing, List.mem_singleton]
    rw [List.isEmpty_iff] at nothing
    simp [nothing]
  · rw [if_neg nothing]
    rw [List.isEmpty_iff] at nothing
    obtain ⟨inner, member⟩ := List.exists_mem_of_ne_nil _ nothing
    exact ⟨fun member => absurd member List.not_mem_nil, fun both => absurd member (both.2 inner)⟩

@[simp] theorem mem_ends_start : after ∈ ends .start place ↔ after = place ∧ place.1 = 0 := by
  simp only [ends]
  by_cases here : place.1 = 0
  · simp [here]
  · simp [here]

@[simp] theorem mem_ends_finish : after ∈ ends .finish place ↔ after = place ∧ place.2 = [] := by
  simp only [ends]
  by_cases here : place.2 = []
  · simp [here]
  · simp [here]

end Operators

theorem fullmatch_iff {pattern : Pattern} {text : String} :
    fullmatch pattern text ↔ ∃ passed, (passed, []) ∈ ends pattern (0, text.toList) := by
  rw [fullmatch, List.any_eq_true]
  constructor
  · rintro ⟨⟨passed, rest⟩, member, done⟩
    obtain rfl := List.isEmpty_iff.mp done
    exact ⟨passed, member⟩
  · rintro ⟨passed, member⟩
    exact ⟨_, member, rfl⟩

/-! ### Repetition -/

/-- A body that always consumes. -/
def Consumes (step : Place → List Place) : Prop := ∀ place, ∀ next ∈ step place, next.2.length < place.2.length

theorem mem_at_most {step : Place → List Place} (consumes : Consumes step) {turns : Nat} :
    after ∈ at_most step turns place ↔ ∃ count ≤ turns, after ∈ times step count place := by
  induction turns generalizing place with
  | zero => simp [at_most, times]
  | succ turns ih =>
    rw [at_most, List.mem_append, List.mem_flatMap, List.mem_singleton]
    constructor
    · rintro (⟨next, member, inside⟩ | rfl)
      · rw [if_pos (consumes place next member)] at inside
        obtain ⟨count, small, reached⟩ := ih.mp inside
        exact ⟨count + 1, by omega, List.mem_flatMap.mpr ⟨next, member, reached⟩⟩
      · exact ⟨0, by omega, by simp [times]⟩
    · rintro ⟨count, small, reached⟩
      cases count with
      | zero => exact .inr (by simpa [times] using reached)
      | succ count =>
        obtain ⟨next, member, reached⟩ := List.mem_flatMap.mp reached
        refine .inl ⟨next, member, ?_⟩
        rw [if_pos (consumes place next member)]
        exact ih.mpr ⟨count, by omega, reached⟩

theorem mem_times_add {step : Place → List Place} {first second : Nat} :
    after ∈ times step (first + second) place ↔ ∃ middle ∈ times step first place, after ∈ times step second middle := by
  induction first generalizing place with
  | zero => simp [times]
  | succ first ih =>
    rw [Nat.succ_add, times, times, List.mem_flatMap]
    constructor
    · rintro ⟨next, member, reached⟩
      obtain ⟨middle, before, behind⟩ := ih.mp reached
      exact ⟨middle, List.mem_flatMap.mpr ⟨next, member, before⟩, behind⟩
    · rintro ⟨middle, before, behind⟩
      obtain ⟨next, member, reached⟩ := List.mem_flatMap.mp before
      exact ⟨next, member, ih.mpr ⟨middle, reached, behind⟩⟩

theorem times_shorter {step : Place → List Place} (consumes : Consumes step) {count : Nat}
    (reached : after ∈ times step count place) : after.2.length + count ≤ place.2.length := by
  induction count generalizing place with
  | zero =>
    obtain rfl := List.mem_singleton.mp reached
    omega
  | succ count ih =>
    obtain ⟨next, member, reached⟩ := List.mem_flatMap.mp reached
    have shorter := consumes place next member
    have rest := ih reached
    omega

theorem consumes_one (accepts : Char → Bool) : Consumes (ends (.one accepts)) := by
  intro place next member
  obtain ⟨char, _, here, _⟩ := mem_ends_one.mp member
  rw [here, List.length_cons]
  omega

/-- A bounded repetition of a consuming body is any number of turns between the bounds. -/
theorem mem_ends_repeats {least most : Nat} {body : Pattern} (consumes : Consumes (ends body)) (ordered : least ≤ most) :
    after ∈ ends (.repeats least (some most) body) place ↔
      ∃ count, least ≤ count ∧ count ≤ most ∧ after ∈ times (ends body) count place := by
  simp only [ends, List.mem_flatMap, Option.map_some, Option.getD_some]
  constructor
  · rintro ⟨middle, before, behind⟩
    obtain ⟨count, small, reached⟩ := (mem_at_most consumes).mp behind
    exact ⟨least + count, by omega, by omega, mem_times_add.mpr ⟨middle, before, reached⟩⟩
  · rintro ⟨count, enough, small, reached⟩
    rw [show count = least + (count - least) by omega] at reached
    obtain ⟨middle, before, behind⟩ := mem_times_add.mp reached
    exact ⟨middle, before, (mem_at_most consumes).mpr ⟨count - least, by omega, behind⟩⟩

/-- An unbounded repetition of a consuming body is any number of turns from the lower bound on. -/
theorem mem_ends_repeats_unbounded {least : Nat} {body : Pattern} (consumes : Consumes (ends body)) :
    after ∈ ends (.repeats least none body) place ↔ ∃ count, least ≤ count ∧ after ∈ times (ends body) count place := by
  simp only [ends, List.mem_flatMap, Option.map_none, Option.getD_none]
  constructor
  · rintro ⟨middle, before, behind⟩
    obtain ⟨count, _, reached⟩ := (mem_at_most consumes).mp behind
    exact ⟨least + count, by omega, mem_times_add.mpr ⟨middle, before, reached⟩⟩
  · rintro ⟨count, enough, reached⟩
    rw [show count = least + (count - least) by omega] at reached
    obtain ⟨middle, before, behind⟩ := mem_times_add.mp reached
    have short := times_shorter consumes behind
    exact ⟨middle, before, (mem_at_most consumes).mpr ⟨count - least, by omega, behind⟩⟩

/-- Turns of one character pass a run of accepted characters. -/
theorem mem_times_one {accepts : Char → Bool} {count : Nat} :
    after ∈ times (ends (.one accepts)) count place ↔
      ∃ run, place.2 = run ++ after.2 ∧ run.length = count ∧ run.all accepts ∧ after.1 = place.1 + count := by
  induction count generalizing place with
  | zero =>
    rw [times, List.mem_singleton]
    constructor
    · rintro rfl
      exact ⟨[], rfl, rfl, rfl, rfl⟩
    · rintro ⟨run, here, size, _, passed⟩
      obtain rfl := List.length_eq_zero_iff.mp size
      exact Prod.ext passed here.symm
  | succ count ih =>
    rw [times, List.mem_flatMap]
    constructor
    · rintro ⟨next, member, reached⟩
      obtain ⟨char, accepted, here, moved⟩ := mem_ends_one.mp member
      obtain ⟨run, rest, size, all, passed⟩ := ih.mp reached
      refine ⟨char :: run, by rw [here, rest]; rfl, by rw [List.length_cons, size], ?_, by omega⟩
      rw [List.all_cons, accepted, all]
      rfl
    · rintro ⟨run, here, size, all, passed⟩
      cases run with
      | nil => cases size
      | cons char run =>
        rw [List.all_cons, Bool.and_eq_true] at all
        refine ⟨(place.1 + 1, run ++ after.2), mem_ends_one.mpr ⟨char, all.1, here, rfl⟩, ih.mpr ⟨run, rfl, ?_, all.2, ?_⟩⟩
        · exact Nat.succ_inj.mp size
        · show after.1 = place.1 + 1 + count
          omega

theorem mem_ends_literal {text : List Char} :
    after ∈ ends (literal text) place ↔ place.2 = text ++ after.2 ∧ after.1 = place.1 + text.length := by
  induction text generalizing place with
  | nil =>
    show after ∈ ends .empty place ↔ _
    rw [mem_ends_empty]
    constructor
    · rintro rfl
      exact ⟨rfl, rfl⟩
    · rintro ⟨here, passed⟩
      exact Prod.ext passed here.symm
  | cons char rest ih =>
    show after ∈ ends (.seq (.one (· == char)) (literal rest)) place ↔ _
    rw [mem_ends_seq]
    constructor
    · rintro ⟨middle, first, later⟩
      obtain ⟨other, same, here, moved⟩ := mem_ends_one.mp first
      obtain ⟨there, passed⟩ := ih.mp later
      rw [beq_iff_eq] at same
      exact ⟨by rw [here, there, same]; rfl, by rw [passed, moved, List.length_cons]; omega⟩
    · rintro ⟨here, passed⟩
      refine ⟨(place.1 + 1, rest ++ after.2), mem_ends_one.mpr ⟨char, beq_self_eq_true _, here, rfl⟩, ih.mpr ⟨rfl, ?_⟩⟩
      rw [passed, List.length_cons]
      show place.1 + (rest.length + 1) = place.1 + 1 + rest.length
      omega

end VectorSeam.Regex
