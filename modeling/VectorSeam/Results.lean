import Mathlib

/-!
Fallible computations: what the success of a sequence, a loop or a mapped list says
about its steps.
-/

namespace VectorSeam.Results

variable {α β ε : Type}

theorem bind_ok {first : Except ε α} {next : α → Except ε β} {result : β} :
    (first >>= next) = .ok result ↔ ∃ value, first = .ok value ∧ next value = .ok result := by
  cases first with
  | error error =>
    constructor
    · intro found; cases found
    · rintro ⟨_, found, _⟩; cases found
  | ok value =>
    constructor
    · intro found; exact ⟨value, rfl, found⟩
    · rintro ⟨_, same, found⟩; obtain rfl := Except.ok.inj same; exact found

theorem ok_bind (value : α) (next : α → Except ε β) : (Except.ok value >>= next) = next value := rfl
theorem error_bind (error : ε) (next : α → Except ε β) : (Except.error error >>= next) = .error error := rfl

theorem check_ok {check : Except ε Unit} {next : Except ε β} {result : β} :
    (check >>= fun _ => next) = .ok result ↔ check = .ok () ∧ next = .ok result := by
  rw [bind_ok]
  constructor
  · rintro ⟨_, passed, found⟩; exact ⟨passed, found⟩
  · rintro ⟨passed, found⟩; exact ⟨(), passed, found⟩

/-- A guard that throws is passed exactly when its condition is false. -/
theorem guard_ok {condition : Prop} [Decidable condition] {error : ε} {next : Except ε β} {result : β} :
    (if condition then (throw error >>= fun _ : PUnit => next) else next) = .ok result ↔
      ¬condition ∧ next = .ok result := by
  by_cases thrown : condition
  · rw [if_pos thrown]
    constructor
    · intro found; cases found
    · rintro ⟨kept, _⟩; exact absurd thrown kept
  · rw [if_neg thrown]
    constructor
    · intro found; exact ⟨thrown, found⟩
    · rintro ⟨_, found⟩; exact found

/-- A loop of checks passes exactly when every check does. -/
theorem forM_ok {check : α → Except ε Unit} {items : List α} :
    items.forM check = .ok () ↔ ∀ item ∈ items, check item = .ok () := by
  induction items with
  | nil => exact ⟨fun _ item member => absurd member List.not_mem_nil, fun _ => rfl⟩
  | cons first rest ih =>
    change (check first >>= fun _ => rest.forM check) = _ ↔ _
    rw [check_ok, List.forall_mem_cons, ih]

theorem mapM_ok {f : α → Except ε β} {items : List α} {results : List β} :
    items.mapM f = .ok results ↔ List.Forall₂ (fun item result => f item = .ok result) items results := by
  induction items generalizing results with
  | nil =>
    rw [List.mapM_nil, List.forall₂_nil_left_iff]
    exact ⟨fun found => (Except.ok.inj found).symm, fun found => by rw [found]; rfl⟩
  | cons first rest ih =>
    rw [List.mapM_cons, bind_ok]
    constructor
    · rintro ⟨head, headFound, rest⟩
      obtain ⟨tail, tailFound, joined⟩ := bind_ok.mp rest
      obtain rfl := Except.ok.inj joined
      exact .cons headFound (ih.mp tailFound)
    · rintro (_ | ⟨headFound, tailFound⟩)
      exact ⟨_, headFound, bind_ok.mpr ⟨_, ih.mpr tailFound, rfl⟩⟩

/-- Every result of a loop is that of one of its items. -/
theorem mem_of_mapM {f : α → Except ε β} {items : List α} {results : List β} {result : β}
    (found : items.mapM f = .ok results) (member : result ∈ results) : ∃ item ∈ items, f item = .ok result := by
  have pairs := mapM_ok.mp found
  clear found
  induction pairs with
  | nil => cases member
  | cons head _ ih =>
    rcases List.mem_cons.mp member with rfl | later
    · exact ⟨_, List.mem_cons_self, head⟩
    · obtain ⟨item, present, same⟩ := ih later
      exact ⟨item, List.mem_cons_of_mem _ present, same⟩

/-! ### Errors -/

/-- Whenever the computation fails, its error satisfies `allowed`. -/
def Fails (allowed : ε → Prop) (result : Except ε α) : Prop := ∀ error, result = .error error → allowed error

section Errors
variable {allowed : ε → Prop}

theorem Fails.mono {allowed' : ε → Prop} {result : Except ε α} (fails : Fails allowed result)
    (weaker : ∀ error, allowed error → allowed' error) : Fails allowed' result :=
  fun error failed => weaker error (fails error failed)

theorem fails_ok {value : α} : Fails allowed (.ok value) := nofun

theorem fails_error {error : ε} (holds : allowed error) : Fails allowed (.error error : Except ε α) := by
  rintro _ ⟨⟩
  exact holds

theorem fails_bind {first : Except ε α} {next : α → Except ε β} (head : Fails allowed first)
    (tail : ∀ value, first = .ok value → Fails allowed (next value)) : Fails allowed (first >>= next) := by
  cases first with
  | error error => exact fails_error (head error rfl)
  | ok value => exact tail value rfl

theorem fails_ite {condition : Prop} [Decidable condition] {left right : Except ε α}
    (first : condition → Fails allowed left) (second : ¬condition → Fails allowed right) :
    Fails allowed (if condition then left else right) := by
  by_cases holds : condition
  · rw [if_pos holds]
    exact first holds
  · rw [if_neg holds]
    exact second holds

theorem fails_guard {condition : Prop} [Decidable condition] {error : ε} {next : Except ε β} (thrown : allowed error)
    (rest : Fails allowed next) :
    Fails allowed (if condition then (throw error >>= fun _ : PUnit => next) else next) :=
  fails_ite (fun _ => fails_error thrown) fun _ => rest

/-- A loop of checks fails with the error of one of them. -/
theorem fails_forM {check : α → Except ε Unit} {items : List α} (each : ∀ item ∈ items, Fails allowed (check item)) :
    Fails allowed (items.forM check) := by
  induction items with
  | nil => exact fails_ok
  | cons first rest ih =>
    obtain ⟨own, others⟩ := List.forall_mem_cons.mp each
    exact fails_bind own fun _ _ => ih others

theorem fails_mapM {f : α → Except ε β} {items : List α} (each : ∀ item ∈ items, Fails allowed (f item)) :
    Fails allowed (items.mapM f) := by
  induction items with
  | nil => exact fails_ok
  | cons first rest ih =>
    obtain ⟨own, others⟩ := List.forall_mem_cons.mp each
    rw [List.mapM_cons]
    exact fails_bind own fun _ _ => fails_bind (ih others) fun _ _ => fails_ok

end Errors

end VectorSeam.Results
