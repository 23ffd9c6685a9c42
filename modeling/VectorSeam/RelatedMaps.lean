import VectorSeam.SortedMaps

/-!
Ordered maps whose values are related key by key. Related maps list related values in
the same order, and the loops of `SortedMaps` turn related items into related maps.
-/

namespace VectorSeam.RelatedMaps
open VectorSeam.SortedMaps
open Std (ExtTreeMap TransOrd LawfulEqOrd)
set_option linter.unusedSectionVars false

variable {κ ν μ α β ε : Type} [Ord κ] [TransOrd κ] [LawfulEqOrd κ]

/-- The same keys, with related values under them. -/
def Related (related : ν → μ → Prop) (left : ExtTreeMap κ ν) (right : ExtTreeMap κ μ) : Prop :=
  ∀ key : κ, Option.Rel related left[key]? right[key]?

variable {related : ν → μ → Prop} {left : ExtTreeMap κ ν} {right : ExtTreeMap κ μ}

theorem Related.empty : Related related (∅ : ExtTreeMap κ ν) (∅ : ExtTreeMap κ μ) := by
  intro key
  rw [ExtTreeMap.getElem?_empty, ExtTreeMap.getElem?_empty]
  exact .none

theorem Related.insert (holds : Related related left right) (key : κ) {value : ν} {other : μ} (values : related value other) :
    Related related (left.insert key value) (right.insert key other) := by
  classical
  intro place
  rw [lookup_insert, lookup_insert]
  by_cases here : key = place
  · rw [if_pos here, if_pos here]
    exact .some values
  · rw [if_neg here, if_neg here]
    exact holds place

/-- Items that each have a partner have a list of partners. -/
theorem exists_forall₂ {partner : α → β → Prop} {items : List α} (each : ∀ item ∈ items, ∃ other, partner item other) :
    ∃ others, List.Forall₂ partner items others := by
  induction items with
  | nil => exact ⟨[], .nil⟩
  | cons item rest ih =>
    obtain ⟨other, here⟩ := each item (by simp)
    obtain ⟨others, later⟩ := ih fun item member => each item (List.mem_cons_of_mem _ member)
    exact ⟨other :: others, .cons here later⟩

theorem exists_partner {partner : α → β → Prop} {items : List α} {others : List β}
    (pairs : List.Forall₂ partner items others) {other : β} (member : other ∈ others) : ∃ item ∈ items, partner item other := by
  induction pairs with
  | nil => cases member
  | cons here _ ih =>
    rcases List.mem_cons.mp member with rfl | later
    · exact ⟨_, List.mem_cons_self, here⟩
    · obtain ⟨item, present, partner⟩ := ih later
      exact ⟨item, List.mem_cons_of_mem _ present, partner⟩

theorem forall₂_map_eq {γ : Type} {partner : α → β → Prop} {f : α → γ} {g : β → γ}
    (same : ∀ item other, partner item other → f item = g other) {items : List α} {others : List β}
    (pairs : List.Forall₂ partner items others) : items.map f = others.map g := by
  induction pairs with
  | nil => rfl
  | cons here _ ih => rw [List.map_cons, List.map_cons, same _ _ here, ih]

theorem Related.toList (holds : Related related left right) :
    List.Forall₂ (fun one two => one.1 = two.1 ∧ related one.2 two.2) left.toList right.toList := by
  -- A listing of the right map's entries in the left map's order.
  obtain ⟨listing, pairs⟩ : ∃ listing : List (κ × μ), List.Forall₂ (fun one two =>
      one.1 = two.1 ∧ related one.2 two.2 ∧ right[two.1]? = some two.2) left.toList listing := by
    refine exists_forall₂ fun entry member => ?_
    have there := holds entry.1
    rw [ExtTreeMap.mem_toList_iff_getElem?_eq_some.mp member] at there
    obtain ⟨other, found, values⟩ : ∃ other, right[entry.1]? = some other ∧ related entry.2 other := by
      generalize right[entry.1]? = stored at there
      cases there with
      | some values => exact ⟨_, rfl, values⟩
    exact ⟨(entry.1, other), rfl, values, found⟩
  have keys : left.toList.map Prod.fst = listing.map Prod.fst := forall₂_map_eq (fun _ _ partner => partner.1) pairs
  have ordered : listing.Pairwise fun one two => compare one.1 two.1 = .lt := by
    have sorted : (left.toList.map Prod.fst).Pairwise fun one two => compare one two = .lt :=
      List.pairwise_map.mpr ExtTreeMap.ordered_keys_toList
    rw [keys] at sorted
    exact List.pairwise_map.mp sorted
  have listed : right.toList = listing := by
    refine toList_eq_of_ordered ordered fun key other => ⟨fun member => ?_, fun found => ?_⟩
    · obtain ⟨entry, _, _, _, found⟩ := exists_partner pairs member
      exact found
    · have there := holds key
      rw [found] at there
      obtain ⟨value, stored⟩ : ∃ value, left[key]? = some value := by
        generalize left[key]? = stored at there
        cases there with
        | some _ => exact ⟨_, rfl⟩
      have member : key ∈ listing.map Prod.fst := keys ▸ mem_keys.mpr ⟨value, stored⟩
      obtain ⟨entry, present, rfl⟩ := List.mem_map.mp member
      obtain ⟨_, _, _, _, same⟩ := exists_partner pairs present
      rw [found] at same
      rwa [Option.some.inj same]
  rw [listed]
  exact pairs.imp fun _ _ partner => ⟨partner.1, partner.2.1⟩

theorem Related.values (holds : Related related left right) :
    List.Forall₂ related (left.toList.map Prod.snd) (right.toList.map Prod.snd) :=
  List.forall₂_map_left_iff.mpr (List.forall₂_map_right_iff.mpr (holds.toList.imp fun _ _ partner => partner.2))

/-! ### The loops over related items -/

section Loops
variable {items : α → β → Prop}

/-- Two collections that succeed on related items file related items. -/
theorem collect_related {belongs : α → Except ε Bool} {key : α → κ} {differs : α → α → Bool} {clash : α → ε}
    {belongs' : β → Except ε Bool} {key' : β → κ} {differs' : β → β → Bool} {clash' : β → ε}
    (judged : ∀ one two, items one two → belongs one = belongs' two) (keyed : ∀ one two, items one two → key one = key' two)
    {first : List α} {second : List β} (pairs : List.Forall₂ items first second) {filed result : ExtTreeMap κ α}
    {filed' result' : ExtTreeMap κ β} (before : Related items filed filed')
    (found : collect belongs key differs clash first filed = .ok result)
    (found' : collect belongs' key' differs' clash' second filed' = .ok result') : Related items result result' := by
  induction pairs generalizing filed filed' with
  | nil =>
    obtain rfl := Except.ok.inj found
    obtain rfl := Except.ok.inj found'
    exact before
  | @cons one two rest rest' here _ ih =>
    have after : Related items (filed.insert (key one) one) (filed'.insert (key' two) two) := by
      rw [← keyed one two here]
      exact before.insert (key one) here
    unfold collect at found found'
    rw [← judged one two here] at found'
    cases decided : belongs one with
    | error error => rw [decided] at found; cases found
    | ok admitted =>
      rw [decided] at found found'
      cases admitted with
      | false => exact ih before found found'
      | true =>
        have there := before (key one)
        rw [keyed one two here] at there found
        dsimp only at found found'
        generalize filed[key' two]? = stored at there found
        generalize filed'[key' two]? = stored' at there found'
        rw [← keyed one two here] at found
        cases there with
        | none => exact ih after found found'
        | some _ =>
          dsimp only at found found'
          split at found
          · cases found
          split at found'
          · cases found'
          exact ih after found found'

/-- The least of related items are related. -/
theorem keep_least_related {key : α → κ} {less : α → α → Bool} {key' : β → κ} {less' : β → β → Bool}
    (keyed : ∀ one two, items one two → key one = key' two)
    (ranked : ∀ one two other next, items one two → items other next → less one other = less' two next)
    {first : List α} {second : List β} (pairs : List.Forall₂ items first second) :
    Related items (keep_least key less first) (keep_least key' less' second) := by
  have step : ∀ {kept : ExtTreeMap κ α} {kept' : ExtTreeMap κ β}, Related items kept kept' → ∀ one two, items one two →
      Related items (keep key less kept one) (keep key' less' kept' two) := by
    intro kept kept' before one two here
    have after : Related items (kept.insert (key one) one) (kept'.insert (key' two) two) := by
      rw [← keyed one two here]
      exact before.insert (key one) here
    have there := before (key one)
    unfold keep
    rw [← keyed one two here] at after ⊢
    generalize kept[key one]? = stored at there ⊢
    generalize kept'[key one]? = stored' at there ⊢
    cases there with
    | none => exact after
    | some current =>
      dsimp only
      rw [ranked one two _ _ here current]
      split
      · exact after
      · exact before
  have run : ∀ {kept : ExtTreeMap κ α} {kept' : ExtTreeMap κ β}, Related items kept kept' →
      Related items (first.foldl (keep key less) kept) (second.foldl (keep key' less') kept') := by
    intro kept kept' before
    induction pairs generalizing kept kept' with
    | nil => exact before
    | cons here _ ih => exact ih (step before _ _ here)
  exact run .empty

end Loops
end VectorSeam.RelatedMaps
