import Mathlib

/-!
Loops over ordered maps. `Filled` says which items a map has values for, one insertion
at a time. `collect` files items under their keys and rejects a key met again with a
different item; `keep_least` files items under their keys and keeps the least one.
The results of the two depend on the set of items only. A stable sort is one by insertion.
-/

namespace VectorSeam.SortedMaps
open Std (ExtTreeMap TransOrd LawfulEqOrd TransCmp ReflCmp LawfulEqCmp)
set_option linter.unusedSectionVars false

variable {κ ν α ε : Type} [Ord κ] [TransOrd κ] [LawfulEqOrd κ]

/-! ### Sorted lists -/

/-- A stable sort inserts its items one by one. -/
theorem mergeSort_eq_insertionSort {α : Type} {le : α → α → Bool} (trans : ∀ a b c, le a b → le b c → le a c)
    (total : ∀ a b, le a b || le b a) (items : List α) :
    items.mergeSort le = items.insertionSort fun left right => le left right = true := by
  induction items with
  | nil => simp
  | cons item rest ih =>
    obtain ⟨before, after, whole, others, lower⟩ := List.mergeSort_cons trans total item rest
    have sorted := List.pairwise_mergeSort trans total (item :: rest)
    rw [whole] at sorted
    have upper : ∀ other ∈ after, le item other = true :=
      (List.pairwise_cons.mp (List.pairwise_append.mp sorted).2.1).1
    have low : ∀ other ∈ before, decide (¬le item other = true) = true := fun other member => by simpa using lower other member
    rw [whole, List.insertionSort_cons, ← ih, others, List.orderedInsert_eq_take_drop, List.takeWhile_append_of_pos low,
      List.dropWhile_append_of_pos low]
    cases after with
    | nil => simp
    | cons other later => simp [upper other List.mem_cons_self]

/-! ### Lookups and listings -/

theorem lookup_insert {entries : ExtTreeMap κ ν} {key other : κ} {value : ν} [Decidable (key = other)] :
    (entries.insert key value)[other]? = if key = other then some value else entries[other]? := by
  rw [ExtTreeMap.getElem?_insert]
  simp [LawfulEqCmp.compare_eq_iff_eq]

/-- No key is listed twice. -/
theorem nodup_keys (entries : ExtTreeMap κ ν) : (entries.toList.map Prod.fst).Nodup := by
  refine List.pairwise_map.mpr (ExtTreeMap.distinct_keys_toList.imp ?_)
  intro left right differ same
  exact differ (LawfulEqCmp.compare_eq_iff_eq.mpr same)

theorem mem_keys {entries : ExtTreeMap κ ν} {key : κ} :
    key ∈ entries.toList.map Prod.fst ↔ ∃ value, entries[key]? = some value := by
  rw [List.mem_map]
  constructor
  · rintro ⟨entry, member, rfl⟩
    exact ⟨entry.2, ExtTreeMap.mem_toList_iff_getElem?_eq_some.mp member⟩
  · rintro ⟨value, found⟩
    exact ⟨(key, value), ExtTreeMap.mem_toList_iff_getElem?_eq_some.mpr found, rfl⟩

/-- A total over one map is at most that over another which has a larger term under each of its keys. -/
theorem sum_le_of_keys {μ : Type} {left : ExtTreeMap κ ν} {right : ExtTreeMap κ μ} {f : ν → Nat} {g : μ → Nat}
    (below : ∀ (key : κ) value, left[key]? = some value → ∃ other, right[key]? = some other ∧ f value ≤ g other) :
    ((left.toList.map Prod.snd).map f).sum ≤ ((right.toList.map Prod.snd).map g).sum := by
  -- The terms of the right map as a function of its keys.
  obtain ⟨term, termSame⟩ : ∃ term : κ → Nat, term = fun key => (right[key]?).elim 0 g := ⟨_, rfl⟩
  have termOf : ∀ (key : κ) other, right[key]? = some other → term key = g other := by
    intro key other found
    rw [termSame]
    simp [found]
  have first : ((left.toList.map Prod.snd).map f).sum ≤ ((left.toList.map Prod.fst).map term).sum := by
    rw [List.map_map, List.map_map]
    refine List.sum_le_sum fun entry member => ?_
    obtain ⟨other, found, le⟩ := below entry.1 entry.2 (ExtTreeMap.mem_toList_iff_getElem?_eq_some.mp member)
    simpa [termOf _ _ found] using le
  have second : ((left.toList.map Prod.fst).map term).sum ≤ ((right.toList.map Prod.fst).map term).sum := by
    have inside : left.toList.map Prod.fst ⊆ right.toList.map Prod.fst := by
      intro key member
      obtain ⟨value, found⟩ := mem_keys.mp member
      obtain ⟨other, there, _⟩ := below key value found
      exact mem_keys.mpr ⟨other, there⟩
    obtain ⟨keys, perm, sub⟩ := (nodup_keys left).subperm inside
    rw [← (perm.map term).sum_eq]
    exact (sub.map term).sum_le_sum fun _ _ => Nat.zero_le _
  have third : ((right.toList.map Prod.fst).map term).sum = ((right.toList.map Prod.snd).map g).sum := by
    rw [List.map_map, List.map_map]
    refine congrArg List.sum (List.map_congr_left fun entry member => ?_)
    exact termOf entry.1 entry.2 (ExtTreeMap.mem_toList_iff_getElem?_eq_some.mp member)
  omega

theorem mem_values {entries : ExtTreeMap κ ν} {value : ν} :
    value ∈ entries.toList.map Prod.snd ↔ ∃ key : κ, entries[key]? = some value := by
  simp [List.mem_map]

/-- A new entry is listed beside the others. -/
theorem toList_insert_perm {entries : ExtTreeMap κ ν} {key : κ} {value : ν} (fresh : key ∉ entries) :
    (entries.insert key value).toList.Perm ((key, value) :: entries.toList) := by
  classical
  have absent : entries[key]? = none := ExtTreeMap.getElem?_eq_none fresh
  refine (List.perm_ext_iff_of_nodup (nodup_keys _).of_map ?_).mpr ?_
  · refine List.nodup_cons.mpr ⟨fun member => ?_, (nodup_keys _).of_map⟩
    rw [ExtTreeMap.mem_toList_iff_getElem?_eq_some, absent] at member
    cases member
  · rintro ⟨other, stored⟩
    rw [List.mem_cons, ExtTreeMap.mem_toList_iff_getElem?_eq_some, ExtTreeMap.mem_toList_iff_getElem?_eq_some, lookup_insert]
    by_cases same : key = other
    · subst same
      simp [absent, eq_comm]
    · simp [same, Ne.symm same]

/-- Two entries under different keys. -/
theorem toList_pair_perm {first second : κ} {left right : ν} (different : first ≠ second) :
    (((∅ : ExtTreeMap κ ν).insert first left).insert second right).toList.Perm [(second, right), (first, left)] := by
  have absent : second ∉ (∅ : ExtTreeMap κ ν).insert first left := by
    rw [ExtTreeMap.mem_insert, LawfulEqCmp.compare_eq_iff_eq]
    rintro (same | nothing)
    · exact different same
    · exact ExtTreeMap.not_mem_empty nothing
  exact (toList_insert_perm absent).trans ((toList_insert_perm ExtTreeMap.not_mem_empty).cons _)

/-- A listing in increasing key order is determined by its entries. -/
theorem toList_eq_of_ordered {entries : ExtTreeMap κ ν} {listing : List (κ × ν)}
    (ordered : listing.Pairwise fun left right => compare left.1 right.1 = .lt)
    (same : ∀ key value, (key, value) ∈ listing ↔ entries[key]? = some value) : entries.toList = listing := by
  have irreflexive : ∀ entry : κ × ν, compare entry.1 entry.1 ≠ .lt := by
    intro entry
    simp [ReflCmp.compare_self]
  have distinct : ∀ {items : List (κ × ν)}, (items.Pairwise fun left right => compare left.1 right.1 = .lt) →
      items.Nodup := by
    intro items pairs
    refine pairs.imp ?_
    rintro left right before rfl
    exact irreflexive left before
  refine List.Perm.eq_of_pairwise ?_ ExtTreeMap.ordered_keys_toList ordered
    ((List.perm_ext_iff_of_nodup (distinct ExtTreeMap.ordered_keys_toList) (distinct ordered)).mpr ?_)
  · intro left right _ _ before after
    exact absurd (TransCmp.lt_trans before after) (irreflexive left)
  · rintro ⟨key, value⟩
    rw [same key value, ExtTreeMap.mem_toList_iff_getElem?_eq_some]

/-- A listing in increasing key order is the listing of the map built from it. -/
theorem toList_ofList {listing : List (κ × ν)}
    (ordered : listing.Pairwise fun left right => compare left.1 right.1 = .lt) :
    (ExtTreeMap.ofList listing compare).toList = listing := by
  have distinct : listing.Pairwise fun left right => ¬compare left.1 right.1 = .eq :=
    ordered.imp fun before equal => by rw [before] at equal; cases equal
  refine toList_eq_of_ordered ordered fun key value => ⟨fun member => ?_, fun found => ?_⟩
  · exact ExtTreeMap.getElem?_ofList_of_mem ReflCmp.compare_self distinct member
  · by_cases present : key ∈ listing.map Prod.fst
    · obtain ⟨⟨other, stored⟩, member, rfl⟩ := List.mem_map.mp present
      have same : (ExtTreeMap.ofList listing compare)[other]? = some stored :=
        ExtTreeMap.getElem?_ofList_of_mem ReflCmp.compare_self distinct member
      rw [found] at same
      exact Option.some.inj same ▸ member
    · classical
      have absent : (ExtTreeMap.ofList listing compare)[key]? = none :=
        ExtTreeMap.getElem?_ofList_of_contains_eq_false (by simpa using present)
      rw [absent] at found
      cases found

/-! ### Collecting items, rejecting contradictions -/

/-- Files each admitted item under its key; an item that differs from the one
    already filed there stops the loop. -/
def collect (belongs : α → Except ε Bool) (key : α → κ) (differs : α → α → Bool) (clash : α → ε) :
    List α → ExtTreeMap κ α → Except ε (ExtTreeMap κ α)
  | [], filed => .ok filed
  | item :: rest, filed =>
    match belongs item with
    | .error error => .error error
    | .ok false => collect belongs key differs clash rest filed
    | .ok true =>
      match filed[key item]? with
      | some existing =>
        if differs existing item then .error (clash item)
        else collect belongs key differs clash rest (filed.insert (key item) item)
      | none => collect belongs key differs clash rest (filed.insert (key item) item)

/-- The map that files exactly the admitted items of a list. -/
def Files (belongs : α → Except ε Bool) (key : α → κ) (items : List α) (filed : ExtTreeMap κ α) : Prop :=
  ∀ (k : κ) (item : α), filed[k]? = some item ↔ item ∈ items ∧ belongs item = .ok true ∧ key item = k

/-- When collecting succeeds: every item can be judged, and admitted items under one key coincide. -/
structure Consistent (belongs : α → Except ε Bool) (key : α → κ) (items : List α) : Prop where
  judged : ∀ item ∈ items, ∃ admitted, belongs item = .ok admitted
  agree : ∀ left ∈ items, ∀ right ∈ items, belongs left = .ok true → belongs right = .ok true →
    key left = key right → left = right

section Collect
variable {belongs : α → Except ε Bool} {key : α → κ} {differs : α → α → Bool}
  {clash : α → ε}

theorem Files.empty : Files belongs key [] (∅ : ExtTreeMap κ α) := by
  intro k item
  simp

theorem Files.unique {items : List α} {left right : ExtTreeMap κ α} (first : Files belongs key items left)
    (second : Files belongs key items right) : left = right := by
  apply ExtTreeMap.ext_getElem?
  intro k
  apply Option.ext
  intro item
  rw [first k item, second k item]

theorem Files.congr {left right : List α} {filed : ExtTreeMap κ α} (same : ∀ item, item ∈ left ↔ item ∈ right)
    (files : Files belongs key left filed) : Files belongs key right filed := by
  intro k item
  rw [files k item, same item]

theorem Files.agree {items : List α} {filed : ExtTreeMap κ α} (files : Files belongs key items filed) :
    ∀ left ∈ items, ∀ right ∈ items, belongs left = .ok true → belongs right = .ok true →
      key left = key right → left = right := by
  intro left memberLeft right memberRight admitLeft admitRight keys
  have one := (files (key left) left).mpr ⟨memberLeft, admitLeft, rfl⟩
  have two := (files (key left) right).mpr ⟨memberRight, admitRight, keys.symm⟩
  exact Option.some.inj (one.symm.trans two)

private theorem Files.skip {before : List α} {item : α} {filed : ExtTreeMap κ α} (files : Files belongs key before filed)
    (refused : belongs item = .ok false) : Files belongs key (before ++ [item]) filed := by
  intro k other
  rw [files k other]
  constructor
  · rintro ⟨member, rest⟩
    exact ⟨List.mem_append_left _ member, rest⟩
  · rintro ⟨member, admitted, keyed⟩
    rcases List.mem_append.mp member with earlier | last
    · exact ⟨earlier, admitted, keyed⟩
    · obtain rfl := List.mem_singleton.mp last
      rw [refused] at admitted
      cases admitted

private theorem Files.insert {before : List α} {item : α} {filed : ExtTreeMap κ α} (files : Files belongs key before filed)
    (admitted : belongs item = .ok true) (same : ∀ other, filed[key item]? = some other → other = item) :
    Files belongs key (before ++ [item]) (filed.insert (key item) item) := by
  intro k other
  classical
  rw [lookup_insert]
  by_cases here : key item = k
  · rw [if_pos here]
    constructor
    · intro found
      obtain rfl := Option.some.inj found
      exact ⟨by simp, admitted, here⟩
    · rintro ⟨member, admitted, keyed⟩
      rcases List.mem_append.mp member with earlier | last
      · rw [same other ((files (key item) other).mpr ⟨earlier, admitted, keyed.trans here.symm⟩)]
      · rw [List.mem_singleton.mp last]
  · rw [if_neg here, files k other]
    constructor
    · rintro ⟨member, rest⟩
      exact ⟨List.mem_append_left _ member, rest⟩
    · rintro ⟨member, admitted, keyed⟩
      rcases List.mem_append.mp member with earlier | last
      · exact ⟨earlier, admitted, keyed⟩
      · obtain rfl := List.mem_singleton.mp last
        exact absurd keyed here

/-- Items that `differs` tells apart exactly when they are not identical. -/
def Faithful (differs : α → α → Bool) (items : List α) : Prop :=
  ∀ left ∈ items, ∀ right ∈ items, (differs left right = false ↔ left = right)

private theorem collect_cons_filed {item : α} {rest : List α} {filed : ExtTreeMap κ α} (admitted : belongs item = .ok true)
    (same : ∀ other, filed[key item]? = some other → differs other item = false) :
    collect belongs key differs clash (item :: rest) filed =
      collect belongs key differs clash rest (filed.insert (key item) item) := by
  simp only [collect, admitted]
  cases found : filed[key item]? with
  | none => rfl
  | some other => simp [same other found]

/-- What one successful step over an item did. -/
private theorem collect_cons_ok {item : α} {rest : List α} {filed result : ExtTreeMap κ α}
    (found : collect belongs key differs clash (item :: rest) filed = .ok result) :
    (belongs item = .ok false ∧ collect belongs key differs clash rest filed = .ok result) ∨
      (belongs item = .ok true ∧ (∀ other, filed[key item]? = some other → differs other item = false) ∧
        collect belongs key differs clash rest (filed.insert (key item) item) = .ok result) := by
  simp only [collect] at found
  cases judged : belongs item with
  | error error => rw [judged] at found; cases found
  | ok admitted =>
    rw [judged] at found
    cases admitted with
    | false => exact .inl ⟨rfl, found⟩
    | true =>
      cases earlier : filed[key item]? with
      | none =>
        rw [earlier] at found
        exact .inr ⟨rfl, by simp, found⟩
      | some other =>
        rw [earlier] at found
        cases unlike : differs other item with
        | true => simp [unlike] at found
        | false =>
          simp only [unlike, Bool.false_eq_true, ↓reduceIte] at found
          exact .inr ⟨rfl, by rintro _ ⟨⟩; exact unlike, found⟩

theorem collect_new {item : α} {rest : List α} {filed : ExtTreeMap κ α} (admitted : belongs item = .ok true)
    (fresh : filed[key item]? = none) : collect belongs key differs clash (item :: rest) filed =
      collect belongs key differs clash rest (filed.insert (key item) item) := by
  rw [collect, admitted]
  simp only [fresh]

theorem collect_judged {items : List α} {filed result : ExtTreeMap κ α}
    (found : collect belongs key differs clash items filed = .ok result) :
    ∀ item ∈ items, ∃ admitted, belongs item = .ok admitted := by
  induction items generalizing filed with
  | nil => simp
  | cons first rest ih =>
    intro item member
    rcases collect_cons_ok found with ⟨refused, later⟩ | ⟨admitted, _, later⟩
    · rcases List.mem_cons.mp member with rfl | inside
      · exact ⟨false, refused⟩
      · exact ih later item inside
    · rcases List.mem_cons.mp member with rfl | inside
      · exact ⟨true, admitted⟩
      · exact ih later item inside

private theorem collect_files {items before : List α} {filed result : ExtTreeMap κ α}
    (faithful : Faithful differs (before ++ items)) (files : Files belongs key before filed)
    (found : collect belongs key differs clash items filed = .ok result) : Files belongs key (before ++ items) result := by
  induction items generalizing before filed with
  | nil =>
    obtain rfl := Except.ok.inj found
    simpa using files
  | cons item rest ih =>
    have split : before ++ item :: rest = (before ++ [item]) ++ rest := by simp
    rw [split] at faithful ⊢
    rcases collect_cons_ok found with ⟨refused, later⟩ | ⟨admitted, same, later⟩
    · exact ih faithful (files.skip refused) later
    · refine ih faithful (files.insert admitted fun other earlier => ?_) later
      have member := ((files _ _).mp earlier).1
      exact (faithful other (by simp [member]) item (by simp)).mp (same other earlier)

private theorem collect_succeeds {items before : List α} {filed : ExtTreeMap κ α}
    (faithful : Faithful differs (before ++ items)) (files : Files belongs key before filed)
    (consistent : Consistent belongs key (before ++ items)) :
    ∃ result, collect belongs key differs clash items filed = .ok result := by
  induction items generalizing before filed with
  | nil => exact ⟨filed, rfl⟩
  | cons item rest ih =>
    have split : before ++ item :: rest = (before ++ [item]) ++ rest := by simp
    rw [split] at faithful consistent
    obtain ⟨admitted, judged⟩ := consistent.judged item (by simp)
    cases admitted with
    | false =>
      obtain ⟨result, found⟩ := ih faithful (files.skip judged) consistent
      exact ⟨result, by simp only [collect, judged, found]⟩
    | true =>
      have same : ∀ other, filed[key item]? = some other → other = item := by
        intro other earlier
        obtain ⟨member, admitted, keyed⟩ := (files _ _).mp earlier
        exact consistent.agree other (by simp [member]) item (by simp) admitted judged keyed
      obtain ⟨result, found⟩ := ih faithful (files.insert judged same) consistent
      refine ⟨result, ?_⟩
      rw [collect_cons_filed judged fun other earlier => ?_, found]
      have member := ((files _ _).mp earlier).1
      exact (faithful other (by simp [member]) item (by simp)).mpr (same other earlier)

/-- Collecting succeeds exactly on consistent items, and then files them all. -/
theorem collect_ok_iff {items : List α} {result : ExtTreeMap κ α} (faithful : Faithful differs items) :
    collect belongs key differs clash items ∅ = .ok result ↔ Consistent belongs key items ∧ Files belongs key items result := by
  constructor
  · intro found
    have files := collect_files faithful Files.empty found
    exact ⟨⟨collect_judged found, files.agree⟩, files⟩
  · rintro ⟨consistent, files⟩
    obtain ⟨other, found⟩ := collect_succeeds faithful Files.empty consistent
    rw [found, files.unique (collect_files faithful Files.empty found)]

/-- Order and repetitions of the items do not matter. -/
theorem collect_congr {left right : List α} {result : ExtTreeMap κ α} (same : ∀ item, item ∈ left ↔ item ∈ right)
    (faithful : Faithful differs left) (found : collect belongs key differs clash left ∅ = .ok result) :
    collect belongs key differs clash right ∅ = .ok result := by
  obtain ⟨consistent, files⟩ := (collect_ok_iff faithful).mp found
  have faithfulRight : Faithful differs right := fun x memberX y memberY =>
    faithful x ((same x).mpr memberX) y ((same y).mpr memberY)
  refine (collect_ok_iff faithfulRight).mpr ⟨⟨fun item member => consistent.judged item ((same item).mpr member), ?_⟩,
    files.congr same⟩
  intro x memberX y memberY
  exact consistent.agree x ((same x).mpr memberX) y ((same y).mpr memberY)

/-- Items under pairwise different keys are never compared, so they are all filed. -/
theorem collect_distinct {items before : List α} {filed : ExtTreeMap κ α} (files : Files belongs key before filed)
    (judged : ∀ item ∈ items, ∃ admitted, belongs item = .ok admitted)
    (distinct : (before ++ items).Pairwise fun left right => key left ≠ key right) :
    ∃ result, collect belongs key differs clash items filed = .ok result ∧ Files belongs key (before ++ items) result := by
  induction items generalizing before filed with
  | nil => exact ⟨filed, rfl, by simpa using files⟩
  | cons item rest ih =>
    have split : before ++ item :: rest = (before ++ [item]) ++ rest := by simp
    obtain ⟨admitted, decided⟩ := judged item (by simp)
    have later := fun other member => judged other (List.mem_cons_of_mem item member)
    have fresh : ∀ other, filed[key item]? ≠ some other := by
      intro other earlier
      obtain ⟨member, _, keyed⟩ := (files _ _).mp earlier
      exact (List.pairwise_append.mp distinct).2.2 other member item (by simp) keyed
    rw [split] at distinct ⊢
    cases admitted with
    | false =>
      obtain ⟨result, found, filesAll⟩ := ih (files.skip decided) later distinct
      exact ⟨result, by simp only [collect, decided, found], filesAll⟩
    | true =>
      obtain ⟨result, found, filesAll⟩ := ih
        (files.insert decided fun other earlier => absurd earlier (fresh other)) later distinct
      refine ⟨result, ?_, filesAll⟩
      rw [collect_cons_filed decided fun other earlier => absurd earlier (fresh other), found]

/-- The values of a map of admitted items, each under its own key, collect to that map. -/
theorem collect_values {filed : ExtTreeMap κ α} (keyed : ∀ entry ∈ filed.toList, key entry.2 = entry.1)
    (admitted : ∀ entry ∈ filed.toList, belongs entry.2 = .ok true) :
    collect belongs key differs clash (filed.toList.map Prod.snd) ∅ = .ok filed := by
  have distinct : (filed.toList.map Prod.snd).Pairwise fun left right => key left ≠ key right := by
    refine List.pairwise_map.mpr (ExtTreeMap.distinct_keys_toList.imp_of_mem ?_)
    intro left right memberLeft memberRight differ same
    rw [keyed left memberLeft, keyed right memberRight] at same
    exact differ (LawfulEqCmp.compare_eq_iff_eq.mpr same)
  have judged : ∀ item ∈ filed.toList.map Prod.snd, ∃ admits, belongs item = .ok admits := by
    intro item member
    obtain ⟨entry, present, rfl⟩ := List.mem_map.mp member
    exact ⟨true, admitted entry present⟩
  obtain ⟨result, found, files⟩ : ∃ result, collect belongs key differs clash (filed.toList.map Prod.snd) ∅ = .ok result ∧
      Files belongs key ([] ++ filed.toList.map Prod.snd) result := collect_distinct Files.empty judged distinct
  have values : Files belongs key (filed.toList.map Prod.snd) filed := by
    intro k item
    rw [mem_values]
    constructor
    · intro stored
      have member := ExtTreeMap.mem_toList_iff_getElem?_eq_some.mpr stored
      exact ⟨⟨k, stored⟩, admitted _ member, keyed _ member⟩
    · rintro ⟨⟨other, stored⟩, _, same⟩
      rwa [← same, keyed _ (ExtTreeMap.mem_toList_iff_getElem?_eq_some.mpr stored)]
  rw [found, files.unique values]

end Collect

/-! ### Keeping the least item under each key -/

/-- Files an item unless one of at most its rank is filed there already. -/
def keep (key : α → κ) (less : α → α → Bool) (kept : ExtTreeMap κ α) (item : α) : ExtTreeMap κ α :=
  match kept[key item]? with
  | some current => if less item current then kept.insert (key item) item else kept
  | none => kept.insert (key item) item
def keep_least (key : α → κ) (less : α → α → Bool) (items : List α) : ExtTreeMap κ α :=
  items.foldl (keep key less) ∅

/-- Under every key that occurs, one of the items of least rank is kept. -/
structure Least {ρ : Type} [LinearOrder ρ] (key : α → κ) (rank : α → ρ) (items : List α) (kept : ExtTreeMap κ α) :
    Prop where
  member : ∀ (k : κ) item, kept[k]? = some item → item ∈ items ∧ key item = k
  least : ∀ (k : κ) item, kept[k]? = some item → ∀ other ∈ items, key other = k → rank item ≤ rank other
  total : ∀ item ∈ items, ∃ winner, kept[key item]? = some winner

section Keep
variable {ρ : Type} [LinearOrder ρ] {key : α → κ} {rank : α → ρ}

private theorem Least.keep {items : List α} {kept : ExtTreeMap κ α} (holds : Least key rank items kept) (item : α) :
    Least key rank (items ++ [item]) (keep key (fun left right => decide (rank left < rank right)) kept item) := by
  classical
  -- Either the item is filed, beating whatever stood under its key, or the map stays and the item is beaten.
  have filed : (∀ current, kept[key item]? = some current → rank item < rank current) →
      Least key rank (items ++ [item]) (kept.insert (key item) item) := by
    intro beats
    refine ⟨fun k other found => ?_, fun k other found rival member keyed => ?_, fun other member => ?_⟩
    · rw [lookup_insert] at found
      by_cases here : key item = k
      · rw [if_pos here] at found
        obtain rfl := Option.some.inj found
        exact ⟨by simp, here⟩
      · rw [if_neg here] at found
        exact ⟨List.mem_append_left _ (holds.member k other found).1, (holds.member k other found).2⟩
    · rw [lookup_insert] at found
      by_cases here : key item = k
      · rw [if_pos here] at found
        obtain rfl := Option.some.inj found
        rcases List.mem_append.mp member with earlier | last
        · obtain ⟨winner, standing⟩ := holds.total rival earlier
          rw [keyed, ← here] at standing
          exact (beats winner standing).le.trans (holds.least _ winner standing rival earlier (keyed.trans here.symm))
        · rw [List.mem_singleton.mp last]
      · rw [if_neg here] at found
        rcases List.mem_append.mp member with earlier | last
        · exact holds.least k other found rival earlier keyed
        · obtain rfl := List.mem_singleton.mp last
          exact absurd keyed here
    · rw [lookup_insert]
      by_cases here : key item = key other
      · exact ⟨item, if_pos here⟩
      · rcases List.mem_append.mp member with earlier | last
        · obtain ⟨winner, standing⟩ := holds.total other earlier
          exact ⟨winner, by rw [if_neg here, standing]⟩
        · exact absurd (congrArg key (List.mem_singleton.mp last).symm) here
  have beaten : ∀ current, kept[key item]? = some current → ¬rank item < rank current →
      Least key rank (items ++ [item]) kept := by
    intro current standing weaker
    refine ⟨fun k other found => ⟨List.mem_append_left _ (holds.member k other found).1, (holds.member k other found).2⟩,
      fun k other found rival member keyed => ?_, fun other member => ?_⟩
    · rcases List.mem_append.mp member with earlier | last
      · exact holds.least k other found rival earlier keyed
      · obtain rfl := List.mem_singleton.mp last
        rw [keyed, found] at standing
        obtain rfl := Option.some.inj standing
        exact not_lt.mp weaker
    · rcases List.mem_append.mp member with earlier | last
      · exact holds.total other earlier
      · rw [List.mem_singleton.mp last]
        exact ⟨current, standing⟩
  unfold SortedMaps.keep
  cases standing : kept[key item]? with
  | none => exact filed (by simp [standing])
  | some current =>
    by_cases wins : rank item < rank current
    · simp only [wins, decide_true, ↓reduceIte]
      refine filed fun other found => ?_
      rw [standing] at found
      exact Option.some.inj found ▸ wins
    · simp only [wins, decide_false, Bool.false_eq_true, ↓reduceIte]
      exact beaten current standing wins

private theorem Least.foldl {before items : List α} {kept : ExtTreeMap κ α} (holds : Least key rank before kept) :
    Least key rank (before ++ items) (items.foldl (SortedMaps.keep key fun left right => decide (rank left < rank right)) kept) := by
  induction items generalizing before kept with
  | nil => simpa using holds
  | cons item rest ih =>
    have step := ih (holds.keep item)
    rwa [List.append_assoc] at step

theorem keep_least_spec (items : List α) :
    Least key rank items (keep_least key (fun left right => decide (rank left < rank right)) items) := by
  have start : Least key rank [] (∅ : ExtTreeMap κ α) := ⟨by simp, by simp, by simp⟩
  exact start.foldl

/-- Items beaten by earlier ones of their key leave no trace. -/
theorem keep_least_beaten {before extra after : List α}
    (beaten : ∀ item ∈ extra, ∃ earlier ∈ before, key earlier = key item ∧ rank earlier ≤ rank item) :
    keep_least key (fun left right => decide (rank left < rank right)) (before ++ extra ++ after) =
      keep_least key (fun left right => decide (rank left < rank right)) (before ++ after) := by
  have holds : Least key rank before _ := keep_least_spec before
  have unmoved : extra.foldl (SortedMaps.keep key fun left right => decide (rank left < rank right))
      (keep_least key (fun left right => decide (rank left < rank right)) before) =
        keep_least key (fun left right => decide (rank left < rank right)) before := by
    induction extra with
    | nil => rfl
    | cons item rest ih =>
      obtain ⟨earlier, member, keyed, ranked⟩ := beaten item (by simp)
      obtain ⟨winner, standing⟩ := holds.total earlier member
      have least := holds.least _ winner standing earlier member rfl
      rw [keyed] at standing
      have same : SortedMaps.keep key (fun left right => decide (rank left < rank right))
          (keep_least key (fun left right => decide (rank left < rank right)) before) item =
            keep_least key (fun left right => decide (rank left < rank right)) before := by
        unfold SortedMaps.keep
        rw [standing]
        simp [not_lt.mpr (least.trans ranked)]
      rw [List.foldl_cons, same]
      exact ih fun other later => beaten other (List.mem_cons_of_mem item later)
  unfold keep_least at unmoved ⊢
  rw [List.foldl_append, List.foldl_append, unmoved, List.foldl_append]

end Keep

/-! ### Filling a map -/

/-- The map has a value for every item and no other keys, and each value belongs to an item of its key. -/
structure Filled (key : α → κ) (holds : α → ν → Prop) (items : List α) (entries : ExtTreeMap κ ν) : Prop where
  keys : ∀ k, k ∈ entries ↔ ∃ item ∈ items, key item = k
  values : ∀ k value, entries[k]? = some value → ∃ item ∈ items, key item = k ∧ holds item value

section Filled
variable {key : α → κ} {holds : α → ν → Prop} {items : List α} {entries : ExtTreeMap κ ν}

theorem Filled.empty : Filled key holds [] (∅ : ExtTreeMap κ ν) := ⟨by simp, by simp⟩

theorem Filled.congr {items' : List α} (filled : Filled key holds items entries)
    (same : ∀ item, item ∈ items ↔ item ∈ items') : Filled key holds items' entries := by
  refine ⟨fun k => (filled.keys k).trans ?_, fun k value found => ?_⟩
  · constructor
    · rintro ⟨item, member, rfl⟩; exact ⟨item, (same item).mp member, rfl⟩
    · rintro ⟨item, member, rfl⟩; exact ⟨item, (same item).mpr member, rfl⟩
  · obtain ⟨item, member, keyed, held⟩ := filled.values k value found
    exact ⟨item, (same item).mp member, keyed, held⟩

theorem Filled.insert {item : α} {value : ν} (filled : Filled key holds items entries) (held : holds item value) :
    Filled key holds (items ++ [item]) (entries.insert (key item) value) := by
  classical
  refine ⟨fun k => ?_, fun k other found => ?_⟩
  · rw [ExtTreeMap.mem_insert, LawfulEqCmp.compare_eq_iff_eq, filled.keys k]
    simp only [List.mem_append, List.mem_singleton]
    constructor
    · rintro (rfl | ⟨earlier, member, rfl⟩)
      · exact ⟨item, .inr rfl, rfl⟩
      · exact ⟨earlier, .inl member, rfl⟩
    · rintro ⟨other, member | rfl, rfl⟩
      · exact .inr ⟨other, member, rfl⟩
      · exact .inl rfl
  · rw [lookup_insert] at found
    by_cases same : key item = k
    · rw [if_pos same] at found
      obtain rfl := Option.some.inj found
      exact ⟨item, by simp, same, held⟩
    · rw [if_neg same] at found
      obtain ⟨earlier, member, keyed, held⟩ := filled.values k other found
      exact ⟨earlier, List.mem_append_left _ member, keyed, held⟩

theorem Filled.mono {holds' : α → ν → Prop} (filled : Filled key holds items entries)
    (weaker : ∀ item ∈ items, ∀ value, holds item value → holds' item value) : Filled key holds' items entries := by
  refine ⟨filled.keys, fun k value found => ?_⟩
  obtain ⟨item, member, keyed, held⟩ := filled.values k value found
  exact ⟨item, member, keyed, weaker item member value held⟩

/-- Items of distinct keys are listed by their map, once each. -/
theorem Filled.keys_perm (filled : Filled key holds items entries) (distinct : (items.map key).Nodup) :
    (entries.toList.map Prod.fst).Perm (items.map key) := by
  have nodup : (entries.toList.map Prod.fst).Nodup := nodup_keys entries
  refine (List.perm_ext_iff_of_nodup nodup distinct).mpr fun k => ?_
  rw [List.mem_map, List.mem_map]
  constructor
  · rintro ⟨⟨k, value⟩, member, rfl⟩
    have found := ExtTreeMap.mem_toList_iff_getElem?_eq_some.mp member
    obtain ⟨item, present, keyed, _⟩ := filled.values k value found
    exact ⟨item, present, keyed⟩
  · rintro ⟨item, member, rfl⟩
    have present := (filled.keys (key item)).mpr ⟨item, member, rfl⟩
    obtain ⟨value, found⟩ := Option.isSome_iff_exists.mp (ExtTreeMap.mem_iff_isSome_getElem?.mp present)
    exact ⟨(key item, value), ExtTreeMap.mem_toList_iff_getElem?_eq_some.mpr found, rfl⟩

/-- Every listed value belongs to an item of its key. -/
theorem Filled.mem_toList (filled : Filled key holds items entries) {entry : κ × ν} (member : entry ∈ entries.toList) :
    ∃ item ∈ items, key item = entry.1 ∧ holds item entry.2 :=
  filled.values entry.1 entry.2 (ExtTreeMap.mem_toList_iff_getElem?_eq_some.mp member)

end Filled
end VectorSeam.SortedMaps
